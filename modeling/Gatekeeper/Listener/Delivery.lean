import Gatekeeper.Listener.Switchboard
import Gatekeeper.Safety.Data
import Gatekeeper.Error

set_option autoImplicit false

namespace Gatekeeper

/-- What listeners do when they are called. -/
abbrev Behavior (ℓ σ : Type) :=
  ℓ → Safety.Data → Switchboard ℓ σ → Except Error Unit × Switchboard ℓ σ

inductive DeliveryOutcome where
  | delivered
  | failed
  | dead
  deriving DecidableEq, Repr

namespace Switchboard

variable {ℓ σ : Type} [DecidableEq ℓ]

def deliver (behavior : Behavior ℓ σ) (l : ℓ) (data : Safety.Data) (w : Switchboard ℓ σ) :
    DeliveryOutcome × Switchboard ℓ σ :=
  if w.alive l then
    match behavior l data w with
    | (.ok (), w) => (.delivered, w)
    | (.error .deadObject, w) => (.dead, w)
    | (.error _, w) => (.failed, w)
  else (.dead, w)

/-- The visits still to make, each with the position of its listener in the broadcast; gives what became of each. -/
def deliverEach (behavior : Behavior ℓ σ) (data : Safety.Data) :
    List (ℓ × Nat) → Switchboard ℓ σ → List (Nat × DeliveryOutcome) × Switchboard ℓ σ
  | [], w => ([], w)
  | (l, i) :: rest, w =>
    let (outcome, w) := w.deliver behavior l data
    let (outcomes, w) := deliverEach behavior data rest w
    ((i, outcome) :: outcomes, w)

def deliverToGroup (behavior : Behavior ℓ σ) (g : GroupId) (data : Safety.Data) (w : Switchboard ℓ σ) :
    Nat × Switchboard ℓ σ :=
  let (broadcast, w) := w.onGroup g (CallbackList.begin w.alive)
  let (outcomes, w) := deliverEach behavior data broadcast.items.zipIdx.reverse w
  let broadcast := outcomes.foldl (fun b o => if o.2 = .dead then b.markDead o.1 else b) broadcast
  (outcomes.countP (·.2 = .delivered), w.setGroup g (broadcast.finish (w.group g)))

end Switchboard
end Gatekeeper
