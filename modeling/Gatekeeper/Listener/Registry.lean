import Gatekeeper.Listener.Delivery

set_option autoImplicit false

namespace Gatekeeper.Switchboard

variable {ℓ σ : Type} [DecidableEq ℓ]

def groupOf? (w : Switchboard ℓ σ) (u : UserId) : Option GroupId := w.byUser.get? u

def forget (w : Switchboard ℓ σ) (u : UserId) : Switchboard ℓ σ :=
  { w with byUser := w.byUser.erase u }

def ensureGroup (w : Switchboard ℓ σ) (u : UserId) : GroupId × Switchboard ℓ σ :=
  match w.groupOf? u with
  | some g => (g, w)
  | none =>
    let (g, w) := w.newGroup
    (g, { w with byUser := w.byUser.insert u g })

def forgetIfEmpty (w : Switchboard ℓ σ) (u : UserId) (g : GroupId) : Switchboard ℓ σ :=
  let (n, w) := w.count g
  if n = 0 then w.forget u else w

/-- Tells whether the listener is now registered for the user. -/
def addListener (w : Switchboard ℓ σ) (l : ℓ) (u : UserId) : Bool × Switchboard ℓ σ :=
  let (g, w) := w.ensureGroup u
  let (registered, w) := w.register g l
  (registered, if registered then w else w.forgetIfEmpty u g)

/-- Tells whether the listener was registered for the user. -/
def removeListener (w : Switchboard ℓ σ) (l : ℓ) (u : UserId) : Bool × Switchboard ℓ σ :=
  match w.groupOf? u with
  | some g =>
    let (unregistered, w) := w.unregister g l
    (unregistered, w.forgetIfEmpty u g)
  | none => (false, w)

/-- Whoever still holds the group of a removed user finds it killed. -/
def clearUser (w : Switchboard ℓ σ) (u : UserId) : Switchboard ℓ σ :=
  match w.groupOf? u with
  | some g => (w.forget u).killGroup g
  | none => w

def deliverToUser (behavior : Behavior ℓ σ) (u : UserId) (data : Safety.Data) (w : Switchboard ℓ σ) :
    Nat × Switchboard ℓ σ :=
  match w.groupOf? u with
  | some g => w.deliverToGroup behavior g data
  | none => (0, w)

end Gatekeeper.Switchboard
