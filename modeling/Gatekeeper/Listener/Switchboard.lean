import Gatekeeper.Listener.CallbackList
import Gatekeeper.Ident
import Gatekeeper.SortedMap

/-!
# The switchboard

All that a listener can touch while it is being called: which listeners have died, the groups of listeners, which
group is now that of each user, and whatever lies outside. A group is held by its handle, and outlives its removal
from the user's entry for as long as someone holds it.
-/

set_option autoImplicit false

namespace Gatekeeper

structure GroupId where
  index : Nat
  deriving DecidableEq, Repr, Inhabited

structure Switchboard (ℓ σ : Type) where
  dead : List ℓ := []
  groups : List (CallbackList ℓ) := []
  byUser : SortedMap UserId GroupId := ∅
  outside : σ

namespace Switchboard

variable {ℓ σ : Type}

def group (w : Switchboard ℓ σ) (g : GroupId) : CallbackList ℓ := (w.groups[g.index]?).getD .empty

def setGroup (w : Switchboard ℓ σ) (g : GroupId) (cs : CallbackList ℓ) : Switchboard ℓ σ :=
  { w with groups := w.groups.set g.index cs }

def newGroup (w : Switchboard ℓ σ) : GroupId × Switchboard ℓ σ :=
  (⟨w.groups.length⟩, { w with groups := w.groups ++ [.empty] })

def onGroup {α : Type} (w : Switchboard ℓ σ) (g : GroupId) (f : CallbackList ℓ → α × CallbackList ℓ) :
    α × Switchboard ℓ σ :=
  let (a, cs) := f (w.group g)
  (a, w.setGroup g cs)

variable [DecidableEq ℓ]

def alive (w : Switchboard ℓ σ) (l : ℓ) : Bool := !w.dead.contains l

def die (w : Switchboard ℓ σ) (l : ℓ) : Switchboard ℓ σ := { w with dead := l :: w.dead }

def revive (w : Switchboard ℓ σ) (l : ℓ) : Switchboard ℓ σ := { w with dead := w.dead.filter (· ≠ l) }

def register (w : Switchboard ℓ σ) (g : GroupId) (l : ℓ) : Bool × Switchboard ℓ σ :=
  w.onGroup g (CallbackList.register w.alive l)

def unregister (w : Switchboard ℓ σ) (g : GroupId) (l : ℓ) : Bool × Switchboard ℓ σ :=
  w.onGroup g (CallbackList.unregister w.alive l)

def count (w : Switchboard ℓ σ) (g : GroupId) : Nat × Switchboard ℓ σ :=
  w.onGroup g (CallbackList.count w.alive)

def isRegistered (w : Switchboard ℓ σ) (g : GroupId) (l : ℓ) : Bool :=
  (w.group g).isRegistered w.alive l

def killGroup (w : Switchboard ℓ σ) (g : GroupId) : Switchboard ℓ σ :=
  w.setGroup g (w.group g).kill

end Switchboard
end Gatekeeper
