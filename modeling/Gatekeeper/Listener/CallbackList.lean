/-!
# Callback lists

A list of distinct callbacks in the order they were registered. A callback may die at any time, without the list being
told; whether it is alive is asked when an operation needs to know, and most operations first drop what is dead.

A broadcast is a view of the list at one moment. Callbacks found dead on the way through it are marked, and taken out
of the list, wherever they then stand, when the broadcast finishes.
-/

set_option autoImplicit false

namespace Gatekeeper

variable {ℓ : Type}

structure CallbackList (ℓ : Type) where
  members : List ℓ := []
  distinct : members.Nodup := by exact List.Pairwise.nil
  /-- Refuses registrations for good. -/
  killed : Bool := false
  deriving DecidableEq, Repr

def CallbackList.empty : CallbackList ℓ := {}

instance : Inhabited (CallbackList ℓ) := ⟨.empty⟩

structure Broadcast (ℓ : Type) where
  items : List ℓ
  /-- Positions of the items found dead. -/
  dead : List Nat := []
  deriving DecidableEq, Repr, Inhabited

namespace CallbackList

def retain (keep : ℓ → Bool) (cs : CallbackList ℓ) : CallbackList ℓ :=
  { cs with members := cs.members.filter keep, distinct := cs.distinct.sublist List.filter_sublist }

def prune (alive : ℓ → Bool) (cs : CallbackList ℓ) : CallbackList ℓ := cs.retain alive

def count (alive : ℓ → Bool) (cs : CallbackList ℓ) : Nat × CallbackList ℓ :=
  ((cs.prune alive).members.length, cs.prune alive)

def kill (_ : CallbackList ℓ) : CallbackList ℓ := { empty with killed := true }

def begin (alive : ℓ → Bool) (cs : CallbackList ℓ) : Broadcast ℓ × CallbackList ℓ :=
  ({ items := (cs.prune alive).members }, cs.prune alive)

theorem nodup_concat {cs : List ℓ} {c : ℓ} (h : cs.Nodup) (new : c ∉ cs) : (cs ++ [c]).Nodup := by
  refine List.nodup_append.2 ⟨h, List.pairwise_singleton _ c, ?_⟩
  rintro a ha b hb rfl
  exact new (List.mem_singleton.1 hb ▸ ha)

variable [DecidableEq ℓ]

/-- Puts a callback at the end; one that is there already keeps its place. -/
def add (c : ℓ) (cs : CallbackList ℓ) : CallbackList ℓ :=
  if known : c ∈ cs.members then cs
  else { cs with members := cs.members ++ [c], distinct := nodup_concat cs.distinct known }

def register (alive : ℓ → Bool) (c : ℓ) (cs : CallbackList ℓ) : Bool × CallbackList ℓ :=
  if cs.killed || !alive c then (false, cs) else (true, (cs.prune alive).add c)

def remove (c : ℓ) (cs : CallbackList ℓ) : CallbackList ℓ :=
  { cs with members := cs.members.erase c, distinct := cs.distinct.erase c }

/-- Tells whether the callback was in the list, dead or alive. -/
def unregister (alive : ℓ → Bool) (c : ℓ) (cs : CallbackList ℓ) : Bool × CallbackList ℓ :=
  (cs.members.contains c, (cs.remove c).prune alive)

def isRegistered (alive : ℓ → Bool) (c : ℓ) (cs : CallbackList ℓ) : Bool :=
  cs.members.contains c && alive c

def removeAll (gone : List ℓ) (cs : CallbackList ℓ) : CallbackList ℓ := cs.retain fun c => !gone.contains c

end CallbackList

namespace Broadcast

def markDead (i : Nat) (b : Broadcast ℓ) : Broadcast ℓ :=
  if i < b.items.length ∧ i ∉ b.dead then { b with dead := b.dead ++ [i] } else b

def marked (b : Broadcast ℓ) : List ℓ := b.dead.filterMap fun i => b.items[i]?

def finish [DecidableEq ℓ] (b : Broadcast ℓ) (cs : CallbackList ℓ) : CallbackList ℓ :=
  cs.removeAll b.marked

end Broadcast
end Gatekeeper
