import Gatekeeper.Uri
import Gatekeeper.State.Draft

set_option autoImplicit false

namespace Gatekeeper

structure SchemePair where
  subject : String
  object : String
  deriving DecidableEq, Repr, Inhabited

instance : Ord SchemePair := ⟨compareLex (compareOn SchemePair.subject) (compareOn SchemePair.object)⟩

instance : Std.TransOrd SchemePair :=
  inferInstanceAs (Std.TransCmp (compareLex (compareOn SchemePair.subject) (compareOn SchemePair.object)))

instance : Std.LawfulEqOrd SchemePair where
  compare_self {a} := by
    show compareLex (compareOn SchemePair.subject) (compareOn SchemePair.object) a a = _
    simp [compareLex, compareOn]
  eq_of_compare {a b} h := by
    obtain ⟨s, o⟩ := a
    obtain ⟨s', o'⟩ := b
    have h : (compare s s').then (compare o o') = .eq := h
    rw [Ordering.then_eq_eq] at h
    rw [Std.compare_eq_iff_eq.1 h.1, Std.compare_eq_iff_eq.1 h.2]

def SchemePair.of (subject object : AccessUri) : SchemePair := ⟨subject.scheme, object.scheme⟩

inductive Lifecycle where
  | userAdded (user : UserId)
  | userRemoved (user : UserId)
  | appIdAdded (app : AppId)
  | appIdRemoved (app : AppId)
  | packageAdded (package : Package)
  | packageRemoved (package : Package)
  deriving DecidableEq, Repr

structure SchemePolicy where
  pair : SchemePair
  decide : AccessUri → AccessUri → AccessState → Decision
  /-- Sees the state the draft was begun from beside the draft. -/
  store : AccessUri → AccessUri → Decision → AccessState → Draft → Draft
  react : Lifecycle → AccessState → Draft → Draft := fun _ _ draft => draft

end Gatekeeper
