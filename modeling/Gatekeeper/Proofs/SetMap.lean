import Gatekeeper.SetMap
import Gatekeeper.Proofs.SortedMap

set_option autoImplicit false

namespace Gatekeeper.SetMap

variable {κ ν : Type} [Ord κ] [Ord ν]

def NoneEmpty (m : SetMap κ ν) : Prop := ∀ k values, m.get? k = some values → values.isEmpty = false

theorem holds_iff (m : SetMap κ ν) (k : κ) (v : ν) :
    holds m k v ↔ ∃ values, m.get? k = some values ∧ values.contains v := by
  unfold holds
  cases m.get? k <;> simp

theorem noneEmpty_empty : NoneEmpty (∅ : SetMap κ ν) := by
  intro k values h
  cases h

theorem contains_of_holds {m : SetMap κ ν} {k : κ} {v : ν} (h : holds m k v) : m.contains k := by
  obtain ⟨values, hk, -⟩ := (holds_iff m k v).1 h
  exact (SortedMap.contains_iff m k).2 ⟨values, hk⟩

variable [Std.LawfulEqOrd ν]

theorem NoneEmpty.contains_iff {m : SetMap κ ν} (h : NoneEmpty m) (k : κ) :
    m.contains k ↔ ∃ v, holds m k v := by
  constructor
  · intro hk
    obtain ⟨values, hv⟩ := (SortedMap.contains_iff m k).1 hk
    obtain ⟨v, mem⟩ := (SortedMap.isEmpty_eq_false_iff values).1 (h k values hv)
    exact ⟨v, (holds_iff m k v).2 ⟨values, hv, mem⟩⟩
  · intro related
    obtain ⟨v, hv⟩ := related
    exact contains_of_holds hv

theorem NoneEmpty.creates_iff {m : SetMap κ ν} (h : NoneEmpty m) (k : κ) : creates m k ↔ ∀ v, ¬holds m k v := by
  rw [creates, Bool.not_eq_true', ← Bool.not_eq_true, h.contains_iff, not_exists]

omit [Std.LawfulEqOrd ν] in
theorem removal_removed (m : SetMap κ ν) (k : κ) (v : ν) : (removal m k v).removed = holds m k v := by
  unfold removal holds
  cases m.get? k <;> rfl

theorem removal_emptied_iff (m : SetMap κ ν) (k : κ) (v : ν) :
    (removal m k v).emptied ↔ m.contains k ∧ ∀ w, holds m k w → w = v := by
  unfold removal
  rw [SortedMap.contains_eq_isSome]
  cases hk : m.get? k with
  | none => simp
  | some values =>
    simp only [SortedMap.isEmpty_iff, Option.isSome_some, true_and, holds, hk]
    constructor
    · intro h w hw
      by_cases e : w = v
      · exact e
      · rw [← SortedMap.contains_erase_ne values e, h w] at hw
        cases hw
    · intro h w
      by_cases e : w = v
      · subst w
        exact SortedMap.contains_erase_self values v
      · rw [SortedMap.contains_erase_ne values e, Bool.eq_false_iff]
        exact fun hw => e (h w hw)

/-- Without keys that relate to nothing, a removal that empties a key removes the only value of it. -/
theorem NoneEmpty.emptied_iff {m : SetMap κ ν} (h : NoneEmpty m) (k : κ) (v : ν) :
    (removal m k v).emptied ↔ holds m k v ∧ ∀ w, holds m k w → w = v := by
  rw [removal_emptied_iff, h.contains_iff]
  refine and_congr_left fun only => ⟨?_, fun related => ⟨v, related⟩⟩
  intro some
  obtain ⟨w, related⟩ := some
  exact only w related ▸ related

variable [Std.LawfulEqOrd κ] [Std.TransOrd κ] [Std.TransOrd ν]

omit [Std.TransOrd κ] [Std.TransOrd ν] in
theorem mem_places_iff (m : SetMap κ ν) (k : κ) (v : ν) : (k, v) ∈ m.cells.map (·.1) ↔ holds m k v := by
  rw [holds_iff, List.mem_map]
  constructor
  · rintro ⟨⟨_, _⟩, cell, rfl⟩
    obtain ⟨values, there, mem⟩ := Option.bind_eq_some_iff.1 ((SortedMap.mem_cells_iff _ _ _ _).1 cell)
    exact ⟨values, there, (SortedMap.contains_iff _ _).2 ⟨_, mem⟩⟩
  · intro related
    obtain ⟨values, there, mem⟩ := related
    obtain ⟨_, mem⟩ := (SortedMap.contains_iff _ _).1 mem
    exact ⟨((k, v), ()), (SortedMap.mem_cells_iff _ _ _ _).2 (Option.bind_eq_some_iff.2 ⟨values, there, mem⟩), rfl⟩

omit [Std.LawfulEqOrd κ] [Std.TransOrd κ] in
theorem NoneEmpty.get?_of_holds_iff {m n : SetMap κ ν} (hm : NoneEmpty m) (hn : NoneEmpty n) {k : κ}
    (same : ∀ v, holds m k v ↔ holds n k v) {values : SortedSet ν} (there : m.get? k = some values) :
    n.get? k = some values := by
  have known : n.contains k := by
    rw [hn.contains_iff, ← exists_congr same, ← hm.contains_iff]
    exact (SortedMap.contains_iff m k).2 ⟨values, there⟩
  obtain ⟨values', there'⟩ := (SortedMap.contains_iff n k).1 known
  have members : ∀ v, values'.contains v = values.contains v := by
    intro v
    have related := same v
    rw [holds, holds, there, there'] at related
    exact (Bool.eq_iff_iff.2 related).symm
  rw [there', SortedMap.set_ext members]

/-- Without keys that relate to nothing, a map is its relation. -/
theorem NoneEmpty.ext {m n : SetMap κ ν} (hm : NoneEmpty m) (hn : NoneEmpty n)
    (same : ∀ k v, holds m k v ↔ holds n k v) : m = n := by
  refine SortedMap.ext_get? fun k => Option.ext fun values => ⟨?_, ?_⟩
  · exact hm.get?_of_holds_iff hn (same k)
  · exact hn.get?_of_holds_iff hm fun v => (same k v).symm

theorem relate_holds (m : SetMap κ ν) (k j : κ) (v w : ν) :
    holds (relate m k v) j w ↔ (j = k ∧ w = v) ∨ holds m j w := by
  by_cases hj : j = k
  · subst j
    simp only [holds_iff, relate, SortedMap.get?_insert_self, Option.some.injEq, exists_eq_left', true_and]
    by_cases hw : w = v
    · simp [hw]
    · rw [SortedMap.contains_insert_ne _ _ hw]
      cases m.get? k <;> simp [hw]
  · simp [holds_iff, relate, SortedMap.get?_insert_ne m _ hj, hj]

omit [Std.LawfulEqOrd ν] in
theorem relate_contains_self (m : SetMap κ ν) (k : κ) (v : ν) : (relate m k v).contains k :=
  SortedMap.contains_insert_self m k _

omit [Std.LawfulEqOrd ν] in
theorem relate_contains_ne (m : SetMap κ ν) {k j : κ} (v : ν) (h : j ≠ k) :
    (relate m k v).contains j = m.contains j :=
  SortedMap.contains_insert_ne m _ h

theorem relate_noneEmpty {m : SetMap κ ν} (h : NoneEmpty m) (k : κ) (v : ν) : NoneEmpty (relate m k v) := by
  intro j values hj
  by_cases e : j = k
  · subst j
    rw [relate, SortedMap.get?_insert_self, Option.some.injEq] at hj
    subst values
    exact (SortedMap.isEmpty_eq_false_iff _).2 ⟨v, SortedMap.contains_insert_self _ _ _⟩
  · rw [relate, SortedMap.get?_insert_ne m _ e] at hj
    exact h j values hj

theorem relate_relate_comm (m : SetMap κ ν) (k j : κ) (v w : ν) :
    relate (relate m k v) j w = relate (relate m j w) k v := by
  unfold relate
  by_cases h : j = k
  · subst j
    simp only [SortedMap.get?_insert_self, Option.getD_some, SortedMap.insert_insert_self]
    rw [SortedMap.add_add_comm]
  · rw [SortedMap.get?_insert_ne _ _ h, SortedMap.get?_insert_ne _ _ (Ne.symm h), SortedMap.insert_insert_comm _ _ _ h]

omit [Std.LawfulEqOrd ν] [Std.TransOrd ν] in
theorem unrelate_get?_self (m : SetMap κ ν) (k : κ) (v : ν) :
    (unrelate m k v).get? k =
      (m.get? k).bind fun values => if (values.erase v).isEmpty then none else some (values.erase v) := by
  unfold unrelate
  cases hk : m.get? k with
  | none => simp [hk]
  | some values => by_cases rest : (values.erase v).isEmpty <;> simp [rest]

omit [Std.LawfulEqOrd ν] [Std.TransOrd ν] in
theorem unrelate_get?_ne (m : SetMap κ ν) {k j : κ} (v : ν) (h : j ≠ k) :
    (unrelate m k v).get? j = m.get? j := by
  unfold unrelate
  cases m.get? k with
  | none => rfl
  | some values =>
    by_cases rest : (values.erase v).isEmpty
    · simp [rest, SortedMap.get?_erase_ne m h]
    · simp [rest, SortedMap.get?_insert_ne m _ h]

omit [Std.LawfulEqOrd ν] [Std.TransOrd ν] in
theorem unrelate_contains_self (m : SetMap κ ν) (k : κ) (v : ν) :
    (unrelate m k v).contains k = (m.contains k && !(removal m k v).emptied) := by
  rw [SortedMap.contains_eq_isSome, unrelate_get?_self, SortedMap.contains_eq_isSome, removal]
  cases m.get? k with
  | none => rfl
  | some values => cases rest : (values.erase v).isEmpty <;> simp [rest]

omit [Std.LawfulEqOrd ν] [Std.TransOrd ν] in
theorem unrelate_contains_ne (m : SetMap κ ν) {k j : κ} (v : ν) (h : j ≠ k) :
    (unrelate m k v).contains j = m.contains j := by
  rw [SortedMap.contains_eq_isSome, unrelate_get?_ne m v h, SortedMap.contains_eq_isSome]

omit [Std.TransOrd ν] in
theorem unrelate_holds (m : SetMap κ ν) (k j : κ) (v w : ν) :
    holds (unrelate m k v) j w ↔ holds m j w ∧ ¬(j = k ∧ w = v) := by
  by_cases hj : j = k
  · subst j
    simp only [holds_iff, unrelate_get?_self]
    cases m.get? k with
    | none => simp
    | some values =>
      have kept : (values.erase v).contains w ↔ values.contains w ∧ ¬w = v := by
        by_cases hw : w = v
        · simp [hw]
        · simp [SortedMap.contains_erase_ne values hw, hw]
      by_cases rest : (values.erase v).isEmpty
      · simp [rest, ← kept, (SortedMap.isEmpty_iff _).1 rest w]
      · simp [rest, kept]
  · simp [holds_iff, unrelate_get?_ne m v hj, hj]

omit [Std.LawfulEqOrd ν] [Std.TransOrd ν] in
theorem unrelate_noneEmpty {m : SetMap κ ν} (h : NoneEmpty m) (k : κ) (v : ν) : NoneEmpty (unrelate m k v) := by
  intro j values hj
  by_cases e : j = k
  · subst j
    rw [unrelate_get?_self] at hj
    obtain ⟨before, -, hv⟩ := Option.bind_eq_some_iff.1 hj
    split at hv
    · cases hv
    · next rest =>
      cases hv
      exact Bool.eq_false_iff.2 rest
  · rw [unrelate_get?_ne m v e] at hj
    exact h j values hj

theorem unrelate_relate {m : SetMap κ ν} (h : NoneEmpty m) {k : κ} {v : ν} (new : ¬holds m k v) :
    unrelate (relate m k v) k v = m := by
  refine (unrelate_noneEmpty (relate_noneEmpty h k v) k v).ext h fun j w => ?_
  rw [unrelate_holds, relate_holds]
  constructor
  · intro related
    exact related.1.resolve_left related.2
  · intro related
    refine ⟨.inr related, ?_⟩
    rintro ⟨rfl, rfl⟩
    exact new related

theorem relate_unrelate {m : SetMap κ ν} (h : NoneEmpty m) {k : κ} {v : ν} (there : holds m k v) :
    relate (unrelate m k v) k v = m := by
  refine (relate_noneEmpty (unrelate_noneEmpty h k v) k v).ext h fun j w => ?_
  rw [relate_holds, unrelate_holds]
  constructor
  · rintro (⟨rfl, rfl⟩ | related)
    · exact there
    · exact related.1
  · intro related
    by_cases same : j = k ∧ w = v
    · exact .inl same
    · exact .inr ⟨related, same⟩

end Gatekeeper.SetMap
