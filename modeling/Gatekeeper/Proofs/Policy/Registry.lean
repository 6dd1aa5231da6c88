import Mathlib.Data.List.Induction
import Gatekeeper.Policy.Set
import Gatekeeper.Proofs.SortedMap

set_option autoImplicit false

namespace Gatekeeper.PolicySet

/-- Built from no policies by registrations that were not refused. -/
inductive Registered : PolicySet → Prop where
  | empty : Registered .empty
  | register {ps : PolicySet} {p : SchemePolicy} (built : Registered ps) (accepted : (ps.register p).1 = .ok ()) :
      Registered (ps.register p).2

theorem ofList_concat (policies : List SchemePolicy) (p : SchemePolicy) :
    ofList (policies ++ [p]) = (ofList policies).append p := by
  simp [ofList, append, List.zipIdx_append, List.foldl_append]

theorem append_pairs (ps : PolicySet) (p : SchemePolicy) : (ps.append p).pairs = ps.pairs ++ [p.pair] := by
  simp [pairs, append]

/-- The index has the place of every policy under its own pair, and nothing else. -/
def Located (ps : PolicySet) : Prop :=
  ∀ pair i, ps.index.get? pair = some i ↔ ∃ p, ps.policies[i]? = some p ∧ p.pair = pair

theorem append_getElem?_iff (ps : PolicySet) (p q : SchemePolicy) (i : Nat) :
    (ps.append p).policies[i]? = some q ↔ ps.policies[i]? = some q ∨ (i = ps.policies.length ∧ q = p) := by
  show (ps.policies ++ [p])[i]? = some q ↔ _
  rcases Nat.lt_trichotomy i ps.policies.length with front | last | beyond
  · rw [List.getElem?_append_left front]
    simp [Nat.ne_of_lt front]
  · subst last
    simp [eq_comm]
  · rw [List.getElem?_eq_none (by simp; omega), List.getElem?_eq_none (by omega)]
    simp [Nat.ne_of_gt beyond]

namespace Located

variable {ps : PolicySet}

theorem append (h : ps.Located) {p : SchemePolicy} (free : p.pair ∉ ps.pairs) : (ps.append p).Located := by
  intro pair i
  simp only [append_getElem?_iff]
  by_cases own : pair = p.pair
  · subst own
    have unclaimed : ∀ q, ps.policies[i]? = some q → q.pair ≠ p.pair :=
      fun q there same => free (List.mem_map.2 ⟨q, List.mem_of_getElem? there, same⟩)
    rw [PolicySet.append, SortedMap.get?_insert_self, Option.some.injEq]
    constructor
    · rintro rfl
      exact ⟨p, .inr ⟨rfl, rfl⟩, rfl⟩
    · intro found
      obtain ⟨q, there | last, same⟩ := found
      · exact absurd same (unclaimed q there)
      · exact last.1.symm
  · rw [PolicySet.append, SortedMap.get?_insert_ne _ _ own, h]
    constructor
    · intro found
      obtain ⟨q, there, same⟩ := found
      exact ⟨q, .inl there, same⟩
    · intro found
      obtain ⟨q, there | ⟨-, rfl⟩, same⟩ := found
      · exact ⟨q, there, same⟩
      · exact absurd same.symm own

theorem contains_iff (h : ps.Located) (pair : SchemePair) : ps.index.contains pair ↔ pair ∈ ps.pairs := by
  rw [SortedMap.contains_iff, pairs, List.mem_map]
  simp only [h pair, List.mem_iff_getElem?]
  constructor
  · rintro ⟨i, p, there, same⟩
    exact ⟨p, ⟨i, there⟩, same⟩
  · rintro ⟨p, ⟨i, there⟩, same⟩
    exact ⟨i, p, there, same⟩

theorem register_taken (h : ps.Located) {p : SchemePolicy} (taken : p.pair ∈ ps.pairs) :
    ps.register p = (.error (.duplicateSchemePolicy p.pair.subject p.pair.object), ps) :=
  if_pos ((h.contains_iff p.pair).2 taken)

theorem register_free (h : ps.Located) {p : SchemePolicy} (free : p.pair ∉ ps.pairs) :
    ps.register p = (.ok (), ps.append p) :=
  if_neg (mt (h.contains_iff p.pair).1 free)

theorem register_located (h : ps.Located) (p : SchemePolicy) : (ps.register p).2.Located := by
  by_cases taken : p.pair ∈ ps.pairs
  · rw [h.register_taken taken]
    exact h
  · rw [h.register_free taken]
    exact h.append taken

theorem route?_eq_some_iff (h : ps.Located) (subject object : AccessUri) (p : SchemePolicy) :
    ps.route? subject object = some p ↔ p ∈ ps.policies ∧ p.pair = .of subject object := by
  rw [route?, Option.bind_eq_some_iff, List.mem_iff_getElem?]
  constructor
  · intro found
    obtain ⟨i, place, there⟩ := found
    obtain ⟨q, there', same⟩ := (h _ i).1 place
    rw [there, Option.some.injEq] at there'
    subst there'
    exact ⟨⟨i, there⟩, same⟩
  · intro found
    obtain ⟨⟨i, there⟩, same⟩ := found
    exact ⟨i, (h _ i).2 ⟨p, there, same⟩, there⟩

theorem pairs_nodup (h : ps.Located) : ps.pairs.Nodup := by
  rw [List.nodup_iff_pairwise_ne, List.pairwise_iff_getElem]
  intro i j hi hj before same
  -- One pair has one place in the index.
  have place {k : Nat} (hk : k < ps.pairs.length) : ps.index.get? ps.pairs[k] = some k := by
    have inside : k < ps.policies.length := by simpa [pairs] using hk
    exact (h _ k).2 ⟨ps.policies[k], List.getElem?_eq_getElem inside, by simp [pairs]⟩
  have twice := place hi
  rw [same, place hj, Option.some.injEq] at twice
  omega

end Located

theorem empty_located : Located .empty := by
  intro pair i
  simp [empty]

theorem Registered.located {ps : PolicySet} (h : ps.Registered) : ps.Located := by
  induction h with
  | empty => exact empty_located
  | @register ps p _ _ ih => exact ih.register_located p

theorem Registered.pairs_nodup {ps : PolicySet} (h : ps.Registered) : ps.pairs.Nodup := h.located.pairs_nodup

theorem ofList_registered {policies : List SchemePolicy} (distinct : (policies.map SchemePolicy.pair).Nodup) :
    (ofList policies).Registered := by
  induction policies using List.reverseRecOn with
  | nil => exact .empty
  | append_singleton front p ih =>
    rw [List.map_append, List.nodup_append] at distinct
    obtain ⟨front_distinct, -, apart⟩ := distinct
    have built := ih front_distinct
    have free : p.pair ∉ (ofList front).pairs := fun taken => apart p.pair taken p.pair (List.mem_singleton_self _) rfl
    rw [ofList_concat]
    have accepted := built.located.register_free free
    have extended := Registered.register built (congrArg Prod.fst accepted)
    rwa [accepted] at extended

theorem builtin_registered : Registered builtin := ofList_registered (by decide)

end Gatekeeper.PolicySet
