import Gatekeeper.SortedMap

set_option autoImplicit false

namespace Gatekeeper.SortedMap

variable {κ α β : Type} [Ord κ]

theorem contains_eq_isSome (m : SortedMap κ α) (k : κ) : m.contains k = (m.get? k).isSome := rfl

theorem contains_iff (m : SortedMap κ α) (k : κ) : m.contains k ↔ ∃ a, m.get? k = some a := by
  rw [contains_eq_isSome, Option.isSome_iff_exists]

theorem not_contains_iff (m : SortedMap κ α) (k : κ) : m.contains k = false ↔ m.get? k = none := by
  rw [contains_eq_isSome, Option.isSome_eq_false_iff, Option.isNone_iff_eq_none]

@[simp] theorem contains_empty (k : κ) : (∅ : SortedMap κ α).contains k = false := rfl

def All (P : κ → α → Prop) (m : SortedMap κ α) : Prop := ∀ k a, m.get? k = some a → P k a

theorem all_empty (P : κ → α → Prop) : (∅ : SortedMap κ α).All P := fun _ _ found => (nomatch found)

variable {P : κ → α → Prop} {m : SortedMap κ α}

variable [Std.LawfulEqOrd κ]

section Insert

variable [Std.TransOrd κ]

@[simp] theorem get?_insert_self (m : SortedMap κ α) (k : κ) (a : α) : (m.insert k a).get? k = some a := by
  rw [get?_insert, if_pos Std.ReflCmp.compare_self]

theorem get?_insert_ne (m : SortedMap κ α) {k j : κ} (a : α) (h : j ≠ k) : (m.insert k a).get? j = m.get? j := by
  rw [get?_insert, if_neg fun e => h (Std.LawfulEqOrd.eq_of_compare e)]

@[simp] theorem contains_insert_self (m : SortedMap κ α) (k : κ) (a : α) : (m.insert k a).contains k = true := by
  simp [contains_eq_isSome]

theorem contains_insert_ne (m : SortedMap κ α) {k j : κ} (a : α) (h : j ≠ k) :
    (m.insert k a).contains j = m.contains j := by
  rw [contains_eq_isSome, get?_insert_ne m a h, contains_eq_isSome]

theorem contains_insert_iff (m : SortedMap κ α) (k j : κ) (a : α) :
    (m.insert k a).contains j ↔ j = k ∨ m.contains j := by
  by_cases h : j = k
  · simp [h]
  · simp [contains_insert_ne m a h, h]

theorem All.insert (h : m.All P) {k : κ} {a : α} (new : P k a) : (m.insert k a).All P := by
  intro j b found
  by_cases same : j = k
  · subst j
    rw [get?_insert_self, Option.some.injEq] at found
    exact found ▸ new
  · rw [get?_insert_ne m a same] at found
    exact h j b found

theorem insert_insert_self (m : SortedMap κ α) (k : κ) (a b : α) : (m.insert k a).insert k b = m.insert k b := by
  apply ext_get?
  intro i
  by_cases h : i = k
  · simp [h]
  · rw [get?_insert_ne _ _ h, get?_insert_ne _ _ h, get?_insert_ne _ _ h]

theorem insert_insert_comm (m : SortedMap κ α) {k j : κ} (a b : α) (h : j ≠ k) :
    (m.insert k a).insert j b = (m.insert j b).insert k a := by
  apply ext_get?
  intro i
  by_cases hj : i = j
  · subst i
    rw [get?_insert_self, get?_insert_ne _ _ h, get?_insert_self]
  · by_cases hk : i = k
    · subst i
      rw [get?_insert_ne _ _ hj, get?_insert_self, get?_insert_self]
    · rw [get?_insert_ne _ _ hj, get?_insert_ne _ _ hk, get?_insert_ne _ _ hk, get?_insert_ne _ _ hj]

theorem add_add_comm (s : SortedSet κ) (k j : κ) : (s.add k).add j = (s.add j).add k := by
  by_cases h : j = k
  · rw [h]
  · exact insert_insert_comm s () () h

theorem foldl_add_contains_iff (ks : List κ) (s : SortedSet κ) (k : κ) :
    (ks.foldl add s).contains k ↔ k ∈ ks ∨ s.contains k := by
  induction ks generalizing s with
  | nil => simp
  | cons j rest ih =>
    rw [List.foldl_cons, ih, contains_insert_iff, List.mem_cons, ← or_assoc, or_comm (a := k ∈ rest)]

end Insert

@[simp] theorem get?_erase_self (m : SortedMap κ α) (k : κ) : (m.erase k).get? k = none := by
  rw [get?_erase, if_pos Std.ReflCmp.compare_self]

theorem get?_erase_ne (m : SortedMap κ α) {k j : κ} (h : j ≠ k) : (m.erase k).get? j = m.get? j := by
  rw [get?_erase, if_neg fun e => h (Std.LawfulEqOrd.eq_of_compare e)]

@[simp] theorem contains_erase_self (m : SortedMap κ α) (k : κ) : (m.erase k).contains k = false := by
  simp [contains_eq_isSome]

theorem contains_erase_ne (m : SortedMap κ α) {k j : κ} (h : j ≠ k) : (m.erase k).contains j = m.contains j := by
  rw [contains_eq_isSome, get?_erase_ne m h, contains_eq_isSome]

theorem All.erase (h : m.All P) (k : κ) : (m.erase k).All P := by
  intro j b found
  by_cases same : j = k
  · subst j
    rw [get?_erase_self] at found
    cases found
  · rw [get?_erase_ne m same] at found
    exact h j b found

theorem All.mapWithKey {Q : κ → β → Prop} (h : m.All P) {f : κ → α → β} (keeps : ∀ k a, P k a → Q k (f k a)) :
    (m.mapWithKey f).All Q := by
  intro k b found
  rw [get?_mapWithKey] at found
  obtain ⟨a, before, rfl⟩ := Option.map_eq_some_iff.1 found
  exact keeps k a (h k a before)

theorem erase_of_not_contains [Std.TransOrd κ] (m : SortedMap κ α) {k : κ} (h : m.contains k = false) :
    m.erase k = m := by
  apply ext_get?
  intro j
  by_cases hj : j = k
  · subst j
    rw [get?_erase_self, (not_contains_iff m k).1 h]
  · exact get?_erase_ne m hj

theorem erase_insert_of_not_contains [Std.TransOrd κ] (m : SortedMap κ α) {k : κ} (a : α) (h : m.contains k = false) :
    (m.insert k a).erase k = m := by
  apply ext_get?
  intro i
  by_cases hk : i = k
  · subst i
    rw [get?_erase_self, (not_contains_iff m k).1 h]
  · rw [get?_erase_ne _ hk, get?_insert_ne _ _ hk]

theorem insert_erase_of_get? [Std.TransOrd κ] (m : SortedMap κ α) {k : κ} {a : α} (h : m.get? k = some a) :
    (m.erase k).insert k a = m := by
  apply ext_get?
  intro i
  by_cases hk : i = k
  · subst i
    rw [get?_insert_self, h]
  · rw [get?_insert_ne _ _ hk, get?_erase_ne _ hk]

section Adjust

variable [Std.TransOrd κ]

def adjust (m : SortedMap κ α) (k : κ) (f : α → α) : SortedMap κ α :=
  match m.get? k with
  | some a => m.insert k (f a)
  | none => m

theorem get?_adjust_self (m : SortedMap κ α) (k : κ) (f : α → α) : (m.adjust k f).get? k = (m.get? k).map f := by
  unfold adjust
  cases h : m.get? k with
  | none => simp [h]
  | some a => simp

theorem get?_adjust_ne (m : SortedMap κ α) {k j : κ} (f : α → α) (h : j ≠ k) :
    (m.adjust k f).get? j = m.get? j := by
  unfold adjust
  cases m.get? k with
  | none => rfl
  | some a => exact get?_insert_ne m _ h

/-- Two adjustments come to the same in either order if they are made under different keys, or commute themselves. -/
theorem adjust_adjust_comm (m : SortedMap κ α) {k j : κ} {f g : α → α} (h : j = k → ∀ a, g (f a) = f (g a)) :
    (m.adjust k f).adjust j g = (m.adjust j g).adjust k f := by
  apply ext_get?
  intro i
  by_cases hj : i = j
  · subst i
    by_cases hk : j = k
    · subst k
      simp only [get?_adjust_self, Option.map_map, Function.comp_def, h rfl]
    · simp only [get?_adjust_self, get?_adjust_ne _ _ hk]
  · by_cases hk : i = k
    · subst i
      simp only [get?_adjust_self, get?_adjust_ne _ _ hj]
    · simp only [get?_adjust_ne _ _ hj, get?_adjust_ne _ _ hk]

end Adjust

omit [Std.LawfulEqOrd κ] in
theorem mapWithKey_mapWithKey {γ : Type} (g : κ → β → γ) (f : κ → α → β) (m : SortedMap κ α) :
    (m.mapWithKey f).mapWithKey g = m.mapWithKey fun k a => g k (f k a) := by
  simp [mapWithKey, Function.comp_def]

@[simp] theorem contains_mapWithKey (f : κ → α → β) (m : SortedMap κ α) (k : κ) :
    (m.mapWithKey f).contains k = m.contains k := by
  rw [contains_eq_isSome, get?_mapWithKey, Option.isSome_map, contains_eq_isSome]

theorem mem_keys_iff (m : SortedMap κ α) (k : κ) : k ∈ m.keys ↔ m.contains k := by
  rw [contains_iff, keys, List.mem_map]
  constructor
  · intro mem
    obtain ⟨e, he, rfl⟩ := mem
    exact ⟨e.2, (get?_eq_some_iff m e.1 e.2).2 he⟩
  · intro found
    obtain ⟨a, ha⟩ := found
    exact ⟨(k, a), (get?_eq_some_iff m k a).1 ha, rfl⟩

omit [Std.LawfulEqOrd κ] in
theorem keys_sorted (m : SortedMap κ α) : m.keys.Pairwise fun k j => compare k j = .lt := List.pairwise_map.2 m.sorted

theorem keys_nodup (m : SortedMap κ α) : m.keys.Nodup := by
  rw [List.nodup_iff_pairwise_ne]
  refine m.keys_sorted.imp fun {k j} ascending same => ?_
  have equal : compare k j = .eq := same ▸ Std.ReflCmp.compare_self
  rw [equal] at ascending
  cases ascending

omit [Std.LawfulEqOrd κ] in
@[simp] theorem keys_length (m : SortedMap κ α) : m.keys.length = m.size := List.length_map _

theorem one_lt_size_iff (m : SortedMap κ α) : 1 < m.size ↔ ∃ k j, k ≠ j ∧ m.contains k ∧ m.contains j := by
  simp only [← keys_length, ← mem_keys_iff]
  have distinct := m.keys_nodup
  generalize m.keys = ks at distinct
  cases ks with
  | nil => simp
  | cons k rest =>
    cases rest with
    | nil => simp_all
    | cons j rest =>
      rw [List.nodup_cons, List.mem_cons, not_or] at distinct
      exact iff_of_true (by simp) ⟨k, j, distinct.1.1, by simp, by simp⟩

omit [Std.LawfulEqOrd κ] in
@[simp] theorem mapWithKey_keys (f : κ → α → β) (m : SortedMap κ α) : (m.mapWithKey f).keys = m.keys := by
  simp [keys, mapWithKey, Function.comp_def]

theorem set_ext [Std.TransOrd κ] {s t : SortedSet κ} (same : ∀ k, s.contains k = t.contains k) : s = t := by
  apply ext_get?
  intro k
  have both := same k
  rw [contains_eq_isSome, contains_eq_isSome] at both
  cases hs : s.get? k <;> cases ht : t.get? k <;> simp_all

theorem keys_eq_iff [Std.TransOrd κ] (m : SortedMap κ α) (n : SortedMap κ β) :
    m.keys = n.keys ↔ ∀ k, m.contains k = n.contains k := by
  constructor
  · intro h k
    have hk := mem_keys_iff m k
    rw [h, mem_keys_iff n k] at hk
    exact (Bool.eq_iff_iff.2 hk).symm
  · intro h
    have forget : m.mapWithKey (fun _ _ => ()) = n.mapWithKey (fun _ _ => ()) :=
      set_ext fun k => by rw [contains_mapWithKey, contains_mapWithKey, h]
    rw [← mapWithKey_keys (fun _ _ => ()) m, ← mapWithKey_keys (fun _ _ => ()) n, forget]

theorem exists_of_findSome?_entries {f : κ → α → Option β} {b : β}
    (h : (m.entries.findSome? fun e => f e.1 e.2) = some b) : ∃ k a, m.get? k = some a ∧ f k a = some b := by
  obtain ⟨e, mem, found⟩ := List.exists_of_findSome?_eq_some h
  exact ⟨e.1, e.2, (get?_eq_some_iff m e.1 e.2).2 mem, found⟩

theorem findSome?_entries_eq_none_iff (f : κ → α → Option β) (m : SortedMap κ α) :
    (m.entries.findSome? fun e => f e.1 e.2) = none ↔ ∀ k a, m.get? k = some a → f k a = none := by
  simp [get?_eq_some_iff]

theorem isEmpty_iff (m : SortedMap κ α) : m.isEmpty ↔ ∀ k, m.contains k = false := by
  rw [isEmpty, List.isEmpty_iff]
  constructor
  · intro h k
    rw [contains_eq_isSome, get?, h]
    rfl
  · intro h
    rw [List.eq_nil_iff_forall_not_mem]
    intro e he
    have found := (mem_keys_iff m e.1).1 (List.mem_map_of_mem he)
    rw [h] at found
    cases found

theorem isEmpty_eq_false_iff (m : SortedMap κ α) : m.isEmpty = false ↔ ∃ k, m.contains k := by
  constructor
  · intro h
    by_cases all : ∀ k, m.contains k = false
    · rw [(isEmpty_iff m).2 all] at h
      cases h
    · simpa using all
  · intro found
    obtain ⟨k, hk⟩ := found
    rw [Bool.eq_false_iff]
    intro h
    rw [(isEmpty_iff m).1 h] at hk
    cases hk

section Cells

variable {ν : Type} [Ord ν]

/-- What a map of maps holds, with the two keys of its place. -/
def cells (m : SortedMap κ (SortedMap ν α)) : List ((κ × ν) × α) :=
  m.entries.flatMap fun row => row.2.entries.map fun cell => ((row.1, cell.1), cell.2)

omit [Std.LawfulEqOrd κ] in
theorem cells_values (m : SortedMap κ (SortedMap ν α)) : m.cells.map (·.2) = m.values.flatMap values := by
  simp [cells, values, List.map_flatMap, List.flatMap_map, Function.comp_def]

variable [Std.LawfulEqOrd ν]

theorem mem_cells_iff (m : SortedMap κ (SortedMap ν α)) (k : κ) (v : ν) (a : α) :
    ((k, v), a) ∈ m.cells ↔ (m.get? k).bind (·.get? v) = some a := by
  simp only [cells, List.mem_flatMap, List.mem_map, Prod.mk.injEq, Option.bind_eq_some_iff, get?_eq_some_iff]
  constructor
  · rintro ⟨row, there, cell, stored, ⟨rfl, rfl⟩, rfl⟩
    exact ⟨row.2, there, stored⟩
  · rintro ⟨row, there, stored⟩
    exact ⟨(k, row), there, (v, a), stored, ⟨rfl, rfl⟩, rfl⟩

theorem cells_places_nodup (m : SortedMap κ (SortedMap ν α)) : (m.cells.map (·.1)).Nodup := by
  rw [List.nodup_iff_pairwise_ne, List.pairwise_map, cells, List.pairwise_flatMap]
  have apart {δ ε : Type} [Ord δ] [Std.LawfulEqOrd δ] (n : SortedMap δ ε) : n.entries.Pairwise (·.1 ≠ ·.1) :=
    List.pairwise_map.1 (List.nodup_iff_pairwise_ne.1 n.keys_nodup)
  constructor
  · intro row _
    refine List.pairwise_map.2 ((apart row.2).imp fun other same => ?_)
    exact other (Prod.mk.inj same).2
  · refine (apart m).imp fun other cell mem cell' mem' same => ?_
    obtain ⟨_, _, rfl⟩ := List.mem_map.1 mem
    obtain ⟨_, _, rfl⟩ := List.mem_map.1 mem'
    exact other (Prod.mk.inj same).1

end Cells

end Gatekeeper.SortedMap
