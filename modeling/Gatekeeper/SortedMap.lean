set_option autoImplicit false

namespace Gatekeeper

/-- Entries in strictly ascending order of their keys. -/
structure SortedMap (κ : Type) [Ord κ] (α : Type) where
  entries : List (κ × α)
  sorted : entries.Pairwise fun a b => compare a.1 b.1 = .lt

abbrev SortedSet (κ : Type) [Ord κ] := SortedMap κ Unit

namespace SortedMap

variable {κ α β : Type} [Ord κ]

instance [DecidableEq κ] [DecidableEq α] : DecidableEq (SortedMap κ α) := fun a b =>
  match decEq a.entries b.entries with
  | isTrue h => isTrue (by cases a; cases b; cases h; rfl)
  | isFalse h => isFalse fun e => h (e ▸ rfl)

def empty : SortedMap κ α := ⟨[], .nil⟩

instance : EmptyCollection (SortedMap κ α) := ⟨empty⟩
instance : Inhabited (SortedMap κ α) := ⟨empty⟩

def isEmpty (m : SortedMap κ α) : Bool := m.entries.isEmpty
def size (m : SortedMap κ α) : Nat := m.entries.length
def keys (m : SortedMap κ α) : List κ := m.entries.map (·.1)
def values (m : SortedMap κ α) : List α := m.entries.map (·.2)

/-- The value of the first entry whose key compares equal. -/
def lookupIn (k : κ) : List (κ × α) → Option α
  | [] => none
  | e :: rest => if compare k e.1 = .eq then some e.2 else lookupIn k rest

def get? (m : SortedMap κ α) (k : κ) : Option α := lookupIn k m.entries
def contains (m : SortedMap κ α) (k : κ) : Bool := (m.get? k).isSome

/-- Puts an entry at its place; an entry of the same key is replaced. -/
def insertIn (k : κ) (a : α) : List (κ × α) → List (κ × α)
  | [] => [(k, a)]
  | e :: rest =>
    match compare k e.1 with
    | .lt => (k, a) :: e :: rest
    | .eq => (k, a) :: rest
    | .gt => e :: insertIn k a rest

def eraseIn (k : κ) (es : List (κ × α)) : List (κ × α) := es.filter fun e => compare k e.1 != .eq

theorem mem_insertIn {k : κ} {a : α} {e : κ × α} {es : List (κ × α)} (h : e ∈ insertIn k a es) :
    e = (k, a) ∨ e ∈ es := by
  induction es with
  | nil => simpa [insertIn] using h
  | cons f rest ih =>
    unfold insertIn at h
    split at h
    · simpa using h
    · rcases List.mem_cons.1 h with h | h
      · exact .inl h
      · exact .inr (List.mem_cons_of_mem _ h)
    · rcases List.mem_cons.1 h with h | h
      · exact .inr (h ▸ List.mem_cons_self)
      · exact (ih h).imp_right (List.mem_cons_of_mem _)

variable [Std.TransOrd κ]

theorem sorted_insertIn (k : κ) (a : α) {es : List (κ × α)}
    (h : es.Pairwise fun a b => compare a.1 b.1 = .lt) :
    (insertIn k a es).Pairwise fun a b => compare a.1 b.1 = .lt := by
  induction es with
  | nil => simp [insertIn]
  | cons e rest ih =>
    rw [List.pairwise_cons] at h
    unfold insertIn
    split
    · next lt =>
      refine List.pairwise_cons.2 ⟨fun f hf => ?_, List.pairwise_cons.2 h⟩
      rcases List.mem_cons.1 hf with rfl | hf
      · exact lt
      · exact Std.TransCmp.lt_trans lt (h.1 f hf)
    · next eq =>
      exact List.pairwise_cons.2 ⟨fun f hf => Std.TransCmp.lt_of_eq_of_lt eq (h.1 f hf), h.2⟩
    · next gt =>
      refine List.pairwise_cons.2 ⟨fun f hf => ?_, ih h.2⟩
      rcases mem_insertIn hf with rfl | hf
      · exact Std.OrientedCmp.lt_of_gt gt
      · exact h.1 f hf

def insert (m : SortedMap κ α) (k : κ) (a : α) : SortedMap κ α :=
  ⟨insertIn k a m.entries, sorted_insertIn k a m.sorted⟩

omit [Std.TransOrd κ] in
theorem sorted_eraseIn (k : κ) {es : List (κ × α)}
    (h : es.Pairwise fun a b => compare a.1 b.1 = .lt) :
    (eraseIn k es).Pairwise fun a b => compare a.1 b.1 = .lt :=
  h.sublist List.filter_sublist

omit [Std.TransOrd κ] in
theorem sorted_map (f : κ → α → β) {es : List (κ × α)}
    (h : es.Pairwise fun a b => compare a.1 b.1 = .lt) :
    (es.map fun e => (e.1, f e.1 e.2)).Pairwise fun a b => compare a.1 b.1 = .lt :=
  List.pairwise_map.2 h

def erase (m : SortedMap κ α) (k : κ) : SortedMap κ α :=
  ⟨eraseIn k m.entries, sorted_eraseIn k m.sorted⟩

def mapWithKey (f : κ → α → β) (m : SortedMap κ α) : SortedMap κ β :=
  ⟨m.entries.map fun e => (e.1, f e.1 e.2), sorted_map f m.sorted⟩

abbrev toList (s : SortedSet κ) : List κ := s.keys

abbrev add (s : SortedSet κ) (k : κ) : SortedSet κ := s.insert k ()

omit [Std.TransOrd κ] in
@[simp] theorem get?_empty (k : κ) : (∅ : SortedMap κ α).get? k = none := rfl

variable [Std.LawfulEqOrd κ]

theorem get?_insert (m : SortedMap κ α) (k j : κ) (a : α) :
    (m.insert k a).get? j = if compare j k = .eq then some a else m.get? j := by
  show lookupIn j (insertIn k a m.entries) = if _ then _ else lookupIn j m.entries
  generalize m.entries = es
  induction es with
  | nil => rfl
  | cons e rest ih =>
    unfold insertIn
    split
    · rfl
    · next eq =>
      have e1 : k = e.1 := Std.LawfulEqOrd.eq_of_compare eq
      subst e1
      simp only [lookupIn]
      split <;> rfl
    · next gt =>
      simp only [lookupIn, ih]
      by_cases h : compare j e.1 = .eq
      · have e1 : j = e.1 := Std.LawfulEqOrd.eq_of_compare h
        subst e1
        have : compare e.1 k = .lt := Std.OrientedCmp.lt_of_gt gt
        simp [this]
      · simp [h]

omit [Std.TransOrd κ] in
theorem lookupIn_eraseIn (k j : κ) (es : List (κ × α)) :
    lookupIn j (eraseIn k es) = if compare j k = .eq then none else lookupIn j es := by
  induction es with
  | nil => simp [eraseIn, lookupIn]
  | cons e rest ih =>
    by_cases hk : compare k e.1 = .eq
    · have e1 : k = e.1 := Std.LawfulEqOrd.eq_of_compare hk
      subst e1
      simp only [eraseIn, List.filter_cons, hk, bne_self_eq_false, Bool.false_eq_true, if_false]
      rw [show rest.filter (fun f => compare e.1 f.1 != .eq) = eraseIn e.1 rest from rfl, ih]
      simp only [lookupIn]
      split <;> rfl
    · simp only [eraseIn, List.filter_cons, bne_iff_ne, ne_eq, hk, not_false_eq_true, if_true]
      rw [show rest.filter (fun f => compare k f.1 != .eq) = eraseIn k rest from rfl]
      simp only [lookupIn, ih]
      by_cases h : compare j e.1 = .eq
      · have e1 : j = e.1 := Std.LawfulEqOrd.eq_of_compare h
        subst e1
        have : ¬ compare e.1 k = .eq := fun hk' =>
          hk (by rw [Std.LawfulEqOrd.eq_of_compare hk']; exact Std.ReflCmp.compare_self)
        simp [this]
      · simp [h]

omit [Std.TransOrd κ] in
theorem get?_erase (m : SortedMap κ α) (k j : κ) :
    (m.erase k).get? j = if compare j k = .eq then none else m.get? j :=
  lookupIn_eraseIn k j m.entries

omit [Std.TransOrd κ] in
theorem get?_mapWithKey (f : κ → α → β) (m : SortedMap κ α) (k : κ) :
    (m.mapWithKey f).get? k = (m.get? k).map (f k) := by
  show lookupIn k (m.entries.map _) = (lookupIn k m.entries).map (f k)
  generalize m.entries = es
  induction es with
  | nil => rfl
  | cons e rest ih =>
    simp only [List.map_cons, lookupIn, ih]
    split
    · next h => rw [Std.LawfulEqOrd.eq_of_compare h]; rfl
    · rfl

omit [Std.TransOrd κ] in
theorem lookupIn_eq_some_iff {es : List (κ × α)}
    (h : es.Pairwise fun a b => compare a.1 b.1 = .lt) (k : κ) (a : α) :
    lookupIn k es = some a ↔ (k, a) ∈ es := by
  induction es with
  | nil => simp [lookupIn]
  | cons e rest ih =>
    rw [List.pairwise_cons] at h
    simp only [lookupIn, List.mem_cons]
    by_cases hk : compare k e.1 = .eq
    · have e1 : k = e.1 := Std.LawfulEqOrd.eq_of_compare hk
      subst e1
      simp only [hk, if_true, Option.some.injEq]
      constructor
      · rintro rfl; exact .inl rfl
      · rintro (he | hm)
        · exact congrArg Prod.snd he.symm
        · have := h.1 _ hm
          simp only [hk] at this
          exact absurd this (by decide)
    · simp only [hk, if_false, ih h.2]
      constructor
      · exact .inr
      · rintro (rfl | hm)
        · exact absurd Std.ReflCmp.compare_self hk
        · exact hm

omit [Std.TransOrd κ] in
theorem get?_eq_some_iff (m : SortedMap κ α) (k : κ) (a : α) :
    m.get? k = some a ↔ (k, a) ∈ m.entries := lookupIn_eq_some_iff m.sorted k a

/-- A sorted list is fixed by its members. -/
theorem entries_eq_of_mem_iff : ∀ {es fs : List (κ × α)},
    (es.Pairwise fun a b => compare a.1 b.1 = .lt) →
    (fs.Pairwise fun a b => compare a.1 b.1 = .lt) →
    (∀ e, e ∈ es ↔ e ∈ fs) → es = fs
  | [], [], _, _, _ => rfl
  | [], f :: fs, _, _, h => absurd ((h f).2 List.mem_cons_self) (List.not_mem_nil)
  | e :: es, [], _, _, h => absurd ((h e).1 List.mem_cons_self) (List.not_mem_nil)
  | e :: es, f :: fs, he, hf, h => by
    rw [List.pairwise_cons] at he hf
    have irrefl {x : κ × α} : ¬ compare x.1 x.1 = .lt := by simp
    have head : e = f := by
      rcases List.mem_cons.1 ((h e).1 List.mem_cons_self) with hef | hef
      · exact hef
      · rcases List.mem_cons.1 ((h f).2 List.mem_cons_self) with hfe | hfe
        · exact hfe.symm
        · exact absurd (Std.TransCmp.lt_trans (he.1 f hfe) (hf.1 e hef)) irrefl
    subst head
    refine congrArg (e :: ·) (entries_eq_of_mem_iff he.2 hf.2 fun x => ?_)
    constructor
    · intro hx
      rcases List.mem_cons.1 ((h x).1 (List.mem_cons_of_mem _ hx)) with rfl | hx'
      · exact absurd (he.1 _ hx) irrefl
      · exact hx'
    · intro hx
      rcases List.mem_cons.1 ((h x).2 (List.mem_cons_of_mem _ hx)) with rfl | hx'
      · exact absurd (hf.1 _ hx) irrefl
      · exact hx'

theorem ext_get? {m n : SortedMap κ α} (h : ∀ k, m.get? k = n.get? k) : m = n := by
  have e : m.entries = n.entries := entries_eq_of_mem_iff m.sorted n.sorted fun e => by
    rw [← get?_eq_some_iff m e.1 e.2, ← get?_eq_some_iff n e.1 e.2, h]
  cases m; cases n; cases e; rfl

end SortedMap
end Gatekeeper
