import Gatekeeper.Json.Range

set_option autoImplicit false

namespace Gatekeeper

namespace Numeral

theorem takeFitting_fits {ds : List Nat} {acc : Nat} (fits : ds.foldl (fun n d => n * 10 + d) acc < Nat.pow 2 64) :
    takeFitting acc ds = (ds.foldl (fun n d => n * 10 + d) acc, 0) := by
  induction ds generalizing acc with
  | nil => rfl
  | cons d ds ih =>
    have grows (ds : List Nat) (n : Nat) : n ≤ ds.foldl (fun n d => n * 10 + d) n := by
      induction ds generalizing n with
      | nil => exact Nat.le_refl n
      | cons d ds ih => exact Nat.le_trans (by omega) (ih (n * 10 + d))
    rw [List.foldl_cons] at fits ⊢
    rw [takeFitting, if_pos (Nat.lt_of_le_of_lt (grows ds _) fits), ih fits]

theorem foldl_toDigits (n : Nat) :
    ((Nat.toDigits 10 n).map fun c => c.toNat - '0'.toNat).foldl (fun n d => n * 10 + d) 0 = n := by
  have value : Nat.ofDigitChars 10 (Nat.toDigits 10 n) 0 = n := Nat.ofDigitChars_toDigits (by decide) (by decide)
  rw [List.foldl_map]
  simpa [Nat.ofDigitChars, Nat.mul_comm] using value

theorem takeFitting_toDigits {n : Nat} (small : n < Nat.pow 2 64) :
    takeFitting 0 ((Nat.toDigits 10 n).map fun c => c.toNat - '0'.toNat) = (n, 0) := by
  rw [takeFitting_fits (by rwa [foldl_toDigits]), foldl_toDigits]

theorem roundTo53_small {n : Nat} (small : n < Nat.pow 2 53) : roundTo53 n = n := if_pos small

theorem isInRange_whole {n : Numeral} (small : n.whole < Nat.pow 2 53) (noFraction : n.fraction = [])
    (noExponent : n.exponent = none) : n.isInRange = true := by
  have fits : n.whole < Nat.pow 2 64 := Nat.lt_trans small (by decide)
  have bound : n.whole < overflowBound := Nat.lt_of_lt_of_le small (by decide +kernel)
  have one : roundTo53 1 = 1 := roundTo53_small (by decide)
  simp only [isInRange, takeFitting_toDigits fits, noFraction, noExponent]
  simp [takeFitting, roundTo53_small small, one, bound]

theorem isInRange_ofInt {i : Int} (small : i.natAbs < Nat.pow 2 53) : (ofInt i).isInRange = true := by
  cases i with
  | ofNat n => exact isInRange_whole small rfl rfl
  | negSucc n => exact isInRange_whole small rfl rfl

end Numeral

namespace Json

theorem itemsRepresentable_iff {room : Nat} {items : List Json} :
    itemsRepresentable room items = true ↔ ∀ x ∈ items, x.isRepresentable room = true := by
  induction items with
  | nil => simp [itemsRepresentable]
  | cons x items ih => simp [itemsRepresentable, ih]

theorem membersRepresentable_iff {room : Nat} {members : List (Option String × Json)} :
    membersRepresentable room members = true ↔
      ∀ m ∈ members, m.1.isSome = true ∧ m.2.isRepresentable room = true := by
  induction members with
  | nil => simp [membersRepresentable]
  | cons m members ih => simp [membersRepresentable, ih, and_assoc]

theorem array_isRepresentable {room : Nat} {items : List Json} :
    (array items).isRepresentable (room + 1) = true ↔ ∀ x ∈ items, x.isRepresentable room = true := by
  rw [isRepresentable, ← itemsRepresentable_iff]
  simp

theorem record_isRepresentable {room : Nat} {members : List (String × Json)} :
    (record members).isRepresentable (room + 1) = true ↔ ∀ m ∈ members, m.2.isRepresentable room = true := by
  rw [record, isRepresentable, Nat.add_sub_cancel]
  simp only [Bool.and_eq_true, membersRepresentable_iff, List.forall_mem_map]
  simp

mutual

theorem isRepresentable_succ : (j : Json) → (room : Nat) → j.isRepresentable room = true →
    j.isRepresentable (room + 1) = true
  | .null, _, h => h
  | .bool _, _, h => h
  | .number _, _, h => h
  | .string _, _, h => h
  | .array items, room, h => by
    cases room with
    | zero => simp [isRepresentable] at h
    | succ room =>
      simp only [isRepresentable, Nat.add_sub_cancel, Bool.and_eq_true] at h ⊢
      exact ⟨by simp, itemsRepresentable_succ items room h.2⟩
  | .object members, room, h => by
    cases room with
    | zero => simp [isRepresentable] at h
    | succ room =>
      simp only [isRepresentable, Nat.add_sub_cancel, Bool.and_eq_true] at h ⊢
      exact ⟨by simp, membersRepresentable_succ members room h.2⟩

theorem itemsRepresentable_succ : (items : List Json) → (room : Nat) → itemsRepresentable room items = true →
    itemsRepresentable (room + 1) items = true
  | [], _, h => h
  | x :: rest, room, h => by
    simp only [itemsRepresentable, Bool.and_eq_true] at h ⊢
    exact ⟨isRepresentable_succ x room h.1, itemsRepresentable_succ rest room h.2⟩

theorem membersRepresentable_succ : (members : List (Option String × Json)) → (room : Nat) →
    membersRepresentable room members = true → membersRepresentable (room + 1) members = true
  | [], _, h => h
  | (_, x) :: rest, room, h => by
    simp only [membersRepresentable, Bool.and_eq_true] at h ⊢
    exact ⟨⟨h.1.1, isRepresentable_succ x room h.1.2⟩, membersRepresentable_succ rest room h.2⟩

end

theorem isRepresentable_mono {j : Json} {room room' : Nat} (less : room ≤ room')
    (held : j.isRepresentable room = true) : j.isRepresentable room' = true := by
  induction less with
  | refl => exact held
  | step _ ih => exact isRepresentable_succ j _ ih

inductive IsScalar : Json → Prop where
  | null : IsScalar .null
  | bool (b : Bool) : IsScalar (.bool b)
  | number (n : Numeral) : IsScalar (.number n)
  | string (s : Option String) : IsScalar (.string s)

/-- A scalar whose number, if it is one, does not leave the range, and whose string spells text. -/
inductive IsHeldScalar : Json → Prop where
  | null : IsHeldScalar .null
  | bool (b : Bool) : IsHeldScalar (.bool b)
  | number {n : Numeral} (inRange : n.isInRange = true) : IsHeldScalar (.number n)
  | text (s : String) : IsHeldScalar (.text s)

theorem IsHeldScalar.representable {j : Json} (scalar : IsHeldScalar j) : j.isRepresentable 0 = true := by
  cases scalar with
  | null => rfl
  | bool b => rfl
  | number inRange => exact inRange
  | text s => rfl

end Json
end Gatekeeper
