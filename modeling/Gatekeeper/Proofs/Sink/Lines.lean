import Gatekeeper.Sink.RowStream

set_option autoImplicit false

namespace Gatekeeper

def lineFeed : UInt8 := 10

theorem bytes_toList (text : String) :
    (RowStream.bytes text).toList = text.toList.flatMap String.utf8EncodeChar := by
  have encoded : text.toUTF8 = text.toList.utf8Encode := by
    rw [String.toUTF8_eq_toByteArray]
    exact (congrArg String.toByteArray (String.ofList_toList (s := text))).symm
  rw [RowStream.bytes, encoded, List.utf8Encode, List.data_toByteArray]

theorem toNat_of_mem_utf8EncodeChar {c : Char} {b : UInt8} (mem : b ∈ String.utf8EncodeChar c)
    (small : b.toNat < 128) : b.toNat = c.toNat := by
  have value : c.toNat = c.val.toNat := rfl
  unfold String.utf8EncodeChar at mem
  simp only [] at mem
  split at mem
  · simp only [List.mem_singleton] at mem
    subst mem
    rw [UInt8.toNat_ofNat']
    omega
  · exfalso
    split at mem
    · simp only [List.mem_cons, List.not_mem_nil, or_false] at mem
      obtain rfl | rfl := mem <;> rw [UInt8.toNat_ofNat'] at small <;> omega
    · split at mem <;> simp only [List.mem_cons, List.not_mem_nil, or_false] at mem
      · obtain rfl | rfl | rfl := mem <;> rw [UInt8.toNat_ofNat'] at small <;> omega
      · obtain rfl | rfl | rfl | rfl := mem <;> rw [UInt8.toNat_ofNat'] at small <;> omega

theorem lineFeed_mem_bytes {text : String} (mem : lineFeed ∈ (RowStream.bytes text).toList) : '\n' ∈ text.toList := by
  rw [bytes_toList, List.mem_flatMap] at mem
  obtain ⟨c, inText, encoded⟩ := mem
  have code : lineFeed.toNat = c.toNat := toNat_of_mem_utf8EncodeChar encoded (by decide)
  have same : c = '\n' := Char.toNat_inj.1 code.symm
  rwa [← same]

/-- The lines of some bytes that are complete, without the line feeds that end them. What follows the last line feed
    is no complete line. -/
def completeLines : List UInt8 → List (List UInt8)
  | [] => []
  | b :: rest =>
    if b = lineFeed then [] :: completeLines rest
    else match completeLines rest with
      | [] => []
      | line :: lines => (b :: line) :: lines

def endLine (line : List UInt8) : List UInt8 := line ++ [lineFeed]

theorem completeLines_endLine {line : List UInt8} (whole : lineFeed ∉ line) (rest : List UInt8) :
    completeLines (endLine line ++ rest) = line :: completeLines rest := by
  induction line with
  | nil => simp [endLine, completeLines]
  | cons b line ih =>
    have other : b ≠ lineFeed := fun same => whole (same ▸ List.mem_cons_self)
    have later := ih fun mem => whole (List.mem_cons_of_mem _ mem)
    show completeLines (b :: (endLine line ++ rest)) = _
    rw [completeLines, if_neg other, later]

theorem completeLines_append {lines : List (List UInt8)} (whole : ∀ line ∈ lines, lineFeed ∉ line)
    (rest : List UInt8) : completeLines (lines.flatMap endLine ++ rest) = lines ++ completeLines rest := by
  induction lines with
  | nil => rfl
  | cons line lines ih =>
    rw [List.flatMap_cons, List.append_assoc, completeLines_endLine (whole line List.mem_cons_self),
      ih fun other mem => whole other (List.mem_cons_of_mem _ mem), List.cons_append]

theorem completeLines_flatMap {lines : List (List UInt8)} (whole : ∀ line ∈ lines, lineFeed ∉ line) :
    completeLines (lines.flatMap endLine) = lines := by
  have complete := completeLines_append whole []
  have nothing : completeLines [] = [] := rfl
  rwa [nothing, List.append_nil, List.append_nil] at complete

theorem completeLines_eq_nil {bytes : List UInt8} : completeLines bytes = [] ↔ lineFeed ∉ bytes := by
  induction bytes with
  | nil => simp [completeLines]
  | cons b rest ih =>
    by_cases same : b = lineFeed
    · simp [completeLines, same]
    · rw [completeLines, if_neg same, List.mem_cons, not_or, ← ih]
      have differs : lineFeed ≠ b := fun h => same h.symm
      cases completeLines rest with
      | nil => simp [differs]
      | cons line lines => simp

theorem length_completeLines (front rest : List UInt8) :
    (endLine front).length ≤ ((completeLines (endLine front ++ rest)).flatMap endLine).length := by
  induction front with
  | nil => simp [endLine, completeLines]
  | cons b front ih =>
    show (endLine front).length + 1 ≤ ((completeLines (b :: (endLine front ++ rest))).flatMap endLine).length
    rw [completeLines]
    have present : completeLines (endLine front ++ rest) ≠ [] := by
      rw [Ne, completeLines_eq_nil]
      simp [endLine]
    split
    · rw [List.flatMap_cons, List.length_append]
      have one : (endLine []).length = 1 := rfl
      omega
    · cases split : completeLines (endLine front ++ rest) with
      | nil => exact absurd split present
      | cons line lines =>
        rw [split] at ih
        simp only [List.flatMap_cons, List.length_append, endLine, List.length_cons, List.length_nil] at ih ⊢
        omega

end Gatekeeper
