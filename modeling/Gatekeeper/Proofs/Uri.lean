import Gatekeeper.Uri

set_option autoImplicit false

namespace Gatekeeper

namespace Decimal

structure Digits (cs : List Char) (n : Nat) : Prop where
  present : cs ≠ []
  all : ∀ c ∈ cs, c.isDigit = true
  value : Nat.ofDigitChars 10 cs 0 = n

/-- Digits, which a single plus sign may precede. -/
def Spells (cs : List Char) (n : Nat) : Prop := Digits cs n ∨ ∃ ds, cs = '+' :: ds ∧ Digits ds n

theorem not_digits_plus (cs : List Char) (n : Nat) : ¬Digits ('+' :: cs) n := fun digits => by
  have plus : ('+').isDigit = true := digits.all '+' List.mem_cons_self
  cases plus

theorem le_ofDigitChars (cs : List Char) (acc : Nat) : acc ≤ Nat.ofDigitChars 10 cs acc := by
  induction cs generalizing acc with
  | nil => exact Nat.le_refl acc
  | cons c cs ih =>
    rw [Nat.ofDigitChars_cons]
    have later := ih (10 * acc + (c.toNat - '0'.toNat))
    omega

theorem readDigits_eq_ok_iff {acc : Nat} (small : acc < UInt32.size) (cs : List Char) (n : Nat) :
    readDigits acc cs = .ok n ↔
      (∀ c ∈ cs, c.isDigit = true) ∧ n < UInt32.size ∧ Nat.ofDigitChars 10 cs acc = n := by
  induction cs generalizing acc with
  | nil =>
    have value : Nat.ofDigitChars 10 [] acc = acc := rfl
    have none : ∀ c ∈ ([] : List Char), c.isDigit = true := by simp
    rw [readDigits, value, Except.ok.injEq]
    exact ⟨fun same => ⟨none, same ▸ small, same⟩, fun h => h.2.2⟩
  | cons c cs ih =>
    have next : acc * 10 + digitValue c = 10 * acc + (c.toNat - '0'.toNat) := by
      rw [digitValue, Nat.mul_comm]
    rw [readDigits, Nat.ofDigitChars_cons, List.forall_mem_cons, ← next]
    by_cases digit : c.isDigit = true
    · simp only [digit, if_true, true_and]
      by_cases fits : acc * 10 + digitValue c < UInt32.size
      · rw [if_pos fits]
        exact ih fits
      · rw [if_neg fits]
        refine iff_of_false (by simp) ?_
        rintro ⟨-, within, value⟩
        -- A value that leaves the range never comes back, so the check at each digit is one on the whole value.
        have grown := le_ofDigitChars cs (acc * 10 + digitValue c)
        omega
    · rw [if_neg digit]
      exact iff_of_false (by simp) fun h => digit h.1.1

theorem map_readDigits_eq_ok_iff {cs : List Char} (present : cs ≠ []) (n : UInt32) :
    (readDigits 0 cs).map UInt32.ofNat = .ok n ↔ Digits cs n.toNat := by
  have start : 0 < UInt32.size := by decide
  have read := readDigits_eq_ok_iff start cs
  have digits : readDigits 0 cs = .ok n.toNat ↔ Digits cs n.toNat := by
    rw [read]
    exact ⟨fun h => ⟨present, h.1, h.2.2⟩, fun h => ⟨h.all, n.toNat_lt, h.value⟩⟩
  rw [← digits]
  cases result : readDigits 0 cs with
  | error fault => exact iff_of_false (by simp [Except.map]) (by simp)
  | ok m =>
    have small : m < UInt32.size := ((read m).1 result).2.1
    show Except.ok (UInt32.ofNat m) = .ok n ↔ _
    rw [Except.ok.injEq, Except.ok.injEq, ← UInt32.toNat_inj, UInt32.toNat_ofNat_of_lt' small]

/-- The reader of 32-bit numbers accepts exactly the numerals of the numbers in range. -/
theorem readUInt32_eq_ok_iff (cs : List Char) (n : UInt32) : readUInt32 cs = .ok n ↔ Spells cs n.toNat := by
  unfold readUInt32
  split
  · refine iff_of_false (by simp) ?_
    rintro (digits | ⟨ds, same, -⟩)
    · exact digits.present rfl
    · cases same
  · next c rest =>
    rw [map_readDigits_eq_ok_iff (List.cons_ne_nil c rest)]
    refine ⟨fun digits => .inr ⟨_, rfl, digits⟩, ?_⟩
    rintro (digits | ⟨ds, ⟨⟩, digits⟩)
    · exact absurd digits (not_digits_plus _ _)
    · exact digits
  · next cs present signed =>
    rw [map_readDigits_eq_ok_iff present]
    refine ⟨.inl, ?_⟩
    rintro (digits | ⟨ds, rfl, digits⟩)
    · exact digits
    · -- the sign alone is left
      cases ds with
      | nil => exact absurd rfl digits.present
      | cons d ds => exact (signed d ds rfl).elim

theorem spells_repr (n : Nat) : Spells (Nat.repr n).toList n := by
  rw [Nat.toList_repr]
  exact .inl ⟨Nat.toDigits_ne_nil, fun c mem => Nat.isDigit_of_mem_toDigits (by decide) (by decide) mem,
    Nat.ofDigitChars_toDigits (by decide) (by decide)⟩

end Decimal

def Scheme.known : List String := [Scheme.uid, Scheme.permission, Scheme.appOp, Scheme.package]

namespace AccessUri

/-- The parts of a text around its first colon, neither of them empty. -/
structure Parts (text scheme value : String) : Prop where
  joined : text = scheme ++ ":" ++ value
  first : ':' ∉ scheme.toList
  scheme_ne : scheme ≠ ""
  value_ne : value ≠ ""

/-- What a value stands for under a scheme. -/
def Names (scheme value : String) : AccessUri → Prop
  | .uid u => scheme = Scheme.uid ∧ Decimal.Spells value.toList u.value.toNat
  | .permission name => scheme = Scheme.permission ∧ name = value
  | .appOp name => scheme = Scheme.appOp ∧ name = value
  | .package name => scheme = Scheme.package ∧ name = ⟨value⟩
  | .other tag rest => scheme ∉ Scheme.known ∧ tag = scheme ∧ rest = value

def Denotes (text : String) (uri : AccessUri) : Prop :=
  ∃ scheme value, Parts text scheme value ∧ Names scheme value uri

theorem toList_eq_nil_iff {s : String} : s.toList = [] ↔ s = "" := by
  rw [← String.toList_inj]
  exact Iff.rfl

theorem Parts.chars {text scheme value : String} (parts : Parts text scheme value) :
    text.toList = scheme.toList ++ ':' :: value.toList := by
  rw [parts.joined, String.toList_append, String.toList_append, List.append_assoc]
  rfl

theorem takeWhile_colon {front : List Char} (none : ':' ∉ front) (rest : List Char) :
    (front ++ ':' :: rest).takeWhile (· ≠ ':') = front ∧
      (front ++ ':' :: rest).dropWhile (· ≠ ':') = ':' :: rest := by
  have other : ∀ c ∈ front, decide (c ≠ ':') = true := fun c mem => decide_eq_true fun same => none (same ▸ mem)
  rw [List.takeWhile_append_of_pos other, List.dropWhile_append_of_pos other,
    List.takeWhile_cons_of_neg (by decide), List.dropWhile_cons_of_neg (by decide), List.append_nil]
  exact ⟨rfl, rfl⟩

theorem Parts.parse {text scheme value : String} (parts : Parts text scheme value) :
    parse text = ofParts scheme value := by
  obtain ⟨before, after⟩ := takeWhile_colon parts.first value.toList
  have schemeThere : scheme.toList.isEmpty = false := by
    simpa [toList_eq_nil_iff] using parts.scheme_ne
  have valueThere : value.toList.isEmpty = false := by
    simpa [toList_eq_nil_iff] using parts.value_ne
  unfold AccessUri.parse
  rw [parts.chars, before, after]
  simp only [schemeThere, valueThere, Bool.or_self, Bool.false_eq_true, if_false, String.ofList_toList]

theorem exists_parts {cs : List Char} {c : Char} {value : List Char} (after : cs.dropWhile (· ≠ ':') = c :: value)
    (schemeThere : cs.takeWhile (· ≠ ':') ≠ []) (valueThere : value ≠ []) :
    Parts (String.ofList cs) (String.ofList (cs.takeWhile (· ≠ ':'))) (String.ofList value) := by
  have whole : cs.takeWhile (· ≠ ':') ++ cs.dropWhile (· ≠ ':') = cs := List.takeWhile_append_dropWhile
  have colon : c = ':' := by
    have stops := List.head?_dropWhile_not (fun c => decide (c ≠ ':')) cs
    rw [after] at stops
    simpa using stops
  have first : ':' ∉ cs.takeWhile (· ≠ ':') := fun mem => by
    simpa using List.all_eq_true.1 List.all_takeWhile ':' mem
  rw [after, colon] at whole
  refine ⟨?_, ?_, ?_, ?_⟩
  · rw [← String.toList_inj, String.toList_append, String.toList_append]
    simp only [String.toList_ofList]
    rw [List.append_assoc]
    exact whole.symm
  · rwa [String.toList_ofList]
  · rwa [Ne, ← toList_eq_nil_iff, String.toList_ofList]
  · rwa [Ne, ← toList_eq_nil_iff, String.toList_ofList]

theorem parse_eq_ok_iff_parts {text : String} {uri : AccessUri} :
    parse text = .ok uri ↔ ∃ scheme value, Parts text scheme value ∧ ofParts scheme value = .ok uri := by
  constructor
  · intro read
    unfold parse at read
    simp only [] at read
    split at read
    · cases read
    · next c value after =>
      split at read
      · cases read
      · next present =>
        rw [Bool.or_eq_true, not_or, List.isEmpty_iff, List.isEmpty_iff] at present
        have parts := exists_parts after present.1 present.2
        rw [String.ofList_toList] at parts
        exact ⟨_, _, parts, read⟩
  · rintro ⟨scheme, value, parts, read⟩
    rw [parts.parse, read]

theorem not_mem_known_iff {scheme : String} :
    scheme ∉ Scheme.known ↔
      scheme ≠ Scheme.uid ∧ scheme ≠ Scheme.permission ∧ scheme ≠ Scheme.appOp ∧ scheme ≠ Scheme.package := by
  simp only [Scheme.known, List.mem_cons, List.not_mem_nil, or_false, not_or, Ne]

theorem names_of_ofParts {scheme value : String} {uri : AccessUri} (read : ofParts scheme value = .ok uri) :
    Names scheme value uri := by
  unfold ofParts at read
  split at read
  · next tag =>
    split at read
    · next n numeral =>
      cases read
      exact ⟨tag, (Decimal.readUInt32_eq_ok_iff _ n).1 numeral⟩
    · cases read
  · next notUid =>
    split at read
    · next tag => cases read; exact ⟨tag, rfl⟩
    · next notPermission =>
      split at read
      · next tag => cases read; exact ⟨tag, rfl⟩
      · next notAppOp =>
        split at read
        · next tag => cases read; exact ⟨tag, rfl⟩
        · next notPackage =>
          cases read
          exact ⟨not_mem_known_iff.2 ⟨notUid, notPermission, notAppOp, notPackage⟩, rfl, rfl⟩

theorem Names.ofParts {scheme value : String} {uri : AccessUri} (names : Names scheme value uri) :
    ofParts scheme value = .ok uri := by
  cases uri with
  | uid u =>
    obtain ⟨rfl, numeral⟩ := names
    rw [AccessUri.ofParts, if_pos rfl, (Decimal.readUInt32_eq_ok_iff _ u.value).2 numeral]
  | permission name => obtain ⟨rfl, rfl⟩ := names; rfl
  | appOp name => obtain ⟨rfl, rfl⟩ := names; rfl
  | package name => obtain ⟨rfl, rfl⟩ := names; rfl
  | other tag rest =>
    obtain ⟨unknown, rfl, rfl⟩ := names
    obtain ⟨notUid, notPermission, notAppOp, notPackage⟩ := not_mem_known_iff.1 unknown
    rw [AccessUri.ofParts, if_neg notUid, if_neg notPermission, if_neg notAppOp, if_neg notPackage]

theorem parse_eq_ok_iff {text : String} {uri : AccessUri} : parse text = .ok uri ↔ Denotes text uri := by
  rw [parse_eq_ok_iff_parts]
  exact exists_congr fun _ => exists_congr fun _ => and_congr_right fun _ => ⟨names_of_ofParts, Names.ofParts⟩

theorem read_eq_ok_iff {text : String} {uri : AccessUri} : read text = .ok uri ↔ Denotes text uri := by
  rw [← parse_eq_ok_iff, read]
  cases parse text <;> simp

theorem read_refused {text : String} {e : Error} (refused : read text = .error e) :
    ∃ detail, e = .invalidUri detail := by
  unfold read at refused
  cases result : parse text with
  | ok uri => rw [result] at refused; cases refused
  | error fault =>
    rw [result] at refused
    cases refused
    cases fault <;> exact ⟨_, rfl⟩

/-- Every value has a meaning under every scheme, but for `uid`, where it has to be the numeral of a uid. -/
theorem exists_names_iff {scheme value : String} :
    (∃ uri, Names scheme value uri) ↔ (scheme = Scheme.uid → ∃ n ≤ 4294967295, Decimal.Spells value.toList n) := by
  constructor
  · rintro ⟨uri, names⟩ rfl
    cases uri with
    | uid u => exact ⟨_, Nat.le_of_lt_succ u.value.toNat_lt, names.2⟩
    | permission | appOp | package => exact nomatch names.1
    | other tag rest => exact absurd List.mem_cons_self names.1
  · intro numeral
    by_cases isUid : scheme = Scheme.uid
    · obtain ⟨n, within, spelled⟩ := numeral isUid
      refine ⟨.uid ⟨UInt32.ofNat n⟩, isUid, ?_⟩
      rwa [UInt32.toNat_ofNat_of_lt' (Nat.lt_succ_of_le within)]
    by_cases isPermission : scheme = Scheme.permission
    · exact ⟨.permission value, isPermission, rfl⟩
    by_cases isAppOp : scheme = Scheme.appOp
    · exact ⟨.appOp value, isAppOp, rfl⟩
    by_cases isPackage : scheme = Scheme.package
    · exact ⟨.package ⟨value⟩, isPackage, rfl⟩
    exact ⟨.other scheme value, not_mem_known_iff.2 ⟨isUid, isPermission, isAppOp, isPackage⟩, rfl, rfl⟩

/-- A text is read exactly if it has a colon and something on both sides of its first one, and, where the part in front
    is `uid`, digits of at most the largest 32-bit number behind it, which a plus sign may precede. The URI is the one
    that the text denotes: its kind is fixed by the first part, a uid is the value of the digits, and any other URI keeps
    the parts as they are. A text that is not read is an invalid URI. -/
theorem read_grammar (text : String) :
    ((∃ uri, read text = .ok uri) ↔
      ∃ scheme value, Parts text scheme value ∧
        (scheme = Scheme.uid → ∃ n ≤ 4294967295, Decimal.Spells value.toList n)) ∧
    (∀ uri, read text = .ok uri ↔ ∃ scheme value, Parts text scheme value ∧ Names scheme value uri) ∧
    ∀ e, read text = .error e → ∃ detail, e = .invalidUri detail := by
  refine ⟨?_, fun uri => read_eq_ok_iff, fun e => read_refused⟩
  constructor
  · rintro ⟨uri, result⟩
    obtain ⟨scheme, value, parts, names⟩ := read_eq_ok_iff.1 result
    exact ⟨scheme, value, parts, exists_names_iff.1 ⟨uri, names⟩⟩
  · rintro ⟨scheme, value, parts, numeral⟩
    obtain ⟨uri, names⟩ := exists_names_iff.2 numeral
    exact ⟨uri, read_eq_ok_iff.2 ⟨scheme, value, parts, names⟩⟩

/-- The URIs that some text denotes. -/
def Legible : AccessUri → Prop
  | .uid _ => True
  | .permission name => name ≠ ""
  | .appOp name => name ≠ ""
  | .package name => name.value ≠ ""
  | .other scheme value => scheme ≠ "" ∧ ':' ∉ scheme.toList ∧ scheme ∉ Scheme.known ∧ value ≠ ""

theorem Denotes.legible {text : String} {uri : AccessUri} (denotes : Denotes text uri) : uri.Legible := by
  obtain ⟨scheme, value, parts, names⟩ := denotes
  cases uri with
  | uid u => trivial
  | permission name => obtain ⟨-, rfl⟩ := names; exact parts.value_ne
  | appOp name => obtain ⟨-, rfl⟩ := names; exact parts.value_ne
  | package name => obtain ⟨-, rfl⟩ := names; exact parts.value_ne
  | other tag rest =>
    obtain ⟨unknown, rfl, rfl⟩ := names
    exact ⟨parts.scheme_ne, parts.first, unknown, parts.value_ne⟩

theorem Legible.denotes {uri : AccessUri} (legible : uri.Legible) : Denotes uri.text uri := by
  cases uri with
  | uid u =>
    have numeral := Decimal.spells_repr u.value.toNat
    refine ⟨Scheme.uid, u.text, ⟨rfl, by decide, by decide, ?_⟩, rfl, numeral⟩
    rw [Ne, ← toList_eq_nil_iff, Uid.text, Nat.toList_repr]
    exact Nat.toDigits_ne_nil
  | permission name => exact ⟨Scheme.permission, name, ⟨rfl, by decide, by decide, legible⟩, rfl, rfl⟩
  | appOp name => exact ⟨Scheme.appOp, name, ⟨rfl, by decide, by decide, legible⟩, rfl, rfl⟩
  | package name => exact ⟨Scheme.package, name.value, ⟨rfl, by decide, by decide, legible⟩, rfl, rfl⟩
  | other scheme value =>
    obtain ⟨schemeThere, first, unknown, valueThere⟩ := legible
    exact ⟨scheme, value, ⟨rfl, first, schemeThere, valueThere⟩, unknown, rfl, rfl⟩

theorem Parts.text_eq {text scheme value : String} {uri : AccessUri} (parts : Parts text scheme value)
    (names : Names scheme value uri) (notUid : scheme ≠ Scheme.uid) : uri.text = text := by
  rw [parts.joined]
  cases uri with
  | uid u => exact absurd names.1 notUid
  | permission name => obtain ⟨rfl, rfl⟩ := names; rfl
  | appOp name => obtain ⟨rfl, rfl⟩ := names; rfl
  | package name => obtain ⟨rfl, rfl⟩ := names; rfl
  | other tag rest => obtain ⟨-, rfl, rfl⟩ := names; rfl

theorem Parts.unique {text scheme value scheme' value' : String} (parts : Parts text scheme value)
    (parts' : Parts text scheme' value') : scheme = scheme' ∧ value = value' := by
  obtain ⟨before, after⟩ := takeWhile_colon parts.first value.toList
  obtain ⟨before', after'⟩ := takeWhile_colon parts'.first value'.toList
  rw [← parts.chars] at before after
  rw [← parts'.chars] at before' after'
  exact ⟨String.toList_inj.1 (before.symm.trans before'),
    String.toList_inj.1 (List.cons.inj (after.symm.trans after')).2⟩

/-- A URI is read back from its written form exactly if it is legible, and every URI that is read is. The written form
    is the normal form of the texts that denote the URI: it is the text itself, but for the numeral of a uid, and two
    texts denote one URI exactly if they have one normal form. -/
theorem read_text :
    (∀ uri : AccessUri, read uri.text = .ok uri ↔ uri.Legible) ∧
    (∀ text uri, read text = .ok uri → uri.Legible ∧ read uri.text = .ok uri ∧
      ∀ scheme value, Parts text scheme value → scheme ≠ Scheme.uid → uri.text = text) ∧
    ∀ text text' uri uri', read text = .ok uri → read text' = .ok uri' → (uri = uri' ↔ uri.text = uri'.text) := by
  have back : ∀ uri : AccessUri, read uri.text = .ok uri ↔ uri.Legible := fun uri =>
    read_eq_ok_iff.trans ⟨Denotes.legible, Legible.denotes⟩
  have found : ∀ text uri, read text = .ok uri → read uri.text = .ok uri := fun text uri result =>
    (back uri).2 (read_eq_ok_iff.1 result).legible
  refine ⟨back, fun text uri result => ⟨(read_eq_ok_iff.1 result).legible, found text uri result, ?_⟩, ?_⟩
  · intro scheme value parts notUid
    obtain ⟨scheme', value', parts', names⟩ := read_eq_ok_iff.1 result
    obtain ⟨rfl, rfl⟩ := parts.unique parts'
    exact parts.text_eq names notUid
  · intro text text' uri uri' result result'
    refine ⟨congrArg AccessUri.text, fun same => ?_⟩
    have both := found text' uri' result'
    rw [← same, found text uri result] at both
    exact Except.ok.inj both

/-- A numeral with a sign and zeros in front has another normal form; a value with a colon is its own. -/
theorem read_text_numeral :
    read "uid:+007" = .ok (.uid ⟨7⟩) ∧ read "uid:7" = .ok (.uid ⟨7⟩) ∧
      read (AccessUri.uid ⟨7⟩).text = .ok (.uid ⟨7⟩) ∧
      read "app-op:a:b" = .ok (.appOp "a:b") ∧ Parts "app-op:a:b" "app-op" "a:b" ∧ "app-op" ≠ Scheme.uid ∧
      (AccessUri.appOp "a:b").text = "app-op:a:b" ∧
      (AccessUri.uid ⟨7⟩ = .appOp "a:b" ↔ (AccessUri.uid ⟨7⟩).text = (AccessUri.appOp "a:b").text) := by
  obtain ⟨-, found, normal⟩ := read_text
  have signed : read "uid:+007" = .ok (.uid ⟨7⟩) := rfl
  have plain : read "uid:7" = .ok (.uid ⟨7⟩) := rfl
  have op : read "app-op:a:b" = .ok (.appOp "a:b") := rfl
  have parts : Parts "app-op:a:b" "app-op" "a:b" := ⟨by decide, by decide, by decide, by decide⟩
  exact ⟨signed, plain, (found _ _ signed).2.1, op, parts, by decide, (found _ _ op).2.2 _ _ parts (by decide),
    normal _ _ _ _ plain op⟩

end AccessUri
end Gatekeeper
