import Gatekeeper.Proofs.Json.Text

set_option autoImplicit false

namespace Gatekeeper.Json

def Blanks (cs : List Char) : Prop := ∀ c ∈ cs, isBlank c = true

theorem blanks_nil : Blanks [] := fun _ mem => nomatch mem

theorem skipBlanks_cons {c : Char} (h : isBlank c = false) (cs : List Char) : skipBlanks (c :: cs) = c :: cs :=
  List.dropWhile_cons_of_neg (by simp [h])

theorem skipBlanks_append {gap : List Char} (blank : Blanks gap) (cs : List Char) :
    skipBlanks (gap ++ cs) = skipBlanks cs := List.dropWhile_append_of_pos blank

theorem skipBlanks_mark {gap : List Char} (blank : Blanks gap) {c : Char} (mark : isBlank c = false) (cs : List Char) :
    skipBlanks (gap ++ c :: cs) = c :: cs := by
  rw [skipBlanks_append blank, skipBlanks_cons mark]

theorem skipBlanks_twice (cs : List Char) : skipBlanks (skipBlanks cs) = skipBlanks cs := by
  induction cs with
  | nil => rfl
  | cons c cs ih =>
    cases blank : isBlank c with
    | false => rw [skipBlanks_cons blank, skipBlanks_cons blank]
    | true =>
      have skipped : skipBlanks (c :: cs) = skipBlanks cs := List.dropWhile_cons_of_pos blank
      rw [skipped, ih]

theorem Closes.skip {gap rest : List Char} (blank : Blanks gap) (closes : Closes rest) : Closes (gap ++ rest) := by
  cases gap with
  | nil => exact closes
  | cons c gap => exact closes_of_blank (blank c List.mem_cons_self) _

/-- The reader of a value looks only at what follows the blanks. -/
theorem value_skipBlanks (bound : Nat) {cs ds : List Char} (same : skipBlanks cs = skipBlanks ds) :
    value bound cs = value bound ds := by
  cases bound with
  | zero => rfl
  | succ bound => rw [value, same, value]

theorem items_skipBlanks (bound : Nat) (cs : List Char) : items bound (skipBlanks cs) = items bound cs := by
  cases bound with
  | zero => rfl
  | succ bound => rw [items, value_skipBlanks bound (skipBlanks_twice cs), items]

theorem members_skipBlanks (bound : Nat) {cs ds : List Char} (same : skipBlanks cs = skipBlanks ds) :
    members bound cs = members bound ds := by
  cases bound with
  | zero => rfl
  | succ bound => rw [members, same, members]

mutual

/-- A text of a tree, from its first token to its last. -/
inductive Laid : Json → List Char → Prop where
  | null : Laid .null ['n', 'u', 'l', 'l']
  | true : Laid (.bool true) ['t', 'r', 'u', 'e']
  | false : Laid (.bool false) ['f', 'a', 'l', 's', 'e']
  | number {n : Numeral} {cs : List Char} (text : NumeralText n cs) : Laid (.number n) cs
  | string {s : Option String} {cs : List Char} (text : LiteralText s cs) : Laid (.string s) ('"' :: cs)
  | emptyArray {gap : List Char} (blank : Blanks gap) : Laid (.array []) ('[' :: (gap ++ [']']))
  | array {items : List Json} {cs : List Char} (inner : ItemsLaid items cs) :
    Laid (.array items) ('[' :: (cs ++ [']']))
  | emptyObject {gap : List Char} (blank : Blanks gap) : Laid (.object []) ('\x7b' :: (gap ++ ['\x7d']))
  | object {members : List (Option String × Json)} {cs : List Char} (inner : MembersLaid members cs) :
    Laid (.object members) ('\x7b' :: (cs ++ ['\x7d']))

inductive Spaced : Json → List Char → Prop where
  | intro {j : Json} {before cs after : List Char} (lead : Blanks before) (text : Laid j cs) (trail : Blanks after) :
    Spaced j (before ++ (cs ++ after))

inductive ItemsLaid : List Json → List Char → Prop where
  | last {x : Json} {cs : List Char} (text : Spaced x cs) : ItemsLaid [x] cs
  | more {x : Json} {xs : List Json} {cs ds : List Char} (text : Spaced x cs) (rest : ItemsLaid xs ds) :
    ItemsLaid (x :: xs) (cs ++ ',' :: ds)

inductive MembersLaid : List (Option String × Json) → List Char → Prop where
  | last {before name gap : List Char} {key : Option String} {x : Json} {cs : List Char} (lead : Blanks before)
    (named : LiteralText key name) (colon : Blanks gap) (text : Spaced x cs) :
    MembersLaid [(key, x)] (before ++ '"' :: (name ++ (gap ++ ':' :: cs)))
  | more {before name gap : List Char} {key : Option String} {x : Json} {cs : List Char}
    {ms : List (Option String × Json)} {ds : List Char} (lead : Blanks before) (named : LiteralText key name)
    (colon : Blanks gap) (text : Spaced x cs) (rest : MembersLaid ms ds) :
    MembersLaid ((key, x) :: ms) (before ++ '"' :: (name ++ (gap ++ ':' :: (cs ++ ',' :: ds))))

end

theorem Laid.spaced {j : Json} {cs : List Char} (text : Laid j cs) : Spaced j cs := by
  have spaced := Spaced.intro blanks_nil text blanks_nil
  rwa [List.append_nil] at spaced

theorem Laid.length {j : Json} {cs : List Char} (text : Laid j cs) : 0 < cs.length := by
  cases text with
  | null | true | false => decide
  | number text =>
    obtain ⟨c, cs, rfl, -⟩ := text.front
    exact Nat.succ_pos _
  | string | emptyArray | array | emptyObject | object => exact Nat.succ_pos _

theorem numeral_apart {c : Char} (h : c = '-' ∨ c.isDigit = true) :
    isBlank c = false ∧ c ≠ '"' ∧ c ≠ '[' ∧ c ≠ '\x7b' ∧ c ≠ 'n' ∧ c ≠ 't' ∧ c ≠ 'f' := by
  obtain rfl | digit := h
  · exact ⟨rfl, by decide⟩
  · have other (d : Char) (no : d.isDigit = false) : c ≠ d := by
      rintro rfl
      exact Bool.false_ne_true (no.symm.trans digit)
    have visible : isBlank c = false := by
      simp only [isBlank, other ' ' rfl, other '\t' rfl, other '\n' rfl, other '\r' rfl, decide_false, Bool.or_false]
    exact ⟨visible, other _ rfl, other _ rfl, other _ rfl, other _ rfl, other _ rfl, other _ rfl⟩

theorem value_string (bound : Nat) {s : Option String} {cs : List Char} (text : LiteralText s cs)
    (rest : List Char) : value (bound + 1) ('"' :: (cs ++ rest)) = some (.string s, rest) := by
  rw [value, skipBlanks_cons rfl]
  simp only [if_true, text.read]

theorem value_number (bound : Nat) {n : Numeral} {cs rest : List Char} (text : NumeralText n cs)
    (closes : Closes rest) : value (bound + 1) (cs ++ rest) = some (.number n, rest) := by
  have read := text.read closes
  obtain ⟨c, cs, rfl, numeric⟩ := text.front
  obtain ⟨visible, apart⟩ := numeral_apart numeric
  rw [List.cons_append] at read ⊢
  rw [value, skipBlanks_cons visible]
  simp only [apart, if_false, read]

theorem value_empty_array (bound : Nat) {gap : List Char} (blank : Blanks gap) (rest : List Char) :
    value (bound + 1) ('[' :: (gap ++ ']' :: rest)) = some (.array [], rest) := by
  rw [value, skipBlanks_cons rfl]
  simp only [Char.reduceEq, if_false, if_true, skipBlanks_mark blank (rfl : isBlank ']' = false)]

theorem value_empty_object (bound : Nat) {gap : List Char} (blank : Blanks gap) (rest : List Char) :
    value (bound + 1) ('\x7b' :: (gap ++ '\x7d' :: rest)) = some (.object [], rest) := by
  rw [value, skipBlanks_cons rfl]
  simp only [Char.reduceEq, if_false, if_true, skipBlanks_mark blank (rfl : isBlank '\x7d' = false)]

theorem items_bracket (bound : Nat) (rest : List Char) : items bound (']' :: rest) = none := by
  have nothing (bound : Nat) : value bound (']' :: rest) = none := by
    cases bound <;> rfl
  cases bound with
  | zero => rfl
  | succ bound => rw [items, nothing]

theorem members_brace (bound : Nat) (rest : List Char) : members bound ('\x7d' :: rest) = none := by
  cases bound <;> rfl

theorem value_array {bound : Nat} {cs rest : List Char} {xs : List Json} (read : items bound cs = some (xs, rest)) :
    value (bound + 1) ('[' :: cs) = some (.array xs, rest) := by
  rw [value, skipBlanks_cons rfl]
  simp only [Char.reduceEq, if_false, if_true]
  rw [← items_skipBlanks] at read
  split
  · next closed =>
    rw [closed, items_bracket] at read
    cases read
  · rw [read]

theorem value_object {bound : Nat} {cs rest : List Char} {ms : List (Option String × Json)}
    (read : members bound cs = some (ms, rest)) : value (bound + 1) ('\x7b' :: cs) = some (.object ms, rest) := by
  rw [value, skipBlanks_cons rfl]
  simp only [Char.reduceEq, if_false, if_true]
  rw [← members_skipBlanks bound (skipBlanks_twice cs)] at read
  split
  · next closed =>
    rw [closed, members_brace] at read
    cases read
  · rw [read]

theorem items_last {bound : Nat} {cs gap rest : List Char} {x : Json} (blank : Blanks gap)
    (read : value bound cs = some (x, gap ++ ']' :: rest)) : items (bound + 1) cs = some ([x], rest) := by
  rw [items, read]
  simp only [skipBlanks_mark blank (rfl : isBlank ']' = false)]

theorem items_more {bound : Nat} {cs gap rest rest' : List Char} {x : Json} {xs : List Json} (blank : Blanks gap)
    (read : value bound cs = some (x, gap ++ ',' :: rest)) (more : items bound rest = some (xs, rest')) :
    items (bound + 1) cs = some (x :: xs, rest') := by
  rw [items, read]
  simp only [skipBlanks_mark blank (rfl : isBlank ',' = false), more]

section Members

variable {bound : Nat} {before name colon gap cs rest rest' : List Char} {key : Option String} {x : Json}

theorem members_last (lead : Blanks before) (named : LiteralText key name) (blank : Blanks colon) (trail : Blanks gap)
    (read : value bound cs = some (x, gap ++ '\x7d' :: rest)) :
    members (bound + 1) (before ++ '"' :: (name ++ (colon ++ ':' :: cs))) = some ([(key, x)], rest) := by
  rw [members, skipBlanks_mark lead rfl]
  simp only [named.read, skipBlanks_mark blank (rfl : isBlank ':' = false), read,
    skipBlanks_mark trail (rfl : isBlank '\x7d' = false)]

theorem members_more {ms : List (Option String × Json)} (lead : Blanks before) (named : LiteralText key name)
    (blank : Blanks colon) (trail : Blanks gap) (read : value bound cs = some (x, gap ++ ',' :: rest))
    (more : members bound rest = some (ms, rest')) :
    members (bound + 1) (before ++ '"' :: (name ++ (colon ++ ':' :: cs))) = some ((key, x) :: ms, rest') := by
  rw [members, skipBlanks_mark lead rfl]
  simp only [named.read, skipBlanks_mark blank (rfl : isBlank ':' = false), read,
    skipBlanks_mark trail (rfl : isBlank ',' = false), more]

end Members

mutual

/-- The reader needs no more levels than there are characters. -/
theorem Laid.read {j : Json} {cs : List Char} : Laid j cs → ∀ (bound : Nat) (rest : List Char), cs.length ≤ bound →
    Closes rest → value bound (cs ++ rest) = some (j, rest)
  | text, 0, _, enough, _ => absurd text.length (Nat.not_lt.2 enough)
  | .null, bound + 1, _, _, _ => rfl
  | .true, bound + 1, _, _, _ => rfl
  | .false, bound + 1, _, _, _ => rfl
  | .number text, bound + 1, _, _, closes => value_number bound text closes
  | .string text, bound + 1, rest, _, _ => value_string bound text rest
  | .emptyArray blank, bound + 1, rest, _, _ => by
    rw [List.cons_append, List.append_assoc]
    exact value_empty_array bound blank rest
  | .array inner, bound + 1, rest, enough, _ => by
    rw [List.length_cons, List.length_append, List.length_singleton] at enough
    rw [List.cons_append, List.append_assoc]
    exact value_array (inner.read bound rest (Nat.le_of_succ_le_succ enough))
  | .emptyObject blank, bound + 1, rest, _, _ => by
    rw [List.cons_append, List.append_assoc]
    exact value_empty_object bound blank rest
  | .object inner, bound + 1, rest, enough, _ => by
    rw [List.length_cons, List.length_append, List.length_singleton] at enough
    rw [List.cons_append, List.append_assoc]
    exact value_object (inner.read bound rest (Nat.le_of_succ_le_succ enough))

theorem Spaced.read {j : Json} {cs : List Char} : Spaced j cs → ∀ (bound : Nat) (rest : List Char), cs.length ≤ bound →
    Closes rest → ∃ gap, Blanks gap ∧ value bound (cs ++ rest) = some (j, gap ++ rest)
  | @Spaced.intro _ before cs after lead text trail, bound, rest, enough, closes => by
    rw [List.length_append, List.length_append] at enough
    have read := text.read bound (after ++ rest) (by omega) (closes.skip trail)
    rw [List.append_assoc, List.append_assoc, value_skipBlanks bound (skipBlanks_append lead _)]
    exact ⟨after, trail, read⟩

theorem ItemsLaid.read {xs : List Json} {cs : List Char} : ItemsLaid xs cs → ∀ (bound : Nat) (rest : List Char),
    cs.length + 1 ≤ bound → items bound (cs ++ ']' :: rest) = some (xs, rest)
  | .last text, bound + 1, rest, enough => by
    obtain ⟨gap, blank, read⟩ := text.read bound (']' :: rest) (Nat.le_of_succ_le_succ enough) (closes_bracket rest)
    exact items_last blank read
  | .more text more, bound + 1, rest, enough => by
    rw [List.length_append, List.length_cons] at enough
    obtain ⟨gap, blank, read⟩ := text.read bound _ (by omega) (closes_comma _)
    rw [List.append_assoc]
    exact items_more blank read (more.read bound rest (by omega))

theorem MembersLaid.read {ms : List (Option String × Json)} {cs : List Char} : MembersLaid ms cs →
    ∀ (bound : Nat) (rest : List Char), cs.length + 1 ≤ bound → members bound (cs ++ '\x7d' :: rest) = some (ms, rest)
  | .last lead named colon text, bound + 1, rest, enough => by
    simp only [List.length_append, List.length_cons] at enough
    obtain ⟨gap, trail, read⟩ := text.read bound ('\x7d' :: rest) (by omega) (closes_brace rest)
    simp only [List.append_assoc, List.cons_append]
    exact members_last lead named colon trail read
  | .more lead named colon text more, bound + 1, rest, enough => by
    simp only [List.length_append, List.length_cons] at enough
    obtain ⟨gap, trail, read⟩ := text.read bound _ (by omega) (closes_comma _)
    simp only [List.append_assoc, List.cons_append]
    exact members_more lead named colon trail read (more.read bound rest (by omega))

end

theorem parse_spaced {j : Json} {text : String} (spaced : Spaced j text.toList) : parse text = some j := by
  obtain ⟨gap, blank, read⟩ := spaced.read (2 * text.toList.length + 2) [] (by omega) trivial
  have finished : skipBlanks (gap ++ []) = [] := skipBlanks_append blank []
  rw [List.append_nil] at read
  simp only [parse, read, finished, List.isEmpty_nil, if_true]

end Gatekeeper.Json
