import Gatekeeper.Json.Parser
import Gatekeeper.Json.Printer

set_option autoImplicit false

namespace Gatekeeper.Json

def spelling (c : Char) : List Char :=
  match escape? c with
  | none => [c]
  | some e => e.toList

theorem spelling_cases (c : Char) :
    (∃ e, spelling c = ['\\', e] ∧ e ≠ 'u' ∧ 32 ≤ e.toNat ∧ shortEscape? e = some c) ∨
    (c.toNat < 32 ∧
      spelling c = ['\\', 'u', '0', '0', Nat.digitChar (c.toNat / 16), Nat.digitChar (c.toNat % 16)]) ∨
    (spelling c = [c] ∧ c ≠ '"' ∧ c ≠ '\\' ∧ 32 ≤ c.toNat) := by
  by_cases quote : c = '"'
  · subst quote; exact .inl ⟨'"', rfl, by decide, by decide, rfl⟩
  by_cases backslash : c = '\\'
  · subst backslash; exact .inl ⟨'\\', rfl, by decide, by decide, rfl⟩
  by_cases newline : c = '\n'
  · subst newline; exact .inl ⟨'n', rfl, by decide, by decide, rfl⟩
  by_cases returned : c = '\r'
  · subst returned; exact .inl ⟨'r', rfl, by decide, by decide, rfl⟩
  by_cases tab : c = '\t'
  · subst tab; exact .inl ⟨'t', rfl, by decide, by decide, rfl⟩
  by_cases backspace : c = '\x08'
  · subst backspace; exact .inl ⟨'b', rfl, by decide, by decide, rfl⟩
  by_cases feed : c = '\x0c'
  · subst feed; exact .inl ⟨'f', rfl, by decide, by decide, rfl⟩
  right
  by_cases control : c.toNat < 32
  · left
    have code : escape? c = some (String.ofList
        ['\\', 'u', '0', '0', Nat.digitChar (c.toNat / 16), Nat.digitChar (c.toNat % 16)]) := by
      simp only [escape?, quote, backslash, newline, returned, tab, backspace, feed, control, if_false, if_true]
    refine ⟨control, ?_⟩
    rw [spelling, code]
    exact String.toList_ofList
  · right
    have plain : escape? c = none := by
      simp only [escape?, quote, backslash, newline, returned, tab, backspace, feed, control, if_false]
    exact ⟨by rw [spelling, plain], quote, backslash, Nat.le_of_not_lt control⟩

theorem le_of_mem_spelling {c d : Char} (mem : d ∈ spelling c) : 32 ≤ d.toNat := by
  have digit : ∀ n < 16, 32 ≤ (Nat.digitChar n).toNat := by decide
  obtain ⟨e, spelled, -, visible, -⟩ | ⟨small, spelled⟩ | ⟨spelled, -, -, visible⟩ := spelling_cases c
  all_goals
    rw [spelled] at mem
    simp only [List.mem_cons, List.not_mem_nil, or_false] at mem
  · obtain rfl | rfl := mem
    · decide
    · exact visible
  · obtain rfl | rfl | rfl | rfl | rfl | rfl := mem
    · decide
    · decide
    · decide
    · decide
    · exact digit _ (by omega)
    · exact digit _ (by omega)
  · rw [mem]
    exact visible

theorem insidePieces_chars (run cs : List Char) :
    (insidePieces run cs).flatMap String.toList = run.reverse ++ cs.flatMap spelling := by
  have stretched (run : List Char) : (stretch run).flatMap String.toList = run.reverse := by
    cases run <;> simp [stretch]
  induction cs generalizing run with
  | nil => simp [insidePieces, stretched]
  | cons c cs ih =>
    rw [insidePieces, List.flatMap_cons, spelling]
    cases escape? c with
    | none => simp [ih]
    | some e => simp [ih, stretched]

theorem hexValue?_digitChar (n : Nat) (h : n < 16) : hexValue? (Nat.digitChar n) = some n := by
  have all : ∀ n < 16, hexValue? (Nat.digitChar n) = some n := by decide
  exact all n h

theorem ofCode_small (n : Nat) (h : n < 32) : Spelled.ofCode n = .char (Char.ofNat n) := by
  have notHigh : ¬ 0xD800 ≤ n := by omega
  have notLow : ¬ 0xDC00 ≤ n := by omega
  simp [Spelled.ofCode, notHigh, notLow]

theorem inside_quote (rest : List Char) : inside ('"' :: rest) = some ([], rest) := by
  unfold inside
  exact if_pos rfl

theorem inside_short {e : Char} (notCode : e ≠ 'u') (rest : List Char) :
    inside ('\\' :: e :: rest) = prepend ((shortEscape? e).map .char) (inside rest) := by
  rw [inside.eq_def]
  simp only [Char.reduceEq, if_false, if_true, notCode]

theorem inside_hex (a b c d : Char) (rest : List Char) :
    inside ('\\' :: 'u' :: a :: b :: c :: d :: rest) = prepend ((hex4? a b c d).map .ofCode) (inside rest) := by
  rw [inside.eq_def]
  simp only [Char.reduceEq, if_false, if_true]

theorem inside_plain {c : Char} (notQuote : c ≠ '"') (notBackslash : c ≠ '\\') (visible : 32 ≤ c.toNat)
    (rest : List Char) : inside (c :: rest) = prepend (some (.char c)) (inside rest) := by
  rw [inside.eq_def]
  simp only [if_neg notQuote, if_neg notBackslash, if_neg (Nat.not_lt.2 visible)]

theorem hex4?_control {c : Char} (small : c.toNat < 32) :
    (hex4? '0' '0' (Nat.digitChar (c.toNat / 16)) (Nat.digitChar (c.toNat % 16))).map Spelled.ofCode =
      some (.char c) := by
  have high := hexValue?_digitChar (c.toNat / 16) (by omega)
  have low := hexValue?_digitChar (c.toNat % 16) (by omega)
  have zero : hexValue? '0' = some 0 := rfl
  have code : hex4? '0' '0' (Nat.digitChar (c.toNat / 16)) (Nat.digitChar (c.toNat % 16)) = some c.toNat := by
    have split : ((0 * 16 + 0) * 16 + c.toNat / 16) * 16 + c.toNat % 16 = c.toNat := by omega
    simp only [hex4?, high, low, zero]
    exact congrArg some split
  rw [code, Option.map_some, ofCode_small _ small, Char.ofNat_toNat]

/-- What stands between the quotes of a literal, with what its elements spell. -/
inductive Inside : List Spelled → List Char → Prop where
  | nil : Inside [] []
  | plain {c : Char} {ss : List Spelled} {cs : List Char} (notQuote : c ≠ '"') (notBackslash : c ≠ '\\')
    (visible : 32 ≤ c.toNat) (rest : Inside ss cs) : Inside (.char c :: ss) (c :: cs)
  | short {e c : Char} {ss : List Spelled} {cs : List Char} (escape : shortEscape? e = some c) (rest : Inside ss cs) :
    Inside (.char c :: ss) ('\\' :: e :: cs)
  | code {a b c d : Char} {n : Nat} {ss : List Spelled} {cs : List Char} (hex : hex4? a b c d = some n)
    (rest : Inside ss cs) : Inside (.ofCode n :: ss) ('\\' :: 'u' :: a :: b :: c :: d :: cs)

theorem Inside.read {ss : List Spelled} {cs : List Char} (text : Inside ss cs) (rest : List Char) :
    inside (cs ++ '"' :: rest) = some (ss, rest) := by
  induction text with
  | nil => exact inside_quote rest
  | plain notQuote notBackslash visible _ ih =>
    rw [List.cons_append, inside_plain notQuote notBackslash visible, ih]
    rfl
  | @short e _ _ _ escape _ ih =>
    have notCode : e ≠ 'u' := by
      rintro rfl
      cases escape
    rw [List.cons_append, List.cons_append, inside_short notCode, ih, escape]
    rfl
  | code hex _ ih =>
    simp only [List.cons_append]
    rw [inside_hex, ih, hex]
    rfl

theorem Inside.spelling (c : Char) {ss : List Spelled} {cs : List Char} (rest : Inside ss cs) :
    Inside (.char c :: ss) (spelling c ++ cs) := by
  obtain ⟨e, spelled, -, -, short⟩ | ⟨small, spelled⟩ | ⟨spelled, notQuote, notBackslash, visible⟩ := spelling_cases c
  all_goals
    rw [spelled]
  · exact .short short rest
  · obtain ⟨n, hex, code⟩ := Option.map_eq_some_iff.1 (hex4?_control small)
    rw [← code]
    exact .code hex rest
  · exact .plain notQuote notBackslash visible rest

theorem spellings_inside (cs : List Char) : Inside (cs.map .char) (cs.flatMap spelling) := by
  induction cs with
  | nil => exact .nil
  | cons c cs ih =>
    rw [List.flatMap_cons]
    exact ih.spelling c

theorem text?_chars (cs : List Char) : Spelled.text? (cs.map .char) = some cs := by
  induction cs with
  | nil => rfl
  | cons c cs ih => rw [List.map_cons, Spelled.text?, ih]; rfl

def LiteralText (s : Option String) (cs : List Char) : Prop :=
  ∃ ss ds, Inside ss ds ∧ (Spelled.text? ss).map String.ofList = s ∧ cs = ds ++ ['"']

theorem LiteralText.read {s : Option String} {cs : List Char} (text : LiteralText s cs) (rest : List Char) :
    literal (cs ++ rest) = some (s, rest) := by
  obtain ⟨ss, ds, inner, spelled, rfl⟩ := text
  have whole : inside (ds ++ ['"'] ++ rest) = some (ss, rest) := by
    rw [List.append_assoc]
    exact inner.read rest
  simp only [literal, whole, spelled]

def literalTail : Option String → List Char
  | some s => s.toList.flatMap spelling ++ ['"']
  | none => ['\\', 'u', 'd', '8', '0', '0', '"']

theorem literalPieces_chars (s : Option String) :
    (literalPieces s).flatMap String.toList = '"' :: literalTail s := by
  cases s with
  | none => rfl
  | some s => simp [literalPieces, literalTail, insidePieces_chars]

theorem literalTail_text (s : Option String) : LiteralText s (literalTail s) := by
  cases s with
  | none =>
    have half : hex4? 'd' '8' '0' '0' = some 0xD800 := rfl
    exact ⟨_, _, .code half .nil, rfl, rfl⟩
  | some s =>
    refine ⟨_, _, spellings_inside s.toList, ?_, rfl⟩
    rw [text?_chars, Option.map_some, String.ofList_toList]

def NoDigit (rest : List Char) : Prop := ∀ c ∈ rest.head?, c.isDigit = false

theorem takeWhile_digits {ds rest : List Char} (digits : ∀ c ∈ ds, c.isDigit = true) (stop : NoDigit rest) :
    (ds ++ rest).takeWhile Char.isDigit = ds := by
  have nothing : rest.takeWhile Char.isDigit = [] := by
    cases rest with
    | nil => rfl
    | cons c rest => exact List.takeWhile_cons_of_neg (by simp [stop c rfl])
  rw [List.takeWhile_append_of_pos digits, nothing, List.append_nil]

theorem dropWhile_digits {ds rest : List Char} (digits : ∀ c ∈ ds, c.isDigit = true) (stop : NoDigit rest) :
    (ds ++ rest).dropWhile Char.isDigit = rest := by
  have nothing : rest.dropWhile Char.isDigit = rest := by
    cases rest with
    | nil => rfl
    | cons c rest => exact List.dropWhile_cons_of_neg (by simp [stop c rfl])
  rw [List.dropWhile_append_of_pos digits, nothing]

theorem toDigits_digits (n : Nat) : ∀ c ∈ Nat.toDigits 10 n, c.isDigit = true :=
  fun _ mem => Nat.isDigit_of_mem_toDigits (by decide) (by decide) mem

theorem toDigits_front (n : Nat) : ∃ c cs, Nat.toDigits 10 n = c :: cs ∧ c.isDigit = true := by
  have digits := toDigits_digits n
  have present : 0 < (Nat.toDigits 10 n).length := Nat.length_toDigits_pos
  cases front : Nat.toDigits 10 n with
  | nil => rw [front] at present; cases present
  | cons c cs => exact ⟨c, cs, rfl, digits c (front ▸ List.mem_cons_self)⟩

theorem digitsOf_toDigits (n : Nat) : digitsOf (Nat.toDigits 10 n) = n :=
  Nat.ofDigitChars_toDigits (by decide) (by decide)

/-- Only zero is written with a zero in front. -/
theorem toDigits_cons {n : Nat} (positive : 0 < n) : ∃ c cs, Nat.toDigits 10 n = c :: cs ∧ c ≠ '0' := by
  induction n using Nat.strongRecOn with
  | _ n ih =>
    rw [Nat.toDigits_eq_if (by decide)]
    split
    · next small =>
      have nonzero : ∀ n < 10, 0 < n → Nat.digitChar n ≠ '0' := by decide
      exact ⟨_, [], rfl, nonzero n small positive⟩
    · next large =>
      obtain ⟨c, cs, front, nonzero⟩ := ih (n / 10) (by omega) (by omega)
      exact ⟨c, cs ++ [_], by rw [front]; rfl, nonzero⟩

theorem wholePart_toDigits (n : Nat) {rest : List Char} (stop : NoDigit rest) :
    wholePart (Nat.toDigits 10 n ++ rest) = some (n, rest) := by
  obtain rfl | positive := Nat.eq_zero_or_pos n
  · rfl
  · obtain ⟨c, cs, front, nonzero⟩ := toDigits_cons positive
    have taken := takeWhile_digits (toDigits_digits n) stop
    have dropped := dropWhile_digits (toDigits_digits n) stop
    have value := digitsOf_toDigits n
    rw [front] at taken dropped value ⊢
    rw [List.cons_append] at taken dropped ⊢
    unfold wholePart
    split
    · next same => exact absurd (List.cons.inj same).1 nonzero
    · rw [taken, dropped]
      simp only [value]

def fractionChars (fraction : List (Fin 10)) : List Char :=
  if fraction.isEmpty then [] else '.' :: fraction.map fun d => Nat.digitChar d.val

def exponentChars : Option Int → List Char
  | none => []
  | some (.ofNat n) => 'e' :: Nat.toDigits 10 n
  | some (.negSucc n) => 'e' :: '-' :: Nat.toDigits 10 (n + 1)

/-- An exponent is a mark, an optional sign, and digits, which zeros may lead. -/
inductive ExponentText : Option Int → List Char → Prop where
  | none : ExponentText none []
  | unsigned {mark : Char} {ds : List Char} (marked : (mark = 'e' || mark = 'E') = true) (present : ds ≠ [])
    (digits : ∀ c ∈ ds, c.isDigit = true) : ExponentText (some (digitsOf ds)) (mark :: ds)
  | plus {mark : Char} {ds : List Char} (marked : (mark = 'e' || mark = 'E') = true) (present : ds ≠ [])
    (digits : ∀ c ∈ ds, c.isDigit = true) : ExponentText (some (digitsOf ds)) (mark :: '+' :: ds)
  | minus {mark : Char} {ds : List Char} (marked : (mark = 'e' || mark = 'E') = true) (present : ds ≠ [])
    (digits : ∀ c ∈ ds, c.isDigit = true) : ExponentText (some (-digitsOf ds)) (mark :: '-' :: ds)

/-- A whole part has no zeros in front, and a fraction has digits behind its point. -/
def NumeralText (n : Numeral) (cs : List Char) : Prop :=
  ∃ es, ExponentText n.exponent es ∧
    cs = (if n.negative then ['-'] else []) ++ (Nat.toDigits 10 n.whole ++ (fractionChars n.fraction ++ es))

theorem exponentChars_text (exponent : Option Int) : ExponentText exponent (exponentChars exponent) := by
  obtain _ | (n | n) := exponent
  · exact .none
  · have text : ExponentText _ ('e' :: Nat.toDigits 10 n) := .unsigned rfl Nat.toDigits_ne_nil (toDigits_digits n)
    rwa [digitsOf_toDigits] at text
  · have text : ExponentText _ ('e' :: '-' :: Nat.toDigits 10 (n + 1)) :=
      .minus rfl Nat.toDigits_ne_nil (toDigits_digits (n + 1))
    rwa [digitsOf_toDigits] at text

theorem numeral_chars (n : Numeral) :
    n.text.toList = (if n.negative then ['-'] else []) ++
      (Nat.toDigits 10 n.whole ++ (fractionChars n.fraction ++ exponentChars n.exponent)) := by
  have sign : (if n.negative then "-" else "").toList = if n.negative then ['-'] else [] := by
    cases n.negative <;> rfl
  have fraction : (if n.fraction.isEmpty then ""
      else "." ++ String.ofList (n.fraction.map fun d => Nat.digitChar d.val)).toList = fractionChars n.fraction := by
    unfold fractionChars
    cases n.fraction.isEmpty <;> simp
  rw [Numeral.text, String.toList_append, String.toList_append, String.toList_append, sign, fraction,
    Nat.toList_repr]
  simp only [List.append_assoc]
  obtain ⟨negative, whole, fraction, none | (m | m)⟩ := n
  · rfl
  · simp [exponentChars, Decimal.ofInt]
  · simp [exponentChars, Decimal.ofInt]

/-- What may stand behind a value: nothing, a mark that closes it, or a blank. -/
def Closes : List Char → Prop
  | [] => True
  | c :: _ => c ∈ [',', ']', '\x7d', ' ', '\t', '\n', '\r']

theorem closes_of_blank {c : Char} (blank : isBlank c = true) (rest : List Char) : Closes (c :: rest) := by
  simp only [isBlank, Bool.or_eq_true, decide_eq_true_eq, or_assoc] at blank
  simp [Closes, blank]

theorem closes_comma (rest : List Char) : Closes (',' :: rest) := by simp [Closes]

theorem closes_bracket (rest : List Char) : Closes (']' :: rest) := by simp [Closes]

theorem closes_brace (rest : List Char) : Closes ('\x7d' :: rest) := by simp [Closes]

theorem Closes.front {rest : List Char} (closes : Closes rest) :
    ∀ c ∈ rest.head?, c.isDigit = false ∧ c ≠ '.' ∧ (c = 'e' || c = 'E') = false := by
  cases rest with
  | nil => exact fun _ mem => nomatch mem
  | cons c rest =>
    intro d mem
    obtain rfl : c = d := Option.some.inj mem
    simp only [Closes, List.mem_cons, List.not_mem_nil, or_false] at closes
    obtain rfl | rfl | rfl | rfl | rfl | rfl | rfl := closes <;> exact ⟨rfl, by decide, rfl⟩

theorem exponentDigits_digits (negative : Bool) {ds rest : List Char} (present : ds ≠ [])
    (digits : ∀ c ∈ ds, c.isDigit = true) (stop : NoDigit rest) :
    exponentDigits negative (ds ++ rest) =
      some (some (if negative then -(digitsOf ds : Int) else digitsOf ds), rest) := by
  unfold exponentDigits
  rw [takeWhile_digits digits stop, dropWhile_digits digits stop]
  cases ds with
  | nil => exact absurd rfl present
  | cons d ds => rfl

theorem ExponentText.read {exponent : Option Int} {cs rest : List Char} (text : ExponentText exponent cs)
    (closes : Closes rest) : exponentPart (cs ++ rest) = Option.some (exponent, rest) := by
  have stop : NoDigit rest := fun c mem => (closes.front c mem).1
  cases text with
  | none =>
    cases rest with
    | nil => rfl
    | cons c rest =>
      have other := (closes.front c rfl).2.2
      exact if_neg (by simp [other])
  | @unsigned mark ds marked present digits =>
    have read := exponentDigits_digits false present digits stop
    cases ds with
    | nil => exact absurd rfl present
    | cons d ds =>
      have digit : d.isDigit = true := digits d List.mem_cons_self
      rw [List.cons_append, exponentPart, if_pos marked]
      · exact read
      · intro later same
        cases (List.cons.inj same).1
        cases digit
      · intro later same
        cases (List.cons.inj same).1
        cases digit
  | plus marked present digits => exact (if_pos marked).trans (exponentDigits_digits false present digits stop)
  | minus marked present digits => exact (if_pos marked).trans (exponentDigits_digits true present digits stop)

theorem ExponentText.front {exponent : Option Int} {cs rest : List Char} (text : ExponentText exponent cs)
    (closes : Closes rest) : ∀ c ∈ (cs ++ rest).head?, c.isDigit = false ∧ c ≠ '.' := by
  have other {mark : Char} (marked : (mark = 'e' || mark = 'E') = true) : mark.isDigit = false ∧ mark ≠ '.' := by
    simp only [Bool.or_eq_true, decide_eq_true_eq] at marked
    obtain rfl | rfl := marked <;> exact ⟨rfl, by decide⟩
  cases text with
  | none => exact fun c mem => ⟨(closes.front c mem).1, (closes.front c mem).2.1⟩
  | unsigned marked | plus marked | minus marked =>
    rintro c ⟨⟩
    exact other marked

theorem fractionPart_chars (fraction : List (Fin 10)) {rest : List Char} (stop : NoDigit rest)
    (noPoint : ∀ c ∈ rest.head?, c ≠ '.') :
    fractionPart (fractionChars fraction ++ rest) = some (fraction, rest) := by
  cases fraction with
  | nil =>
    show fractionPart rest = _
    unfold fractionPart
    split
    · exact absurd rfl (noPoint '.' rfl)
    · rfl
  | cons d ds =>
    have digits : ∀ c ∈ (d :: ds).map fun d : Fin 10 => Nat.digitChar d.val, c.isDigit = true := by
      intro c mem
      obtain ⟨d, -, rfl⟩ := List.mem_map.1 mem
      rw [Nat.isDigit_digitChar]
      exact decide_eq_true d.isLt
    have back : ∀ d : Fin 10, Fin.ofNat 10 ((Nat.digitChar d.val).toNat - '0'.toNat) = d := by decide
    show fractionPart ('.' :: ((d :: ds).map (fun d : Fin 10 => Nat.digitChar d.val) ++ rest)) = _
    rw [fractionPart, takeWhile_digits digits stop, dropWhile_digits digits stop]
    simp only [List.map_cons, List.map_map, Function.comp_def, back, List.map_id']

theorem magnitude_text (negative : Bool) (whole : Nat) (fraction : List (Fin 10)) {exponent : Option Int}
    {es rest : List Char} (text : ExponentText exponent es) (closes : Closes rest) :
    magnitude negative (Nat.toDigits 10 whole ++ (fractionChars fraction ++ (es ++ rest))) =
      some (⟨negative, whole, fraction, exponent⟩, rest) := by
  have front := text.front closes
  have stopExponent : NoDigit (es ++ rest) := fun c mem => (front c mem).1
  have noPoint : ∀ c ∈ (es ++ rest).head?, c ≠ '.' := fun c mem => (front c mem).2
  have stopFraction : NoDigit (fractionChars fraction ++ (es ++ rest)) := by
    cases fraction with
    | nil => exact stopExponent
    | cons d ds =>
      rintro c ⟨⟩
      rfl
  simp only [magnitude, wholePart_toDigits whole stopFraction, fractionPart_chars fraction stopExponent noPoint,
    text.read closes, Option.bind_eq_bind, Option.bind_some]
  rfl

theorem numeral_text (n : Numeral) : NumeralText n n.text.toList :=
  ⟨_, exponentChars_text n.exponent, numeral_chars n⟩

theorem NumeralText.front {n : Numeral} {cs : List Char} (text : NumeralText n cs) :
    ∃ c ds, cs = c :: ds ∧ (c = '-' ∨ c.isDigit = true) := by
  obtain ⟨es, -, rfl⟩ := text
  cases n.negative with
  | true => exact ⟨'-', _, rfl, .inl rfl⟩
  | false =>
    obtain ⟨c, ds, front, digit⟩ := toDigits_front n.whole
    exact ⟨c, _, by rw [front]; rfl, .inr digit⟩

theorem NumeralText.read {n : Numeral} {cs rest : List Char} (text : NumeralText n cs) (closes : Closes rest) :
    numeral (cs ++ rest) = some (n, rest) := by
  obtain ⟨es, exponent, rfl⟩ := text
  have read := magnitude_text n.negative n.whole n.fraction exponent closes
  simp only [List.append_assoc]
  cases sign : n.negative with
  | true =>
    rw [sign] at read
    refine read.trans ?_
    rw [← sign]
  | false =>
    rw [sign] at read
    obtain ⟨c, cs, front, digit⟩ := toDigits_front n.whole
    simp only [Bool.false_eq_true, if_false, List.nil_append]
    rw [front] at read ⊢
    rw [List.cons_append] at read ⊢
    unfold numeral
    split
    · next same =>
      cases (List.cons.inj same).1
      cases digit
    · refine read.trans ?_
      rw [← sign]

end Gatekeeper.Json
