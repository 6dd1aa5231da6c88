import Gatekeeper.Proofs.Json.Layout

set_option autoImplicit false

namespace Gatekeeper.Json

def chars (j : Json) : List Char := j.pieces.flatMap String.toList

def itemChars (items : List Json) : List Char := (itemPieces true items).flatMap String.toList

def memberChars (members : List (Option String × Json)) : List Char :=
  (memberPieces true members).flatMap String.toList

theorem compact_chars (j : Json) : j.compact.toList = j.chars := String.toList_join

theorem chars_string (s : Option String) : (string s).chars = '"' :: literalTail s := literalPieces_chars s

theorem chars_number (n : Numeral) : (number n).chars = n.text.toList := List.append_nil _

theorem chars_array (items : List Json) : (array items).chars = '[' :: (itemChars items ++ [']']) := by
  simp [chars, pieces, itemChars]

theorem chars_object (members : List (Option String × Json)) :
    (object members).chars = '\x7b' :: (memberChars members ++ ['\x7d']) := by
  simp [chars, pieces, memberChars]

theorem itemChars_single (x : Json) : itemChars [x] = x.chars := by
  simp [itemChars, itemPieces, chars]

theorem itemChars_cons (x y : Json) (rest : List Json) :
    itemChars (x :: y :: rest) = x.chars ++ ',' :: itemChars (y :: rest) := by
  simp [itemChars, itemPieces, chars]

theorem memberChars_single (key : Option String) (x : Json) :
    memberChars [(key, x)] = '"' :: (literalTail key ++ ':' :: x.chars) := by
  simp [memberChars, memberPieces, chars, literalPieces_chars]

theorem memberChars_cons (key : Option String) (x : Json) (m : Option String × Json)
    (rest : List (Option String × Json)) :
    memberChars ((key, x) :: m :: rest) =
      '"' :: (literalTail key ++ ':' :: (x.chars ++ ',' :: memberChars (m :: rest))) := by
  simp [memberChars, memberPieces, chars, literalPieces_chars]

mutual

theorem chars_laid : (j : Json) → Laid j j.chars
  | .null => .null
  | .bool false => .false
  | .bool true => .true
  | .number n => by
    rw [chars_number]
    exact .number (numeral_text n)
  | .string s => by
    rw [chars_string]
    exact .string (literalTail_text s)
  | .array [] => by
    rw [chars_array]
    exact .emptyArray blanks_nil
  | .array (x :: xs) => by
    rw [chars_array]
    exact .array (itemChars_laid (x :: xs) (List.cons_ne_nil x xs))
  | .object [] => by
    rw [chars_object]
    exact .emptyObject blanks_nil
  | .object (m :: ms) => by
    rw [chars_object]
    exact .object (memberChars_laid (m :: ms) (List.cons_ne_nil m ms))

theorem itemChars_laid : (items : List Json) → items ≠ [] → ItemsLaid items (itemChars items)
  | [], present => absurd rfl present
  | [x], _ => by
    rw [itemChars_single]
    exact .last (chars_laid x).spaced
  | x :: y :: rest, _ => by
    rw [itemChars_cons]
    exact .more (chars_laid x).spaced (itemChars_laid (y :: rest) (List.cons_ne_nil y rest))

theorem memberChars_laid : (members : List (Option String × Json)) → members ≠ [] →
    MembersLaid members (memberChars members)
  | [], present => absurd rfl present
  | [(key, x)], _ => by
    rw [memberChars_single]
    exact .last blanks_nil (literalTail_text key) blanks_nil (chars_laid x).spaced
  | (key, x) :: m :: rest, _ => by
    rw [memberChars_cons]
    exact .more blanks_nil (literalTail_text key) blanks_nil (chars_laid x).spaced
      (memberChars_laid (m :: rest) (List.cons_ne_nil m rest))

end

theorem compact_spaced (j : Json) : Spaced j j.compact.toList := by
  rw [compact_chars]
  exact (chars_laid j).spaced

theorem parse_compact (j : Json) : parse j.compact = some j := parse_spaced (compact_spaced j)

def newLine (depth : Nat) : List Char := '\n' :: List.replicate (2 * depth) ' '

theorem newLine_blanks (depth : Nat) : Blanks (newLine depth) := by
  intro c mem
  rcases List.mem_cons.1 mem with rfl | margin
  · rfl
  · rw [List.eq_of_mem_replicate margin]
    rfl

theorem blanks_space : Blanks [' '] := List.forall_mem_singleton.2 rfl

theorem prettyAt_array (depth : Nat) (x : Json) (xs : List Json) :
    ((array (x :: xs)).prettyAt depth).toList =
      '[' :: ((prettyItems (depth + 1) true (x :: xs)).toList ++ newLine depth ++ [']']) := by
  simp [prettyAt, newLine, indentation]

theorem prettyAt_object (depth : Nat) (m : Option String × Json) (ms : List (Option String × Json)) :
    ((object (m :: ms)).prettyAt depth).toList =
      '\x7b' :: ((prettyMembers (depth + 1) true (m :: ms)).toList ++ newLine depth ++ ['\x7d']) := by
  simp [prettyAt, newLine, indentation]

theorem prettyItems_single (depth : Nat) (x : Json) :
    (prettyItems depth true [x]).toList = newLine depth ++ (x.prettyAt depth).toList := by
  simp [prettyItems, newLine, indentation]

theorem prettyItems_cons (depth : Nat) (x y : Json) (rest : List Json) :
    (prettyItems depth true (x :: y :: rest)).toList =
      newLine depth ++ (x.prettyAt depth).toList ++ ',' :: (prettyItems depth true (y :: rest)).toList := by
  simp [prettyItems, newLine, indentation]

theorem prettyMembers_single (depth : Nat) (key : Option String) (x : Json) :
    (prettyMembers depth true [(key, x)]).toList =
      newLine depth ++ '"' :: (literalTail key ++ ':' :: ' ' :: (x.prettyAt depth).toList) := by
  have name : (String.join (literalPieces key)).toList = '"' :: literalTail key := by
    rw [String.toList_join, literalPieces_chars]
  simp [prettyMembers, newLine, indentation, name]

theorem prettyMembers_cons (depth : Nat) (key : Option String) (x : Json) (m : Option String × Json)
    (rest : List (Option String × Json)) :
    (prettyMembers depth true ((key, x) :: m :: rest)).toList =
      newLine depth ++ '"' :: (literalTail key ++ ':' :: ' ' :: ((x.prettyAt depth).toList ++
        ',' :: (prettyMembers depth true (m :: rest)).toList)) := by
  have name : (String.join (literalPieces key)).toList = '"' :: literalTail key := by
    rw [String.toList_join, literalPieces_chars]
  simp [prettyMembers, newLine, indentation, name]

mutual

theorem pretty_laid (depth : Nat) : (j : Json) → Laid j (j.prettyAt depth).toList
  | .null => by
    rw [prettyAt]
    exact .null
  | .bool false => by
    rw [prettyAt]
    exact .false
  | .bool true => by
    rw [prettyAt]
    exact .true
  | .number n => by
    rw [prettyAt]
    exact .number (numeral_text n)
  | .string s => by
    rw [prettyAt, String.toList_join, literalPieces_chars]
    exact .string (literalTail_text s)
  | .array [] => by
    rw [prettyAt]
    exact .emptyArray blanks_nil
  | .array (x :: xs) => by
    rw [prettyAt_array]
    exact .array (prettyItems_laid (depth + 1) (newLine_blanks depth) (x :: xs) (List.cons_ne_nil x xs))
  | .object [] => by
    rw [prettyAt]
    exact .emptyObject blanks_nil
  | .object (m :: ms) => by
    rw [prettyAt_object]
    exact .object (prettyMembers_laid (depth + 1) (newLine_blanks depth) (m :: ms) (List.cons_ne_nil m ms))

theorem prettyItems_laid (depth : Nat) {gap : List Char} (blank : Blanks gap) : (items : List Json) → items ≠ [] →
    ItemsLaid items ((prettyItems depth true items).toList ++ gap)
  | [], present => absurd rfl present
  | [x], _ => by
    rw [prettyItems_single, List.append_assoc]
    exact .last (.intro (newLine_blanks depth) (pretty_laid depth x) blank)
  | x :: y :: rest, _ => by
    have text : Spaced x (newLine depth ++ ((x.prettyAt depth).toList ++ [])) :=
      .intro (newLine_blanks depth) (pretty_laid depth x) blanks_nil
    rw [List.append_nil] at text
    rw [prettyItems_cons, List.append_assoc, List.cons_append]
    exact .more text (prettyItems_laid depth blank (y :: rest) (List.cons_ne_nil y rest))

theorem prettyMembers_laid (depth : Nat) {gap : List Char} (blank : Blanks gap) :
    (members : List (Option String × Json)) → members ≠ [] →
      MembersLaid members ((prettyMembers depth true members).toList ++ gap)
  | [], present => absurd rfl present
  | [(key, x)], _ => by
    have text : Spaced x ([' '] ++ ((x.prettyAt depth).toList ++ gap)) :=
      .intro blanks_space (pretty_laid depth x) blank
    rw [prettyMembers_single]
    simp only [List.append_assoc, List.cons_append]
    exact .last (newLine_blanks depth) (literalTail_text key) blanks_nil text
  | (key, x) :: m :: rest, _ => by
    have text : Spaced x ([' '] ++ ((x.prettyAt depth).toList ++ [])) :=
      .intro blanks_space (pretty_laid depth x) blanks_nil
    rw [List.append_nil] at text
    rw [prettyMembers_cons]
    simp only [List.append_assoc, List.cons_append]
    exact .more (newLine_blanks depth) (literalTail_text key) blanks_nil text
      (prettyMembers_laid depth blank (m :: rest) (List.cons_ne_nil m rest))

end

theorem parse_pretty (j : Json) : parse j.pretty = some j := parse_spaced (pretty_laid 0 j).spaced

def Visible (cs : List Char) : Prop := ∀ c ∈ cs, 32 ≤ c.toNat

instance (cs : List Char) : Decidable (Visible cs) := List.decidableBAll (fun c : Char => 32 ≤ c.toNat) cs

theorem Visible.append {cs ds : List Char} (front : Visible cs) (back : Visible ds) : Visible (cs ++ ds) :=
  fun c mem => (List.mem_append.1 mem).elim (front c) (back c)

theorem Visible.cons {c : Char} {cs : List Char} (first : 32 ≤ c.toNat) (rest : Visible cs) : Visible (c :: cs) :=
  List.forall_mem_cons.2 ⟨first, rest⟩

theorem visible_of_digits {cs : List Char} (digits : ∀ c ∈ cs, c.isDigit = true) : Visible cs := by
  intro c mem
  have range := digits c mem
  simp only [Char.isDigit, ge_iff_le, Bool.and_eq_true, decide_eq_true_eq, UInt32.le_iff_toNat_le] at range
  have low : 48 ≤ c.toNat := range.1
  omega

theorem literalTail_visible (s : Option String) : Visible (literalTail s) := by
  cases s with
  | none => decide
  | some s =>
    have spelled : Visible (s.toList.flatMap spelling) := by
      intro c mem
      obtain ⟨d, -, mem⟩ := List.mem_flatMap.1 mem
      exact le_of_mem_spelling mem
    exact spelled.append (by decide)

theorem numeral_visible (n : Numeral) : Visible n.text.toList := by
  have sign : Visible (if n.negative then ['-'] else []) := by
    cases n.negative <;> decide
  have fraction : Visible (fractionChars n.fraction) := by
    unfold fractionChars
    split
    · decide
    · refine .cons (by decide) fun c mem => ?_
      obtain ⟨d, -, rfl⟩ := List.mem_map.1 mem
      have all : ∀ d : Fin 10, 32 ≤ (Nat.digitChar d.val).toNat := by decide
      exact all d
  have exponent : Visible (exponentChars n.exponent) := by
    obtain none | (m | m) := n.exponent
    · decide
    · exact .cons (by decide) (visible_of_digits (toDigits_digits m))
    · exact .cons (by decide) (.cons (by decide) (visible_of_digits (toDigits_digits (m + 1))))
  rw [numeral_chars]
  exact sign.append ((visible_of_digits (toDigits_digits n.whole)).append (fraction.append exponent))

mutual

theorem chars_visible : (j : Json) → Visible j.chars
  | .null => by decide
  | .bool false => by decide
  | .bool true => by decide
  | .number n => by
    rw [chars_number]
    exact numeral_visible n
  | .string s => by
    rw [chars_string]
    exact .cons (by decide) (literalTail_visible s)
  | .array items => by
    rw [chars_array]
    exact .cons (by decide) ((itemChars_visible items).append (by decide))
  | .object members => by
    rw [chars_object]
    exact .cons (by decide) ((memberChars_visible members).append (by decide))

theorem itemChars_visible : (items : List Json) → Visible (itemChars items)
  | [] => by decide
  | [x] => by
    rw [itemChars_single]
    exact chars_visible x
  | x :: y :: rest => by
    rw [itemChars_cons]
    exact (chars_visible x).append (.cons (by decide) (itemChars_visible (y :: rest)))

theorem memberChars_visible : (members : List (Option String × Json)) → Visible (memberChars members)
  | [] => by decide
  | [(key, x)] => by
    rw [memberChars_single]
    exact .cons (by decide) ((literalTail_visible key).append (.cons (by decide) (chars_visible x)))
  | (key, x) :: m :: rest => by
    rw [memberChars_cons]
    exact .cons (by decide) ((literalTail_visible key).append
      (.cons (by decide) ((chars_visible x).append (.cons (by decide) (memberChars_visible (m :: rest))))))

end

theorem compact_visible (j : Json) : Visible j.compact.toList := by
  rw [compact_chars]
  exact chars_visible j

end Gatekeeper.Json
