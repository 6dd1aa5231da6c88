import Gatekeeper.Json.Tree

set_option autoImplicit false

namespace Gatekeeper
namespace Json

def isBlank (c : Char) : Bool := c = ' ' || c = '\t' || c = '\n' || c = '\r'

def skipBlanks (cs : List Char) : List Char := cs.dropWhile isBlank

def hexValue? (c : Char) : Option Nat :=
  if '0' ≤ c && c ≤ '9' then some (c.toNat - '0'.toNat)
  else if 'a' ≤ c && c ≤ 'f' then some (c.toNat - 'a'.toNat + 10)
  else if 'A' ≤ c && c ≤ 'F' then some (c.toNat - 'A'.toNat + 10)
  else none

def hex4? (a b c d : Char) : Option Nat := do
  return (((← hexValue? a) * 16 + (← hexValue? b)) * 16 + (← hexValue? c)) * 16 + (← hexValue? d)

def shortEscape? (c : Char) : Option Char :=
  if c = '"' || c = '\\' || c = '/' then some c
  else if c = 'b' then some '\x08'
  else if c = 'f' then some '\x0c'
  else if c = 'n' then some '\n'
  else if c = 'r' then some '\r'
  else if c = 't' then some '\t'
  else none

/-- What one element of a string literal spells: a character, or half of a surrogate pair. -/
inductive Spelled where
  | char (c : Char)
  | highHalf (n : Nat)
  | lowHalf (n : Nat)

def Spelled.ofCode (n : Nat) : Spelled :=
  if 0xD800 ≤ n && n < 0xDC00 then .highHalf n
  else if 0xDC00 ≤ n && n < 0xE000 then .lowHalf n
  else .char (Char.ofNat n)

/-- The text of a literal. A high half must be followed at once by a low half. -/
def Spelled.text? : List Spelled → Option (List Char)
  | [] => some []
  | .char c :: rest => (text? rest).map (c :: ·)
  | .highHalf hi :: .lowHalf lo :: rest =>
    (text? rest).map (Char.ofNat (0x10000 + (hi - 0xD800) * 0x400 + (lo - 0xDC00)) :: ·)
  | .highHalf _ :: _ => none
  | .lowHalf _ :: _ => none

/-- Puts what an element spells in front of what the rest of the literal spells. -/
def prepend (s : Option Spelled) (r : Option (List Spelled × List Char)) :
    Option (List Spelled × List Char) :=
  match s, r with
  | some s, some (ss, rest) => some (s :: ss, rest)
  | _, _ => none

def inside : List Char → Option (List Spelled × List Char)
  | [] => none
  | c :: rest =>
    if c = '"' then some ([], rest)
    else if c = '\\' then
      match rest with
      | [] => none
      | e :: rest =>
        if e = 'u' then
          match rest with
          | h₁ :: h₂ :: h₃ :: h₄ :: rest =>
            prepend ((hex4? h₁ h₂ h₃ h₄).map Spelled.ofCode) (inside rest)
          | _ => none
        else prepend ((shortEscape? e).map Spelled.char) (inside rest)
    else if c.toNat < 32 then none
    else prepend (some (.char c)) (inside rest)

def literal (cs : List Char) : Option (Option String × List Char) :=
  match inside cs with
  | some (s, rest) => some ((Spelled.text? s).map String.ofList, rest)
  | none => none

def digitsOf (cs : List Char) : Nat := Nat.ofDigitChars 10 cs 0

def wholePart : List Char → Option (Nat × List Char)
  | '0' :: rest => some (0, rest)
  | cs =>
    match cs.takeWhile Char.isDigit with
    | [] => none
    | ds => some (digitsOf ds, cs.dropWhile Char.isDigit)

def fractionPart : List Char → Option (List (Fin 10) × List Char)
  | '.' :: rest =>
    match rest.takeWhile Char.isDigit with
    | [] => none
    | ds => some (ds.map fun d => Fin.ofNat 10 (d.toNat - '0'.toNat), rest.dropWhile Char.isDigit)
  | cs => some ([], cs)

def exponentDigits (negative : Bool) (cs : List Char) : Option (Option Int × List Char) :=
  match cs.takeWhile Char.isDigit with
  | [] => none
  | ds =>
    let n : Int := digitsOf ds
    some (some (if negative then -n else n), cs.dropWhile Char.isDigit)

def exponentPart : List Char → Option (Option Int × List Char)
  | c :: rest =>
    if c = 'e' || c = 'E' then
      match rest with
      | '+' :: rest => exponentDigits false rest
      | '-' :: rest => exponentDigits true rest
      | rest => exponentDigits false rest
    else some (none, c :: rest)
  | [] => some (none, [])

def magnitude (negative : Bool) (cs : List Char) : Option (Numeral × List Char) := do
  let (whole, cs) ← wholePart cs
  let (fraction, cs) ← fractionPart cs
  let (exponent, cs) ← exponentPart cs
  return (⟨negative, whole, fraction, exponent⟩, cs)

def numeral : List Char → Option (Numeral × List Char)
  | '-' :: rest => magnitude true rest
  | cs => magnitude false cs

def word (letters : String) (j : Json) (cs : List Char) : Option (Json × List Char) :=
  if letters.toList.isPrefixOf cs then some (j, cs.drop letters.length) else none

mutual

/-- Reads one value, which blanks may precede. -/
def value : Nat → List Char → Option (Json × List Char)
  | 0, _ => none
  | bound + 1, cs =>
    match skipBlanks cs with
    | [] => none
    | c :: rest =>
      if c = '"' then
        match literal rest with
        | some (s, rest) => some (.string s, rest)
        | none => none
      else if c = '[' then
        match skipBlanks rest with
        | ']' :: rest => some (.array [], rest)
        | rest =>
          match items bound rest with
          | some (xs, rest) => some (.array xs, rest)
          | none => none
      else if c = '{' then
        match skipBlanks rest with
        | '}' :: rest => some (.object [], rest)
        | rest =>
          match members bound rest with
          | some (ms, rest) => some (.object ms, rest)
          | none => none
      else if c = 'n' then word "ull" .null rest
      else if c = 't' then word "rue" (.bool true) rest
      else if c = 'f' then word "alse" (.bool false) rest
      else
        match numeral (c :: rest) with
        | some (n, rest) => some (.number n, rest)
        | none => none

def items : Nat → List Char → Option (List Json × List Char)
  | 0, _ => none
  | bound + 1, cs =>
    match value bound cs with
    | none => none
    | some (x, rest) =>
      match skipBlanks rest with
      | ']' :: rest => some ([x], rest)
      | ',' :: rest =>
        match items bound rest with
        | some (xs, rest) => some (x :: xs, rest)
        | none => none
      | _ => none

def members : Nat → List Char → Option (List (Option String × Json) × List Char)
  | 0, _ => none
  | bound + 1, cs =>
    match skipBlanks cs with
    | '"' :: rest =>
      match literal rest with
      | none => none
      | some (key, rest) =>
        match skipBlanks rest with
        | ':' :: rest =>
          match value bound rest with
          | none => none
          | some (x, rest) =>
            match skipBlanks rest with
            | '}' :: rest => some ([(key, x)], rest)
            | ',' :: rest =>
              match members bound rest with
              | some (ms, rest) => some ((key, x) :: ms, rest)
              | none => none
            | _ => none
        | _ => none
    | _ => none

end

def parse (text : String) : Option Json :=
  let cs := text.toList
  match value (2 * cs.length + 2) cs with
  | some (j, rest) => if (skipBlanks rest).isEmpty then some j else none
  | none => none

end Json
end Gatekeeper
