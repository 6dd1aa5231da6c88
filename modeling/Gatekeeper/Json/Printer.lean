import Gatekeeper.Json.Tree
import Gatekeeper.Decimal

set_option autoImplicit false

namespace Gatekeeper

def Numeral.text (n : Numeral) : String :=
  (if n.negative then "-" else "") ++ Nat.repr n.whole ++
    (if n.fraction.isEmpty then ""
      else "." ++ String.ofList (n.fraction.map fun d => Nat.digitChar d.val)) ++
    (match n.exponent with
      | none => ""
      | some e => "e" ++ Decimal.ofInt e)

namespace Json

def escape? (c : Char) : Option String :=
  if c = '"' then some "\\\""
  else if c = '\\' then some "\\\\"
  else if c = '\n' then some "\\n"
  else if c = '\r' then some "\\r"
  else if c = '\t' then some "\\t"
  else if c = '\x08' then some "\\b"
  else if c = '\x0c' then some "\\f"
  else if c.toNat < 32 then
    some (String.ofList ['\\', 'u', '0', '0', Nat.digitChar (c.toNat / 16), Nat.digitChar (c.toNat % 16)])
  else none

/-- The stretch collected so far, latest character first, as a piece. -/
def stretch : List Char → List String
  | [] => []
  | run => [String.ofList run.reverse]

/-- The pieces of a string's inside, after a stretch collected so far. -/
def insidePieces (run : List Char) : List Char → List String
  | [] => stretch run
  | c :: cs =>
    match escape? c with
    | none => insidePieces (c :: run) cs
    | some e => stretch run ++ e :: insidePieces [] cs

/-- A literal that spells no text is written as half of a surrogate pair. -/
def literalPieces : Option String → List String
  | some s => "\"" :: insidePieces [] s.toList ++ ["\""]
  | none => ["\"", "\\ud800", "\""]

mutual

def pieces : Json → List String
  | .null => ["null"]
  | .bool b => [if b then "true" else "false"]
  | .number n => [n.text]
  | .string s => literalPieces s
  | .array items => "[" :: itemPieces true items ++ ["]"]
  | .object members => "\x7b" :: memberPieces true members ++ ["\x7d"]

def itemPieces (first : Bool) : List Json → List String
  | [] => []
  | x :: rest => (if first then [] else [","]) ++ x.pieces ++ itemPieces false rest

def memberPieces (first : Bool) : List (Option String × Json) → List String
  | [] => []
  | (key, x) :: rest =>
    (if first then [] else [","]) ++ literalPieces key ++ ":" :: x.pieces ++ memberPieces false rest

end

def compact (j : Json) : String := String.join j.pieces

def indentation (depth : Nat) : String := String.ofList (List.replicate (2 * depth) ' ')

mutual

def prettyAt (depth : Nat) : Json → String
  | .array [] => "[]"
  | .array items =>
    "[" ++ prettyItems (depth + 1) true items ++ "\n" ++ indentation depth ++ "]"
  | .object [] => "\x7b\x7d"
  | .object members =>
    "\x7b" ++ prettyMembers (depth + 1) true members ++ "\n" ++ indentation depth ++ "\x7d"
  | .null => "null"
  | .bool b => if b then "true" else "false"
  | .number n => n.text
  | .string s => String.join (literalPieces s)

def prettyItems (depth : Nat) (first : Bool) : List Json → String
  | [] => ""
  | x :: rest =>
    (if first then "\n" else ",\n") ++ indentation depth ++ x.prettyAt depth ++
      prettyItems depth false rest

def prettyMembers (depth : Nat) (first : Bool) : List (Option String × Json) → String
  | [] => ""
  | (key, x) :: rest =>
    (if first then "\n" else ",\n") ++ indentation depth ++ String.join (literalPieces key) ++ ": " ++
      x.prettyAt depth ++ prettyMembers depth false rest

end

def pretty (j : Json) : String := j.prettyAt 0

end Json
end Gatekeeper
