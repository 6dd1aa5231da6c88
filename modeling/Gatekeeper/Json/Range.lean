import Gatekeeper.Json.Tree

/-!
# Representable trees

A reader that holds a whole tree in memory accepts less than the grammar: strings have to spell text, numbers
have to lie in the range of binary64, and the nesting is limited.

The range is that of the number as it is computed. The significand keeps the leading digits that fit into 64 bits,
further digits only move the point, and the product of significand and power of ten, both rounded to 53 bits, must
stay below the midpoint between the largest finite number and the next power of two.
-/

set_option autoImplicit false

namespace Gatekeeper
namespace Numeral

/-- Appends digits to a significand while it fits into 64 bits, and counts the digits left over. -/
def takeFitting (significand : Nat) : List Nat → Nat × Nat
  | [] => (significand, 0)
  | d :: ds =>
    if significand * 10 + d < Nat.pow 2 64 then takeFitting (significand * 10 + d) ds
    else (significand, ds.length + 1)

/-- The nearest number with 53 significant bits; a tie goes to the even neighbour. -/
def roundTo53 (n : Nat) : Nat :=
  if n < Nat.pow 2 53 then n
  else
    let shift := Nat.log2 n - 52
    let unit := Nat.pow 2 shift
    let q := n / unit
    let r := n % unit
    let half := Nat.pow 2 (shift - 1)
    let q := if r > half || (r = half && q % 2 = 1) then q + 1 else q
    q * unit

/-- The first number that rounds to no finite binary64. -/
def overflowBound : Nat := Nat.pow 2 1024 - Nat.pow 2 970

def isInRange (n : Numeral) : Bool :=
  let digits := (Nat.toDigits 10 n.whole).map fun c => c.toNat - '0'.toNat
  let (whole, dropped) := takeFitting 0 digits
  let (significand, unused) := takeFitting whole (n.fraction.map Fin.val)
  let point : Int := dropped - (n.fraction.length - unused : Nat)
  let exponent := point + n.exponent.getD 0
  if significand = 0 || exponent < 0 then true
  else if exponent > 308 then false
  else roundTo53 significand * roundTo53 (Nat.pow 10 exponent.toNat) < overflowBound

end Numeral

namespace Json

def nestingLimit : Nat := 127

mutual

/-- Whether a tree can be held, `room` levels above the nesting limit. -/
def isRepresentable (room : Nat) : Json → Bool
  | .null => true
  | .bool _ => true
  | .number n => n.isInRange
  | .string s => s.isSome
  | .array items => room ≠ 0 && itemsRepresentable (room - 1) items
  | .object members => room ≠ 0 && membersRepresentable (room - 1) members

def itemsRepresentable (room : Nat) : List Json → Bool
  | [] => true
  | x :: rest => x.isRepresentable room && itemsRepresentable room rest

def membersRepresentable (room : Nat) : List (Option String × Json) → Bool
  | [] => true
  | (key, x) :: rest => key.isSome && x.isRepresentable room && membersRepresentable room rest

end

end Json
end Gatekeeper
