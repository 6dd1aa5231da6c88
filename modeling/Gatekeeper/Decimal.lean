set_option autoImplicit false

namespace Gatekeeper.Decimal

def ofInt : Int → String
  | .ofNat n => Nat.repr n
  | .negSucc n => "-" ++ Nat.repr (n + 1)

inductive Fault where
  | foreignCharacter
  | outOfRange
  deriving DecidableEq, Repr

def Fault.message : Fault → String
  | .foreignCharacter => "invalid digit found in string"
  | .outOfRange => "number too large to fit in target type"

def digitValue (c : Char) : Nat := c.toNat - '0'.toNat

/-- Continues a numeral whose digits so far have the value `acc`. -/
def readDigits (acc : Nat) : List Char → Except Fault Nat
  | [] => .ok acc
  | c :: cs =>
    if c.isDigit then
      let n := acc * 10 + digitValue c
      if n < UInt32.size then readDigits n cs else .error .outOfRange
    else .error .foreignCharacter

/-- One or more digits after an optional plus sign. -/
def readUInt32 (cs : List Char) : Except Fault UInt32 :=
  match cs with
  | [] => .error .foreignCharacter
  | '+' :: c :: rest => (readDigits 0 (c :: rest)).map UInt32.ofNat
  | cs => (readDigits 0 cs).map UInt32.ofNat

end Gatekeeper.Decimal
