/-!
# JSON trees

The syntax tree of a JSON text: members keep their order and may repeat a name, and numbers keep their
spelling up to leading zeros of the exponent. A string literal whose escapes name half of a surrogate
pair spells no text; it is kept as `none`, because a reader may skip it without looking inside.
-/

set_option autoImplicit false

namespace Gatekeeper

/-- A number as written: `-w.fff e x`, where no fraction digits mean no point. -/
structure Numeral where
  negative : Bool
  whole : Nat
  fraction : List (Fin 10)
  exponent : Option Int
  deriving DecidableEq, Repr, Inhabited

inductive Json where
  | null
  | bool (value : Bool)
  | number (value : Numeral)
  | string (value : Option String)
  | array (items : List Json)
  | object (members : List (Option String × Json))
  deriving Inhabited

namespace Numeral

def ofInt : Int → Numeral
  | .ofNat n => ⟨false, n, [], none⟩
  | .negSucc n => ⟨true, n + 1, [], none⟩

/-- The integer written without point or exponent. The numeral `-0` is read as a fraction would be, and
    so is none. -/
def toInt? (n : Numeral) : Option Int :=
  if n.fraction.isEmpty && n.exponent.isNone then
    if n.negative then (if n.whole = 0 then none else some (-n.whole)) else some n.whole
  else none

theorem toInt?_ofInt (n : Int) : (ofInt n).toInt? = some n := by
  cases n with
  | ofNat n => rfl
  | negSucc n => simp [ofInt, toInt?, Int.negSucc_eq]

end Numeral

namespace Json

def text (s : String) : Json := .string (some s)
def int (n : Int) : Json := .number (.ofInt n)
def nat (n : Nat) : Json := .int n

def record (members : List (String × Json)) : Json :=
  .object (members.map fun m => (some m.1, m.2))

end Json
end Gatekeeper
