import Gatekeeper.Decimal

set_option autoImplicit false

namespace Gatekeeper

inductive Decision where
  | denied
  | granted
  | custom (code : Int32)
  deriving DecidableEq, Repr, Inhabited

namespace Decision

def ofCode (code : Int32) : Decision :=
  if code = 0 then .denied else if code = 1 then .granted else .custom code

def code : Decision → Int32
  | .denied => 0
  | .granted => 1
  | .custom code => code

def isGranted (d : Decision) : Bool := d = .granted

def text : Decision → String
  | .denied => "DENIED"
  | .granted => "GRANTED"
  | .custom code => s!"CUSTOM({Decimal.ofInt code.toInt})"

theorem ofCode_code {d : Decision} (h : d ≠ .custom 0 ∧ d ≠ .custom 1) : ofCode d.code = d := by
  cases d with
  | denied => rfl
  | granted => rfl
  | custom c =>
    have h0 : c ≠ 0 := fun e => h.1 (e ▸ rfl)
    have h1 : c ≠ 1 := fun e => h.2 (e ▸ rfl)
    simp [ofCode, code, h0, h1]

end Decision
end Gatekeeper
