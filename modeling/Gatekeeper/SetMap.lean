import Gatekeeper.SortedMap

set_option autoImplicit false

namespace Gatekeeper

abbrev SetMap (κ ν : Type) [Ord κ] [Ord ν] := SortedMap κ (SortedSet ν)

namespace SetMap

variable {κ ν : Type} [Ord κ] [Ord ν]

/-- What a removal did: took the value out, and left its key without values. -/
structure Removal where
  removed : Bool
  emptied : Bool
  deriving DecidableEq, Repr

def holds (m : SetMap κ ν) (k : κ) (v : ν) : Bool :=
  match m.get? k with
  | some values => values.contains v
  | none => false

def creates (m : SetMap κ ν) (k : κ) : Bool := !m.contains k

/-- What `unrelate` would do. A key already without values counts as emptied. -/
def removal (m : SetMap κ ν) (k : κ) (v : ν) : Removal :=
  match m.get? k with
  | some values => ⟨values.contains v, (values.erase v).isEmpty⟩
  | none => ⟨false, false⟩

variable [Std.TransOrd κ] [Std.TransOrd ν]

def relate (m : SetMap κ ν) (k : κ) (v : ν) : SetMap κ ν :=
  m.insert k (((m.get? k).getD ∅).add v)

def unrelate (m : SetMap κ ν) (k : κ) (v : ν) : SetMap κ ν :=
  match m.get? k with
  | some values =>
    let rest := values.erase v
    if rest.isEmpty then m.erase k else m.insert k rest
  | none => m

end SetMap
end Gatekeeper
