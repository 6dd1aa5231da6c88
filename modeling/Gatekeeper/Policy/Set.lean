import Gatekeeper.Policy.UidTable
import Gatekeeper.Error

set_option autoImplicit false

namespace Gatekeeper

structure PolicySet where
  policies : List SchemePolicy := []
  /-- The place in the list of the policy for each pair. -/
  index : SortedMap SchemePair Nat := ∅

namespace PolicySet

def empty : PolicySet := {}

def pairs (ps : PolicySet) : List SchemePair := ps.policies.map SchemePolicy.pair

def append (ps : PolicySet) (p : SchemePolicy) : PolicySet :=
  { policies := ps.policies ++ [p], index := ps.index.insert p.pair ps.policies.length }

/-- Refuses a policy for a pair that is taken. -/
def register (ps : PolicySet) (p : SchemePolicy) : Except Error Unit × PolicySet :=
  if ps.index.contains p.pair then (.error (.duplicateSchemePolicy p.pair.subject p.pair.object), ps)
  else (.ok (), ps.append p)

/-- Indexes a list of policies as it stands; of two for one pair the later one answers. -/
def ofList (policies : List SchemePolicy) : PolicySet :=
  { policies, index := policies.zipIdx.foldl (fun index e => index.insert e.1.pair e.2) ∅ }

def builtin : PolicySet := ofList [UidTable.permission.policy, UidTable.appOp.policy]

def route? (ps : PolicySet) (subject object : AccessUri) : Option SchemePolicy :=
  (ps.index.get? (.of subject object)).bind (ps.policies[·]?)

def decide (ps : PolicySet) (subject object : AccessUri) (s : AccessState) : Decision :=
  match ps.route? subject object with
  | some p => p.decide subject object s
  | none => .denied

end PolicySet
end Gatekeeper
