import Gatekeeper.Error

set_option autoImplicit false

namespace Gatekeeper

inductive SinkSpec where
  | log
  | stdout
  | file (path : String)
  deriving DecidableEq, Repr

namespace SinkSpec

def rowFormat : String := "ndjson"

def path? (spec : String) : Option String :=
  let start := (rowFormat ++ ":").toList
  if start.isPrefixOf spec.toList then some (String.ofList (spec.toList.drop start.length)) else none

def parse : Option String → Except Error SinkSpec
  | none => .ok .log
  | some spec =>
    if spec = rowFormat then .ok .stdout
    else
      match path? spec with
      | some path => if path.isEmpty then .error (unknown spec) else .ok (.file path)
      | none => .error (unknown spec)
where
  unknown (spec : String) : Error :=
    .invalidInput (s!"unknown sink: {spec}. Use " ++ "'ndjson' or 'ndjson:/path'")

end SinkSpec
end Gatekeeper
