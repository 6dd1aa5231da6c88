import Gatekeeper.Scenario.Event
import Gatekeeper.Safety.Encoding
import Gatekeeper.Json.Parser
import Gatekeeper.Json.Range

/-!
# Reading scenarios

A scenario is a JSON array of events. An event is an object whose member `event` names its kind and whose other members
are its fields; or an array of the name of its kind and then its fields in order. The whole text is held in memory
before it is decoded, so every part of it has to be representable, used or not.
-/

set_option autoImplicit false

namespace Gatekeeper

open Json (Decoder Fields Mismatch)

namespace Event

def tag : String := "event"

def Kind.fieldNames : Kind → List String
  | .addUser => ["user_id"]
  | .removeUser => ["user_id"]
  | .addPackage => Package.fieldNames
  | .removePackage => ["package_name"]
  | .setDecision => ["subject", "object", "decision"]
  | .check => ["subject", "object", "expect"]
  | .subscribe => ["listener", "user_id"]
  | .unsubscribe => ["listener", "user_id"]
  | .publish => ["user_id", "data"]

def ofFields (f : Fields) : Kind → Except Mismatch Event
  | .addUser => do return .addUser (← f.required "user_id" UserId.decode)
  | .removeUser => do return .removeUser (← f.required "user_id" UserId.decode)
  | .addPackage => do return .addPackage (← Package.ofFields f)
  | .removePackage => do return .removePackage (← f.required "package_name" PackageName.decode)
  | .setDecision => do
    return .setDecision (← f.required "subject" AccessUri.decode)
      (← f.required "object" AccessUri.decode) (← f.required "decision" Decision.decode)
  | .check => do
    return .check (← f.required "subject" AccessUri.decode) (← f.required "object" AccessUri.decode)
      (← f.defaulting "expect" (Decoder.optional Decision.decode) none)
  | .subscribe => do
    return .subscribe (← f.required "listener" Decoder.string) (← f.required "user_id" UserId.decode)
  | .unsubscribe => do
    return .unsubscribe (← f.required "listener" Decoder.string) (← f.required "user_id" UserId.decode)
  | .publish => do
    return .publish (← f.required "user_id" UserId.decode) (← f.required "data" (Safety.Data.decode true))

def decodeKind : Decoder Kind := fun j => do
  match Kind.ofName? (← Decoder.string j) with
  | some k => return k
  | none => throw .malformed

/-- The kind of an event and the tree of its fields. -/
def split : Json → Except Mismatch (Kind × Json)
  | .object members =>
    match members.partition fun m => m.1 = some tag with
    | ([(_, name)], rest) => do return (← decodeKind name, .object rest)
    | _ => .error .malformed
  | .array (name :: rest) => do return (← decodeKind name, .array rest)
  | _ => .error .malformed

def decode : Decoder Event := fun j => do
  let (kind, fields) ← split j
  ofFields (← Fields.of kind.fieldNames fields) kind

end Event

namespace Scenario

def malformed : String := "malformed scenario"

def mismatchError : Mismatch → Error
  | .malformed => .invalidInput malformed
  | .uri text fault => .invalidInput s!"{malformed}: {(fault.error text).message}"

def parse (text : String) : Except Error (List Event) :=
  match Json.parse text with
  | some j =>
    if j.isRepresentable Json.nestingLimit then
      match Decoder.list Event.decode j with
      | .ok events => .ok events
      | .error m => .error (mismatchError m)
    else .error (.invalidInput malformed)
  | none => .error (.invalidInput malformed)

/-- Parses what was read from a file, or reports why nothing was. -/
def load (path : String) (contents : Except String ByteArray) : Except Error (List Event) :=
  let unreadable (reason : String) := Error.invalidInput s!"cannot read scenario {path}: {reason}"
  match contents with
  | .error reason => .error (unreadable reason)
  | .ok bytes =>
    match String.fromUTF8? bytes with
    | some text => parse text
    | none => .error (unreadable "stream did not contain valid UTF-8")

end Scenario
end Gatekeeper
