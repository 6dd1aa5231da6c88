import Gatekeeper.Json.Tree
import Gatekeeper.Uri

set_option autoImplicit false

namespace Gatekeeper.Json

inductive Mismatch where
  | malformed
  | uri (text : String) (fault : UriFault)
  deriving DecidableEq, Repr

abbrev Decoder (α : Type) := Json → Except Mismatch α

abbrev Fields := List (String × Json)

namespace Decoder

variable {α β : Type}

def string : Decoder String
  | .string (some s) => .ok s
  | _ => .error .malformed

def integer : Decoder Int
  | .number n =>
    match n.toInt? with
    | some i => .ok i
    | none => .error .malformed
  | _ => .error .malformed

def uint32 : Decoder UInt32 := fun j => do
  let i ← integer j
  if 0 ≤ i ∧ i < UInt32.size then return UInt32.ofNat i.toNat else throw .malformed

def int32 : Decoder Int32 := fun j => do
  let i ← integer j
  if Int32.minValue.toInt ≤ i ∧ i ≤ Int32.maxValue.toInt then return Int32.ofInt i else throw .malformed

def uri : Decoder AccessUri := fun j => do
  let s ← string j
  match AccessUri.parse s with
  | .ok uri => return uri
  | .error fault => throw (.uri s fault)

def list (item : Decoder α) : Decoder (List α)
  | .array items => items.mapM item
  | _ => .error .malformed

def optional (item : Decoder α) : Decoder (Option α)
  | .null => .ok none
  | j => (item j).map some

/-- The one member of an object that has no other. -/
def single : Decoder (String × Json)
  | .object [(some key, x)] => .ok (key, x)
  | _ => .error .malformed

/-- One of finitely many names, alone or as the only name of an object, where its value has to be null. A reader
    that holds the whole tree also lets an empty object pass for that null. -/
def choice (held : Bool) (choices : List (String × α)) : Decoder α := fun j => do
  let name ← match j with
    | .object [(some key, .null)] => pure key
    | .object [(some key, .object [])] => if held then pure key else throw .malformed
    | j => string j
  match choices.lookup name with
  | some a => return a
  | none => throw .malformed

end Decoder

namespace Fields

variable {α : Type}

/-- Collects the members of known name; a second one of the same name is refused, and so is a name that spells
    no text. -/
def ofMembers (names : List String) : List (Option String × Json) → Except Mismatch Fields
  | [] => .ok []
  | (none, _) :: _ => .error .malformed
  | (some key, x) :: rest => do
    let found ← ofMembers names rest
    if names.contains key then
      if (found.lookup key).isSome then throw .malformed else return (key, x) :: found
    else return found

def ofItems (names : List String) (items : List Json) : Except Mismatch Fields :=
  if items.length ≤ names.length then .ok (names.zip items) else .error .malformed

def of (names : List String) : Json → Except Mismatch Fields
  | .object members => ofMembers names members
  | .array items => ofItems names items
  | _ => .error .malformed

def required (fields : Fields) (name : String) (decode : Decoder α) : Except Mismatch α :=
  match fields.lookup name with
  | some j => decode j
  | none => .error .malformed

/-- A field that may be left out, though not be null unless its decoder says so. -/
def defaulting (fields : Fields) (name : String) (decode : Decoder α) (default : α) : Except Mismatch α :=
  match fields.lookup name with
  | some j => decode j
  | none => .ok default

end Fields
end Gatekeeper.Json
