import Gatekeeper.Ident
import Gatekeeper.Decimal
import Gatekeeper.Error

set_option autoImplicit false

namespace Gatekeeper

namespace Scheme

def uid : String := "uid"
def permission : String := "permission"
def appOp : String := "app-op"
def package : String := "package"

end Scheme

inductive AccessUri where
  | uid (uid : Uid)
  | permission (name : String)
  | appOp (name : String)
  | package (name : PackageName)
  /-- Known by its tag alone. -/
  | other (scheme value : String)
  deriving DecidableEq, Repr, Inhabited

inductive UriFault where
  | noColon
  | emptyPart
  | badUid (fault : Decimal.Fault)
  deriving DecidableEq, Repr

def UriFault.error (text : String) : UriFault → Error
  | .noColon => .invalidUri s!"`{text}` (expected \"scheme:value\")"
  | .emptyPart => .invalidUri s!"`{text}` (scheme and value must not be empty)"
  | .badUid fault => .invalidUri s!"`{text}`: bad uid: {fault.message}"

namespace AccessUri

def scheme : AccessUri → String
  | .uid _ => Scheme.uid
  | .permission _ => Scheme.permission
  | .appOp _ => Scheme.appOp
  | .package _ => Scheme.package
  | .other scheme _ => scheme

def value : AccessUri → String
  | .uid u => u.text
  | .permission name => name
  | .appOp name => name
  | .package name => name.value
  | .other _ value => value

def text (uri : AccessUri) : String := uri.scheme ++ ":" ++ uri.value

def ofParts (scheme value : String) : Except UriFault AccessUri :=
  if scheme = Scheme.uid then
    match Decimal.readUInt32 value.toList with
    | .ok n => .ok (.uid ⟨n⟩)
    | .error fault => .error (.badUid fault)
  else if scheme = Scheme.permission then .ok (.permission value)
  else if scheme = Scheme.appOp then .ok (.appOp value)
  else if scheme = Scheme.package then .ok (.package ⟨value⟩)
  else .ok (.other scheme value)

/-- Reads the written form, whose parts before and after the first colon must not be empty. -/
def parse (text : String) : Except UriFault AccessUri :=
  let scheme := text.toList.takeWhile (· ≠ ':')
  match text.toList.dropWhile (· ≠ ':') with
  | [] => .error .noColon
  | _ :: value =>
    if scheme.isEmpty || value.isEmpty then .error .emptyPart
    else ofParts (String.ofList scheme) (String.ofList value)

def read (text : String) : Except Error AccessUri :=
  match parse text with
  | .ok uri => .ok uri
  | .error fault => .error (fault.error text)

end AccessUri
end Gatekeeper
