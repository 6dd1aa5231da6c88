import Gatekeeper.Decision
import Gatekeeper.Uri
import Gatekeeper.Json.Decoder

set_option autoImplicit false

namespace Gatekeeper

open Json (Decoder Fields)

def UserId.toJson (u : UserId) : Json := .nat u.value.toNat
def AppId.toJson (a : AppId) : Json := .nat a.value.toNat
def Uid.toJson (u : Uid) : Json := .nat u.value.toNat
def PackageName.toJson (n : PackageName) : Json := .text n.value
def AccessUri.toJson (uri : AccessUri) : Json := .text uri.text
def Decision.toJson (d : Decision) : Json := .int d.code.toInt

def Package.toJson (p : Package) : Json := .record [
  ("package_name", p.name.toJson), ("app_id", p.appId.toJson),
  ("requested_permissions", .array (p.requestedPermissions.map Json.text))]

def UserId.decode : Decoder UserId := fun j => return ⟨← Decoder.uint32 j⟩
def AppId.decode : Decoder AppId := fun j => return ⟨← Decoder.uint32 j⟩
def Uid.decode : Decoder Uid := fun j => return ⟨← Decoder.uint32 j⟩
def PackageName.decode : Decoder PackageName := fun j => return ⟨← Decoder.string j⟩
def AccessUri.decode : Decoder AccessUri := Decoder.uri
def Decision.decode : Decoder Decision := fun j => return .ofCode (← Decoder.int32 j)

namespace Package

def fieldNames : List String := ["package_name", "app_id", "requested_permissions"]

def ofFields (f : Fields) : Except Json.Mismatch Package := do
  return {
    name := ← f.required "package_name" PackageName.decode
    appId := ← f.required "app_id" AppId.decode
    requestedPermissions := ← f.defaulting "requested_permissions" (Decoder.list Decoder.string) [] }

def decode : Decoder Package := fun j => do ofFields (← Fields.of fieldNames j)

end Package
end Gatekeeper
