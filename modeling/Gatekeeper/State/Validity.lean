import Gatekeeper.State.Basic
import Gatekeeper.Error

set_option autoImplicit false

namespace Gatekeeper

/-- A place where the records of a state disagree. -/
inductive Breach where
  | noPackages (app : AppId)
  | otherOwner (name : PackageName) (listed owned : AppId)
  | unknownPackage (app : AppId) (name : PackageName)
  | unlisted (name : PackageName) (app : AppId)
  | users (known stored : List UserId)
  deriving DecidableEq, Repr

namespace Breach

def userSetText (users : List UserId) : String :=
  "\x7b" ++ String.intercalate ", " (users.map fun u => s!"UserId({u.text})") ++ "\x7d"

def detail : Breach → String
  | noPackages app => s!"app-id {app.text} has no packages"
  | otherOwner name listed owned =>
    s!"package {name.value} listed under app-id {listed.text} but owns app-id {owned.text}"
  | unknownPackage app name => s!"app-id {app.text} lists unknown package {name.value}"
  | unlisted name app => s!"package {name.value} missing from app-id {app.text}"
  | users known stored =>
    s!"user ids {userSetText known} do not match user states {userSetText stored}"

def error (b : Breach) : Error := .invariantViolation b.detail

end Breach

namespace SystemState

def listingBreach? (s : SystemState) (app : AppId) (name : PackageName) : Option Breach :=
  match s.packages.get? name with
  | some p => if p.appId = app then none else some (.otherOwner name app p.appId)
  | none => some (.unknownPackage app name)

def appIdBreach? (s : SystemState) (app : AppId) (names : SortedSet PackageName) : Option Breach :=
  if names.isEmpty then some (.noPackages app) else names.toList.findSome? (s.listingBreach? app)

def packageBreach? (s : SystemState) (name : PackageName) (p : Package) : Option Breach :=
  if SetMap.holds s.appIds p.appId name then none else some (.unlisted name p.appId)

end SystemState

namespace AccessState

/-- The first breach: application identifiers come before packages and packages before users. -/
def breach? (s : AccessState) : Option Breach :=
  (s.system.appIds.entries.findSome? fun e => s.system.appIdBreach? e.1 e.2)
    <|> (s.system.packages.entries.findSome? fun e => s.system.packageBreach? e.1 e.2)
    <|> if s.users.keys = s.system.userIds.toList then none
      else some (.users s.system.userIds.toList s.users.keys)

def validate (s : AccessState) : Except Error Unit :=
  match s.breach? with
  | some b => .error b.error
  | none => .ok ()

end AccessState
end Gatekeeper
