import Gatekeeper.State.Basic
import Gatekeeper.Encoding

set_option autoImplicit false

namespace Gatekeeper

structure SharedAppId where
  app : AppId
  packages : List PackageName
  deriving DecidableEq, Repr

structure UserSummary where
  user : UserId
  granted : Nat
  /-- Permission decisions other than a plain grant. -/
  custom : Nat
  appOpOverrides : Nat
  deriving DecidableEq, Repr

structure Report where
  version : Nat
  userCount : Nat
  packageCount : Nat
  appIdCount : Nat
  shared : List SharedAppId
  users : List UserSummary
  deriving DecidableEq, Repr

namespace Decision

def isCustom : Decision → Bool
  | custom _ => true
  | _ => false

end Decision

namespace Report

def summary (u : UserId) (user : UserState) : UserSummary where
  user := u
  granted := (DecisionTable.decisions user.permissions).countP Decision.isGranted
  custom := (DecisionTable.decisions user.permissions).countP Decision.isCustom
  appOpOverrides := (DecisionTable.decisions user.appOpModes).length

def of (s : AccessState) : Report where
  version := s.version
  userCount := s.system.userIds.size
  packageCount := s.system.packages.size
  appIdCount := s.system.appIds.size
  shared := (s.system.appIds.entries.filter fun e => e.2.size > 1).map fun e => ⟨e.1, e.2.toList⟩
  users := s.users.entries.map fun e => summary e.1 e.2

def toJson (r : Report) : Json := .record [
  ("version", .nat r.version),
  ("user_count", .nat r.userCount),
  ("package_count", .nat r.packageCount),
  ("app_id_count", .nat r.appIdCount),
  ("shared_app_ids", .array (r.shared.map fun s => .record [
    ("app_id", s.app.toJson), ("packages", .array (s.packages.map PackageName.toJson))])),
  ("users", .array (r.users.map fun u => .record [
    ("user_id", u.user.toJson),
    ("granted_permissions", .nat u.granted),
    ("custom_permission_decisions", .nat u.custom),
    ("app_op_overrides", .nat u.appOpOverrides)]))]

def countWidth : Nat := 38

def alignRight (width : Nat) (s : String) : String :=
  String.ofList (List.replicate (width - s.length) ' ') ++ s

def countLine (label : String) (n : Nat) : String :=
  "║  " ++ label ++ alignRight countWidth (Nat.repr n) ++ " ║\n"

def sharedLine (s : SharedAppId) : String :=
  s!"║     {s.app.text} -> " ++ String.intercalate ", " (s.packages.map PackageName.value) ++ "\n"

def userLine (u : UserSummary) : String :=
  s!"║  User {u.user.text}: {Nat.repr u.granted} granted  |  {Nat.repr u.custom} custom  |  " ++
    s!"{Nat.repr u.appOpOverrides} app-op overrides\n"

def divider : String := "╠══════════════════════════════════════════════════════════════╣\n"

def render (r : Report) : String :=
  "\n╔══════════════════════════════════════════════════════════════╗\n" ++
  "║                     WARDEN ACCESS STATE                     ║\n" ++
  divider ++
  countLine "Version:            " r.version ++
  countLine "Users:              " r.userCount ++
  countLine "Packages:           " r.packageCount ++
  countLine "App-ids:            " r.appIdCount ++
  divider ++
  (if r.shared.isEmpty then
    "║  No shared app-ids.                                         ║\n"
  else
    "║  SHARED APP-IDS                                             ║\n" ++
      String.join (r.shared.map sharedLine)) ++
  divider ++
  String.join (r.users.map userLine) ++
  "╚══════════════════════════════════════════════════════════════╝\n"

end Report
end Gatekeeper
