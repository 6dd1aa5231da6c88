import Gatekeeper.State.Basic
import Gatekeeper.Encoding

set_option autoImplicit false

namespace Gatekeeper

def DecisionTable.toJson (t : DecisionTable) : Json :=
  .record (t.entries.map fun row =>
    (row.1.text, .record (row.2.entries.map fun e => (e.1, e.2.toJson))))

def SystemState.toJson (s : SystemState) : Json := .record [
  ("user_ids", .array (s.userIds.toList.map UserId.toJson)),
  ("package_states", .record (s.packages.entries.map fun e => (e.1.value, e.2.toJson))),
  ("app_ids", .record (s.appIds.entries.map fun e =>
    (e.1.text, .array (e.2.toList.map PackageName.toJson))))]

def UserState.toJson (u : UserState) : Json := .record [
  ("uid_permissions", DecisionTable.toJson u.permissions),
  ("uid_app_op_modes", DecisionTable.toJson u.appOpModes)]

end Gatekeeper
