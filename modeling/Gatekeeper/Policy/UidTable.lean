import Gatekeeper.Policy.Scheme

/-!
# Decisions about uids

The built-in policies decide what a uid may do: which permissions it is granted, and in which mode it may use an
operation. Each keeps a table of its own in the user's part of the state, by application identifier and name. The
tables are sparse: the decision that holds where nothing is stored is itself never stored.
-/

set_option autoImplicit false

namespace Gatekeeper

inductive UidTable where
  | permission
  | appOp
  deriving DecidableEq, Repr

namespace UidTable

def objectScheme : UidTable → String
  | permission => Scheme.permission
  | appOp => Scheme.appOp

/-- What holds for a name nothing is stored for. -/
def unset : UidTable → Decision
  | permission => .denied
  | appOp => .custom 3

def of (t : UidTable) (user : UserState) : DecisionTable :=
  match t with
  | permission => user.permissions
  | appOp => user.appOpModes

def update (t : UidTable) (f : DecisionTable → DecisionTable) (user : UserState) : UserState :=
  match t with
  | permission => { user with permissions := f user.permissions }
  | appOp => { user with appOpModes := f user.appOpModes }

/-- The uid and the name that an access check is about, if it is about this table. -/
def about? : UidTable → AccessUri → AccessUri → Option (Uid × String)
  | permission, .uid uid, .permission name => some (uid, name)
  | appOp, .uid uid, .appOp name => some (uid, name)
  | _, _, _ => none

def lookup (t : UidTable) (uid : Uid) (name : String) (s : AccessState) : Decision :=
  match s.users.get? uid.user with
  | some user => (DecisionTable.find? (t.of user) uid.app name).getD t.unset
  | none => t.unset

def decide (t : UidTable) (subject object : AccessUri) (s : AccessState) : Decision :=
  match t.about? subject object with
  | some (uid, name) => t.lookup uid name s
  | none => .denied

def write (t : UidTable) (app : AppId) (name : String) (d : Decision) (table : DecisionTable) :
    DecisionTable :=
  if d = t.unset then DecisionTable.discard table app name else DecisionTable.store table app name d

def store (t : UidTable) (subject object : AccessUri) (d : Decision) (draft : Draft) : Draft :=
  match t.about? subject object with
  | some (uid, name) => draft.editUser uid.user (t.update (t.write uid.app name d))
  | none => draft

/-- Nothing decided for an application identifier outlives it. -/
def react (t : UidTable) : Lifecycle → Draft → Draft
  | .appIdRemoved app, draft => draft.editUsers fun _ => t.update (SortedMap.erase · app)
  | _, draft => draft

def policy (t : UidTable) : SchemePolicy where
  pair := ⟨Scheme.uid, t.objectScheme⟩
  decide := t.decide
  store subject object d _ draft := t.store subject object d draft
  react event _ draft := t.react event draft

end UidTable
end Gatekeeper
