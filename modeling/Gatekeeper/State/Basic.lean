import Gatekeeper.SetMap
import Gatekeeper.Ident
import Gatekeeper.Decision

set_option autoImplicit false

namespace Gatekeeper

structure SystemState where
  userIds : SortedSet UserId := ∅
  packages : SortedMap PackageName Package := ∅
  /-- The names of the packages that hold each application identifier. -/
  appIds : SetMap AppId PackageName := ∅
  deriving DecidableEq, Inhabited

abbrev DecisionTable := SortedMap AppId (SortedMap String Decision)

/-- What has been decided for one user. Each table belongs to one policy. -/
structure UserState where
  permissions : DecisionTable := ∅
  appOpModes : DecisionTable := ∅
  deriving DecidableEq, Inhabited

@[ext] structure AccessState where
  version : Nat := 0
  system : SystemState := {}
  users : SortedMap UserId UserState := ∅
  deriving DecidableEq, Inhabited

namespace DecisionTable

def find? (t : DecisionTable) (app : AppId) (name : String) : Option Decision :=
  match t.get? app with
  | some decisions => decisions.get? name
  | none => none

def store (t : DecisionTable) (app : AppId) (name : String) (d : Decision) : DecisionTable :=
  t.insert app (((t.get? app).getD ∅).insert name d)

/-- Forgets a decision, and with it a row that holds no other. -/
def discard (t : DecisionTable) (app : AppId) (name : String) : DecisionTable :=
  match t.get? app with
  | some decisions =>
    let rest := decisions.erase name
    if rest.isEmpty then t.erase app else t.insert app rest
  | none => t

def decisions (t : DecisionTable) : List Decision := t.values.flatMap SortedMap.values

end DecisionTable

namespace SystemState

def packagesFor (s : SystemState) (app : AppId) : List Package :=
  match s.appIds.get? app with
  | some names => names.toList.filterMap s.packages.get?
  | none => []

def isSharedAppId (s : SystemState) (app : AppId) : Bool :=
  match s.appIds.get? app with
  | some names => names.size > 1
  | none => false

end SystemState

namespace AccessState

def empty : AccessState := {}

/-- What a state is before anything has been written to its next version. -/
def nextVersion (s : AccessState) : AccessState := { s with version := s.version + 1 }

def user? (s : AccessState) (u : UserId) : Option UserState := s.users.get? u

end AccessState
end Gatekeeper
