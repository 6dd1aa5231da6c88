import Gatekeeper.Policy.Set

/-!
# Writing sessions

A session writes the next version of a state under a set of policies. Its commands keep the records of users and
packages, and tell the policies what has happened; every call made to a policy is noted with what the policy saw.

A command that makes no sense is ignored: removing what is unknown, adding a package whose application identifier is
not valid, and adding an installed package again under another application identifier.
-/

set_option autoImplicit false

namespace Gatekeeper

inductive Request where
  | store (subject object : AccessUri) (decision : Decision)
  | lifecycle (event : Lifecycle)
  deriving DecidableEq, Repr

structure Call where
  pair : SchemePair
  request : Request
  /-- The state of the draft before the policy wrote to it. -/
  seen : AccessState
  deriving DecidableEq

structure Session where
  old : AccessState
  draft : Draft
  calls : List Call := []

inductive Command where
  | addUser (user : UserId)
  | removeUser (user : UserId)
  | addPackage (package : Package)
  /-- Only the name counts; the package removed is the installed one. -/
  | removePackage (package : Package)
  | setDecision (subject object : AccessUri) (decision : Decision)
  deriving DecidableEq, Repr

namespace SchemePolicy

def apply (p : SchemePolicy) : Request → AccessState → Draft → Draft
  | .store subject object d, old, draft => p.store subject object d old draft
  | .lifecycle event, old, draft => p.react event old draft

end SchemePolicy

namespace Session

def begin (old : AccessState) : Session := { old, draft := .of old.nextVersion }

def state (s : Session) : AccessState := s.draft.state

def edit (f : Draft → Draft) (s : Session) : Session := { s with draft := f s.draft }

def call (p : SchemePolicy) (r : Request) (s : Session) : Session :=
  { s with
    draft := p.apply r s.old s.draft
    calls := s.calls ++ [⟨p.pair, r, s.state⟩] }

def notify (ps : PolicySet) (event : Lifecycle) (s : Session) : Session :=
  ps.policies.foldl (fun s p => s.call p (.lifecycle event)) s

/-- A user that is already known is reset. -/
def addUser (ps : PolicySet) (u : UserId) (s : Session) : Session :=
  s.edit (fun d => (d.editSystem fun sys => { sys with userIds := sys.userIds.add u }).insertUser u {})
    |>.notify ps (.userAdded u)

def removeUser (ps : PolicySet) (u : UserId) (s : Session) : Session :=
  if s.draft.system.userIds.contains u then
    s.edit (fun d => (d.editSystem fun sys => { sys with userIds := sys.userIds.erase u }).removeUser u)
      |>.notify ps (.userRemoved u)
  else s

def install (p : Package) (sys : SystemState) : SystemState :=
  { sys with
    packages := sys.packages.insert p.name p
    appIds := SetMap.relate sys.appIds p.appId p.name }

def uninstall (name : PackageName) (app : AppId) (sys : SystemState) : SystemState :=
  { sys with
    packages := sys.packages.erase name
    appIds := SetMap.unrelate sys.appIds app name }

/-- Whether a package may be installed: it keeps the application identifier it has. -/
def mayInstall (p : Package) (sys : SystemState) : Bool :=
  p.appId.isValid &&
    match sys.packages.get? p.name with
    | some installed => installed.appId = p.appId
    | none => true

/-- An application identifier is announced before the first package that holds it. -/
def addPackage (ps : PolicySet) (p : Package) (s : Session) : Session :=
  let sys := s.draft.system
  if mayInstall p sys then
    let s := s.edit (Draft.editSystem (install p))
    let s := if SetMap.creates sys.appIds p.appId then s.notify ps (.appIdAdded p.appId) else s
    s.notify ps (.packageAdded p)
  else s

/-- An application identifier is given up after the last package that held it. -/
def removePackage (ps : PolicySet) (name : PackageName) (s : Session) : Session :=
  let sys := s.draft.system
  match sys.packages.get? name with
  | some p =>
    let gone := (SetMap.removal sys.appIds p.appId name).emptied
    let s := s.edit (Draft.editSystem (uninstall name p.appId))
    let s := s.notify ps (.packageRemoved p)
    if gone then s.notify ps (.appIdRemoved p.appId) else s
  | none => s

/-- A decision nobody answers for is dropped. -/
def setDecision (ps : PolicySet) (subject object : AccessUri) (d : Decision) (s : Session) : Session :=
  match ps.route? subject object with
  | some p => s.call p (.store subject object d)
  | none => s

def perform (ps : PolicySet) (s : Session) : Command → Session
  | .addUser u => s.addUser ps u
  | .removeUser u => s.removeUser ps u
  | .addPackage p => s.addPackage ps p
  | .removePackage p => s.removePackage ps p.name
  | .setDecision subject object d => s.setDecision ps subject object d

def run (ps : PolicySet) (s : Session) (commands : List Command) : Session := commands.foldl (perform ps) s

end Session
end Gatekeeper
