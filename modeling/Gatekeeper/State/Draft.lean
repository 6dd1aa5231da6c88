import Gatekeeper.State.Basic

/-!
# Drafts

The next version of a state while it is being written. A draft starts out sharing every part of the version it was
begun from, and takes a copy of its own of a part on the first access for writing, whether or not anything then
changes. So the parts not marked as copied are those of the version before. No access changes the number of a draft,
but whoever writes to it may put another one in its place.
-/

set_option autoImplicit false

namespace Gatekeeper

structure Draft where
  version : Nat
  system : SystemState
  users : SortedMap UserId UserState
  systemCopied : Bool := false
  copiedUsers : SortedSet UserId := ∅
  deriving DecidableEq, Inhabited

namespace Draft

/-- A state opened for writing, all of it shared. -/
def of (s : AccessState) : Draft := { version := s.version, system := s.system, users := s.users }

def state (d : Draft) : AccessState := { version := d.version, system := d.system, users := d.users }

def editSystem (f : SystemState → SystemState) (d : Draft) : Draft :=
  { d with system := f d.system, systemCopied := true }

/-- Writes to a user's part; an unknown user has none. -/
def editUser (u : UserId) (f : UserState → UserState) (d : Draft) : Draft :=
  match d.users.get? u with
  | some user => { d with users := d.users.insert u (f user), copiedUsers := d.copiedUsers.add u }
  | none => d

def editUsers (f : UserId → UserState → UserState) (d : Draft) : Draft :=
  { d with
    users := d.users.mapWithKey f
    copiedUsers := d.users.keys.foldl SortedMap.add d.copiedUsers }

/-- Gives a user a part of its own, in place of any it had. -/
def insertUser (u : UserId) (user : UserState) (d : Draft) : Draft :=
  { d with users := d.users.insert u user, copiedUsers := d.copiedUsers.add u }

def removeUser (u : UserId) (d : Draft) : Draft := { d with users := d.users.erase u }

/-- The users whose part is still that of the state the draft was begun from. -/
def sharedUsers (old : AccessState) (d : Draft) : List UserId :=
  d.users.keys.filter fun u => old.users.contains u && !d.copiedUsers.contains u

end Draft
end Gatekeeper
