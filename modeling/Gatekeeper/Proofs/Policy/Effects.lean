import Gatekeeper.Proofs.Policy.Bookkeeping
import Gatekeeper.Proofs.Policy.TableWrites

set_option autoImplicit false

namespace Gatekeeper

def UserState.forget (app : AppId) (user : UserState) : UserState where
  permissions := user.permissions.erase app
  appOpModes := user.appOpModes.erase app

namespace UidTable

def place? (subject object : AccessUri) : Option (UidTable × Uid × String) :=
  match subject, object with
  | .uid uid, .permission name => some (permission, uid, name)
  | .uid uid, .appOp name => some (appOp, uid, name)
  | _, _ => none

theorem place?_eq_some_iff (subject object : AccessUri) (t : UidTable) (uid : Uid) (name : String) :
    place? subject object = some (t, uid, name) ↔ subject = .uid uid ∧ object = t.object name := by
  cases subject <;> cases object <;> cases t <;> simp [place?, UidTable.object]

theorem apart_of_place?_eq_none {subject object : AccessUri} (h : place? subject object = none) :
    ¬∃ (t : UidTable) (uid : Uid) (name : String), subject = .uid uid ∧ object = t.object name := by
  intro here
  obtain ⟨t, uid, name, here⟩ := here
  rw [(place?_eq_some_iff ..).2 here] at h
  cases h

end UidTable

def Lifecycle.userParts (event : Lifecycle) (users : SortedMap UserId UserState) : SortedMap UserId UserState :=
  match event with
  | .appIdRemoved app => users.mapWithKey fun _ => UserState.forget app
  | _ => users

namespace Command

/-- What a command makes of the users' parts, beside `records`. -/
def userParts (c : Command) (sys : SystemState) (users : SortedMap UserId UserState) : SortedMap UserId UserState :=
  match c with
  | .addUser u => users.insert u {}
  | .removeUser u => if sys.userIds.contains u then users.erase u else users
  | .addPackage _ => users
  | .removePackage p =>
    match sys.packages.get? p.name with
    | some installed =>
      if sys.holders installed.appId = [p.name] then users.mapWithKey fun _ => UserState.forget installed.appId
      else users
    | none => users
  | .setDecision subject object d =>
    match UidTable.place? subject object with
    | some (t, uid, name) => users.adjust uid.user (t.update (t.write uid.app name d))
    | none => users

def effect (c : Command) (s : AccessState) : AccessState :=
  { s with system := c.records s.system, users := c.userParts s.system s.users }

def effects (commands : List Command) (s : AccessState) : AccessState := commands.foldl (fun s c => c.effect s) s

theorem effects_append (front back : List Command) (s : AccessState) :
    effects (front ++ back) s = effects back (effects front s) := List.foldl_append

theorem effects_version (commands : List Command) (s : AccessState) (version : Nat) :
    effects commands { s with version } = { effects commands s with version } := by
  induction commands generalizing s with
  | nil => rfl
  | cons c rest ih => exact ih (c.effect s)

end Command

namespace Session

variable (s : Session)

theorem notify_users (event : Lifecycle) :
    (s.notify .builtin event).draft.users = event.userParts s.draft.users := by
  cases event with
  | appIdRemoved app =>
    exact SortedMap.mapWithKey_mapWithKey (fun _ => UidTable.appOp.update (SortedMap.erase · app))
      (fun _ => UidTable.permission.update (SortedMap.erase · app)) s.draft.users
  | _ => rfl

theorem announce_users (events : List Lifecycle) : (s.announce .builtin events).draft.users =
    events.foldl (fun users event => event.userParts users) s.draft.users := by
  induction events generalizing s with
  | nil => rfl
  | cons event rest ih =>
    rw [List.foldl_cons, ← s.notify_users event]
    exact ih (s.notify .builtin event)

theorem setDecision_users (subject object : AccessUri) (d : Decision) :
    (s.setDecision .builtin subject object d).draft.users =
      (Command.setDecision subject object d).userParts s.draft.system s.draft.users := by
  cases place : UidTable.place? subject object with
  | none =>
    rw [s.setDecision_apart (UidTable.apart_of_place?_eq_none place)]
    simp only [Command.userParts, place]
  | some found =>
    obtain ⟨t, uid, name⟩ := found
    simp only [Command.userParts, place]
    obtain ⟨rfl, rfl⟩ := (UidTable.place?_eq_some_iff ..).1 place
    have stored : (s.setDecision .builtin (.uid uid) (t.object name) d).draft =
        t.store (.uid uid) (t.object name) d s.draft := by
      rw [setDecision, PolicySet.builtin_route?]
      rfl
    rw [stored, UidTable.store_object, Draft.editUser_users]

theorem perform_userParts {s : Session} (h : s.draft.system.Indexed) (c : Command) :
    (s.perform .builtin c).draft.users = c.userParts s.draft.system s.draft.users := by
  cases c with
  | addUser u => rfl
  | removeUser u =>
    simp only [perform, removeUser, Command.userParts]
    split <;> rfl
  | addPackage p =>
    rw [perform_eq_announce .builtin rfl h, announce_users]
    simp only [Command.events, Command.bookkeeping, edit, Command.userParts]
    split
    · split <;> rfl
    · rfl
  | removePackage p =>
    rw [perform_eq_announce .builtin rfl h, announce_users]
    simp only [Command.events, Command.bookkeeping, edit, Command.userParts]
    cases s.draft.system.packages.get? p.name with
    | none => rfl
    | some installed =>
      dsimp only
      split <;> rfl
  | setDecision subject object d => exact s.setDecision_users subject object d

theorem perform_effect {s : Session} (h : s.draft.system.Indexed) (c : Command) :
    (s.perform .builtin c).state = c.effect s.state := by
  show ({ version := _, system := _, users := _ } : AccessState) = _
  rw [perform_version PolicySet.builtin_keepsNumber, perform_system PolicySet.builtin_keepsRecords c h,
    perform_userParts h c]
  rfl

theorem run_effects {s : Session} (h : s.state.Recorded) (commands : List Command) :
    (s.run .builtin commands).state = Command.effects commands s.state := by
  induction commands generalizing s with
  | nil => rfl
  | cons c rest ih =>
    rw [Command.effects, List.foldl_cons, ← perform_effect h.system.toIndexed c]
    exact ih (perform_recorded PolicySet.builtin_keepsRecords c h)

end Session

theorem PolicySet.run_effects {s : AccessState} (h : s.Recorded) (batches : List (List Command)) :
    builtin.run s batches = { Command.effects batches.flatten s with version := s.version + batches.length } := by
  induction batches generalizing s with
  | nil => rfl
  | cons batch rest ih =>
    have written := Session.run_effects h.begin batch
    have recorded := Session.run_recorded builtin_keepsRecords h.begin batch
    have opened : (Session.begin s).state = { s with version := s.version + 1 } := rfl
    rw [opened, Command.effects_version] at written
    rw [List.flatten_cons, Command.effects_append, run, ih recorded, written, Command.effects_version, List.length_cons,
      Nat.add_assoc, Nat.add_comm 1]

end Gatekeeper
