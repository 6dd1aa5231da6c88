import Gatekeeper.Proofs.Policy.Bookkeeping
import Gatekeeper.Proofs.Policy.Sharing
import Gatekeeper.Proofs.Policy.TableWrites

set_option autoImplicit false

namespace Gatekeeper

/-- A command that is not ignored writes to the system part, unless it sets a decision. -/
def Command.WritesSystem (c : Command) (sys : SystemState) : Prop :=
  match c with
  | .addUser _ => True
  | .removeUser u => sys.userIds.contains u
  | .addPackage p =>
    p.appId.isValid ∧ ∀ installed, sys.packages.get? p.name = some installed → installed.appId = p.appId
  | .removePackage p => sys.packages.contains p.name
  | .setDecision .. => False

/-- The users whose part is not that of the version before, if they had one: a user who is added or removed, the one a
    decision is set for, and all of them when the last package is removed that holds an application identifier. -/
def Command.Unshares (c : Command) (sys : SystemState) (u : UserId) : Prop :=
  match c with
  | .addUser v | .removeUser v => u = v
  | .addPackage _ => False
  | .removePackage p => ∃ app, sys.holders app = [p.name]
  | .setDecision subject object _ =>
    ∃ (uid : Uid) (name : String), subject = .uid uid ∧ (object = .permission name ∨ object = .appOp name) ∧ u = uid.user

theorem Command.knows_of_shared {c : Command} {sys : SystemState} {u : UserId} (shared : ¬c.Unshares sys u)
    (known : Bool) : c.knows u known = known := by
  cases c with
  | addUser v | removeUser v => exact if_neg shared
  | addPackage | removePackage | setDecision => rfl

theorem Command.knows_of_not_writes {c : Command} {sys : SystemState} (unwritten : ¬c.WritesSystem sys) (u : UserId) :
    c.knows u false = false := by
  cases c with
  | addUser v => exact absurd trivial unwritten
  | removeUser v => exact ite_self false
  | addPackage | removePackage | setDecision => rfl

section Copies

open Draft (Copies)

variable (t : UidTable)

theorem UidTable.react_copies (event : Lifecycle) (d : Draft) :
    Copies d (t.react event d) False fun u => (∃ app, event = .appIdRemoved app) ∧ d.users.contains u := by
  cases event with
  | appIdRemoved app => exact (d.editUsers_copies _).congr .rfl fun u => by simp
  | _ => exact .idle d id fun u => by simp

theorem UidTable.store_copies (uid : Uid) (name : String) (decision : Decision) (d : Draft) :
    Copies d (t.store (.uid uid) (t.object name) decision d) False fun u => u = uid.user ∧ d.users.contains u := by
  rw [store_object]
  refine (d.editUser_copies uid.user _).congr .rfl fun u => and_congr_right fun same => ?_
  rw [same]

namespace Session

variable (s : Session)

theorem notify_copies (event : Lifecycle) : Copies s.draft (s.notify .builtin event).draft False fun u =>
    (∃ app, event = .appIdRemoved app) ∧ s.draft.users.contains u := by
  -- Both policies copy the same users, the second time in vain.
  have first := UidTable.permission.react_copies event s.draft
  have second := UidTable.appOp.react_copies event (UidTable.permission.react event s.draft)
  refine (first.trans second).congr (or_self_iff) fun u => ?_
  rw [(UidTable.permission.react_sameRecords event s.draft).users, or_self_iff]

theorem announce_copies (events : List Lifecycle) : Copies s.draft (s.announce .builtin events).draft False fun u =>
    (∃ app, .appIdRemoved app ∈ events) ∧ s.draft.users.contains u := by
  induction events generalizing s with
  | nil => exact .idle s.draft id fun u => by simp
  | cons event rest ih =>
    have same : Draft.SameRecords s.draft (s.notify .builtin event).draft :=
      announce_sameRecords PolicySet.builtin_keepsRecords [event]
    refine ((s.notify_copies event).trans (ih (s.notify .builtin event))).congr (or_self_iff) fun u => ?_
    rw [same.users, ← or_and_right, ← exists_or]
    simp only [List.mem_cons, eq_comm]

theorem setDecision_copies (subject object : AccessUri) (decision : Decision) :
    Copies s.draft (s.setDecision .builtin subject object decision).draft False fun u =>
      (Command.setDecision subject object decision).Unshares s.draft.system u ∧ s.draft.users.contains u := by
  by_cases about : ∃ (t : UidTable) (uid : Uid) (name : String), subject = .uid uid ∧ object = t.object name
  · obtain ⟨t, uid, name, rfl, rfl⟩ := about
    rw [setDecision, PolicySet.builtin_route?]
    refine (t.store_copies uid name decision s.draft).congr .rfl fun u => and_congr_left fun _ => ?_
    cases t <;> simp [Command.Unshares, UidTable.object]
  · have nobody (u : UserId) : ¬(Command.setDecision subject object decision).Unshares s.draft.system u := by
      rintro ⟨uid, name, rfl, rfl | rfl, -⟩
      · exact about ⟨.permission, uid, name, rfl, rfl⟩
      · exact about ⟨.appOp, uid, name, rfl, rfl⟩
    rw [s.setDecision_apart about]
    exact .idle s.draft id fun u both => nobody u both.1

end Session

theorem Command.bookkeeping_copies (c : Command) (d : Draft) :
    Copies d (c.bookkeeping d) (c.WritesSystem d.system) fun u => c = .addUser u := by
  cases c with
  | addUser v =>
    refine ((d.editSystem_copies _).trans (Draft.insertUser_copies _ v {})).congr (by simp [WritesSystem]) fun u => ?_
    simp [eq_comm]
  | removeUser v =>
    simp only [bookkeeping]
    split
    · next known =>
      exact ((d.editSystem_copies _).trans (Draft.removeUser_copies _ v)).congr (by simp [WritesSystem, known]) (by simp)
    · next unknown => exact .idle d unknown (by simp)
  | addPackage p =>
    simp only [bookkeeping]
    split
    · next may =>
      exact (d.editSystem_copies _).congr (by simpa [WritesSystem] using (Session.mayInstall_iff p _).1 may) (by simp)
    · next may => exact .idle d (fun writes => may ((Session.mayInstall_iff p _).2 writes)) (by simp)
  | removePackage p =>
    simp only [bookkeeping]
    split
    · next stored =>
      exact (d.editSystem_copies _).congr (by simp [WritesSystem, SortedMap.contains_eq_isSome, stored]) (by simp)
    · next unknown => exact .idle d (by simp [WritesSystem, SortedMap.contains_eq_isSome, unknown]) (by simp)
  | setDecision => exact .idle d id (by simp)

theorem Session.perform_copies {s : Session} (recorded : s.state.Recorded) (c : Command) :
    Copies s.draft (s.perform .builtin c).draft (c.WritesSystem s.draft.system) fun u =>
      c.Unshares s.draft.system u ∧ (s.perform .builtin c).draft.users.contains u := by
  have left (u : UserId) := perform_users PolicySet.builtin_keepsRecords c recorded u
  by_cases lifecycle : c.isLifecycle
  · rw [perform_eq_announce .builtin lifecycle recorded.system.toIndexed] at left ⊢
    have told := (s.edit c.bookkeeping).announce_copies (c.events s.draft.system)
    refine ((c.bookkeeping_copies s.draft).trans told).congr (iff_of_eq (or_false _)) fun u => ?_
    have booked : (s.edit c.bookkeeping).draft.users.contains u = c.knows u (s.draft.users.contains u) :=
      c.bookkeeping_users (recorded.users u)
    -- A removed user is left over by no command, so that it makes no difference that nothing was copied for it.
    rw [left, booked]
    simp only [c.mem_events_appIdRemoved]
    cases c with
    | addUser v =>
      by_cases same : u = v
      · simp [Command.Unshares, Command.knows, same]
      · simp [Command.Unshares, same, Ne.symm same]
    | removeUser v =>
      by_cases same : u = v
      · simp [Command.Unshares, Command.knows, same]
      · simp [Command.Unshares, same]
    | addPackage p => simp [Command.Unshares]
    | removePackage p => simp [Command.Unshares]
    | setDecision => cases lifecycle
  · cases c with
    | setDecision subject object decision =>
      refine (s.setDecision_copies subject object decision).congr .rfl fun u => ?_
      rw [left]
      rfl
    | _ => simp [Command.isLifecycle] at lifecycle

end Copies

namespace AccessState

/-- The draft of the next version once a command was performed. -/
def drafted (s : AccessState) (c : Command) : Draft := ((Session.begin s).perform .builtin c).draft

variable {s : AccessState}

theorem drafted_users (recorded : s.Recorded) (c : Command) (u : UserId) :
    (s.drafted c).users.contains u = c.knows u (s.users.contains u) :=
  Session.perform_users PolicySet.builtin_keepsRecords c recorded.begin u

theorem drafted_systemCopied_iff (recorded : s.Recorded) (c : Command) :
    (s.drafted c).systemCopied ↔ c.WritesSystem s.system :=
  (Session.perform_copies recorded.begin c).system.trans (by simp [Session.begin, Draft.of, AccessState.nextVersion])

theorem drafted_copied_iff (recorded : s.Recorded) (c : Command) (u : UserId) :
    (s.drafted c).copiedUsers.contains u ↔ c.Unshares s.system u ∧ (s.drafted c).users.contains u :=
  ((Session.perform_copies recorded.begin c).users u).trans (by simp [Session.begin, Draft.of, AccessState.nextVersion, drafted])

theorem drafted_owns (s : AccessState) (c : Command) : (s.drafted c).Owns s :=
  Session.perform_owns c ⟨fun _ => rfl, fun _ _ known _ => known⟩

theorem drafted_version (s : AccessState) (c : Command) : (s.drafted c).version = s.version + 1 :=
  Session.perform_version PolicySet.builtin_keepsNumber c

end AccessState

/-- The next version of a state that was reached under the built-in policies, after one command on it, shares the system
    part unless the command writes it, and it shares the part of every user it takes over but those the command is
    about. The users are the known ones, with the one who is added and without the one who is removed. What is shared
    is equal; where everything is shared only the version is another. -/
theorem Version.next_perform_shares (batches : List (List Command)) (c : Command) (systemToken unused : Nat)
    (userTokens : SortedMap UserId Nat) (system_used : systemToken < unused)
    (users_used : ∀ u t, userTokens.get? u = some t → t < unused) :
    let old : Version := { state := PolicySet.builtin.run .empty batches, systemToken, userTokens }
    let new := (old.next.accept unused ((Session.begin old.state).perform .builtin c).draft).1
    (new.sharesSystem old ↔ ¬c.WritesSystem old.state.system) ∧
    (∀ u, new.sharesUser old u ↔ old.state.users.contains u ∧ ¬c.Unshares old.state.system u) ∧
    (∀ u, new.state.users.contains u = c.knows u (old.state.users.contains u)) ∧
    (new.sharesSystem old → new.state.system = old.state.system) ∧
    (∀ u, new.sharesUser old u → new.state.users.get? u = old.state.users.get? u) ∧
    ((new.sharesSystem old ∧ ∀ u, old.state.users.contains u → new.sharesUser old u) →
      new.state = { old.state with version := old.state.version + 1 }) := by
  intro old new
  have recorded : old.state.Recorded := PolicySet.run_recorded PolicySet.builtin_keepsRecords batches
  have users := AccessState.drafted_users recorded c
  have owns := old.state.drafted_owns c
  have system_shared : new.sharesSystem old ↔ (old.state.drafted c).systemCopied = false :=
    accept_sharesSystem_iff (v := old.next) system_used _
  have user_shared (u : UserId) : new.sharesUser old u ↔ (old.state.drafted c).users.contains u ∧
      old.state.users.contains u ∧ (old.state.drafted c).copiedUsers.contains u = false :=
    accept_sharesUser_iff (v := old.next) users_used _ u
  have same_system (shared : new.sharesSystem old) : new.state.system = old.state.system :=
    owns.system (system_shared.1 shared)
  have same_user (u : UserId) (shared : new.sharesUser old u) :
      new.state.users.get? u = old.state.users.get? u := by
    obtain ⟨there, -, unmarked⟩ := (user_shared u).1 shared
    obtain ⟨user, known⟩ := (SortedMap.contains_iff _ _).1 there
    exact known.trans (owns.users u user known unmarked).symm
  have writes : new.sharesSystem old ↔ ¬c.WritesSystem old.state.system := by
    rw [system_shared, ← AccessState.drafted_systemCopied_iff recorded, Bool.not_eq_true]
  refine ⟨writes, fun u => ?_, users, same_system, same_user, fun shared => ?_⟩
  · rw [user_shared, ← Bool.not_eq_true, AccessState.drafted_copied_iff recorded]
    constructor
    · intro h
      exact ⟨h.2.1, fun unshared => h.2.2 ⟨unshared, h.1⟩⟩
    · intro h
      rw [users, Command.knows_of_shared h.2]
      exact ⟨h.1, h.1, fun copied => h.2 copied.1⟩
  · have all : new.state.users = old.state.users := by
      apply SortedMap.ext_get?
      intro u
      cases known : old.state.users.contains u with
      | true => exact same_user u (shared.2 u known)
      | false =>
        have absent := users u
        rw [known, Command.knows_of_not_writes (writes.1 shared.1)] at absent
        exact ((SortedMap.not_contains_iff _ _).1 absent).trans ((SortedMap.not_contains_iff _ _).1 known).symm
    exact AccessState.ext (old.state.drafted_version c) (same_system shared.1) all

/-- With two users and two packages that share an application identifier: a decision copies the part of its user alone,
    removing an unknown user copies nothing and gives the same state under the next version. -/
theorem Version.next_perform_shares_grant :
    let batches : List (List Command) := [[.addUser ⟨7⟩, .addUser ⟨8⟩],
      [.addPackage ⟨⟨"camera"⟩, ⟨10⟩, []⟩, .addPackage ⟨⟨"gallery"⟩, ⟨10⟩, []⟩]]
    let tokens := (SortedMap.insert ∅ (⟨7⟩ : UserId) 1).insert ⟨8⟩ 2
    let old : Version := { state := PolicySet.builtin.run .empty batches, systemToken := 0, userTokens := tokens }
    let after (c : Command) := (old.next.accept 3 ((Session.begin old.state).perform .builtin c).draft).1
    let grant := Command.setDecision (.uid ⟨700010⟩) (.permission "CAMERA") .granted
    let gone := Command.removeUser ⟨9⟩
    0 < 3 ∧ (∀ u t, tokens.get? u = some t → t < 3) ∧
      (after grant).sharesSystem old ∧ (after grant).state.system = old.state.system ∧
      ¬(after grant).sharesUser old ⟨7⟩ ∧ (after grant).sharesUser old ⟨8⟩ ∧
      (after grant).state.users.get? ⟨8⟩ = old.state.users.get? ⟨8⟩ ∧
      (after gone).sharesSystem old ∧ (∀ u, old.state.users.contains u → (after gone).sharesUser old u) ∧
      (after gone).state = { old.state with version := 3 } := by
  intro batches tokens old after grant gone
  have used : ∀ u t, tokens.get? u = some t → t < 3 :=
    ((SortedMap.all_empty (fun (_ : UserId) (t : Nat) => t < 3)).insert (by decide)).insert (by decide)
  obtain ⟨system, users, -, same_system, same_user, -⟩ :=
    next_perform_shares batches grant 0 3 tokens (by decide) used
  obtain ⟨system', users', -, -, -, same⟩ :=
    next_perform_shares batches gone 0 3 tokens (by decide) used
  have shared : (after grant).sharesSystem old := system.2 id
  have eighth : (after grant).sharesUser old ⟨8⟩ := by
    refine (users ⟨8⟩).2 ⟨by decide, ?_⟩
    rintro ⟨uid, name, named, -, eight⟩
    cases named
    exact absurd eight (by decide)
  have seventh : ¬(after grant).sharesUser old ⟨7⟩ := fun shares =>
    ((users ⟨7⟩).1 shares).2 ⟨⟨700010⟩, "CAMERA", rfl, .inl rfl, by decide⟩
  have unknown : ¬gone.WritesSystem old.state.system := by
    show ¬old.state.system.userIds.contains ⟨9⟩
    decide
  have all (u : UserId) (known : old.state.users.contains u) : (after gone).sharesUser old u := by
    refine (users' u).2 ⟨known, ?_⟩
    rintro rfl
    exact absurd known (by decide)
  exact ⟨by decide, used, shared, same_system shared, seventh, eighth, same_user ⟨8⟩ eighth, system'.2 unknown, all,
    same ⟨system'.2 unknown, all⟩⟩

end Gatekeeper
