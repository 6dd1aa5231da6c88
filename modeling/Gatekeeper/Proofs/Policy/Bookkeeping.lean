import Mathlib.Data.List.Induction
import Gatekeeper.Proofs.Policy.Builtin
import Gatekeeper.Proofs.Policy.Runs

set_option autoImplicit false

namespace Gatekeeper

theorem Session.install_appId {sys : SystemState} {new p q : Package} {name : PackageName} (may : mayInstall new sys)
    (before : sys.packages.get? name = some p) (after : (install new sys).packages.get? name = some q) :
    q.appId = p.appId := by
  by_cases e : name = new.name
  · subst e
    rw [install, SortedMap.get?_insert_self, Option.some.injEq] at after
    subst after
    exact (((mayInstall_iff new sys).1 may).2 p before).symm
  · rw [install, SortedMap.get?_insert_ne _ _ e, before, Option.some.injEq] at after
    rw [after]

theorem Session.uninstall_appId {sys : SystemState} {p q : Package} {name other : PackageName} (app : AppId)
    (before : sys.packages.get? other = some p) (after : (uninstall name app sys).packages.get? other = some q) :
    q.appId = p.appId := by
  by_cases e : other = name
  · subst e
    rw [uninstall, SortedMap.get?_erase_self] at after
    cases after
  · rw [uninstall, SortedMap.get?_erase_ne _ e, before, Option.some.injEq] at after
    rw [after]

theorem Command.records_appId (c : Command) {sys : SystemState} {p q : Package} {name : PackageName}
    (before : sys.packages.get? name = some p) (after : (c.records sys).packages.get? name = some q) :
    q.appId = p.appId := by
  have unchanged (h : sys.packages.get? name = some q) : q.appId = p.appId := by
    rw [before, Option.some.injEq] at h
    rw [h]
  cases c with
  | addPackage new =>
    simp only [records] at after
    split at after
    · next may => exact Session.install_appId may before after
    · exact unchanged after
  | removePackage gone =>
    simp only [records] at after
    split at after
    · exact Session.uninstall_appId _ before after
    · exact unchanged after
  | addUser | removeUser | setDecision => exact unchanged after

namespace AccessState

theorem empty_recorded : empty.Recorded where
  system := {
    listed := fun app name => by simp [empty, SetMap.holds, SortedMap.get?_empty]
    noneEmpty := SetMap.noneEmpty_empty
    named := fun name p h => by cases h
    valid := fun name p h => by cases h }
  users _ := rfl

theorem Recorded.validate {s : AccessState} (h : s.Recorded) : s.validate = .ok () :=
  s.validate_eq_ok_iff.2 ⟨h.system.toIndexed, h.users⟩

theorem Recorded.begin {s : AccessState} (h : s.Recorded) : (Session.begin s).state.Recorded := ⟨h.system, h.users⟩

theorem Recorded.appId_valid {s : AccessState} (h : s.Recorded) {app : AppId} (known : s.system.appIds.contains app) :
    app.isValid := by
  obtain ⟨name, mem⟩ := List.exists_mem_of_ne_nil _ ((h.system.contains_iff app).1 known)
  obtain ⟨p, installed, rfl⟩ := (s.system.mem_holders_iff app name).1 mem
  exact h.system.valid name p installed

end AccessState

theorem Session.run_recorded {ps : PolicySet} (h : ps.KeepsRecords) {s : Session} (start : s.state.Recorded)
    (batch : List Command) : (s.run ps batch).state.Recorded :=
  Session.run_induct (fun state _ _ => state.Recorded) (fun _ => True)
    (fun _ c _ _ _ recorded => perform_recorded h c recorded) batch (fun _ _ => trivial) s [] [] start

theorem PolicySet.run_recorded {ps : PolicySet} (h : ps.KeepsRecords) (batches : List (List Command)) :
    (ps.run .empty batches).Recorded :=
  PolicySet.run_induct (fun state _ _ => state.Recorded) (fun _ => True) (fun _ _ _ recorded => recorded.begin)
    (fun _ c _ _ _ recorded => Session.perform_recorded h c recorded) batches (fun _ _ _ _ => trivial) .empty
    AccessState.empty_recorded

namespace Command

def book (sys : SystemState) (commands : List Command) : SystemState := commands.foldl (fun sys c => c.records sys) sys

theorem book_concat (sys : SystemState) (commands : List Command) (c : Command) :
    book sys (commands ++ [c]) = c.records (book sys commands) := by
  rw [book, List.foldl_append]
  rfl

def concernsUser (u : UserId) : Command → Bool
  | .addUser v | .removeUser v => v = u
  | _ => false

/-- A user is known if the last command to add or to remove it was the one to add it. -/
theorem book_known_iff (commands : List Command) (u : UserId) :
    (book {} commands).userIds.contains u ↔ (commands.filter (concernsUser u)).getLast? = some (.addUser u) := by
  induction commands using List.reverseRecOn with
  | nil => simp [book]
  | append_singleton front c ih =>
    rw [book_concat, records_userIds, List.filter_append]
    cases c with
    | addUser v => by_cases same : u = v <;> simp [knows, concernsUser, same, ih, eq_comm]
    | removeUser v => by_cases same : u = v <;> simp [knows, concernsUser, same, ih, eq_comm]
    | _ => simp [knows, concernsUser, ih]

end Command

theorem Session.steps_commands (ps : PolicySet) (s : Session) (batch : List Command) :
    (s.steps ps batch).map Step.command = batch := by
  induction batch generalizing s with
  | nil => rfl
  | cons c rest ih => exact congrArg (c :: ·) (ih _)

theorem PolicySet.history_commands (ps : PolicySet) (s : AccessState) (batches : List (List Command)) :
    (ps.history s batches).map Step.command = batches.flatten := by
  induction batches generalizing s with
  | nil => rfl
  | cons batch rest ih => rw [history, List.map_append, Session.steps_commands, ih, List.flatten_cons]

/-- The records of a state, and those that each step of a history has met, are what the commands before make. -/
structure Booked (state : AccessState) (steps : List Step) : Prop where
  recorded : state.Recorded
  now : state.system = Command.book {} (steps.map Step.command)
  met : ∀ (i : Nat) (step : Step), steps[i]? = some step →
    step.before.system = Command.book {} ((steps.map Step.command).take i)

theorem Booked.perform {ps : PolicySet} (h : ps.KeepsRecords) {s : Session} {steps : List Step}
    (booked : Booked s.state steps) (c : Command) : Booked (s.perform ps c).state (steps ++ [⟨s.state, c⟩]) where
  recorded := Session.perform_recorded h c booked.recorded
  now := by
    rw [List.map_append, List.map_singleton, Command.book_concat, ← booked.now]
    exact Session.perform_system h c booked.recorded.system.toIndexed
  met i step there := by
    have length : (steps.map Step.command).length = steps.length := List.length_map _
    rw [List.map_append]
    -- A step met before, the one just made, or a place behind it, where there is none.
    rcases Nat.lt_trichotomy i steps.length with front | rfl | beyond
    · rw [List.getElem?_append_left front] at there
      rw [List.take_append_of_le_length (by omega)]
      exact booked.met i step there
    · obtain rfl := Option.some.inj (List.getElem?_concat_length.symm.trans there)
      rw [← length, List.take_left]
      exact booked.now
    · rw [List.getElem?_eq_none (by rw [List.length_append, List.length_singleton]; omega)] at there
      cases there

theorem PolicySet.history_records {ps : PolicySet} (h : ps.KeepsRecords) (batches : List (List Command)) (i : Nat) :
    ((ps.history .empty batches)[i]?).map (fun step => (step.command, step.before.system)) =
      (batches.flatten[i]?).map fun c => (c, Command.book {} (batches.flatten.take i)) := by
  have booked : Booked (ps.run .empty batches) (ps.history .empty batches) :=
    PolicySet.run_induct (fun state steps _ => Booked state steps) (fun _ => True)
      (fun _ _ _ before => ⟨before.recorded.begin, before.now, before.met⟩)
      (fun _ c _ _ _ before => before.perform h c) batches (fun _ _ _ _ => trivial) .empty
      ⟨AccessState.empty_recorded, rfl, fun _ _ there => nomatch there⟩
  rw [← ps.history_commands .empty batches, List.getElem?_map]
  cases there : (ps.history .empty batches)[i]? with
  | none => rfl
  | some step => exact congrArg (fun sys => some (step.command, sys)) (booked.met i step there)

/-- The built-in policies leave the records alone. Under policies that do, every state a run leads to is valid, keeps
    packages under their own names and knows only application identifiers that fit into a uid; and no command that is
    given next, at any place in a session, changes the application identifier of a package it leaves installed. -/
theorem PolicySet.run_bookkeeping : builtin.KeepsRecords ∧ ∀ ps : PolicySet, ps.KeepsRecords →
    ∀ batches : List (List Command),
      (ps.run .empty batches).validate = .ok () ∧
      (∀ name p, (ps.run .empty batches).system.packages.get? name = some p → p.name = name) ∧
      (∀ app, (ps.run .empty batches).system.appIds.contains app → app.value.toNat < appsPerUser) ∧
      ∀ (batch : List Command) (c : Command) (name : PackageName) (p q : Package),
        ((Session.begin (ps.run .empty batches)).run ps batch).state.system.packages.get? name = some p →
        (((Session.begin (ps.run .empty batches)).run ps batch).perform ps c).state.system.packages.get? name = some q →
        q.appId = p.appId := by
  refine ⟨builtin_keepsRecords, fun ps h batches => ?_⟩
  have recorded := run_recorded h batches
  refine ⟨recorded.validate, recorded.system.named, fun app known => ?_, ?_⟩
  · simpa [AppId.isValid] using recorded.appId_valid known
  · intro batch c name p q before after
    have session := Session.run_recorded h recorded.begin batch
    change (Session.perform ps _ c).draft.system.packages.get? name = some q at after
    rw [Session.perform_system h c session.system.toIndexed] at after
    exact c.records_appId before after

/-- Two packages share an application identifier; one is removed in vain, being unknown, and one installed again with
    other permissions. -/
theorem PolicySet.run_bookkeeping_shared :
    let camera : Package := ⟨⟨"camera"⟩, ⟨10⟩, []⟩
    let again : Package := ⟨⟨"camera"⟩, ⟨10⟩, ["CAMERA"]⟩
    let gallery : Package := ⟨⟨"gallery"⟩, ⟨10⟩, []⟩
    let s := builtin.run .empty [[.addUser ⟨0⟩, .addPackage camera], [.addPackage gallery]]
    let session := (Session.begin s).run builtin [.removePackage ⟨⟨"mail"⟩, ⟨10⟩, []⟩]
    builtin.KeepsRecords ∧
      session.state.system.packages.get? ⟨"camera"⟩ = some camera ∧
      (session.perform builtin (.addPackage again)).state.system.packages.get? ⟨"camera"⟩ = some again ∧
      s.validate = .ok () ∧ camera.name = ⟨"camera"⟩ ∧ (10 : UInt32).toNat < appsPerUser ∧
      again.appId = camera.appId := by
  intro camera again gallery s session
  obtain ⟨kept, runs⟩ := run_bookkeeping
  obtain ⟨valid, named, known, same⟩ := runs builtin kept [[.addUser ⟨0⟩, .addPackage camera], [.addPackage gallery]]
  have appId := same [.removePackage ⟨⟨"mail"⟩, ⟨10⟩, []⟩] (.addPackage again) ⟨"camera"⟩ camera again
    (by decide) (by decide)
  exact ⟨kept, by decide, by decide, valid, named ⟨"camera"⟩ camera (by decide), known ⟨10⟩ (by decide), appId⟩

end Gatekeeper
