import Gatekeeper.Proofs.Policy.Bookkeeping

set_option autoImplicit false

namespace Gatekeeper

abbrev Notice := SchemePair × Request

def Call.notice (call : Call) : Notice := (call.pair, call.request)

def PolicySet.announcement (ps : PolicySet) (event : Lifecycle) : List Notice :=
  ps.policies.map fun p => (p.pair, .lifecycle event)

def Lifecycle.concerns (app : AppId) : Lifecycle → Bool
  | .appIdAdded a | .appIdRemoved a => a = app
  | _ => false

/-- What the policy of a pair hears about an application identifier. -/
def heard (pair : SchemePair) (app : AppId) (notices : List Notice) : List Lifecycle :=
  notices.filterMap fun
    | (addressee, .lifecycle event) => if addressee = pair ∧ event.concerns app then some event else none
    | (_, .store ..) => none

section Calls

variable {ps : PolicySet}

/-- Lifecycle calls carried out one after the other: each is answered by a policy of the set under the pair it bears,
    which sees the draft as the calls before have left it, and reacts on it. -/
inductive PolicySet.CarriedOut (ps : PolicySet) (old : AccessState) : Draft → List Call → Draft → Prop
  | done (draft : Draft) : CarriedOut ps old draft [] draft
  | call {p : SchemePolicy} {event : Lifecycle} {before after : Draft} {rest : List Call} (mem : p ∈ ps.policies)
      (later : CarriedOut ps old (p.react event old before) rest after) :
      CarriedOut ps old before (⟨p.pair, .lifecycle event, before.state⟩ :: rest) after

theorem PolicySet.CarriedOut.append {old : AccessState} {before between after : Draft} {calls more : List Call}
    (first : ps.CarriedOut old before calls between) (second : ps.CarriedOut old between more after) :
    ps.CarriedOut old before (calls ++ more) after := by
  induction first with
  | done => exact second
  | call mem _ ih => exact .call mem (ih second)

/-- What was done in a session since another: some notices were given, and the calls noted are carried out. -/
structure Session.Gave (ps : PolicySet) (notices : List Notice) (s s' : Session) : Prop where
  old : s'.old = s.old
  calls : ∃ made, s'.calls = s.calls ++ made ∧ made.map Call.notice = notices ∧
    ps.CarriedOut s.old s.draft made s'.draft

namespace Session.Gave

variable {s s' s'' : Session} {notices more : List Notice}

theorem refl (s : Session) : Gave ps [] s s := ⟨rfl, [], (List.append_nil _).symm, rfl, .done _⟩

theorem trans (first : Gave ps notices s s') (second : Gave ps more s' s'') : Gave ps (notices ++ more) s s'' := by
  obtain ⟨old, made, calls, told, carried⟩ := first
  obtain ⟨old', made', calls', told', carried'⟩ := second
  rw [old] at carried'
  refine ⟨old'.trans old, made ++ made', ?_, ?_, carried.append carried'⟩
  · rw [calls', calls, List.append_assoc]
  · rw [List.map_append, told, told']

theorem notices_eq (gave : Gave ps notices s s') :
    s'.calls.map Call.notice = s.calls.map Call.notice ++ notices := by
  obtain ⟨made, calls, told, -⟩ := gave.calls
  rw [calls, List.map_append, told]

end Session.Gave

theorem Session.call_gave {p : SchemePolicy} (mem : p ∈ ps.policies) (event : Lifecycle) (s : Session) :
    Gave ps [(p.pair, .lifecycle event)] s (s.call p (.lifecycle event)) :=
  ⟨rfl, [⟨p.pair, .lifecycle event, s.state⟩], rfl, rfl, .call mem (.done _)⟩

theorem Session.notify_gave (event : Lifecycle) (s : Session) :
    Gave ps (ps.announcement event) s (s.notify ps event) := by
  suffices called : ∀ policies : List SchemePolicy, (∀ p ∈ policies, p ∈ ps.policies) → ∀ s : Session,
      Gave ps (policies.map fun p => (p.pair, .lifecycle event)) s
        (policies.foldl (fun s p => s.call p (.lifecycle event)) s) from called ps.policies (fun _ mem => mem) s
  intro policies
  induction policies with
  | nil => exact fun _ s => .refl s
  | cons p rest ih =>
    intro mem s
    exact (call_gave (mem p List.mem_cons_self) event s).trans
      (ih (fun q later => mem q (List.mem_cons_of_mem _ later)) _)

theorem Session.announce_gave (events : List Lifecycle) (s : Session) :
    Gave ps (events.flatMap ps.announcement) s (s.announce ps events) := by
  induction events generalizing s with
  | nil => exact .refl s
  | cons event rest ih => exact (s.notify_gave event).trans (ih (s.notify ps event))

theorem Session.perform_gave {s : Session} {c : Command} (lifecycle : c.isLifecycle) (h : s.draft.system.Indexed) :
    Gave ps ((c.events s.state.system).flatMap ps.announcement) (s.edit c.bookkeeping) (s.perform ps c) := by
  rw [perform_eq_announce ps lifecycle h]
  exact announce_gave (c.events s.draft.system) (s.edit c.bookkeeping)

/-- Lifecycle commands need no more of the policies than that their reactions leave the system part alone: the records
    agree wherever a command is performed. -/
theorem PolicySet.run_lifecycle_induct (hooks : ps.HooksKeepSystem) (P : AccessState → List Step → List Call → Prop)
    (reopen : ∀ (old : AccessState) (steps : List Step) (calls : List Call),
      P old steps calls → P (Session.begin old).state steps calls)
    (perform : ∀ (s : Session) (c : Command) (steps : List Step) (earlier : List Call), c.isLifecycle →
      s.state.system.Recorded → P s.state steps (earlier ++ s.calls) →
      P (s.perform ps c).state (steps ++ [⟨s.state, c⟩]) (earlier ++ (s.perform ps c).calls))
    (batches : List (List Command)) (lifecycle : ∀ batch ∈ batches, ∀ c ∈ batch, c.isLifecycle)
    (start : P .empty [] []) :
    (ps.run .empty batches).system.Recorded ∧
      P (ps.run .empty batches) (ps.history .empty batches) (ps.calls .empty batches) := by
  refine PolicySet.run_induct (fun state steps calls => state.system.Recorded ∧ P state steps calls)
    (fun c => c.isLifecycle) (fun old steps calls before => ⟨before.1, reopen old steps calls before.2⟩) ?_ batches
    lifecycle .empty ⟨AccessState.empty_recorded.system, start⟩
  intro s c steps earlier lifecycle before
  obtain ⟨recorded, before⟩ := before
  have system : (s.perform ps c).state.system = c.records s.state.system :=
    Session.perform_system_lifecycle hooks lifecycle recorded.toIndexed
  rw [system]
  exact ⟨c.records_recorded recorded, perform s c steps earlier lifecycle recorded before⟩

theorem PolicySet.run_system_recorded (hooks : ps.HooksKeepSystem) (batches : List (List Command))
    (lifecycle : ∀ batch ∈ batches, ∀ c ∈ batch, c.isLifecycle) : (ps.run .empty batches).system.Recorded :=
  (run_lifecycle_induct hooks (fun _ _ _ => True) (fun _ _ _ _ => trivial) (fun _ _ _ _ _ _ _ => trivial) batches
    lifecycle trivial).1

theorem Session.run_old (s : Session) (batch : List Command) : (s.run ps batch).old = s.old := by
  induction batch generalizing s with
  | nil => rfl
  | cons c rest ih => exact (ih (s.perform ps c)).trans (s.perform_old ps c)

theorem PolicySet.calls_notices (hooks : ps.HooksKeepSystem) (batches : List (List Command))
    (lifecycle : ∀ batch ∈ batches, ∀ c ∈ batch, c.isLifecycle) :
    (ps.calls .empty batches).map Call.notice = (ps.history .empty batches).flatMap fun step =>
      (step.command.events step.before.system).flatMap ps.announcement := by
  -- The announcements of a step are read off the packages, its calls off the index: the two have to agree throughout.
  refine (run_lifecycle_induct hooks (fun _ steps calls => calls.map Call.notice = steps.flatMap fun step =>
    (step.command.events step.before.system).flatMap ps.announcement) (fun _ _ _ h => h) ?_ batches lifecycle rfl).2
  intro s c steps earlier lifecycle recorded notices
  rw [List.map_append] at notices ⊢
  rw [(Session.perform_gave lifecycle recorded.toIndexed).notices_eq, Session.edit, ← List.append_assoc, notices,
    List.flatMap_append, List.flatMap_singleton]

end Calls

theorem Command.events_concerning (c : Command) {sys : SystemState} (h : sys.Recorded) (app : AppId) :
    ((c.events sys).filter (·.concerns app) = [] ∧ (c.records sys).appIds.contains app = sys.appIds.contains app) ∨
    ((c.events sys).filter (·.concerns app) = [.appIdAdded app] ∧
      sys.appIds.contains app = false ∧ (c.records sys).appIds.contains app = true) ∨
    ((c.events sys).filter (·.concerns app) = [.appIdRemoved app] ∧
      sys.appIds.contains app = true ∧ (c.records sys).appIds.contains app = false) := by
  cases c with
  | addUser u => exact .inl ⟨rfl, rfl⟩
  | removeUser u =>
    refine .inl ⟨?_, rfl⟩
    simp only [events]
    split <;> rfl
  | setDecision => exact .inl ⟨rfl, rfl⟩
  | addPackage p =>
    simp only [events, records]
    split
    · have known := h.contains_iff p.appId
      by_cases same : app = p.appId
      · subst same
        have present : (Session.install p sys).appIds.contains p.appId = true := SetMap.relate_contains_self _ _ _
        by_cases first : sys.holders p.appId = []
        · exact .inr (.inl ⟨by simp [first, Lifecycle.concerns], by simpa [first] using known, present⟩)
        · exact .inl ⟨by simp [first, Lifecycle.concerns], by rw [present, known.2 first]⟩
      · refine .inl ⟨?_, SetMap.relate_contains_ne _ _ same⟩
        split <;> simp [Lifecycle.concerns, Ne.symm same]
    · exact .inl ⟨rfl, rfl⟩
  | removePackage p =>
    -- What counts is the identifier of the stored package, not that of the one the command names.
    simp only [events, records]
    cases stored : sys.packages.get? p.name with
    | none => exact .inl ⟨rfl, rfl⟩
    | some installed =>
      by_cases same : app = installed.appId
      · subst same
        have mem := (sys.mem_holders_iff installed.appId p.name).2 ⟨installed, stored, rfl⟩
        have present := (h.contains_iff installed.appId).2 (List.ne_nil_of_mem mem)
        have emptied := h.emptied_iff installed.appId p.name
        have after := SetMap.unrelate_contains_self sys.appIds installed.appId p.name
        by_cases last : sys.holders installed.appId = [p.name]
        · refine .inr (.inr ⟨by simp [last, Lifecycle.concerns], present, ?_⟩)
          exact after.trans (by simp [emptied.2 last])
        · refine .inl ⟨by simp [last, Lifecycle.concerns], ?_⟩
          exact after.trans (by simp [mt emptied.1 last])
      · refine .inl ⟨?_, SetMap.unrelate_contains_ne _ _ same⟩
        by_cases last : sys.holders installed.appId = [p.name] <;> simp [last, Lifecycle.concerns, Ne.symm same]

/-- The coming and the going of an application identifier, told in turns, its coming first. It is there after an odd
    number of turns. -/
def TakesTurns (app : AppId) (told : List Lifecycle) (there : Bool) : Prop :=
  ∃ n, told = (List.range n).map (fun i => if i % 2 = 0 then .appIdAdded app else .appIdRemoved app) ∧
    (there ↔ n % 2 = 1)

namespace TakesTurns

variable {app : AppId} {told : List Lifecycle} {there : Bool}

theorem added (h : TakesTurns app told false) : TakesTurns app (told ++ [.appIdAdded app]) true := by
  obtain ⟨n, rfl, parity⟩ := h
  have even : n % 2 = 0 := by
    have := mt parity.2 (by simp)
    omega
  refine ⟨n + 1, by simp [List.range_succ, even], ?_⟩
  simp only [true_iff]
  omega

theorem removed (h : TakesTurns app told true) : TakesTurns app (told ++ [.appIdRemoved app]) false := by
  obtain ⟨n, rfl, parity⟩ := h
  have odd : n % 2 = 1 := parity.1 rfl
  refine ⟨n + 1, by simp [List.range_succ, odd], ?_⟩
  simp only [Bool.false_eq_true, false_iff]
  omega

theorem getElem? (h : TakesTurns app told there) {i : Nat} {event : Lifecycle} (at_i : told[i]? = some event) :
    event = if i % 2 = 0 then .appIdAdded app else .appIdRemoved app := by
  obtain ⟨n, rfl, -⟩ := h
  rw [List.getElem?_map, Option.map_eq_some_iff] at at_i
  obtain ⟨j, hj, rfl⟩ := at_i
  obtain ⟨hi, rfl⟩ := List.getElem?_eq_some_iff.1 hj
  rw [List.getElem_range]

theorem getLast? (h : TakesTurns app told there) : there ↔ told.getLast? = some (.appIdAdded app) := by
  obtain ⟨n, rfl, parity⟩ := h
  rw [parity]
  cases n with
  | zero => simp
  | succ n =>
    rw [List.range_succ, List.map_append, List.map_singleton, List.getLast?_concat, Option.some.injEq]
    by_cases even : n % 2 = 0
    · simp only [even, if_true, iff_true]
      omega
    · simp only [even, if_false, reduceCtorEq, iff_false]
      omega

end TakesTurns

/-- What is announced about an application identifier over some steps. -/
def comings (app : AppId) (steps : List Step) : List Lifecycle :=
  steps.flatMap fun step => (step.command.events step.before.system).filter (·.concerns app)

theorem PolicySet.history_takesTurns {ps : PolicySet} (hooks : ps.HooksKeepSystem) (batches : List (List Command))
    (lifecycle : ∀ batch ∈ batches, ∀ c ∈ batch, c.isLifecycle) (app : AppId) :
    TakesTurns app (comings app (ps.history .empty batches))
      ((ps.run .empty batches).system.appIds.contains app) := by
  refine (run_lifecycle_induct hooks
    (fun state steps _ => TakesTurns app (comings app steps) (state.system.appIds.contains app)) (fun _ _ _ h => h) ?_
    batches lifecycle ⟨0, rfl, by simp [AccessState.empty]⟩).2
  intro s c steps earlier lifecycle recorded turns
  have system : (s.perform ps c).state.system = c.records s.state.system :=
    Session.perform_system_lifecycle hooks lifecycle recorded.toIndexed
  have told : comings app (steps ++ [⟨s.state, c⟩]) =
      comings app steps ++ (c.events s.state.system).filter (·.concerns app) := by
    simp [comings]
  rw [system, told]
  rcases c.events_concerning recorded app with ⟨now, same⟩ | ⟨now, absent, present⟩ | ⟨now, present, absent⟩
  · rw [now, List.append_nil, same]
    exact turns
  · rw [absent] at turns
    rw [now, present]
    exact turns.added
  · rw [present] at turns
    rw [now, absent]
    exact turns.removed

section Heard

variable {ps : PolicySet} {p : SchemePolicy}

theorem filterMap_pair {α : Type} (a : α) {policies : List SchemePolicy}
    (distinct : (policies.map SchemePolicy.pair).Nodup) (mem : p ∈ policies) :
    policies.filterMap (fun q => if q.pair = p.pair then some a else none) = [a] := by
  induction policies with
  | nil => cases mem
  | cons q rest ih =>
    rw [List.map_cons, List.nodup_cons] at distinct
    obtain ⟨fresh, distinct⟩ := distinct
    rcases List.mem_cons.1 mem with rfl | mem
    · have nobody : rest.filterMap (fun q => if q.pair = p.pair then some a else none) = [] :=
        List.filterMap_eq_nil_iff.2 fun other ho => if_neg fun same => fresh (List.mem_map.2 ⟨other, ho, same⟩)
      simp [nobody]
    · have other : q.pair ≠ p.pair := fun same => fresh (List.mem_map.2 ⟨p, mem, same.symm⟩)
      simp [other, ih distinct mem]

theorem PolicySet.Registered.heard_announcement (registered : ps.Registered) (mem : p ∈ ps.policies) (app : AppId)
    (event : Lifecycle) : heard p.pair app (ps.announcement event) = if event.concerns app then [event] else [] := by
  unfold PolicySet.announcement heard
  rw [List.filterMap_map]
  by_cases about : event.concerns app
  · simp only [Function.comp_def, about, and_true, if_true]
    exact filterMap_pair event registered.pairs_nodup mem
  · simp [about]

theorem PolicySet.Registered.heard_announcements (registered : ps.Registered) (mem : p ∈ ps.policies) (app : AppId)
    (events : List Lifecycle) : heard p.pair app (events.flatMap ps.announcement) = events.filter (·.concerns app) := by
  induction events with
  | nil => rfl
  | cons event rest ih =>
    rw [List.flatMap_cons, heard, List.filterMap_append]
    change heard p.pair app _ ++ heard p.pair app _ = _
    rw [registered.heard_announcement mem, ih, List.filter_cons]
    split <;> rfl

end Heard

/-- Under registered policies that keep their hands off the system part, a run of commands other than decisions calls
    them as its commands announce, and for nothing else. At every place in a run the next command comes to its
    bookkeeping and the reactions of the policies it calls, each to the state that the calls before have left. What
    each policy hears about an application identifier is its coming and going in turns; the identifier is there exactly
    if its coming was heard last. -/
theorem PolicySet.run_announcements {ps : PolicySet} (registered : ps.Registered) (hooks : ps.HooksKeepSystem)
    (batches : List (List Command)) (lifecycle : ∀ batch ∈ batches, ∀ c ∈ batch, c.isLifecycle) :
    (ps.calls .empty batches).map Call.notice = ((ps.history .empty batches).flatMap fun step =>
      (step.command.events step.before.system).flatMap ps.announcement) ∧
    (∀ begun : List Command, (∀ c ∈ begun, c.isLifecycle) →
      let s := (Session.begin (ps.run .empty batches)).run ps begun
      ps.run .empty (batches ++ [begun]) = s.state ∧
      ∀ c : Command, c.isLifecycle → ∃ made, (s.perform ps c).calls = s.calls ++ made ∧
        made.map Call.notice = (c.events s.state.system).flatMap ps.announcement ∧
        ps.CarriedOut (ps.run .empty batches) (c.bookkeeping s.draft) made (s.perform ps c).draft) ∧
    ∀ p ∈ ps.policies, ∀ app : AppId,
      (∀ i event, (heard p.pair app ((ps.calls .empty batches).map Call.notice))[i]? = some event →
        event = if i % 2 = 0 then .appIdAdded app else .appIdRemoved app) ∧
      ((ps.run .empty batches).system.appIds.contains app ↔
        (heard p.pair app ((ps.calls .empty batches).map Call.notice)).getLast? = some (.appIdAdded app)) := by
  have notices := calls_notices hooks batches lifecycle
  refine ⟨notices, fun begun others => ?_, fun p mem app => ?_⟩
  · have whole : ∀ batch ∈ batches ++ [begun], ∀ c ∈ batch, c.isLifecycle :=
      List.forall_mem_append.2 ⟨lifecycle, List.forall_mem_singleton.2 others⟩
    have published := ps.run_concat .empty batches begun
    have recorded := run_system_recorded hooks (batches ++ [begun]) whole
    rw [published] at recorded
    refine ⟨published, fun c next => ?_⟩
    have gave : Session.Gave ps _ _ _ := Session.perform_gave next recorded.toIndexed
    have made := gave.calls
    rwa [Session.edit, Session.run_old] at made
  · have turns := history_takesTurns hooks batches lifecycle app
    have told : heard p.pair app ((ps.calls .empty batches).map Call.notice) =
        comings app (ps.history .empty batches) := by
      rw [notices, heard, List.filterMap_flatMap]
      congr 1
      funext step
      exact registered.heard_announcements mem app _
    rw [told]
    exact ⟨fun i event at_i => turns.getElem? at_i, turns.getLast?⟩

/-- Two packages come and go under one application identifier, for which a permission is granted as soon as there is a
    user. Its end is announced with the second package, although the first was removed under another; the grant goes
    with it. -/
theorem PolicySet.run_announcements_shared :
    let seed : SchemePolicy := {
      pair := ⟨"seed", "seed"⟩, decide := fun _ _ _ => .denied, store := fun _ _ _ _ draft => draft
      react := fun event _ draft => if event = .userAdded ⟨0⟩ then
        draft.editUser ⟨0⟩ (UidTable.permission.update (UidTable.permission.write ⟨10⟩ "CAMERA" .granted)) else draft }
    let ps := (builtin.register seed).2
    let camera : Package := ⟨⟨"camera"⟩, ⟨10⟩, []⟩
    let gallery : Package := ⟨⟨"gallery"⟩, ⟨10⟩, []⟩
    let batches : List (List Command) := [[.addUser ⟨0⟩, .addPackage camera, .addPackage gallery]]
    let begun : List Command := [.removePackage ⟨⟨"camera"⟩, ⟨99⟩, []⟩]
    let last := Command.removePackage gallery
    let s := (Session.begin (ps.run .empty batches)).run ps begun
    let all := batches ++ [begun ++ [last]]
    let notices := (ps.calls .empty all).map Call.notice
    ps.Registered ∧ ps.HooksKeepSystem ∧ (∀ batch ∈ all, ∀ c ∈ batch, c.isLifecycle) ∧
      notices = [.userAdded ⟨0⟩, .appIdAdded ⟨10⟩, .packageAdded camera, .packageAdded gallery, .packageRemoved camera,
        .packageRemoved gallery, .appIdRemoved ⟨10⟩].flatMap ps.announcement ∧
      heard seed.pair ⟨10⟩ notices = [.appIdAdded ⟨10⟩, .appIdRemoved ⟨10⟩] ∧
      ¬(ps.run .empty all).system.appIds.contains ⟨10⟩ ∧
      (∃ made, (s.perform ps last).calls = s.calls ++ made ∧
        made.map Call.notice = [.packageRemoved gallery, .appIdRemoved ⟨10⟩].flatMap ps.announcement ∧
        ps.CarriedOut (ps.run .empty batches) (last.bookkeeping s.draft) made (s.perform ps last).draft) ∧
      UidTable.permission.lookup ⟨10⟩ "CAMERA" s.state = .granted ∧
      UidTable.permission.lookup ⟨10⟩ "CAMERA" (s.perform ps last).state = .denied := by
  intro seed ps camera gallery batches begun last s all notices
  have accepted : builtin.register seed = (.ok (), builtin.append seed) :=
    builtin_registered.located.register_free (by decide)
  have registered : ps.Registered := .register builtin_registered (congrArg Prod.fst accepted)
  have policies : ps.policies = builtin.policies ++ [seed] := congrArg (fun result => result.2.policies) accepted
  have hooks : ps.HooksKeepSystem := by
    intro p mem event old draft
    rw [policies] at mem
    rcases List.mem_append.1 mem with before | new
    · exact builtin_keepsRecords.hooksKeepSystem p before event old draft
    · rw [List.mem_singleton.1 new]
      show (if _ then _ else _ : Draft).system = _
      split
      · exact Draft.editUser_system ..
      · rfl
  have lifecycle : ∀ batch ∈ all, ∀ c ∈ batch, c.isLifecycle := by decide
  obtain ⟨told, -, turns⟩ := run_announcements registered hooks all lifecycle
  obtain ⟨-, places, -⟩ := run_announcements registered hooks batches (by decide)
  obtain ⟨made, calls, notified, carried⟩ := (places begun (by decide)).2 last rfl
  have hears : heard seed.pair ⟨10⟩ notices = [.appIdAdded ⟨10⟩, .appIdRemoved ⟨10⟩] := by decide
  refine ⟨registered, hooks, lifecycle, told.trans (by decide), hears, ?_,
    ⟨made, calls, notified.trans (by decide), carried⟩, by decide, by decide⟩
  rw [(turns seed (policies ▸ List.mem_append_right _ List.mem_cons_self) ⟨10⟩).2, hears]
  decide

end Gatekeeper
