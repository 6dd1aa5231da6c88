import Gatekeeper.Policy.Session
import Gatekeeper.Proofs.State.Draft
import Gatekeeper.Proofs.State.Records

set_option autoImplicit false

namespace Gatekeeper

/-- What a command makes of the system part. A command that is ignored leaves it as it is. -/
def Command.records : Command → SystemState → SystemState
  | .addUser u, sys => { sys with userIds := sys.userIds.add u }
  | .removeUser u, sys => { sys with userIds := sys.userIds.erase u }
  | .addPackage p, sys => if Session.mayInstall p sys then Session.install p sys else sys
  | .removePackage p, sys =>
    match sys.packages.get? p.name with
    | some installed => Session.uninstall p.name installed.appId sys
    | none => sys
  | .setDecision .., sys => sys

def Command.knows (c : Command) (u : UserId) (known : Bool) : Bool :=
  match c with
  | .addUser v => if u = v then true else known
  | .removeUser v => if u = v then false else known
  | _ => known

def Command.isLifecycle : Command → Bool
  | .setDecision .. => false
  | _ => true

theorem Command.records_userIds (c : Command) (sys : SystemState) (u : UserId) :
    (c.records sys).userIds.contains u = c.knows u (sys.userIds.contains u) := by
  cases c with
  | addUser v =>
    by_cases h : u = v
    · simp [records, knows, h]
    · simp [records, knows, h, SortedMap.contains_insert_ne _ _ h]
  | removeUser v =>
    by_cases h : u = v
    · simp [records, knows, h]
    · simp [records, knows, h, SortedMap.contains_erase_ne _ h]
  | addPackage p =>
    simp only [records, knows]
    split <;> rfl
  | removePackage p =>
    simp only [records, knows]
    split <;> rfl
  | setDecision => rfl

namespace Session

theorem mayInstall_iff (p : Package) (sys : SystemState) : mayInstall p sys ↔
    p.appId.isValid ∧ ∀ installed, sys.packages.get? p.name = some installed → installed.appId = p.appId := by
  unfold mayInstall
  cases sys.packages.get? p.name <;> simp

theorem install_recorded {sys : SystemState} {p : Package} (h : sys.Recorded) (may : mayInstall p sys) :
    (install p sys).Recorded := by
  obtain ⟨valid, same⟩ := (mayInstall_iff p sys).1 may
  have packages (name : PackageName) (q : Package) (hq : (install p sys).packages.get? name = some q) :
      (p.name = name ∧ p = q) ∨ sys.packages.get? name = some q := by
    by_cases e : name = p.name
    · subst e
      rw [install, SortedMap.get?_insert_self, Option.some.injEq] at hq
      exact .inl ⟨rfl, hq⟩
    · rw [install, SortedMap.get?_insert_ne _ _ e] at hq
      exact .inr hq
  refine ⟨⟨fun app name => ?_, SetMap.relate_noneEmpty h.noneEmpty _ _⟩, fun name q hq => ?_, fun name q hq => ?_⟩
  · rw [install, SetMap.relate_holds, h.listed]
    by_cases e : name = p.name
    · subst e
      simp only [SortedMap.get?_insert_self, Option.some.injEq, exists_eq_left', and_true]
      constructor
      · rintro (rfl | ⟨q, hq, rfl⟩)
        · rfl
        · exact (same q hq).symm
      · exact fun e => .inl e.symm
    · simp [SortedMap.get?_insert_ne _ _ e, e]
  · rcases packages name q hq with ⟨e, rfl⟩ | old
    · exact e
    · exact h.named name q old
  · rcases packages name q hq with ⟨-, rfl⟩ | old
    · exact valid
    · exact h.valid name q old

theorem uninstall_recorded {sys : SystemState} {name : PackageName} {installed : Package} (h : sys.Recorded)
    (stored : sys.packages.get? name = some installed) : (uninstall name installed.appId sys).Recorded := by
  have packages (other : PackageName) (q : Package)
      (hq : (uninstall name installed.appId sys).packages.get? other = some q) :
      sys.packages.get? other = some q := by
    by_cases e : other = name
    · subst e
      rw [uninstall, SortedMap.get?_erase_self] at hq
      cases hq
    · rwa [uninstall, SortedMap.get?_erase_ne _ e] at hq
  refine ⟨⟨fun app other => ?_, SetMap.unrelate_noneEmpty h.noneEmpty _ _⟩,
    fun other q hq => h.named other q (packages other q hq), fun other q hq => h.valid other q (packages other q hq)⟩
  rw [uninstall, SetMap.unrelate_holds, h.listed]
  by_cases e : other = name
  · subst e
    simp only [stored, Option.some.injEq, exists_eq_left', SortedMap.get?_erase_self, and_true]
    simpa using fun same => same.symm
  · simp [SortedMap.get?_erase_ne _ e, e]

end Session

theorem Command.records_recorded (c : Command) {sys : SystemState} (h : sys.Recorded) :
    (c.records sys).Recorded := by
  cases c with
  | addUser u => exact ⟨⟨h.listed, h.noneEmpty⟩, h.named, h.valid⟩
  | removeUser u => exact ⟨⟨h.listed, h.noneEmpty⟩, h.named, h.valid⟩
  | addPackage p =>
    simp only [records]
    split
    · next may => exact Session.install_recorded h may
    · exact h
  | removePackage p =>
    simp only [records]
    split
    · next stored => exact Session.uninstall_recorded h stored
    · exact h
  | setDecision => exact h

/-- The part of a command that is done before any policy hears of it. -/
def Command.bookkeeping : Command → Draft → Draft
  | .addUser u, d => (d.editSystem fun sys => { sys with userIds := sys.userIds.add u }).insertUser u {}
  | .removeUser u, d =>
    if d.system.userIds.contains u then
      (d.editSystem fun sys => { sys with userIds := sys.userIds.erase u }).removeUser u
    else d
  | .addPackage p, d => if Session.mayInstall p d.system then d.editSystem (Session.install p) else d
  | .removePackage p, d =>
    match d.system.packages.get? p.name with
    | some installed => d.editSystem (Session.uninstall p.name installed.appId)
    | none => d
  | .setDecision .., d => d

/-- What policies are told of a command, in order. An ignored command is not worth telling. -/
def Command.events : Command → SystemState → List Lifecycle
  | .addUser u, _ => [.userAdded u]
  | .removeUser u, sys => if sys.userIds.contains u then [.userRemoved u] else []
  | .addPackage p, sys =>
    if Session.mayInstall p sys then
      (if sys.holders p.appId = [] then [.appIdAdded p.appId] else []) ++ [.packageAdded p]
    else []
  | .removePackage p, sys =>
    match sys.packages.get? p.name with
    | some installed =>
      .packageRemoved installed ::
        if sys.holders installed.appId = [p.name] then [.appIdRemoved installed.appId] else []
    | none => []
  | .setDecision .., _ => []

theorem Command.bookkeeping_system (c : Command) (d : Draft) : (c.bookkeeping d).system = c.records d.system := by
  cases c with
  | addUser u => rfl
  | removeUser u =>
    simp only [bookkeeping, records]
    split
    · rfl
    · next unknown => rw [SortedMap.erase_of_not_contains _ (Bool.eq_false_iff.2 unknown)]
  | addPackage p =>
    simp only [bookkeeping, records]
    split <;> rfl
  | removePackage p =>
    simp only [bookkeeping, records]
    split <;> rfl
  | setDecision => rfl

theorem Command.bookkeeping_users (c : Command) {d : Draft} {u : UserId}
    (h : d.users.contains u = d.system.userIds.contains u) :
    (c.bookkeeping d).users.contains u = c.knows u (d.users.contains u) := by
  cases c with
  | addUser v =>
    by_cases e : u = v
    · simp [bookkeeping, knows, e]
    · simp [bookkeeping, knows, e, SortedMap.contains_insert_ne _ _ e]
  | removeUser v =>
    simp only [bookkeeping, knows]
    by_cases e : u = v
    · subst e
      split
      · simp
      · next unknown => simpa [h] using unknown
    · rw [if_neg e]
      split
      · exact SortedMap.contains_erase_ne _ e
      · rfl
  | addPackage p =>
    simp only [bookkeeping, knows]
    split <;> rfl
  | removePackage p =>
    simp only [bookkeeping, knows]
    split <;> rfl
  | setDecision => rfl

theorem Command.mem_events_appIdRemoved (c : Command) (sys : SystemState) (app : AppId) :
    .appIdRemoved app ∈ c.events sys ↔ ∃ p, c = .removePackage p ∧ sys.holders app = [p.name] := by
  cases c with
  | addUser u => simp [events]
  | removeUser u =>
    simp only [events]
    split <;> simp
  | addPackage p =>
    simp only [events]
    split
    · split <;> simp
    · simp
  | setDecision => simp [events]
  | removePackage p =>
    have stored (last : sys.holders app = [p.name]) :
        ∃ installed, sys.packages.get? p.name = some installed ∧ installed.appId = app :=
      (sys.mem_holders_iff app p.name).1 (by rw [last]; exact List.mem_singleton_self _)
    simp only [events, Command.removePackage.injEq, exists_eq_left']
    cases installed : sys.packages.get? p.name with
    | none =>
      rw [installed] at stored
      simpa using fun last => by simpa using stored last
    | some q =>
      rw [installed] at stored
      constructor
      · intro told
        by_cases last : sys.holders q.appId = [p.name]
        · simp only [last, if_true, List.mem_cons, reduceCtorEq, false_or, List.not_mem_nil, or_false,
            Lifecycle.appIdRemoved.injEq] at told
          rwa [told]
        · simp [last] at told
      · intro last
        obtain ⟨q', same, rfl⟩ := stored last
        obtain rfl := Option.some.inj same
        simp [last]

namespace Session

def announce (ps : PolicySet) (events : List Lifecycle) (s : Session) : Session :=
  events.foldl (fun s event => s.notify ps event) s

theorem perform_eq_announce (ps : PolicySet) {s : Session} {c : Command} (lifecycle : c.isLifecycle)
    (h : s.draft.system.Indexed) :
    s.perform ps c = (s.edit c.bookkeeping).announce ps (c.events s.draft.system) := by
  cases c with
  | addUser u => rfl
  | removeUser u =>
    simp only [perform, removeUser, Command.events, edit, Command.bookkeeping]
    split <;> rfl
  | addPackage p =>
    simp only [perform, addPackage, Command.events, edit, Command.bookkeeping]
    split
    · by_cases first : s.draft.system.holders p.appId = []
      · simp [first, (h.creates_iff p.appId).2 first, announce]
      · simp [first, mt (h.creates_iff p.appId).1 first, announce]
    · rfl
  | removePackage p =>
    simp only [perform, removePackage, Command.events, edit, Command.bookkeeping]
    cases stored : s.draft.system.packages.get? p.name with
    | none => rfl
    | some installed =>
      have emptied := h.emptied_iff installed.appId p.name
      by_cases last : s.draft.system.holders installed.appId = [p.name]
      · simp [last, emptied.2 last, announce]
      · simp [last, mt emptied.1 last, announce]
  | setDecision => cases lifecycle

theorem foldl_call_old (r : Request) (policies : List SchemePolicy) (s : Session) :
    (policies.foldl (fun s p => s.call p r) s).old = s.old := by
  induction policies generalizing s with
  | nil => rfl
  | cons p rest ih => exact ih (s.call p r)

theorem notify_old (ps : PolicySet) (event : Lifecycle) (s : Session) : (s.notify ps event).old = s.old :=
  foldl_call_old _ ps.policies s

theorem perform_old (ps : PolicySet) (s : Session) (c : Command) : (s.perform ps c).old = s.old := by
  cases c with
  | addUser u => exact notify_old ..
  | removeUser u =>
    simp only [perform, removeUser]
    split
    · exact notify_old ..
    · rfl
  | addPackage p =>
    simp only [perform, addPackage]
    split
    · split
      · exact (notify_old ..).trans (notify_old ..)
      · exact notify_old ..
    · rfl
  | removePackage p =>
    simp only [perform, removePackage]
    split
    · split
      · exact (notify_old ..).trans (notify_old ..)
      · exact notify_old ..
    · rfl
  | setDecision subject object d =>
    simp only [perform, setDecision]
    split <;> rfl

theorem notify_induct {ps : PolicySet} {event : Lifecycle} (P : Draft → Prop) {s : Session}
    (react : ∀ p ∈ ps.policies, ∀ d, P d → P (p.react event s.old d)) (start : P s.draft) :
    P (s.notify ps event).draft := by
  unfold notify
  generalize ps.policies = policies at react ⊢
  induction policies generalizing s with
  | nil => exact start
  | cons p rest ih =>
    have now : P (s.call p (.lifecycle event)).draft := react p List.mem_cons_self s.draft start
    exact ih now fun q hq => react q (List.mem_cons_of_mem _ hq)

theorem announce_induct {ps : PolicySet} {events : List Lifecycle} (P : Draft → Prop) {s : Session}
    (react : ∀ event ∈ events, ∀ p ∈ ps.policies, ∀ d, P d → P (p.react event s.old d)) (start : P s.draft) :
    P (s.announce ps events).draft := by
  induction events generalizing s with
  | nil => exact start
  | cons event rest ih =>
    have now := notify_induct P (react event List.mem_cons_self) start
    have old := s.notify_old ps event
    refine ih (fun next hn p hp d hd => ?_) now
    rw [old]
    exact react next (List.mem_cons_of_mem _ hn) p hp d hd

/-- What every access of the bookkeeping keeps, and every policy that is called, a command keeps. -/
theorem perform_induct {ps : PolicySet} (P : Draft → Prop) {s : Session}
    (editSystem : ∀ f d, P d → P (d.editSystem f)) (insertUser : ∀ u d, P d → P (d.insertUser u {}))
    (removeUser : ∀ u d, P d → P (d.removeUser u))
    (react : ∀ p ∈ ps.policies, ∀ event d, P d → P (p.react event s.old d))
    (store : ∀ subject object p, ps.route? subject object = some p →
      ∀ decision d, P d → P (p.store subject object decision s.old d))
    (c : Command) (start : P s.draft) : P (s.perform ps c).draft := by
  have told (event : Lifecycle) {s' : Session} (old : s'.old = s.old) (now : P s'.draft) :
      P (s'.notify ps event).draft :=
    notify_induct P (fun p hp d hd => old ▸ react p hp event d hd) now
  cases c with
  | addUser u => exact told _ rfl (insertUser u _ (editSystem _ _ start))
  | removeUser u =>
    simp only [perform, Session.removeUser]
    split
    · exact told _ rfl (removeUser u _ (editSystem _ _ start))
    · exact start
  | addPackage p =>
    simp only [perform, addPackage]
    split
    · split
      · exact told _ (notify_old ..) (told _ rfl (editSystem _ _ start))
      · exact told _ rfl (editSystem _ _ start)
    · exact start
  | removePackage p =>
    simp only [perform, removePackage]
    split
    · split
      · exact told _ (notify_old ..) (told _ rfl (editSystem _ _ start))
      · exact told _ rfl (editSystem _ _ start)
    · exact start
  | setDecision subject object d =>
    simp only [perform, setDecision]
    split
    · next p route => exact store subject object p route d _ start
    · exact start

end Session

namespace PolicySet

def HooksKeepSystem (ps : PolicySet) : Prop :=
  ∀ p ∈ ps.policies, ∀ event old draft, (p.react event old draft).system = draft.system

/-- No policy of the set writes to the system part or adds or removes a user, whatever it is called for. -/
structure KeepsRecords (ps : PolicySet) : Prop where
  store : ∀ subject object p, ps.route? subject object = some p →
    ∀ d old draft, Draft.SameRecords draft (p.store subject object d old draft)
  react : ∀ p ∈ ps.policies, ∀ event old draft, Draft.SameRecords draft (p.react event old draft)

/-- No policy of the set gives a draft another number, whatever it is called for. -/
structure KeepsNumber (ps : PolicySet) : Prop where
  store : ∀ subject object p, ps.route? subject object = some p →
    ∀ d old draft, (p.store subject object d old draft).version = draft.version
  react : ∀ p ∈ ps.policies, ∀ event old draft, (p.react event old draft).version = draft.version

theorem KeepsRecords.hooksKeepSystem {ps : PolicySet} (h : ps.KeepsRecords) : ps.HooksKeepSystem :=
  fun p hp event old draft => (h.react p hp event old draft).system

end PolicySet

structure AccessState.Recorded (s : AccessState) : Prop where
  system : s.system.Recorded
  users : ∀ u, s.users.contains u = s.system.userIds.contains u

namespace Session

variable {ps : PolicySet} {s : Session}

theorem perform_version (h : ps.KeepsNumber) (c : Command) : (s.perform ps c).draft.version = s.draft.version :=
  perform_induct (fun d => d.version = s.draft.version) (fun _ _ kept => kept) (fun _ _ kept => kept)
    (fun _ _ kept => kept) (fun p mem event d kept => (h.react p mem event s.old d).trans kept)
    (fun subject object p route decision d kept => (h.store subject object p route decision s.old d).trans kept) c rfl

theorem announce_system (hooks : ps.HooksKeepSystem) (events : List Lifecycle) :
    (s.announce ps events).draft.system = s.draft.system :=
  announce_induct (fun d => d.system = s.draft.system)
    (fun event _ p hp d hd => (hooks p hp event s.old d).trans hd) rfl

theorem announce_sameRecords (h : ps.KeepsRecords) (events : List Lifecycle) :
    Draft.SameRecords s.draft (s.announce ps events).draft :=
  announce_induct (Draft.SameRecords s.draft)
    (fun event _ p hp d hd => hd.trans (h.react p hp event s.old d)) (.refl _)

theorem perform_system_lifecycle (hooks : ps.HooksKeepSystem) {c : Command} (lifecycle : c.isLifecycle)
    (h : s.draft.system.Indexed) : (s.perform ps c).draft.system = c.records s.draft.system := by
  rw [perform_eq_announce ps lifecycle h, announce_system hooks]
  exact c.bookkeeping_system s.draft

theorem setDecision_sameRecords (h : ps.KeepsRecords) (subject object : AccessUri) (d : Decision) :
    Draft.SameRecords s.draft (s.setDecision ps subject object d).draft := by
  unfold setDecision
  cases route : ps.route? subject object with
  | none => exact .refl _
  | some p => exact h.store subject object p route d s.old s.draft

theorem perform_system (h : ps.KeepsRecords) (c : Command) (indexed : s.draft.system.Indexed) :
    (s.perform ps c).draft.system = c.records s.draft.system := by
  by_cases lifecycle : c.isLifecycle
  · exact perform_system_lifecycle h.hooksKeepSystem lifecycle indexed
  · cases c with
    | setDecision subject object d => exact (setDecision_sameRecords h subject object d).system
    | _ => simp [Command.isLifecycle] at lifecycle

theorem perform_users (h : ps.KeepsRecords) (c : Command) (recorded : s.state.Recorded) (u : UserId) :
    (s.perform ps c).draft.users.contains u = c.knows u (s.draft.users.contains u) := by
  by_cases lifecycle : c.isLifecycle
  · rw [perform_eq_announce ps lifecycle recorded.system.toIndexed, (announce_sameRecords h _).users]
    exact c.bookkeeping_users (recorded.users u)
  · cases c with
    | setDecision subject object d => exact (setDecision_sameRecords h subject object d).users u
    | _ => simp [Command.isLifecycle] at lifecycle

theorem perform_recorded (h : ps.KeepsRecords) (c : Command) (recorded : s.state.Recorded) :
    (s.perform ps c).state.Recorded := by
  have system := perform_system h c recorded.system.toIndexed
  refine ⟨?_, fun u => ?_⟩
  · show (s.perform ps c).draft.system.Recorded
    rw [system]
    exact c.records_recorded recorded.system
  · show (s.perform ps c).draft.users.contains u = (s.perform ps c).draft.system.userIds.contains u
    rw [perform_users h c recorded, system, c.records_userIds]
    exact congrArg (c.knows u) (recorded.users u)

end Session
end Gatekeeper
