import Gatekeeper.Replay
import Gatekeeper.Proofs.Service
import Gatekeeper.Proofs.Policy.Bookkeeping

/-!
# Events of a replay

An event reaches the service, the listeners, or both. What the service is left with depends on the published state
alone: `AccessState.follow` is that state after an event, with the policies applied directly. A check that expects
another decision than this state gives is the one event that fails; all others advance the replay in both its halves.
So a run goes through, or stops at the first such check (`run_ended`).
-/

set_option autoImplicit false

namespace Gatekeeper

namespace Event

/-- The command an event gives in a state. The removal of a package that is not installed gives none. -/
def command? (s : AccessState) : Event → Option Command
  | .addUser u => some (.addUser u)
  | .removeUser u => some (.removeUser u)
  | .addPackage p => some (.addPackage p)
  | .removePackage name => (s.system.packages.get? name).map .removePackage
  | .setDecision subject object d => some (.setDecision subject object d)
  | .check .. | .subscribe .. | .unsubscribe .. | .publish .. => none

def isCheck : Event → Bool
  | .check .. => true
  | _ => false

/-- The error of a check that expects another decision than the policies give in a state. -/
def contradiction? (s : AccessState) : Event → Option Error
  | .check subject object (some d) =>
    let found := PolicySet.builtin.decide subject object s
    if d = found then none else some (Replay.checkError subject object d found)
  | _ => none

theorem contradiction?_eq_some_iff (s : AccessState) (e : Event) (error : Error) :
    e.contradiction? s = some error ↔ ∃ subject object d, e = .check subject object (some d) ∧
      d ≠ PolicySet.builtin.decide subject object s ∧
      error = Replay.checkError subject object d (PolicySet.builtin.decide subject object s) := by
  constructor
  · intro found
    unfold contradiction? at found
    split at found
    · next subject object d =>
      simp only [Option.ite_none_left_eq_some, Option.some.injEq] at found
      exact ⟨subject, object, d, rfl, found.1, found.2.symm⟩
    · cases found
  · intro check
    obtain ⟨subject, object, d, rfl, other, rfl⟩ := check
    exact if_neg other

end Event

namespace AccessState

/-- What a command makes of a state under the built-in policies, on a version of its own. -/
def next (s : AccessState) (c : Command) : AccessState := ((Session.begin s).perform .builtin c).state

def follow (s : AccessState) (e : Event) : AccessState :=
  match e.command? s with
  | some c => s.next c
  | none => s

def after (s : AccessState) (events : List Event) : AccessState := events.foldl follow s

theorem next_version (s : AccessState) (c : Command) : (s.next c).version = s.version + 1 :=
  Session.perform_version PolicySet.builtin_keepsNumber c

theorem Recorded.next {s : AccessState} (h : s.Recorded) (c : Command) : (s.next c).Recorded :=
  Session.perform_recorded PolicySet.builtin_keepsRecords c h.begin

theorem Recorded.follow {s : AccessState} (h : s.Recorded) (e : Event) : (s.follow e).Recorded := by
  unfold AccessState.follow
  split
  · exact h.next _
  · exact h

theorem Recorded.after {s : AccessState} (h : s.Recorded) (events : List Event) : (s.after events).Recorded := by
  induction events generalizing s with
  | nil => exact h
  | cons e rest ih => exact ih (h.follow e)

end AccessState

/-- The check at a place among some events expects another decision than the policies give after the events before. -/
def AccessState.ContradictedAt (s : AccessState) (events : List Event) (i : Nat) : Prop :=
  ∃ subject object d, events[i]? = some (.check subject object (some d)) ∧
    d ≠ PolicySet.builtin.decide subject object (s.after (events.take i))

namespace AccessState

theorem contradictedAt_zero (s : AccessState) (e : Event) (rest : List Event) :
    s.ContradictedAt (e :: rest) 0 ↔ ∃ error, e.contradiction? s = some error := by
  simp only [Event.contradiction?_eq_some_iff]
  constructor
  · intro contradicted
    obtain ⟨subject, object, d, there, other⟩ := contradicted
    exact ⟨_, subject, object, d, Option.some.inj there, other, rfl⟩
  · intro check
    obtain ⟨-, subject, object, d, rfl, other, -⟩ := check
    exact ⟨subject, object, d, rfl, other⟩

theorem contradictedAt_take (s : AccessState) (events : List Event) (n i : Nat) :
    s.ContradictedAt (events.take n) i ↔ i < n ∧ s.ContradictedAt events i := by
  unfold ContradictedAt
  by_cases inside : i < n
  · simp [List.take_take, Nat.min_eq_left (Nat.le_of_lt inside), inside]
  · have none : (events.take n)[i]? = none := List.getElem?_take_eq_none (Nat.le_of_not_lt inside)
    refine iff_of_false (fun found => ?_) fun both => inside both.1
    obtain ⟨subject, object, d, there, -⟩ := found
    cases none.symm.trans there

end AccessState

structure Service.Open (svc : Service) : Prop where
  policies : svc.policies = .builtin
  unpoisoned : svc.poisoned = []

theorem Service.Open.perform {svc : Service} (h : svc.Open) (c : Command) :
    ∃ calls, svc.perform c =
      (.published (svc.published.next c).version, calls, { svc with published := svc.published.next c }) := by
  have free (lock : ServiceLock) : lock ∉ svc.poisoned := by
    rw [h.unpoisoned]
    exact List.not_mem_nil
  have done : c.work svc.policies (Session.begin svc.published) =
      ((Session.begin svc.published).perform .builtin c, .finished) := by
    rw [h.policies]
    rfl
  exact ⟨_, write_finished (free _) (free _) done⟩

namespace Replay

/-- The service's half of an event. -/
def serve (r : Replay) (e : Event) : Replay :=
  { r with
    service := { r.service with published := r.state.follow e }
    stats := { r.stats with checks := r.stats.checks + if e.isCheck then 1 else 0 } }

def hear (r : Replay) : Event → Replay
  | .removeUser u => { r with board := r.board.clearUser u }
  | .subscribe name u => r.subscribe name u
  | .unsubscribe name u => r.unsubscribe name u
  | .publish u data => r.publish u data
  | .addUser _ | .addPackage _ | .removePackage _ | .setDecision .. | .check .. => r

/-- An event that does not fail. -/
def advance (r : Replay) (e : Event) : Replay :=
  ((r.serve e).hear e).count fun s => { s with events := s.events + 1 }

def applied (r : Replay) (events : List Event) : Replay := events.foldl advance r

/-- A replay that a check has stopped. -/
def stopped (r : Replay) : Replay := r.count fun s => { s with checks := s.checks + 1 }

theorem decide_eq {r : Replay} (h : r.service.Open) (subject object : AccessUri) :
    r.service.decide subject object = PolicySet.builtin.decide subject object r.state := by
  rw [Service.decide, h.policies]
  rfl

theorem write_eq {r : Replay} (h : r.service.Open) (c : Command) :
    r.write c = (.ok (), { r with service := { r.service with published := r.state.next c } }) := by
  obtain ⟨calls, performed⟩ := h.perform c
  rw [write, performed]
  rfl

theorem step_stopped {r : Replay} (h : r.service.Open) {e : Event} {error : Error}
    (wrong : e.contradiction? r.state = some error) : r.step e = (.error error, r.stopped) := by
  obtain ⟨subject, object, d, rfl, other, rfl⟩ := (e.contradiction?_eq_some_iff r.state error).1 wrong
  have failed : r.apply (.check subject object (some d)) =
      (.error (checkError subject object d (PolicySet.builtin.decide subject object r.state)), r.stopped) := by
    rw [← decide_eq h] at other ⊢
    exact congrArg (·, r.stopped) (if_neg other)
  rw [step, failed]

theorem step_advance {r : Replay} (h : r.service.Open) {e : Event} (fine : e.contradiction? r.state = none) :
    r.step e = (.ok (), r.advance e) := by
  unfold step
  cases e with
  | addUser u =>
    rewrite [apply, write_eq h]
    rfl
  | removeUser u =>
    rewrite [apply, write_eq h]
    rfl
  | addPackage p =>
    rewrite [apply, write_eq h]
    rfl
  | removePackage name =>
    -- Only an installed package reaches the service.
    rewrite [apply, advance, serve, AccessState.follow, Event.command?]
    cases r.state.system.packages.get? name with
    | none => rfl
    | some p =>
      simp only [write_eq h]
      rfl
  | setDecision subject object d =>
    rewrite [apply, write_eq h]
    rfl
  | check subject object expect =>
    cases expect with
    | none => rfl
    | some d =>
      have same : d = r.service.decide subject object := by
        rw [decide_eq h]
        simpa [Event.contradiction?] using fine
      have passed : r.apply (.check subject object (some d)) = (.ok (), r.stopped) :=
        congrArg (·, r.stopped) (if_pos same)
      rw [passed]
      rfl
  | subscribe name u => rfl
  | unsubscribe name u => rfl
  | publish u data => rfl

theorem hear_apart (r : Replay) (e : Event) :
    (r.hear e).service = r.service ∧ (r.hear e).stats.events = r.stats.events ∧
      (r.hear e).stats.checks = r.stats.checks := by
  cases e with
  | subscribe name u =>
    simp only [hear, subscribe]
    split <;> exact ⟨rfl, rfl, rfl⟩
  | unsubscribe name u =>
    simp only [hear, unsubscribe]
    split <;> exact ⟨rfl, rfl, rfl⟩
  | _ => exact ⟨rfl, rfl, rfl⟩

@[simp] theorem advance_service (r : Replay) (e : Event) : (r.advance e).service = (r.serve e).service :=
  (hear_apart _ e).1

@[simp] theorem advance_events (r : Replay) (e : Event) : (r.advance e).stats.events = r.stats.events + 1 :=
  congrArg (· + 1) (hear_apart _ e).2.1

@[simp] theorem advance_checks (r : Replay) (e : Event) :
    (r.advance e).stats.checks = r.stats.checks + if e.isCheck then 1 else 0 := (hear_apart _ e).2.2

@[simp] theorem advance_state (r : Replay) (e : Event) : (r.advance e).state = r.state.follow e :=
  congrArg Service.published (advance_service r e)

theorem advance_open {r : Replay} (h : r.service.Open) (e : Event) : (r.advance e).service.Open := by
  rw [advance_service]
  exact ⟨h.policies, h.unpoisoned⟩

theorem applied_state (r : Replay) (events : List Event) : (r.applied events).state = r.state.after events := by
  induction events generalizing r with
  | nil => rfl
  | cons e rest ih => exact (ih (r.advance e)).trans (congrArg (·.after rest) (advance_state r e))

theorem applied_events (r : Replay) (events : List Event) :
    (r.applied events).stats.events = r.stats.events + events.length := by
  induction events generalizing r with
  | nil => rfl
  | cons e rest ih =>
    refine (ih (r.advance e)).trans ?_
    rw [advance_events, List.length_cons]
    omega

theorem applied_checks (r : Replay) (events : List Event) :
    (r.applied events).stats.checks = r.stats.checks + events.countP Event.isCheck := by
  induction events generalizing r with
  | nil => rfl
  | cons e rest ih =>
    refine (ih (r.advance e)).trans ?_
    rw [advance_checks, List.countP_cons]
    omega

theorem run_advance {r : Replay} (h : r.service.Open) {e : Event} (fine : e.contradiction? r.state = none)
    (rest : List Event) : r.run (e :: rest) = (r.advance e).run rest := by
  rw [run, step_advance h fine]

theorem run_stopped {r : Replay} (h : r.service.Open) {e : Event} {error : Error}
    (wrong : e.contradiction? r.state = some error) (rest : List Event) :
    r.run (e :: rest) = (.error error, r.stopped) := by
  rw [run, step_stopped h wrong]

/-- How a run ends: it goes through, or stops at the first check that is contradicted. -/
inductive Ended (r : Replay) (events : List Event) : Except Error Unit × Replay → Prop where
  | through (agree : ∀ i, ¬r.state.ContradictedAt events i) : Ended r events (.ok (), r.applied events)
  | stopped (i : Nat) (subject object : AccessUri) (d : Decision)
    (there : events[i]? = some (.check subject object (some d)))
    (wrong : d ≠ PolicySet.builtin.decide subject object (r.state.after (events.take i)))
    (first : ∀ j < i, ¬r.state.ContradictedAt events j) :
    Ended r events
      (.error (checkError subject object d
        (PolicySet.builtin.decide subject object (r.state.after (events.take i)))), (r.applied (events.take i)).stopped)

theorem run_ended {r : Replay} (h : r.service.Open) (events : List Event) : Ended r events (r.run events) := by
  induction events generalizing r with
  | nil => exact .through fun i contradicted => nomatch contradicted
  | cons e rest ih =>
    cases found : e.contradiction? r.state with
    | some error =>
      obtain ⟨subject, object, d, rfl, wrong, rfl⟩ := (e.contradiction?_eq_some_iff r.state error).1 found
      rw [run_stopped h found]
      exact .stopped 0 subject object d rfl wrong fun j before => absurd before (Nat.not_lt_zero j)
    | none =>
      have fine : ¬r.state.ContradictedAt (e :: rest) 0 := by
        rw [AccessState.contradictedAt_zero, found]
        simp
      -- Places in the rest are counted from the next event on, and contradict the state after this one.
      have later := ih (advance_open h e)
      rw [run_advance h found]
      generalize (r.advance e).run rest = result at later ⊢
      cases later with
      | through agree =>
        rw [advance_state] at agree
        refine .through fun i => ?_
        cases i with
        | zero => exact fine
        | succ i => exact agree i
      | stopped i subject object d there wrong first =>
        rw [advance_state] at wrong first ⊢
        refine .stopped (i + 1) subject object d there wrong fun j before => ?_
        cases j with
        | zero => exact fine
        | succ j => exact first j (Nat.lt_of_succ_lt_succ before)

theorem applied_take_events {r : Replay} (unused : r.stats.events = 0) {events : List Event} {i : Nat}
    (inside : i ≤ events.length) : (r.applied (events.take i)).stats.events = i := by
  rw [applied_events, unused, Nat.zero_add, List.length_take_of_le inside]

/-- The replay in the end, however it ends, as the counted events leave it. None of them is a check that fails. -/
theorem Ended.counted {r : Replay} {events : List Event} {result : Except Error Unit × Replay}
    (ended : Ended r events result) (unused : r.stats.events = 0) :
    result.2.stats.events ≤ events.length ∧ (∀ j < result.2.stats.events, ¬r.state.ContradictedAt events j) ∧
      (result.2 = r.applied (events.take result.2.stats.events) ∨
        result.2 = (r.applied (events.take result.2.stats.events)).stopped) := by
  cases ended with
  | through agree =>
    have counted : (r.applied events).stats.events = events.length := by rw [applied_events, unused, Nat.zero_add]
    rw [counted, List.take_length]
    exact ⟨Nat.le_refl _, fun j _ => agree j, .inl rfl⟩
  | stopped i subject object d there wrong first =>
    obtain ⟨inside, -⟩ := List.getElem?_eq_some_iff.1 there
    have counted : (r.applied (events.take i)).stopped.stats.events = i :=
      applied_take_events unused (Nat.le_of_lt inside)
    rw [counted]
    exact ⟨Nat.le_of_lt inside, first, .inr rfl⟩

theorem Ended.state {r : Replay} {events : List Event} {result : Except Error Unit × Replay}
    (ended : Ended r events result) (unused : r.stats.events = 0) :
    result.2.stats.events ≤ events.length ∧ result.2.state = r.state.after (events.take result.2.stats.events) := by
  obtain ⟨inside, -, through | stopped⟩ := ended.counted unused
  · exact ⟨inside, (congrArg Replay.state through).trans (applied_state r _)⟩
  · exact ⟨inside, (congrArg Replay.state stopped).trans (applied_state r _)⟩

theorem run_applied {r : Replay} (h : r.service.Open) {events : List Event}
    (agree : ∀ i, ¬r.state.ContradictedAt events i) : r.run events = (.ok (), r.applied events) := by
  have ended := run_ended h events
  generalize r.run events = result at ended ⊢
  cases ended with
  | through => rfl
  | stopped i subject object d there wrong first => exact absurd ⟨subject, object, d, there, wrong⟩ (agree i)

theorem run_through {r r' : Replay} (opened : r.service.Open) {events : List Event}
    (through : r.run events = (.ok (), r')) :
    r' = r.applied events := by
  have ended := run_ended opened events
  rw [through] at ended
  cases ended
  rfl

theorem run_contradicted {r : Replay} (h : r.service.Open) {events : List Event} {i : Nat}
    (contradicted : r.state.ContradictedAt events i) (first : ∀ j < i, ¬r.state.ContradictedAt events j) :
    ∃ detail, r.run events = (.error (.invalidInput detail), (r.applied (events.take i)).stopped) := by
  have ended := run_ended h events
  generalize r.run events = result at ended ⊢
  cases ended with
  | through agree => exact absurd contradicted (agree i)
  | stopped n subject object d there wrong first' =>
    rcases Nat.lt_trichotomy i n with before | rfl | after
    · exact absurd contradicted (first' i before)
    · exact ⟨_, rfl⟩
    · exact absurd ⟨subject, object, d, there, wrong⟩ (first n after)

theorem run_applied_events {r : Replay} (h : r.service.Open) (unused : r.stats.events = 0) {events : List Event}
    (agree : ∀ i, ¬r.state.ContradictedAt events i) :
    (r.run events).1 = .ok () ∧ (r.run events).2.stats.events = events.length := by
  rw [run_applied h agree, applied_events, unused, Nat.zero_add]
  exact ⟨rfl, rfl⟩

theorem run_contradicted_events {r : Replay} (h : r.service.Open) (unused : r.stats.events = 0) {events : List Event}
    {i : Nat} (contradicted : r.state.ContradictedAt events i) (first : ∀ j < i, ¬r.state.ContradictedAt events j) :
    (∃ detail, (r.run events).1 = .error (.invalidInput detail)) ∧ (r.run events).2.stats.events = i := by
  obtain ⟨detail, failed⟩ := run_contradicted h contradicted first
  obtain ⟨subject, object, d, there, -⟩ := contradicted
  obtain ⟨inside, -⟩ := List.getElem?_eq_some_iff.1 there
  rw [failed]
  exact ⟨⟨detail, rfl⟩, applied_take_events unused (Nat.le_of_lt inside)⟩

theorem run_append {r r' : Replay} {front : List Event} (through : r.run front = (.ok (), r')) (back : List Event) :
    r.run (front ++ back) = r'.run back := by
  induction front generalizing r with
  | nil =>
    obtain rfl : r = r' := congrArg Prod.snd through
    rfl
  | cons e rest ih =>
    rw [run] at through
    rw [List.cons_append, run]
    generalize r.step e = stepped at through ⊢
    obtain ⟨answer, next⟩ := stepped
    cases answer with
    | error error => cases congrArg Prod.fst through
    | ok _ => exact ih through

/-- Before every counted event the replay is where the events before it lead, and goes on from there. -/
theorem run_reaches {r : Replay} (h : r.service.Open) (unused : r.stats.events = 0) {events : List Event} {i : Nat}
    (counted : i < (r.run events).2.stats.events) {e : Event} (there : events[i]? = some e) :
    r.run (events.take i) = (.ok (), r.applied (events.take i)) ∧
      r.run events = (r.applied (events.take i)).run (e :: events.drop (i + 1)) := by
  obtain ⟨-, fine, -⟩ := (run_ended h events).counted unused
  have through : r.run (events.take i) = (.ok (), r.applied (events.take i)) := run_applied h fun j wrong =>
    have early := (r.state.contradictedAt_take events i j).1 wrong
    fine j (Nat.lt_trans early.1 counted) early.2
  obtain ⟨inside, here⟩ := List.getElem?_eq_some_iff.1 there
  have split : events = events.take i ++ e :: events.drop (i + 1) := by
    rw [← here, ← List.drop_eq_getElem_cons inside, List.take_append_drop]
  have whole := run_append through (e :: events.drop (i + 1))
  rw [← split] at whole
  exact ⟨through, whole⟩

theorem run_fails_iff {r : Replay} (h : r.service.Open) (events : List Event) :
    (∃ error, (r.run events).1 = .error error) ↔ ∃ i, r.state.ContradictedAt events i := by
  have ended := run_ended h events
  generalize r.run events = result at ended ⊢
  cases ended with
  | through agree =>
    constructor
    · intro failed
      obtain ⟨error, failed⟩ := failed
      cases failed
    · intro contradicted
      obtain ⟨i, contradicted⟩ := contradicted
      exact absurd contradicted (agree i)
  | stopped i subject object d there wrong first =>
    exact ⟨fun _ => ⟨i, subject, object, d, there, wrong⟩, fun _ => ⟨_, rfl⟩⟩

theorem start_open (sink : SinkSpec) (device : Device) : (start sink device).service.Open := ⟨rfl, rfl⟩

theorem run_recorded (sink : SinkSpec) (device : Device) (events : List Event) :
    ((start sink device).run events).2.state.Recorded := by
  obtain ⟨-, state⟩ := (run_ended (start_open sink device) events).state rfl
  rw [state]
  exact AccessState.empty_recorded.after _

end Replay
end Gatekeeper
