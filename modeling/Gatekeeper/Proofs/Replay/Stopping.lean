import Gatekeeper.Proofs.Replay.Steps

set_option autoImplicit false

namespace Gatekeeper

namespace Event

/-- The event writes a version in whatever state it comes. -/
def writes : Event → Bool
  | .addUser _ | .removeUser _ | .addPackage _ | .setDecision .. => true
  | .removePackage _ | .check .. | .subscribe .. | .unsubscribe .. | .publish .. => false

def uninstalls (s : AccessState) : Event → Bool
  | .removePackage name => s.system.packages.contains name
  | _ => false

end Event

namespace AccessState

def uninstallsAt (s : AccessState) (events : List Event) (i : Nat) : Bool :=
  (events[i]?).any (Event.uninstalls (s.after (events.take i)))

theorem uninstallsAt_take (s : AccessState) (events : List Event) {n i : Nat} (inside : i < n) :
    s.uninstallsAt (events.take n) i = s.uninstallsAt events i := by
  rw [uninstallsAt, List.getElem?_take_of_lt inside, List.take_take, Nat.min_eq_left (Nat.le_of_lt inside),
    uninstallsAt]

theorem follow_version (s : AccessState) (e : Event) :
    (s.follow e).version = s.version + (if e.writes then 1 else 0) + (if e.uninstalls s then 1 else 0) := by
  cases e with
  | addUser u => exact s.next_version _
  | removeUser u => exact s.next_version _
  | addPackage p => exact s.next_version _
  | setDecision subject object d => exact s.next_version _
  | removePackage name =>
    rw [Event.uninstalls, SortedMap.contains_eq_isSome, follow, Event.command?]
    cases s.system.packages.get? name with
    | none => rfl
    | some p => exact s.next_version _
  | check => rfl
  | subscribe => rfl
  | unsubscribe => rfl
  | publish => rfl

theorem after_version (s : AccessState) (events : List Event) :
    (s.after events).version =
      s.version + events.countP Event.writes + (List.range events.length).countP (s.uninstallsAt events) := by
  induction events generalizing s with
  | nil => rfl
  | cons e rest ih =>
    have first : s.uninstallsAt (e :: rest) 0 = e.uninstalls s := rfl
    have later : s.uninstallsAt (e :: rest) ∘ Nat.succ = (s.follow e).uninstallsAt rest := rfl
    have now := s.follow_version e
    change ((s.follow e).after rest).version = _
    rw [ih, List.countP_cons, List.length_cons, List.range_succ_eq_map, List.countP_cons, List.countP_map, first, later]
    omega

theorem after_take_version (s : AccessState) {events : List Event} {n : Nat} (inside : n ≤ events.length) :
    (s.after (events.take n)).version =
      s.version + (events.take n).countP Event.writes + (List.range n).countP (s.uninstallsAt events) := by
  have counts := s.after_version (events.take n)
  have same : (List.range n).countP (s.uninstallsAt (events.take n)) = (List.range n).countP (s.uninstallsAt events) :=
    List.countP_congr fun i mem => by rw [s.uninstallsAt_take events (List.mem_range.1 mem)]
  rwa [List.length_take_of_le inside, same] at counts

end AccessState

namespace Replay

/-- A replay fails if and only if some check expects another decision than the policies give in the state after the
    events before it. It then stops at the first such check, which is counted among the checks but not among the
    events, and all else is as the events before have left it; otherwise all events are counted. The state in the end
    is that of the counted events with their commands given to the policies directly, one version each. Its version
    counts the commands, and it is valid. -/
theorem run_stopping (sink : SinkSpec) (device : Device) (events : List Event) :
    let answer := ((start sink device).run events).1
    let r := ((start sink device).run events).2
    let s := AccessState.empty
    ((∃ error, answer = .error error) ↔ ∃ i, s.ContradictedAt events i) ∧
    (∀ i, s.ContradictedAt events i → (∀ j < i, ¬s.ContradictedAt events j) →
      (∃ detail, answer = .error (.invalidInput detail)) ∧ r.stats.events = i ∧
      r.stats.checks = (events.take (i + 1)).countP Event.isCheck ∧
      ∃ before, (start sink device).run (events.take i) = (.ok (), before) ∧
        r = before.count fun stats => { stats with checks := stats.checks + 1 }) ∧
    ((∀ i, ¬s.ContradictedAt events i) →
      answer = .ok () ∧ r.stats.events = events.length ∧ r.stats.checks = events.countP Event.isCheck) ∧
    r.state = s.after (events.take r.stats.events) ∧
    r.state.version = (events.take r.stats.events).countP Event.writes +
      (List.range r.stats.events).countP (s.uninstallsAt events) ∧
    r.state.validate = .ok () := by
  intro answer r s
  have opened := start_open sink device
  have unused : (start sink device).stats = {} := rfl
  obtain ⟨inside, state⟩ := (run_ended opened events).state rfl
  refine ⟨run_fails_iff opened events, fun i contradicted first => ?_, fun agree => ?_, state, ?_, ?_⟩
  · obtain ⟨failed, counted⟩ := run_contradicted_events opened rfl contradicted first
    obtain ⟨_, result⟩ := run_contradicted opened contradicted first
    obtain ⟨subject, object, d, there, -⟩ := contradicted
    have before : (start sink device).run (events.take i) = (.ok (), (start sink device).applied (events.take i)) :=
      run_applied opened fun j wrong =>
        have early := (s.contradictedAt_take events i j).1 wrong
        first j early.1 early.2
    have last : r = ((start sink device).applied (events.take i)).stopped := congrArg Prod.snd result
    refine ⟨failed, counted, ?_, _, before, last⟩
    have checked : r.stats.checks = ((start sink device).applied (events.take i)).stats.checks + 1 := by rw [last]; rfl
    rw [checked, applied_checks, unused, Nat.zero_add, List.take_add_one, there, List.countP_append]
    rfl
  · obtain ⟨fine, counted⟩ := run_applied_events opened rfl agree
    have last : r = (start sink device).applied events := congrArg Prod.snd (run_applied opened agree)
    refine ⟨fine, counted, ?_⟩
    rw [last, applied_checks, unused, Nat.zero_add]
  · have counts := s.after_take_version inside
    rw [show s.version = 0 from rfl, Nat.zero_add] at counts
    exact (congrArg AccessState.version state).trans counts
  · exact (run_recorded sink device events).validate

/-- A package that is unknown is removed in vain; then a check expects a permission that was never granted. -/
theorem run_stopping_check :
    let events : List Event := [.addUser ⟨0⟩, .removePackage ⟨"camera"⟩,
      .check (.uid ⟨10⟩) (.permission "CAMERA") (some .granted), .addUser ⟨10⟩]
    let r := ((start .log).run events).2
    AccessState.empty.ContradictedAt events 2 ∧ (∀ j < 2, ¬AccessState.empty.ContradictedAt events j) ∧
      r.stats.events = 2 ∧ r.stats.checks = 1 ∧ r.state.version = 1 ∧ r.state.validate = .ok () ∧
      (∀ i, ¬AccessState.empty.ContradictedAt [.addUser ⟨0⟩] i) ∧ ((start .log).run [.addUser ⟨0⟩]).1 = .ok () := by
  intro events r
  have wrong : AccessState.empty.ContradictedAt events 2 :=
    ⟨.uid ⟨10⟩, .permission "CAMERA", .granted, rfl, by decide⟩
  have first : ∀ j < 2, ¬AccessState.empty.ContradictedAt events j := by
    intro j before contradicted
    obtain ⟨subject, object, d, there, -⟩ := contradicted
    match j, there with
    | 0, there => cases there
    | 1, there => cases there
  have agree : ∀ i, ¬AccessState.empty.ContradictedAt [.addUser ⟨0⟩] i := by
    intro i contradicted
    obtain ⟨subject, object, d, there, -⟩ := contradicted
    cases i <;> cases there
  obtain ⟨-, stops, -, -, version, valid⟩ := run_stopping .log {} events
  obtain ⟨-, counted, checks, -⟩ := stops 2 wrong first
  obtain ⟨-, -, through, -⟩ := run_stopping .log {} [.addUser ⟨0⟩]
  refine ⟨wrong, first, counted, checks, ?_, valid, agree, (through agree).1⟩
  change r.stats.events = 2 at counted
  change r.state.version = _ at version
  rw [version, counted]
  decide

end Replay
end Gatekeeper
