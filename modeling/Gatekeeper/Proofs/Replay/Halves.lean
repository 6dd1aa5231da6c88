import Gatekeeper.Proofs.Replay.Steps

set_option autoImplicit false

namespace Gatekeeper

namespace Event

def forService : Event → Bool
  | .addUser _ | .removeUser _ | .addPackage _ | .removePackage _ | .setDecision .. | .check .. => true
  | .subscribe .. | .unsubscribe .. | .publish .. => false

def forListeners : Event → Bool
  | .removeUser _ | .subscribe .. | .unsubscribe .. | .publish .. => true
  | .addUser _ | .addPackage _ | .removePackage _ | .setDecision .. | .check .. => false

theorem contradiction?_of_not_forService {e : Event} (apart : e.forService = false) (s : AccessState) :
    e.contradiction? s = none := by
  cases e <;> first | rfl | cases apart

end Event

namespace Replay

structure SameService (r r' : Replay) : Prop where
  service : r.service = r'.service
  checks : r.stats.checks = r'.stats.checks

structure SameListeners (r r' : Replay) : Prop where
  sink : r.sink = r'.sink
  board : r.board = r'.board
  subscriptions : r.stats.subscriptions = r'.stats.subscriptions
  deliveries : r.stats.deliveries = r'.stats.deliveries

variable {r r' r'' : Replay}

theorem SameService.state (same : SameService r r') : r.state = r'.state := congrArg Service.published same.service

theorem SameService.serve (same : SameService r r') (e : Event) : SameService (r.serve e) (r'.serve e) := by
  obtain ⟨service, checks⟩ := same
  constructor <;> simp only [Replay.serve, Replay.state, service, checks]

theorem SameService.advance (same : SameService r r') (e : Event) : SameService (r.advance e) (r'.advance e) where
  service := by
    rw [advance_service, advance_service]
    exact (same.serve e).service
  checks := by
    rw [advance_checks, advance_checks, same.checks]

theorem SameService.advance_left (same : SameService r r') {e : Event} (apart : e.forService = false) :
    SameService (r.advance e) r' := by
  have idle : SameService (r.serve e) r := by
    cases e <;> first | exact ⟨rfl, rfl⟩ | cases apart
  constructor
  · rw [advance_service, idle.service, same.service]
  · rw [advance_checks, ← same.checks]
    exact idle.checks

/-- A run and the run of the service's events alone end the same way, with the same service. -/
theorem run_forService (opened : r.service.Open) (same : SameService r r') (events : List Event) :
    (r'.run (events.filter Event.forService)).1 = (r.run events).1 ∧
      SameService (r.run events).2 (r'.run (events.filter Event.forService)).2 := by
  induction events generalizing r r' with
  | nil => exact ⟨rfl, same⟩
  | cons e rest ih =>
    have opened' : r'.service.Open := same.service ▸ opened
    cases reaches : e.forService with
    | false =>
      -- Only a check can stop a run, and checks are for the service.
      rw [List.filter_cons_of_neg (by simp [reaches]),
        run_advance opened (Event.contradiction?_of_not_forService reaches r.state)]
      exact ih (advance_open opened e) (same.advance_left reaches)
    | true =>
      rw [List.filter_cons_of_pos reaches]
      cases found : e.contradiction? r.state with
      | some error =>
        have found' : e.contradiction? r'.state = some error := same.state ▸ found
        rw [run_stopped opened found, run_stopped opened' found']
        exact ⟨rfl, same.service, congrArg (· + 1) same.checks⟩
      | none =>
        have found' : e.contradiction? r'.state = none := same.state ▸ found
        rw [run_advance opened found, run_advance opened' found']
        exact ih (advance_open opened e) (same.advance e)

theorem SameListeners.symm (same : SameListeners r r') : SameListeners r' r :=
  ⟨same.sink.symm, same.board.symm, same.subscriptions.symm, same.deliveries.symm⟩

theorem SameListeners.trans (same : SameListeners r r') (same' : SameListeners r' r'') : SameListeners r r'' :=
  ⟨same.sink.trans same'.sink, same.board.trans same'.board, same.subscriptions.trans same'.subscriptions,
    same.deliveries.trans same'.deliveries⟩

theorem SameListeners.output (same : SameListeners r r') : r.output = r'.output :=
  congrArg (fun board => board.outside.device.received) same.board

theorem SameListeners.hear (same : SameListeners r r') (e : Event) : SameListeners (r.hear e) (r'.hear e) := by
  obtain ⟨sink, board, subscriptions, deliveries⟩ := same
  cases e with
  | removeUser u => exact ⟨sink, congrArg (·.clearUser u) board, subscriptions, deliveries⟩
  | subscribe name u =>
    simp only [Replay.hear, Replay.subscribe, board]
    split
    · exact ⟨sink, rfl, congrArg (· + 1) subscriptions, deliveries⟩
    · exact ⟨sink, rfl, subscriptions, deliveries⟩
  | unsubscribe name u =>
    simp only [Replay.hear, Replay.unsubscribe, board]
    split
    · exact ⟨sink, rfl, subscriptions, deliveries⟩
    · exact ⟨sink, board, subscriptions, deliveries⟩
  | publish u data =>
    constructor <;> simp only [Replay.hear, Replay.publish, Replay.count, sink, board, subscriptions, deliveries]
  | _ => exact ⟨sink, board, subscriptions, deliveries⟩

theorem SameListeners.advance (same : SameListeners r r') (e : Event) :
    SameListeners (r.advance e) (r'.advance e) := by
  have served : SameListeners (r.serve e) (r'.serve e) :=
    ⟨same.sink, same.board, same.subscriptions, same.deliveries⟩
  have heard := served.hear e
  exact ⟨heard.sink, heard.board, heard.subscriptions, heard.deliveries⟩

theorem SameListeners.advance_left (same : SameListeners r r') {e : Event} (apart : e.forListeners = false) :
    SameListeners (r.advance e) r' := by
  obtain ⟨sink, board, subscriptions, deliveries⟩ := same
  cases e <;> first | exact ⟨sink, board, subscriptions, deliveries⟩ | cases apart

/-- The listeners' events alone bring the listeners to where all events bring them. -/
theorem applied_forListeners (same : SameListeners r r') (events : List Event) :
    SameListeners (r.applied events) (r'.applied (events.filter Event.forListeners)) := by
  induction events generalizing r r' with
  | nil => exact same
  | cons e rest ih =>
    cases reaches : e.forListeners with
    | false =>
      rw [List.filter_cons_of_neg (by simp [reaches])]
      exact ih (same.advance_left reaches)
    | true =>
      rw [List.filter_cons_of_pos reaches]
      exact ih (same.advance e)

/-- Without the listeners' events, a scenario ends the same way, in the same state and with as many checks made. Two
    scenarios that go through with the same events for the listeners end with the same subscriptions and deliveries
    counted and the same output, whatever else happens in each. -/
theorem run_halves (sink : SinkSpec) (device : Device) :
    (∀ events,
      let all := (start sink device).run events
      let served := (start sink device).run (events.filter Event.forService)
      served.1 = all.1 ∧ served.2.state = all.2.state ∧ served.2.stats.checks = all.2.stats.checks) ∧
    ∀ events events' r r', (start sink device).run events = (.ok (), r) → (start sink device).run events' = (.ok (), r') →
      events.filter Event.forListeners = events'.filter Event.forListeners →
      r.stats.subscriptions = r'.stats.subscriptions ∧ r.stats.deliveries = r'.stats.deliveries ∧
        r.output = r'.output := by
  have opened := start_open sink device
  have same : SameListeners (start sink device) (start sink device) := ⟨rfl, rfl, rfl, rfl⟩
  constructor
  · intro events
    have both : SameService (start sink device) (start sink device) := ⟨rfl, rfl⟩
    obtain ⟨answer, ends⟩ := run_forService opened both events
    exact ⟨answer, ends.state.symm, ends.checks.symm⟩
  · intro events events' r r' through through' listeners
    have left := applied_forListeners same events
    have right := applied_forListeners same events'
    rw [← listeners, ← run_through opened through'] at right
    rw [← run_through opened through] at left
    have ends := left.trans right.symm
    exact ⟨ends.subscriptions, ends.deliveries, ends.output⟩

/-- A listener hears the same whether or not its user was announced and a permission set and checked, although the
    device takes only a part of the row. -/
theorem run_halves_unannounced :
    let data : Safety.Data := { status := { title := "Protected" } }
    let events : List Event := [.addUser ⟨0⟩, .subscribe "settings" ⟨0⟩,
      .setDecision (.uid ⟨10⟩) (.permission "CAMERA") .granted,
      .check (.uid ⟨10⟩) (.permission "CAMERA") (some .granted), .publish ⟨0⟩ data]
    let events' : List Event := [.subscribe "settings" ⟨0⟩, .publish ⟨0⟩ data]
    let full : Device := { writes := [.atMost 3], write := .fails "full" }
    ((start .stdout full).run events).1 = .ok () ∧ ((start .stdout full).run events').1 = .ok () ∧
      ((start .stdout full).run events).2.stats.deliveries = ((start .stdout full).run events').2.stats.deliveries ∧
      ((start .stdout full).run events).2.output = ((start .stdout full).run events').2.output := by
  intro data events events' full
  have through : ((start .stdout full).run events).1 = .ok () := rfl
  have through' : ((start .stdout full).run events').1 = .ok () := rfl
  obtain ⟨-, deliveries, output⟩ :=
    (run_halves .stdout full).2 events events' _ _ (Prod.ext through rfl) (Prod.ext through' rfl) rfl
  exact ⟨through, through', deliveries, output⟩

end Replay
end Gatekeeper
