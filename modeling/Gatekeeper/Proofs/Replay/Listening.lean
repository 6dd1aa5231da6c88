import Gatekeeper.Proofs.Replay.Audience
import Gatekeeper.Proofs.Replay.Steps
import Gatekeeper.Proofs.Listener.RegistryRuns
import Gatekeeper.Proofs.Sink.Framing

set_option autoImplicit false

namespace Gatekeeper

namespace Row

def text (row : Row) : String := (RowStream.row { name := row.listener, rows := row.seq } row.data).compact

def line (row : Row) : List UInt8 := (RowStream.bytes row.text).toList

def notice (row : Row) : String × Safety.Data := (row.listener, row.data)

theorem lines_whole (rows : List Row) : ∀ line ∈ rows.map Row.line, lineFeed ∉ line := by
  intro line mem
  obtain ⟨row, -, rfl⟩ := List.mem_map.1 mem
  exact RowStream.rowText_whole _ row.data

end Row

def rowsOf (rows : List Row) (name : String) : List Row := rows.filter fun row => row.listener = name

theorem rowsOf_concat_self (rows : List Row) {row : Row} {name : String} (bears : row.listener = name) :
    rowsOf (rows ++ [row]) name = rowsOf rows name ++ [row] := by
  simp [rowsOf, bears]

theorem rowsOf_concat_ne (rows : List Row) {row : Row} {name : String} (other : row.listener ≠ name) :
    rowsOf (rows ++ [row]) name = rowsOf rows name := by
  simp [rowsOf, other]

/-- Every name that bears rows has a stream, and every stream is ready for the next row that bears its name. -/
def Ready (rows : List Row) (streams : SortedMap String RowStream) : Prop := ∀ name,
  (streams.get? name = none ∧ rowsOf rows name = []) ∨
    streams.get? name = some { name, rows := (rowsOf rows name).length }

namespace Ready

variable {rows rows' : List Row} {streams : SortedMap String RowStream} {name : String}

theorem unused (ready : Ready rows streams) (absent : streams.get? name = none) : rowsOf rows name = [] := by
  rcases ready name with ⟨-, unused⟩ | present
  · exact unused
  · cases absent.symm.trans present

theorem stream (ready : Ready rows streams) {stream : RowStream} (there : streams.get? name = some stream) :
    stream = { name, rows := (rowsOf rows name).length } := by
  rcases ready name with ⟨absent, -⟩ | present
  · cases absent.symm.trans there
  · exact Option.some.inj (there.symm.trans present)

theorem insert (ready : Ready rows streams) (others : ∀ name', name' ≠ name → rowsOf rows' name' = rowsOf rows name') :
    Ready rows' (streams.insert name { name, rows := (rowsOf rows' name).length }) := by
  intro name'
  by_cases same : name' = name
  · rw [same, SortedMap.get?_insert_self]
    exact .inr rfl
  · rw [SortedMap.get?_insert_ne _ _ same, others name' same]
    exact ready name'

end Ready

/-- The outputs after some rows: the device has received their lines, and those that bear one name are numbered. -/
structure Outputs.Wrote (rows : List Row) (o : Outputs) : Prop where
  healthy : o.device.Healthy
  received : o.device.bytes = rows.flatMap fun row => endLine row.line
  ready : Ready rows o.streams
  numbered : ∀ name, (rowsOf rows name).map Row.seq = List.range (rowsOf rows name).length
  graded : ∀ row ∈ rows, row.highestSeverity = row.data.highestSeverity

namespace Outputs

variable {o : Outputs} {rows : List Row} {name : String}

theorem wrote_unused {device : Device} (healthy : device.Healthy) (unused : device.bytes = []) : Wrote [] { device } where
  healthy := healthy
  received := unused
  ready _ := .inl ⟨rfl, rfl⟩
  numbered _ := rfl
  graded _ mem := nomatch mem

theorem Wrote.enroll (wrote : o.Wrote rows) (new : o.streams.get? name = none) :
    Wrote rows { o with streams := o.streams.insert name { name } } where
  healthy := wrote.healthy
  received := wrote.received
  ready := by
    have ready : Ready rows (o.streams.insert name { name, rows := (rowsOf rows name).length }) :=
      wrote.ready.insert fun _ _ => rfl
    rwa [wrote.ready.unused new] at ready
  numbered := wrote.numbered
  graded := wrote.graded

theorem Wrote.deliver (wrote : o.Wrote rows) {stream : RowStream} (there : o.streams.get? name = some stream)
    (data : Safety.Data) :
    ∃ device, stream.deliver data o.device = (.ok (), stream.counted, device) ∧
      Wrote (rows ++ [Row.of stream data]) { streams := o.streams.insert name stream.counted, device } := by
  obtain rfl := wrote.ready.stream there
  obtain ⟨device, delivered, healthy, line⟩ :=
    RowStream.deliver_healthy { name, rows := (rowsOf rows name).length } data wrote.healthy rfl
  let row := Row.of { name, rows := (rowsOf rows name).length } data
  have own : rowsOf (rows ++ [row]) name = rowsOf rows name ++ [row] := rowsOf_concat_self rows rfl
  have others (name' : String) (other : name' ≠ name) : rowsOf (rows ++ [row]) name' = rowsOf rows name' :=
    rowsOf_concat_ne rows (Ne.symm other)
  refine ⟨device, delivered, healthy, ?_, ?_, fun name' => ?_, fun row mem => ?_⟩
  · rw [line, wrote.received, List.flatMap_append, List.flatMap_singleton]
    rfl
  · have ready := wrote.ready.insert others
    rwa [own, List.length_append] at ready
  · by_cases same : name' = name
    · rw [same, own, List.map_append, wrote.numbered name, List.length_append]
      exact List.range_succ.symm
    · rw [others name' same]
      exact wrote.numbered name'
  · rcases List.mem_append.1 mem with before | last
    · exact wrote.graded row before
    · rw [List.mem_singleton.1 last]
      rfl

theorem Wrote.read (wrote : o.Wrote rows) (held : Bool) :
    rows.map (fun row => Row.read held row.text) = rows.map fun row => some (.ok row) := by
  refine List.map_congr_left fun row mem => ?_
  have graded := wrote.graded row mem
  obtain ⟨name, seq, level, data⟩ := row
  obtain rfl : level = data.highestSeverity := graded
  exact Row.read_compact held { name, rows := seq } data

theorem Wrote.completeLines (wrote : o.Wrote rows) : completeLines o.device.bytes = rows.map Row.line := by
  rw [wrote.received, ← List.flatMap_map]
  exact completeLines_flatMap (Row.lines_whole rows)

end Outputs

/-- What of the things told comes out as rows. -/
def SinkSpec.written (sink : SinkSpec) (notices : List (String × Safety.Data)) : List (String × Safety.Data) :=
  if sink = .log then [] else notices

theorem SinkSpec.written_append (sink : SinkSpec) (notices more : List (String × Safety.Data)) :
    sink.written (notices ++ more) = sink.written notices ++ sink.written more := by
  unfold written
  split <;> rfl

namespace Replay

def script (sink : SinkSpec) : Script String Outputs := fun name data w =>
  ({ answer := (behavior sink name data w).1 }, (behavior sink name data w).2.outside)

theorem script_behavior (sink : SinkSpec) : (script sink).behavior = behavior sink := by
  funext name data w
  rw [Script.behavior]
  simp only [script, behavior]
  split <;> rfl

variable {sink : SinkSpec} {w last : Switchboard String Outputs} {rows : List Row} {data : Safety.Data}

theorem behavior_takes (sink : SinkSpec) (wrote : w.outside.Wrote rows) {name : String}
    (made : w.outside.streams.contains name) (data : Safety.Data) :
    ∃ outside new, behavior sink name data w = (.ok (), { w with outside }) ∧ outside.Wrote (rows ++ new) ∧
      new.map Row.notice = sink.written [(name, data)] ∧
      ∀ name', outside.streams.contains name' = w.outside.streams.contains name' := by
  obtain ⟨stream, there⟩ := (SortedMap.contains_iff _ _).1 made
  obtain ⟨device, delivered, next⟩ := wrote.deliver there data
  have named : stream.name = name := congrArg RowStream.name (wrote.ready.stream there)
  have kept (name' : String) : (w.outside.streams.insert name stream.counted).contains name' =
      w.outside.streams.contains name' := by
    rw [Bool.eq_iff_iff, SortedMap.contains_insert_iff]
    constructor
    · rintro (rfl | before)
      · exact made
      · exact before
    · exact .inr
  cases sink with
  | log =>
    refine ⟨w.outside, [], rfl, ?_, rfl, fun _ => rfl⟩
    rwa [List.append_nil]
  | stdout | file =>
    refine ⟨_, [Row.of stream data], ?_, next, congrArg (fun name => [(name, data)]) named, kept⟩
    simp only [behavior, there, delivered]

theorem visited_takes {visits : List (Visit String)} (h : Visited (behavior sink) data w visits last)
    (living : w.dead = []) (wrote : w.outside.Wrote rows)
    (made : ∀ v ∈ visits, w.outside.streams.contains v.listener) :
    (∀ v ∈ visits, v.answer = some (.ok ())) ∧ last.dead = [] ∧
      (∀ name, last.outside.streams.contains name = w.outside.streams.contains name) ∧
      ∃ new, last.outside.Wrote (rows ++ new) ∧
        new.map Row.notice = sink.written (visits.map fun v => (v.listener, data)) := by
  induction h generalizing rows with
  | done w =>
    refine ⟨List.forall_mem_nil _, living, fun _ => rfl, [], ?_, ?_⟩
    · rwa [List.append_nil]
    · exact (ite_self _).symm
  | missed dead rest ih =>
    rw [Switchboard.alive, living] at dead
    cases dead
  | @called w next last l answer later alive call rest ih =>
    obtain ⟨outside, row, took, wrote', written, kept⟩ :=
      behavior_takes sink wrote (made _ List.mem_cons_self) data
    obtain ⟨rfl, rfl⟩ := Prod.mk.inj (took.symm.trans call)
    obtain ⟨answers, living', kept', more, wrote'', written'⟩ :=
      ih living wrote' fun v mem => (kept _).trans (made v (List.mem_cons_of_mem _ mem))
    refine ⟨List.forall_mem_cons.2 ⟨rfl, answers⟩, living', fun name => (kept' name).trans (kept name), row ++ more, ?_,
      ?_⟩
    · rwa [← List.append_assoc]
    · rw [List.map_append, written, written', ← SinkSpec.written_append]
      rfl

/-- A switchboard after some events of a history, with the rows that have come of them. -/
structure Listening (sink : SinkSpec) (events : List Event) (rows : List Row) (w : Switchboard String Outputs) :
    Prop where
  wired : w.Wired
  living : w.dead = []
  listeners : ∀ u, w.listeners u = audience events u
  streams : ∀ u, ∀ name ∈ audience events u, w.outside.streams.contains name
  wrote : w.outside.Wrote rows
  written : rows.map Row.notice = sink.written (told events)

variable {events : List Event}

theorem listening_unused (sink : SinkSpec) {device : Device} (healthy : device.Healthy) (unused : device.bytes = []) :
    Listening sink [] [] { outside := { device } } where
  wired := Switchboard.wired_unused _
  living := rfl
  listeners _ := rfl
  streams _ _ mem := nomatch mem
  wrote := Outputs.wrote_unused healthy unused
  written := (ite_self _).symm

theorem Listening.alive (h : Listening sink events rows w) (name : String) : w.alive name = true := by
  rw [Switchboard.alive, h.living]
  rfl

theorem Listening.ensureStream (h : Listening sink events rows w) (name : String) :
    Listening sink events rows (ensureStream name w) ∧ (Replay.ensureStream name w).outside.streams.contains name := by
  unfold Replay.ensureStream
  split
  · next made => exact ⟨h, made⟩
  · next new =>
    have absent := (SortedMap.not_contains_iff _ _).1 (Bool.eq_false_iff.2 new)
    refine ⟨⟨⟨h.wired.made, h.wired.taking, h.wired.own⟩, h.living, h.listeners, fun u name' mem => ?_,
      h.wrote.enroll absent, h.written⟩, SortedMap.contains_insert_self _ _ _⟩
    exact (SortedMap.contains_insert_iff _ _ _ _).2 (.inr (h.streams u name' mem))

/-- An event that tells nothing, and changes one user's listeners as it changes the user's audience. -/
theorem Listening.regroup (h : Listening sink events rows w) {e : Event} {u : UserId} {names : List String}
    {next : Switchboard String Outputs} (change : Switchboard.Regrouped u names w next)
    (outside : next.outside = w.outside) (own : e.attend u (audience events u) = names)
    (others : ∀ v, v ≠ u → e.attend v (audience events v) = audience events v)
    (made : ∀ name ∈ names, w.outside.streams.contains name) (silent : ∀ names, e.tells names = []) :
    Listening sink (events ++ [e]) rows next := by
  have attends (v : UserId) : audience (events ++ [e]) v = if v = u then names else audience events v := by
    rw [audience_concat]
    split
    · next here => rw [here, own]
    · next other => exact others v other
  refine ⟨change.wired h.wired, change.dead.trans h.living, fun v => ?_, fun v name mem => ?_, outside ▸ h.wrote, ?_⟩
  · rw [change.listeners h.wired, attends, h.listeners]
  · rw [attends] at mem
    rw [outside]
    split at mem
    · exact made name mem
    · exact h.streams v name mem
  · rw [told_concat, silent, List.append_nil, h.written]

theorem Listening.subscribe (h : Listening sink events rows w) {name : String}
    (made : w.outside.streams.contains name) (u : UserId) :
    (w.addListener name u).1 = true ∧
      Listening sink (events ++ [.subscribe name u]) rows (w.addListener name u).2 := by
  obtain ⟨added, settled⟩ := Switchboard.addListener_settled h.wired name u
  rw [h.alive] at added settled
  rw [h.listeners] at settled
  refine ⟨added, h.regroup settled.toRegrouped (w.addListener_outside name u) ?_ (fun v other => ?_)
    (fun name' mem => ?_) fun _ => rfl⟩
  · simp [Event.attend]
  · simp [Event.attend, Ne.symm other]
  · split at mem
    · rcases List.mem_append.1 mem with before | last
      · exact h.streams u name' before
      · rwa [List.mem_singleton.1 last]
    · exact h.streams u name' mem

theorem Listening.unsubscribe (h : Listening sink events rows w) (name : String) (u : UserId) :
    Listening sink (events ++ [.unsubscribe name u]) rows (w.removeListener name u).2 := by
  obtain ⟨-, settled⟩ := Switchboard.removeListener_settled h.wired name u
  rw [h.listeners] at settled
  refine h.regroup settled.toRegrouped (w.removeListener_outside name u) (if_pos rfl)
    (fun v other => if_neg (Ne.symm other)) (fun name' mem => ?_) fun _ => rfl
  exact h.streams u name' (List.mem_of_mem_erase mem)

theorem Listening.clear (h : Listening sink events rows w) (u : UserId) :
    Listening sink (events ++ [.removeUser u]) rows (w.clearUser u) := by
  obtain ⟨settled, -⟩ := Switchboard.clearUser_settled h.wired u
  exact h.regroup settled.toRegrouped (w.clearUser_outside u) (if_pos rfl) (fun v other => if_neg (Ne.symm other))
    (List.forall_mem_nil _) fun _ => rfl

theorem Listening.skip (h : Listening sink events rows w) {e : Event}
    (ignored : ∀ u, e.attend u (audience events u) = audience events u) (silent : ∀ names, e.tells names = []) :
    Listening sink (events ++ [e]) rows w where
  wired := h.wired
  living := h.living
  listeners u := by rw [audience_concat, ignored, h.listeners]
  streams u name mem := by
    rw [audience_concat, ignored] at mem
    exact h.streams u name mem
  wrote := h.wrote
  written := by rw [told_concat, silent, List.append_nil, h.written]

theorem Listening.publish (h : Listening sink events rows w) (u : UserId) (data : Safety.Data) :
    (w.deliverToUser (behavior sink) u data).1 = (audience events u).length ∧
      ∃ new, Listening sink (events ++ [.publish u data]) (rows ++ new)
        (w.deliverToUser (behavior sink) u data).2 := by
  obtain ⟨visits, last, turns, visited, outside, settled⟩ :=
    Switchboard.deliverToUser_taken h.wired (script sink) u data
  rw [script_behavior] at visited outside settled
  rw [h.listeners] at turns settled
  have begins := w.calling_outside u
  have made : ∀ v ∈ visits, (w.calling u).outside.streams.contains v.listener := by
    intro v mem
    have called : v.listener ∈ (audience events u).reverse := turns ▸ List.mem_map_of_mem mem
    rw [begins]
    exact h.streams u v.listener (List.mem_reverse.1 called)
  obtain ⟨answers, living, streams, new, wrote, written⟩ :=
    visited_takes visited ((w.calling_dead u).trans h.living) (begins ▸ h.wrote) made
  obtain ⟨count, wired, dead, listeners⟩ := settled answers living
  have named : visits.map (fun v => (v.listener, data)) = (audience events u).reverse.map fun name => (name, data) := by
    rw [← turns, List.map_map]
    rfl
  refine ⟨count, new, wired, dead, fun v => ?_, fun v name mem => ?_, ?_, ?_⟩
  · rw [listeners, h.listeners, audience_concat]
    rfl
  · rw [audience_concat] at mem
    rw [outside, streams, begins]
    exact h.streams v name mem
  · rwa [outside]
  · rw [List.map_append, h.written, written, named, told_concat, SinkSpec.written_append]
    rfl

/-- A replay after some events of a history. -/
structure Following (sink : SinkSpec) (events : List Event) (rows : List Row) (r : Replay) : Prop where
  target : r.sink = sink
  board : Listening sink events rows r.board
  subscriptions : r.stats.subscriptions = events.countP Event.isSubscribe
  deliveries : r.stats.deliveries = (told events).length

variable {r : Replay}

theorem start_following (sink : SinkSpec) {device : Device} (healthy : device.Healthy) (unused : device.bytes = []) :
    Following sink [] [] (start sink device) :=
  ⟨rfl, listening_unused sink healthy unused, rfl, rfl⟩

theorem Following.subscribe (h : Following sink events rows r) (name : String) (u : UserId) :
    Following sink (events ++ [.subscribe name u]) rows (r.subscribe name u) ∧
      (r.subscribe name u).stats.subscriptions = r.stats.subscriptions + 1 := by
  obtain ⟨ready, made⟩ := h.board.ensureStream name
  obtain ⟨registered, board⟩ := ready.subscribe made u
  have counted : r.subscribe name u =
      { r with
        board := ((Replay.ensureStream name r.board).addListener name u).2
        stats := { r.stats with subscriptions := r.stats.subscriptions + 1 } } := by
    rw [Replay.subscribe]
    simp only [registered, if_true]
    rfl
  rw [counted]
  refine ⟨⟨h.target, board, ?_, ?_⟩, rfl⟩
  · rw [List.countP_append, ← h.subscriptions]
    rfl
  · rw [told_concat]
    exact h.deliveries.trans (congrArg List.length (List.append_nil _).symm)

theorem Following.quiet (h : Following sink events rows r) {e : Event} {next : Replay} (other : e.isSubscribe = false)
    (silent : ∀ names, e.tells names = []) (target : next.sink = r.sink) (stats : next.stats = r.stats)
    (board : Listening sink (events ++ [e]) rows next.board) : Following sink (events ++ [e]) rows next where
  target := target.trans h.target
  board := board
  subscriptions := by
    rw [stats, h.subscriptions, List.countP_append, List.countP_singleton, other]
    rfl
  deliveries := by rw [stats, h.deliveries, told_concat, silent, List.append_nil]

theorem Following.unsubscribe (h : Following sink events rows r) (name : String) (u : UserId) :
    Following sink (events ++ [.unsubscribe name u]) rows (r.unsubscribe name u) := by
  unfold Replay.unsubscribe
  split
  · exact h.quiet rfl (fun _ => rfl) rfl rfl (h.board.unsubscribe name u)
  · next unknown =>
    have absent : name ∉ audience events u := fun mem => unknown (h.board.streams u name mem)
    refine h.quiet rfl (fun _ => rfl) rfl rfl (h.board.skip (fun v => ?_) fun _ => rfl)
    rw [Event.attend]
    split
    · next here => exact List.erase_of_not_mem (here ▸ absent)
    · rfl

theorem Following.publish (h : Following sink events rows r) (u : UserId) (data : Safety.Data) :
    (∃ new, Following sink (events ++ [.publish u data]) (rows ++ new) (r.publish u data)) ∧
      (r.publish u data).stats.deliveries = r.stats.deliveries + (audience events u).length := by
  obtain ⟨taken, new, board⟩ := h.board.publish u data
  rw [← h.target] at taken
  have counted : (r.publish u data).stats.deliveries = r.stats.deliveries + (audience events u).length :=
    congrArg (r.stats.deliveries + ·) taken
  refine ⟨⟨new, h.target, ?_, ?_, ?_⟩, counted⟩
  · rw [Replay.publish, h.target]
    exact board
  · rw [List.countP_append, ← h.subscriptions]
    rfl
  · rw [counted, h.deliveries, told_concat, List.length_append, Event.tells, List.length_map, List.length_reverse]

theorem Following.hear (h : Following sink events rows r) (e : Event) :
    ∃ new, Following sink (events ++ [e]) (rows ++ new) (r.hear e) := by
  have same (followed : Following sink (events ++ [e]) rows (r.hear e)) :
      ∃ new, Following sink (events ++ [e]) (rows ++ new) (r.hear e) := ⟨[], (List.append_nil rows).symm ▸ followed⟩
  cases e with
  | publish u data => exact (h.publish u data).1
  | removeUser u => exact same (h.quiet rfl (fun _ => rfl) rfl rfl (h.board.clear u))
  | subscribe name u => exact same (h.subscribe name u).1
  | unsubscribe name u => exact same (h.unsubscribe name u)
  | _ => exact same (h.quiet rfl (fun _ => rfl) rfl rfl (h.board.skip (fun _ => rfl) fun _ => rfl))

theorem Following.advance (h : Following sink events rows r) (e : Event) :
    ∃ new, Following sink (events ++ [e]) (rows ++ new) (r.advance e) := by
  have served : Following sink events rows (r.serve e) := ⟨h.target, h.board, h.subscriptions, h.deliveries⟩
  obtain ⟨new, heard⟩ := served.hear e
  exact ⟨new, heard.target, heard.board, heard.subscriptions, heard.deliveries⟩

theorem Following.applied (h : Following sink events rows r) (more : List Event) :
    ∃ new, Following sink (events ++ more) (rows ++ new) (r.applied more) := by
  induction more generalizing events rows r with
  | nil => exact ⟨[], (List.append_nil events).symm ▸ (List.append_nil rows).symm ▸ h⟩
  | cons e rest ih =>
    obtain ⟨first, advanced⟩ := h.advance e
    obtain ⟨later, followed⟩ := ih advanced
    rw [List.append_assoc, List.append_assoc] at followed
    exact ⟨first ++ later, followed⟩

theorem Following.stopped (h : Following sink events rows r) : Following sink events rows r.stopped :=
  ⟨h.target, h.board, h.subscriptions, h.deliveries⟩

theorem run_following (begun : Following sink [] [] r) (opened : r.service.Open) (unused : r.stats.events = 0)
    (events : List Event) : ∃ rows, Following sink (events.take (r.run events).2.stats.events) rows (r.run events).2 := by
  obtain ⟨-, -, ended⟩ := (run_ended opened events).counted unused
  generalize (r.run events).2 = last at ended ⊢
  generalize events.take last.stats.events = applied at ended ⊢
  obtain ⟨rows, followed⟩ := begun.applied applied
  rcases ended with through | stopped
  · exact ⟨rows, through ▸ followed⟩
  · exact ⟨rows, stopped ▸ followed.stopped⟩

/-- The listeners' half of a replay keeps, for each user, the names subscribed in the order in which they joined: those
    whose last subscription, unsubscription or removal of the user is a subscription. A replay follows its whole
    scenario, or as far as the first check that fails. Whatever has happened before, at each publication on the way and
    at one that may come next, what is published is delivered to each of them, and a subscription is never refused.
    Deliveries are counted, and subscriptions too. On any sink but the log, what a device that never fails receives is
    one line for each delivery, publication by publication and the latest to join first, and the rows that bear one name
    are numbered from zero. -/
theorem run_listening (sink : SinkSpec) (device : Device) (healthy : device.Healthy) (unused : device.bytes = [])
    (events : List Event) :
    let answer := ((start sink device).run events).1
    let r := ((start sink device).run events).2
    let applied := events.take r.stats.events
    (∀ history u, (audience history u).Nodup ∧ (∀ name, name ∈ audience history u ↔ Subscribed history name u) ∧
      (audience history u).Pairwise (JoinedEarlier history u)) ∧
    ((∀ i, ¬AccessState.empty.ContradictedAt events i) → answer = .ok () ∧ r.stats.events = events.length) ∧
    (∀ i, AccessState.empty.ContradictedAt events i → (∀ j < i, ¬AccessState.empty.ContradictedAt events j) →
      (∃ detail, answer = .error (.invalidInput detail)) ∧ r.stats.events = i) ∧
    (∀ i u data, i < r.stats.events → events[i]? = some (.publish u data) → ∃ before after,
      (start sink device).run (events.take i) = (.ok (), before) ∧ before.step (.publish u data) = (.ok (), after) ∧
      (start sink device).run events = after.run (events.drop (i + 1)) ∧
      after.stats.deliveries = before.stats.deliveries + (audience (events.take i) u).length) ∧
    (∀ u data, ∃ next, r.step (.publish u data) = (.ok (), next) ∧
      next.stats.deliveries = r.stats.deliveries + (audience applied u).length) ∧
    (∀ name u, ∃ next, r.step (.subscribe name u) = (.ok (), next) ∧
      next.stats.subscriptions = r.stats.subscriptions + 1) ∧
    r.stats.subscriptions = applied.countP Event.isSubscribe ∧
    r.stats.deliveries = (told applied).length ∧
    ∃ rows : List Row,
      r.output.toList = rows.flatMap (fun row => endLine row.line) ∧
      completeLines r.output.toList = rows.map Row.line ∧
      (∀ held, rows.map (fun row => Row.read held row.text) = rows.map fun row => some (.ok row)) ∧
      rows.map Row.notice = sink.written (told applied) ∧
      rows.length = (if sink = .log then 0 else r.stats.deliveries) ∧
      ∀ name, (rowsOf rows name).map Row.seq = List.range (rowsOf rows name).length := by
  intro answer r applied
  have opened := start_open sink device
  have begun := start_following sink healthy unused
  obtain ⟨rows, followed⟩ := run_following begun opened rfl events
  have written : rows.map Row.notice = sink.written (told applied) := followed.board.written
  refine ⟨fun history u => ⟨audience_nodup history u, fun name => mem_audience_iff history name u,
    audience_sorted history u⟩, run_applied_events opened rfl, fun i => run_contradicted_events opened rfl,
    fun i u data counted there => ?_, fun u data => ?_, fun name u => ?_, followed.subscriptions, followed.deliveries,
    rows, followed.board.wrote.received, followed.board.wrote.completeLines, followed.board.wrote.read, written, ?_,
    followed.board.wrote.numbered⟩
  · obtain ⟨before, whole⟩ := run_reaches opened rfl counted there
    obtain ⟨_, reached⟩ := begun.applied (events.take i)
    exact ⟨_, _, before, rfl, whole, (reached.publish u data).2⟩
  · obtain ⟨-, delivered⟩ := followed.publish u data
    exact ⟨_, rfl, delivered⟩
  · obtain ⟨-, subscribed⟩ := followed.subscribe name u
    exact ⟨_, rfl, subscribed⟩
  · have count := congrArg List.length written
    rw [List.length_map, SinkSpec.written] at count
    rw [count]
    split
    · rfl
    · exact followed.deliveries.symm

/-- Two listeners hear of the same user, the second after the first was taken off and came back; then a check fails, and
    what follows it is not published. The device takes the first row in two portions. -/
theorem run_listening_stopped :
    let data : Safety.Data := { status := { title := "Protected" } }
    let events : List Event := [.subscribe "a" ⟨0⟩, .subscribe "b" ⟨0⟩, .unsubscribe "a" ⟨0⟩, .subscribe "a" ⟨0⟩,
      .publish ⟨0⟩ data, .check (.uid ⟨10⟩) (.permission "CAMERA") (some .granted), .publish ⟨0⟩ data]
    let slow : Device := { writes := [.atMost 3] }
    let r := ((start .stdout slow).run events).2
    slow.Healthy ∧ AccessState.empty.ContradictedAt events 5 ∧ (∀ j < 5, ¬AccessState.empty.ContradictedAt events j) ∧
      r.stats.events = 5 ∧ audience (events.take 4) ⟨0⟩ = ["b", "a"] ∧
      (∃ before after, (start .stdout slow).run (events.take 4) = (.ok (), before) ∧
        before.step (.publish ⟨0⟩ data) = (.ok (), after) ∧ (start .stdout slow).run events = after.run (events.drop 5) ∧
        after.stats.deliveries = before.stats.deliveries + 2) ∧
      r.stats.deliveries = 2 ∧ Subscribed (events.take 5) "a" ⟨0⟩ ∧
      (∀ i, ¬AccessState.empty.ContradictedAt [.publish ⟨0⟩ data] i) ∧
      ((start .stdout slow).run [.publish ⟨0⟩ data]).2.stats.events = 1 := by
  intro data events slow r
  have healthy : slow.Healthy := {
    writes := List.forall_mem_singleton.2 (Nat.succ_pos 2), write := trivial, flushes := nofun, flush := rfl }
  have wrong : AccessState.empty.ContradictedAt events 5 :=
    ⟨.uid ⟨10⟩, .permission "CAMERA", .granted, rfl, by decide⟩
  have first : ∀ j < 5, ¬AccessState.empty.ContradictedAt events j := by
    intro j before contradicted
    obtain ⟨subject, object, d, there, -⟩ := contradicted
    match j, there with
    | 0, there | 1, there | 2, there | 3, there | 4, there => cases there
  have agree : ∀ i, ¬AccessState.empty.ContradictedAt [.publish ⟨0⟩ data] i := by
    intro i contradicted
    obtain ⟨subject, object, d, there, -⟩ := contradicted
    cases i <;> cases there
  have published : events[4]? = some (.publish ⟨0⟩ data) := rfl
  have present : audience (events.take 4) ⟨0⟩ = ["b", "a"] := by decide
  have stays : "a" ∈ audience (events.take 5) ⟨0⟩ := by decide
  have both : (told (events.take 5)).length = 2 := rfl
  -- From here on the scenario is not to be run again, which only writes rows.
  clear_value events
  obtain ⟨history, -, stops, places, -, -, -, deliveries, -⟩ := run_listening .stdout slow healthy rfl events
  obtain ⟨-, counted⟩ := stops 5 wrong first
  obtain ⟨before, after, reached, stepped, whole, delivered⟩ :=
    places 4 ⟨0⟩ data (Nat.lt_of_lt_of_eq (by decide) counted.symm) published
  obtain ⟨-, through, -⟩ := run_listening .stdout slow healthy rfl [.publish ⟨0⟩ data]
  rw [present] at delivered
  rw [counted, both] at deliveries
  exact ⟨healthy, wrong, first, counted, present, ⟨before, after, reached, stepped, whole, delivered⟩, deliveries,
    ((history (events.take 5) ⟨0⟩).2.1 "a").1 stays, agree, (through agree).2⟩

end Replay
end Gatekeeper
