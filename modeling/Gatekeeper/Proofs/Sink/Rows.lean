import Gatekeeper.Proofs.Sink.Outlet
import Gatekeeper.Proofs.Sink.Lines
import Gatekeeper.Proofs.Json.RoundTrip

set_option autoImplicit false

namespace Gatekeeper
namespace RowStream

open Outlet (Takes)

def outlet (s : RowStream) (device : Device) : Outlet := { buffer := s.buffer, device }

def rowText (s : RowStream) (data : Safety.Data) : List UInt8 := (bytes (s.row data).compact).toList

theorem rowText_whole (s : RowStream) (data : Safety.Data) : lineFeed ∉ s.rowText data := by
  intro mem
  have visible := (s.row data).compact_visible '\n' (lineFeed_mem_bytes mem)
  exact absurd visible (by decide)

theorem bytes_join (texts : List String) :
    (bytes (String.join texts)).toList = texts.flatMap fun text => (bytes text).toList := by
  simp only [bytes_toList, String.toList_join, List.flatMap_assoc]

theorem pieces_flatMap (s : RowStream) (data : Safety.Data) :
    (s.pieces data).flatMap Array.toList = endLine (s.rowText data) := by
  have row := bytes_join (s.row data).pieces
  have ended : (bytes "\n").toList = [lineFeed] := rfl
  rw [pieces, List.flatMap_map, List.flatMap_append, ← row, List.flatMap_singleton, ended]
  rfl

theorem outlet_taken {s : RowStream} (unused : s.buffer = #[]) (device : Device) :
    (s.outlet device).taken = device.bytes := by
  rw [Outlet.taken, Outlet.waiting, outlet, unused]
  exact List.append_nil _

/-- What is taken between two moments at which the buffer is unused has reached the device. -/
theorem bytes_of_takes {s : RowStream} (unused : s.buffer = #[]) {device device' : Device} {part : List UInt8}
    (takes : (s.outlet device).Takes part { device := device' }) : device'.bytes = device.bytes ++ part := by
  rw [← outlet_taken unused device, ← takes.taken_eq, Outlet.taken_unused]

/-- The stream after a row that was written and flushed. -/
def counted (s : RowStream) : RowStream := { s with buffer := #[], rows := s.rows + 1 }

/-- What a delivery does to a stream and the device behind it: a line is taken, and counted, and nothing is left in
    the buffer; or a first part of it is taken and not counted. -/
inductive Delivery (s : RowStream) (data : Safety.Data) (device : Device) :
    Except Error Unit × RowStream × Device → Prop where
  | done (device' : Device) (takes : (s.outlet device).Takes (endLine (s.rowText data)) { device := device' }) :
    Delivery s data device (.ok (), s.counted, device')
  | failed (fault : String) (buffer : Array UInt8) (device' : Device) (part : List UInt8)
    (takes : (s.outlet device).Takes part { buffer, device := device' }) (front : part <+: endLine (s.rowText data))
    (starts : s.buffer = #[] → part ≠ []) :
    Delivery s data device (.error (s.deliveryError fault), { s with buffer }, device')

theorem putAll_pieces (s : RowStream) (data : Safety.Data) (device : Device) (unused : s.buffer = #[]) :
    ∃ part, (s.outlet device).Takes part (Outlet.putAll (s.pieces data) (s.outlet device)).2 ∧ part ≠ [] := by
  obtain ⟨rest, first⟩ : ∃ rest, s.pieces data = bytes "\x7b" :: rest := ⟨_, rfl⟩
  have waiting : (s.outlet device).waiting = [] := by rw [Outlet.waiting, outlet, unused]
  have small : (bytes "\x7b").size < Outlet.capacity := by decide
  obtain ⟨part, takes⟩ := Outlet.putAll_starts (bytes "\x7b") rest (s.outlet device) waiting small
  rw [first]
  exact ⟨_, takes, List.cons_ne_nil _ _⟩

theorem deliver_delivery (s : RowStream) (data : Safety.Data) (device : Device) :
    Delivery s data device (s.deliver data device) := by
  obtain ⟨part, took, front, whole⟩ := Outlet.putAll_takes (s.pieces data) { buffer := s.buffer, device }
  have starts : s.buffer = #[] → part ≠ [] := by
    intro unused
    obtain ⟨first, takes, nonempty⟩ := s.putAll_pieces data device unused
    rwa [took.unique takes]
  rw [pieces_flatMap] at front whole
  unfold deliver
  cases put : Outlet.putAll (s.pieces data) { buffer := s.buffer, device } with
  | mk fault o =>
    rw [put] at took whole
    cases fault with
    | some fault => exact .failed fault o.buffer o.device part took front starts
    | none =>
      have flushed := took.trans o.flush_takes
      have emptied := o.flush_waiting
      rw [List.append_nil] at flushed
      cases flush : o.flush with
      | mk fault o' =>
        rw [flush] at flushed emptied
        cases fault with
        | some fault =>
          simp only [flush]
          exact .failed fault o'.buffer o'.device part flushed front starts
        | none =>
          have unused : o'.buffer = #[] := Array.toList_eq_nil_iff.1 (emptied rfl)
          obtain ⟨buffer, device'⟩ := o'
          obtain rfl : buffer = #[] := unused
          rw [whole rfl] at flushed
          simp only [flush]
          exact .done device' flushed

/-- One of several deliveries: the number its row bears, what is delivered, and the answer. -/
structure Turn where
  number : Nat
  data : Safety.Data
  answer : Except Error Unit

namespace Turn

def done (turn : Turn) : Bool := turn.answer.isOk

def text (name : String) (turn : Turn) : List UInt8 := rowText { name, rows := turn.number } turn.data

end Turn

def run : List Safety.Data → RowStream → Device → List Turn × RowStream × Device
  | [], s, device => ([], s, device)
  | data :: rest, s, device =>
    let next := s.deliver data device
    let later := run rest next.2.1 next.2.2
    (⟨s.rows, data, next.1⟩ :: later.1, later.2)

/-- What a sequence of turns puts on the way to the device: the line of each that succeeds, and a first part of the
    line of each that fails. Rows bear the number of turns that have succeeded before. A turn that fails while nothing
    is left of a failed one, which `clean` stands for, puts at least something there. -/
inductive Trail (name : String) : Bool → Nat → List Turn → List UInt8 → Prop where
  | nil (clean : Bool) (n : Nat) : Trail name clean n [] []
  | done (clean : Bool) {n : Nat} {data : Safety.Data} {turns : List Turn} {trail : List UInt8}
    (later : Trail name true (n + 1) turns trail) :
    Trail name clean n (⟨n, data, .ok ()⟩ :: turns) (endLine (rowText { name, rows := n } data) ++ trail)
  | failed {clean : Bool} {n : Nat} {data : Safety.Data} {turns : List Turn} {part trail : List UInt8} (fault : String)
    (front : part <+: endLine (rowText { name, rows := n } data)) (starts : clean = true → part ≠ [])
    (later : Trail name false n turns trail) :
    Trail name clean n (⟨n, data, .error (.delivery s!"{name}: {fault}")⟩ :: turns) (part ++ trail)

theorem Trail.unclean {name : String} {clean : Bool} {n : Nat} {turns : List Turn} {trail : List UInt8}
    (h : Trail name clean n turns trail) : Trail name false n turns trail := by
  cases h with
  | nil => exact .nil false n
  | done _ later => exact .done false later
  | failed fault front _ later => exact .failed fault front (fun clean => nomatch clean) later

theorem Trail.numbers {name : String} {clean : Bool} {n : Nat} {turns : List Turn} {trail : List UInt8}
    (h : Trail name clean n turns trail) :
    (turns.filter Turn.done).map Turn.number = List.range' n (turns.countP Turn.done) := by
  induction h with
  | nil => rfl
  | done clean later ih =>
    rw [List.filter_cons_of_pos (by rfl), List.countP_cons_of_pos (by rfl), List.map_cons, ih, List.range'_succ]
  | failed fault front starts later ih =>
    rw [List.filter_cons_of_neg Bool.false_ne_true, List.countP_cons_of_neg Bool.false_ne_true, ih]

theorem filter_done {turns : List Turn} (none : ¬∃ turn ∈ turns, turn.done = true) : turns.filter Turn.done = [] :=
  List.filter_eq_nil_iff.2 fun turn mem succeeded => none ⟨turn, mem, succeeded⟩

theorem run_data (updates : List Safety.Data) (s : RowStream) (device : Device) :
    (run updates s device).1.map Turn.data = updates := by
  induction updates generalizing s device with
  | nil => rfl
  | cons data rest ih => exact congrArg (data :: ·) (ih _ _)

theorem run_rows (updates : List Safety.Data) (s : RowStream) (device : Device) :
    (run updates s device).2.1.rows = s.rows + (run updates s device).1.countP Turn.done := by
  induction updates generalizing s device with
  | nil => rfl
  | cons data rest ih =>
    have delivery := s.deliver_delivery data device
    rw [run]
    generalize s.deliver data device = next at delivery
    cases delivery with
    | done device' takes =>
      have counted := ih s.counted device'
      rw [List.countP_cons_of_pos (by rfl), ← Nat.add_assoc, Nat.add_right_comm]
      exact counted
    | failed fault buffer device' part takes front starts =>
      rw [List.countP_cons_of_neg Bool.false_ne_true]
      exact ih _ _

theorem run_trail (updates : List Safety.Data) (s : RowStream) (device : Device) :
    ∃ trail, (s.outlet device).Takes trail ((run updates s device).2.1.outlet (run updates s device).2.2) ∧
      Trail s.name s.buffer.isEmpty s.rows (run updates s device).1 trail := by
  induction updates generalizing s device with
  | nil => exact ⟨[], Takes.refl _, .nil _ _⟩
  | cons data rest ih =>
    have delivery := s.deliver_delivery data device
    rw [run]
    generalize s.deliver data device = next at delivery
    cases delivery with
    | done device' takes =>
      obtain ⟨trail, later, followed⟩ := ih s.counted device'
      exact ⟨_, takes.trans later, .done _ followed⟩
    | failed fault buffer device' part takes front starts =>
      obtain ⟨trail, later, followed⟩ := ih { s with buffer } device'
      refine ⟨_, takes.trans later, .failed fault front (fun clean => ?_) followed.unclean⟩
      exact starts (Array.isEmpty_iff.1 clean)

/-- Once a turn has succeeded, all that was on the way by then has reached the device, and a line feed ends it. -/
theorem run_reaches (updates : List Safety.Data) (s : RowStream) (device : Device)
    (any : ∃ turn ∈ (run updates s device).1, turn.done = true) :
    ∃ front rest, (run updates s device).2.2.bytes = (s.outlet device).taken ++ (endLine front ++ rest) ∧
      (((run updates s device).1.filter Turn.done).flatMap fun turn => endLine (turn.text s.name)).length ≤
        (endLine front).length := by
  induction updates generalizing s device with
  | nil =>
    obtain ⟨turn, mem, -⟩ := any
    cases mem
  | cons data rest ih =>
    have delivery := s.deliver_delivery data device
    rw [run] at any ⊢
    generalize s.deliver data device = next at delivery any
    have prepend (part front : List UInt8) : part ++ endLine front = endLine (part ++ front) :=
      (List.append_assoc ..).symm
    cases delivery with
    | done device' takes =>
      have after := ih s.counted device'
      by_cases later : ∃ turn ∈ (run rest s.counted device').1, turn.done = true
      · obtain ⟨front, tail, received, length⟩ := after later
        refine ⟨endLine (s.rowText data) ++ front, tail, ?_, ?_⟩
        · rw [← prepend, List.append_assoc, ← List.append_assoc, ← takes.taken_eq]
          exact received
        · rw [List.filter_cons_of_pos (by rfl), List.flatMap_cons, ← prepend, List.length_append, List.length_append]
          exact Nat.add_le_add_left length _
      · obtain ⟨trail, ⟨-, tail, received⟩, -⟩ := run_trail rest s.counted device'
        refine ⟨s.rowText data, tail, ?_, ?_⟩
        · rw [← List.append_assoc, ← takes.taken_eq, Outlet.taken_unused]
          exact received.symm
        · rw [List.filter_cons_of_pos (by rfl), filter_done later, List.flatMap_singleton]
          exact Nat.le_refl _
    | failed fault buffer device' part takes front starts =>
      obtain ⟨turn, mem, succeeded⟩ := any
      obtain rfl | mem := List.mem_cons.1 mem
      · exact absurd succeeded Bool.false_ne_true
      · obtain ⟨front, tail, received, length⟩ := ih { s with buffer } device' ⟨turn, mem, succeeded⟩
        refine ⟨part ++ front, tail, ?_, ?_⟩
        · rw [← prepend, List.append_assoc, ← List.append_assoc, ← takes.taken_eq]
          exact received
        · rw [List.filter_cons_of_neg Bool.false_ne_true, ← prepend, List.length_append]
          exact Nat.le_add_left_of_le length

/-- From an unused buffer on, the lines that are complete are those of the turns that succeeded, up to the moment when
    one is completed after a turn that failed. -/
theorem run_exact (updates : List Safety.Data) (s : RowStream) (device : Device) (unused : s.buffer = #[])
    (received : List UInt8) (reached : (run updates s device).2.2.bytes = device.bytes ++ received) :
    completeLines received = ((run updates s device).1.filter Turn.done).map (Turn.text s.name) ↔
      (completeLines received).length = ((run updates s device).1.takeWhile Turn.done).length := by
  induction updates generalizing s device received with
  | nil =>
    obtain rfl : received = [] := List.append_cancel_left (reached.symm.trans (List.append_nil _).symm)
    exact ⟨fun _ => rfl, fun _ => rfl⟩
  | cons data rest ih =>
    have delivery := s.deliver_delivery data device
    rw [run] at reached ⊢
    generalize s.deliver data device = next at delivery reached ⊢
    cases delivery with
    | done device' takes =>
      obtain ⟨trail, ⟨-, later, grown⟩, -⟩ := run_trail rest s.counted device'
      have line := bytes_of_takes unused takes
      have both : device.bytes ++ received = device.bytes ++ (endLine (s.rowText data) ++ later) := by
        rw [← reached, ← List.append_assoc, ← line]
        exact grown.symm
      have split := List.append_cancel_left both
      have exact := ih s.counted device' rfl later grown.symm
      rw [split, completeLines_endLine (s.rowText_whole data), List.filter_cons_of_pos (by rfl), List.map_cons,
        List.takeWhile_cons_of_pos (by rfl), List.length_cons, List.length_cons, Nat.add_right_cancel_iff, ← exact]
      exact ⟨fun same => (List.cons.inj same).2, fun same => congrArg (s.rowText data :: ·) same⟩
    | failed fault buffer device' part takes front starts =>
      rw [List.filter_cons_of_neg Bool.false_ne_true, List.takeWhile_cons_of_neg Bool.false_ne_true]
      -- If a later turn succeeds, its line arrives behind the bytes left over here, and so is longer than its own text.
      by_cases later : ∃ turn ∈ (run rest { s with buffer } device').1, turn.done = true
      · obtain ⟨front, tail, grown, length⟩ := run_reaches rest { s with buffer } device' later
        have both : device.bytes ++ received = device.bytes ++ (endLine (part ++ front) ++ tail) := by
          have split : endLine (part ++ front) ++ tail = part ++ (endLine front ++ tail) := by
            simp only [endLine, List.append_assoc]
          rw [← reached, split, ← List.append_assoc, ← outlet_taken unused device, ← takes.taken_eq]
          exact grown
        have split := List.append_cancel_left both
        have longer := length_completeLines (part ++ front) tail
        have present : 0 < part.length := List.length_pos_iff.2 (starts unused)
        have ended (text : List UInt8) : (endLine text).length = text.length + 1 := List.length_append
        rw [← split, ended, List.length_append] at longer
        rw [ended] at length
        constructor
        · intro same
          rw [same, List.flatMap_map] at longer
          have impossible : part.length + front.length + 1 ≤ front.length + 1 := Nat.le_trans longer length
          omega
        · intro nothing
          rw [List.eq_nil_of_length_eq_zero nothing] at longer
          cases longer
      · rw [filter_done later]
        exact List.length_eq_zero_iff.symm

theorem run_buffer (updates : List Safety.Data) (s : RowStream) (device : Device) :
    ∀ turn ∈ (run updates s device).1.getLast?, turn.done = true → (run updates s device).2.1.buffer = #[] := by
  induction updates generalizing s device with
  | nil => exact fun _ mem => nomatch mem
  | cons data rest ih =>
    intro turn mem succeeded
    have delivery := s.deliver_delivery data device
    rw [run] at mem ⊢
    generalize s.deliver data device = next at delivery mem ⊢
    cases rest with
    | nil =>
      obtain rfl := Option.some.inj mem
      cases delivery with
      | done => rfl
      | failed => exact absurd succeeded Bool.false_ne_true
    | cons data' rest => exact ih next.2.1 next.2.2 turn mem succeeded

/-- What a stream has sent to its device. The trail of its turns has arrived but for what waits in the buffer, which is
    nothing after a turn that succeeded. The turns that succeed are counted and numbered from zero on. The lines that
    are complete are theirs exactly until one is completed after a turn that failed. -/
theorem run_received (name : String) (device : Device) (updates : List Safety.Data) :
    let history := run updates { name } device
    ∃ received trail,
      history.2.2.bytes = device.bytes ++ received ∧
      received ++ history.2.1.buffer.toList = trail ∧
      Trail name true 0 history.1 trail ∧
      history.1.map Turn.data = updates ∧
      history.2.1.rows = history.1.countP Turn.done ∧
      (history.1.filter Turn.done).map Turn.number = List.range history.2.1.rows ∧
      (∀ turn ∈ history.1.getLast?, turn.done = true → history.2.1.buffer = #[]) ∧
      (completeLines received = (history.1.filter Turn.done).map (Turn.text name) ↔
        (completeLines received).length = (history.1.takeWhile Turn.done).length) := by
  intro history
  obtain ⟨trail, ⟨taken, received, grown⟩, followed⟩ := run_trail updates { name } device
  have counted : history.2.1.rows = history.1.countP Turn.done := (run_rows updates { name } device).trans (Nat.zero_add _)
  have numbers := followed.numbers
  refine ⟨received, trail, grown.symm, ?_, followed, run_data .., counted, ?_, run_buffer updates _ _, ?_⟩
  · have both : device.bytes ++ (received ++ history.2.1.buffer.toList) = device.bytes ++ trail := by
      rw [@outlet_taken { name } rfl device] at taken
      rw [← List.append_assoc, ← taken]
      exact congrArg (· ++ history.2.1.buffer.toList) grown
    exact List.append_cancel_left both
  · rw [counted, List.range_eq_range']
    exact numbers
  · exact run_exact updates { name } device rfl received grown.symm

theorem deliver_fits (s : RowStream) (data : Safety.Data) (device : Device) {text : List UInt8} {buffer : Array UInt8}
    (row : s.rowText data = text) (fits : s.buffer.size + (endLine text).length < Outlet.capacity)
    (joined : s.buffer ++ (endLine text).toArray = buffer) :
    s.deliver data device =
      match Outlet.flush { buffer, device } with
      | (some fault, o) => (.error (s.deliveryError fault), { s with buffer := o.buffer }, o.device)
      | (none, o) => (.ok (), { s with buffer := o.buffer, rows := s.rows + 1 }, o.device) := by
  have put : Outlet.putAll (s.pieces data) { buffer := s.buffer, device } = (none, { buffer, device }) := by
    rw [Outlet.putAll_fits _ _ (by rwa [pieces_flatMap, row]), pieces_flatMap, row, Outlet.hold, joined]
  rewrite [deliver, put]
  rfl

theorem flush_refused {buffer : Array UInt8} (some : 0 < buffer.size) (reason : String) :
    Outlet.flush { buffer, device := { writes := [.fails reason] } } = (.some reason, { buffer }) := by
  obtain ⟨_ | ⟨b, rest⟩⟩ := buffer
  · cases some
  · rfl

theorem flush_accepted {buffer : Array UInt8} (some : 0 < buffer.size) :
    Outlet.flush { buffer } = (none, { device := { received := #[].appendList buffer.toList } }) := by
  obtain ⟨_ | ⟨b, rest⟩⟩ := buffer
  · cases some
  · have drained (device : Device) (bound : Nat) : ∀ part, part = [] →
        Device.drain "failed to write the buffered data" bound part device = ((none, []), device) := by
      rintro part rfl
      cases bound <;> rfl
    have sent : Device.drain "failed to write the buffered data" (rest.length + 1) (b :: rest) {} =
        ((none, []), { received := #[].appendList (b :: rest) }) :=
      drained _ rest.length _ (List.drop_length (l := b :: rest))
    show Outlet.flush { buffer := { toList := b :: rest } } = _
    unfold Outlet.flush Outlet.empty
    rw [show (Array.mk (b :: rest)).size = rest.length + 1 from rfl, sent]
    rfl

/-- A device that fails once and recovers receives the row of the delivery that failed in front of the next, and both
    rows bear one number. -/
theorem run_recovered (name reason : String) (x y : Safety.Data)
    (fits : (endLine (rowText { name } x)).length + (endLine (rowText { name } y)).length < Outlet.capacity) :
    run [x, y] { name } { writes := [.fails reason] } =
      ([⟨0, x, .error (.delivery s!"{name}: {reason}")⟩, ⟨0, y, .ok ()⟩], { name, rows := 1 },
        { received := #[].appendList (endLine (rowText { name } x) ++ endLine (rowText { name } y)) }) := by
  obtain ⟨a, first⟩ : ∃ a, rowText { name } x = a := ⟨_, rfl⟩
  obtain ⟨b, second⟩ : ∃ b, ∀ buffer, rowText { name, buffer } y = b := ⟨rowText { name } y, fun _ => rfl⟩
  rw [first, second] at fits ⊢
  have one : 0 < (endLine a).toArray.size := by
    rw [List.size_toArray, endLine, List.length_append]
    exact Nat.succ_pos _
  have both : 0 < (endLine a ++ endLine b).toArray.size := by
    rw [List.size_toArray, List.length_append, ← List.size_toArray]
    exact Nat.add_pos_left one _
  have room : (RowStream.mk name #[] 0).buffer.size + (endLine a).length < Outlet.capacity := by
    rw [Array.size_empty]
    omega
  have roomAfter : (RowStream.mk name (endLine a).toArray 0).buffer.size + (endLine b).length < Outlet.capacity := by
    rw [List.size_toArray]
    exact fits
  have failed : deliver { name } x { writes := [.fails reason] } =
      (.error (.delivery s!"{name}: {reason}"), { name, buffer := (endLine a).toArray }, {}) := by
    rw [deliver_fits _ _ _ first room Array.empty_append, flush_refused one]
    rfl
  have recovered : deliver { name, buffer := (endLine a).toArray } y {} =
      (.ok (), { name, rows := 1 }, { received := #[].appendList (endLine a ++ endLine b) }) := by
    rw [deliver_fits _ _ _ (second _) roomAfter (List.append_toArray ..), flush_accepted both]
  simp only [run, failed, recovered]

/-- So a row arrives whose delivery was refused. -/
theorem run_recovered_inexact (name reason : String) (x y : Safety.Data)
    (fits : (endLine (rowText { name } x)).length + (endLine (rowText { name } y)).length < Outlet.capacity) :
    completeLines (run [x, y] { name } { writes := [.fails reason] }).2.2.bytes ≠
      ((run [x, y] { name } { writes := [.fails reason] }).1.filter Turn.done).map (Turn.text name) := by
  have whole : ∀ line ∈ [rowText { name } x, rowText { name } y], lineFeed ∉ line :=
    List.forall_mem_cons.2 ⟨rowText_whole _ x, List.forall_mem_singleton.2 (rowText_whole _ y)⟩
  have complete := completeLines_flatMap whole
  have joined : [rowText { name } x, rowText { name } y].flatMap endLine =
      endLine (rowText { name } x) ++ endLine (rowText { name } y) := by
    rw [List.flatMap_cons, List.flatMap_singleton]
  have received (line : List UInt8) : Device.bytes { received := #[].appendList line } = line := by
    simp [Device.bytes]
  rw [joined] at complete
  rw [run_recovered name reason x y fits, received, complete]
  intro same
  have two : 2 = 1 := congrArg List.length same
  cases two

theorem run_recovered_lost :
    completeLines (run [{ status := { title := "lost" } }, { status := { title := "back" } }]
        { name := "settings" } { writes := [.fails "closed"] }).2.2.bytes ≠
      ((run [{ status := { title := "lost" } }, { status := { title := "back" } }]
        { name := "settings" } { writes := [.fails "closed"] }).1.filter Turn.done).map (Turn.text "settings") :=
  run_recovered_inexact "settings" "closed" { status := { title := "lost" } } { status := { title := "back" } }
    (by decide +kernel)

end RowStream
end Gatekeeper
