import Gatekeeper.CommandLine
import Gatekeeper.Proofs.Replay.Listening
import Gatekeeper.Proofs.Json.RoundTrip

set_option autoImplicit false

namespace Gatekeeper

open RowStream (bytes)

namespace Json

def IsText (line : List UInt8) : Prop := ∃ text : String, (bytes text).toList = line ∧ ∃ j, parse text = some j

theorem bytes_injective {text text' : String} (same : (bytes text).toList = (bytes text').toList) : text = text' := by
  have arrays : text.toUTF8.data = text'.toUTF8.data := Array.toList_inj.1 same
  exact String.toByteArray_inj.1 (ByteArray.ext arrays)

def brace : List UInt8 := [123]

theorem brace_not_isText : ¬IsText brace := by
  intro isText
  obtain ⟨text, same, j, read⟩ := isText
  have open_ : (bytes "\x7b").toList = brace := rfl
  rw [bytes_injective (same.trans open_.symm)] at read
  cases read

theorem pretty_object (m : Option String × Json) (ms : List (Option String × Json)) :
    ∃ rest, (bytes (object (m :: ms)).pretty).toList = endLine brace ++ rest := by
  have front : ∃ cs, (prettyMembers 1 true (m :: ms)).toList = '\n' :: cs := by
    cases ms with
    | nil => exact ⟨_, prettyMembers_single 1 m.1 m.2⟩
    | cons m' ms => exact ⟨_, prettyMembers_cons 1 m.1 m.2 m' ms⟩
  obtain ⟨cs, front⟩ := front
  rw [bytes_toList, pretty, prettyAt_object, front]
  exact ⟨_, rfl⟩

end Json

theorem Row.line_isText (row : Row) : Json.IsText row.line := ⟨row.text, rfl, _, Json.parse_compact _⟩

theorem bytes_newLine (text : String) : (bytes (text ++ "\n")).toList = endLine (bytes text).toList := by
  rw [bytes_toList, bytes_toList, String.toList_append, List.flatMap_append]
  rfl

namespace CommandLine.Plan

/-- What follows the rows on standard output. -/
def tail (json : Bool) (report : Report) : List UInt8 :=
  if json then endLine (bytes report.toJson.pretty).toList else []

theorem lines_isText_iff (rows : List Row) (json : Bool) (report : Report) :
    (∀ line ∈ completeLines (rows.flatMap (fun row => endLine row.line) ++ tail json report), Json.IsText line) ↔
      json = false := by
  rw [← List.flatMap_map, completeLines_append (Row.lines_whole rows)]
  cases json with
  | false =>
    refine iff_of_true (fun line mem => ?_) rfl
    have listed : line ∈ rows.map Row.line := by simpa [tail, completeLines] using mem
    obtain ⟨row, -, rfl⟩ := List.mem_map.1 listed
    exact row.line_isText
  | true =>
    obtain ⟨rest, front⟩ := Json.pretty_object _ _
    have opens : tail true report = endLine Json.brace ++ (rest ++ [lineFeed]) := by
      rw [← List.append_assoc, ← front]
      rfl
    have first : completeLines (tail true report) = Json.brace :: completeLines (rest ++ [lineFeed]) := by
      rw [opens, completeLines_endLine (by decide)]
    rw [first]
    refine iff_of_false (fun all => Json.brace_not_isText (all _ ?_)) (by decide)
    exact List.mem_append_right _ List.mem_cons_self

theorem carryOut_stdout {events : List Event} (fine : ((Replay.start .stdout).run events).1 = .ok ()) (json : Bool) :
    let r := ((Replay.start .stdout).run events).2
    let outcome := carryOut { events, sink := .stdout, json }
    outcome.exitCode = 0 ∧ outcome.stdout.toList = r.output.toList ++ tail json (Report.of r.state) ∧
      outcome.stderr = if json then "" else (Report.of r.state).render := by
  intro r outcome
  have valid := (Replay.run_recorded .stdout {} events).validate
  have carried : outcome = report { events, sink := .stdout, json } r.state { exitCode := 0, stdout := r.output } := by
    simp only [outcome, carryOut, fine, valid]
    rfl
  rw [carried, report]
  cases json with
  | false => exact ⟨rfl, (List.append_nil _).symm, rfl⟩
  | true =>
    refine ⟨rfl, ?_, rfl⟩
    show (r.output ++ bytes ((Report.of r.state).toJson.pretty ++ "\n")).toList = _
    rw [Array.toList_append, bytes_newLine]
    rfl

theorem carryOut_rows {events : List Event} (fine : ((Replay.start .stdout).run events).1 = .ok ()) (json : Bool) :
    let r := ((Replay.start .stdout).run events).2
    ∃ rows, Replay.Following .stdout events rows r ∧
      (carryOut { events, sink := .stdout, json }).stdout.toList =
        rows.flatMap (fun row => endLine row.line) ++ tail json (Report.of r.state) := by
  intro r
  obtain ⟨-, written, -⟩ := carryOut_stdout fine json
  have through : r = (Replay.start .stdout).applied events :=
    Replay.run_through (Replay.start_open .stdout {}) (Prod.ext fine rfl)
  obtain ⟨rows, followed⟩ := (Replay.start_following .stdout Device.healthy_always rfl).applied events
  rw [← through] at followed
  have received : r.output.toList = rows.flatMap fun row => endLine row.line := followed.board.wrote.received
  rw [received] at written
  exact ⟨rows, followed, written⟩

theorem carryOut_pure_iff {events : List Event} (fine : ((Replay.start .stdout).run events).1 = .ok ())
    (json : Bool) :
    (∀ line ∈ completeLines (carryOut { events, sink := .stdout, json }).stdout.toList, Json.IsText line) ↔
      json = false := by
  obtain ⟨rows, -, written⟩ := carryOut_rows fine json
  rw [written]
  exact lines_isText_iff rows json _

/-- A replay that streams its rows to standard output and goes through. What is written there is one line for each
    delivery, in order, each read as the row that was delivered; a report in JSON follows, and is read as one text. So
    every line is a JSON text by itself exactly if no report in JSON is asked for: it has several lines, and otherwise
    the report goes to the other stream. -/
theorem carryOut_stream (events : List Event) (json : Bool)
    (fine : ((Replay.start .stdout).run events).1 = .ok ()) :
    let r := ((Replay.start .stdout).run events).2
    let report := Report.of r.state
    let outcome := carryOut { events, sink := .stdout, json }
    outcome.exitCode = 0 ∧ outcome.stderr = (if json then "" else report.render) ∧
    Json.parse report.toJson.pretty = some report.toJson ∧
    ∃ rows : List Row,
      outcome.stdout.toList = rows.flatMap (fun row => endLine row.line) ++ tail json report ∧
      (completeLines outcome.stdout.toList).take rows.length = rows.map Row.line ∧
      (∀ held, rows.map (fun row => Row.read held row.text) = rows.map fun row => some (.ok row)) ∧
      rows.map Row.notice = told events ∧ rows.length = r.stats.deliveries ∧
      ((∀ line ∈ completeLines outcome.stdout.toList, Json.IsText line) ↔ json = false) := by
  intro r report outcome
  obtain ⟨exit, -, reported⟩ := carryOut_stdout fine json
  obtain ⟨rows, followed, written⟩ := carryOut_rows fine json
  have notices : rows.map Row.notice = told events := followed.board.written
  have delivered : rows.length = r.stats.deliveries := by
    rw [followed.deliveries, ← notices, List.length_map]
  have first : (completeLines outcome.stdout.toList).take rows.length = rows.map Row.line := by
    rw [written, ← List.flatMap_map, completeLines_append (Row.lines_whole rows)]
    exact List.take_left' (List.length_map _)
  exact ⟨exit, reported, Json.parse_pretty _, rows, written, first, followed.board.wrote.read, notices, delivered,
    carryOut_pure_iff fine json⟩

/-- One row, and the report on the other stream. -/
theorem carryOut_stream_pure :
    let events : List Event :=
      [.addUser ⟨0⟩, .subscribe "settings" ⟨0⟩, .publish ⟨0⟩ { status := { title := "Protected" } }]
    ((Replay.start .stdout).run events).1 = .ok () ∧
      ∀ line ∈ completeLines (carryOut { events, sink := .stdout, json := false }).stdout.toList, Json.IsText line := by
  intro events
  have fine : ((Replay.start .stdout).run events).1 = .ok () := rfl
  clear_value events
  obtain ⟨-, -, -, -, -, -, -, -, -, pure⟩ := carryOut_stream events false fine
  exact ⟨fine, pure.2 rfl⟩

/-- One row and a report in JSON, whose lines are no JSON texts by themselves. -/
theorem carryOut_stream_report :
    let events : List Event :=
      [.addUser ⟨0⟩, .subscribe "settings" ⟨0⟩, .publish ⟨0⟩ { status := { title := "Protected" } }]
    ((Replay.start .stdout).run events).1 = .ok () ∧
      ¬∀ line ∈ completeLines (carryOut { events, sink := .stdout, json := true }).stdout.toList, Json.IsText line := by
  intro events
  have fine : ((Replay.start .stdout).run events).1 = .ok () := rfl
  clear_value events
  exact ⟨fine, mt (carryOut_pure_iff fine true).1 (by decide)⟩

end CommandLine.Plan
end Gatekeeper
