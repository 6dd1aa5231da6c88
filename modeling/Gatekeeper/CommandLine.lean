import Gatekeeper.Scenario.Decoding
import Gatekeeper.Replay
import Gatekeeper.Report
import Gatekeeper.State.Validity
import Gatekeeper.Text.Quoted
import Gatekeeper.Json.Printer

set_option autoImplicit false

namespace Gatekeeper

namespace Error

def diagnostic : Error → String
  | duplicateSchemePolicy subject object =>
    "DuplicateSchemePolicy \x7b subject_scheme: " ++ Text.quote subject ++
      ", object_scheme: " ++ Text.quote object ++ " \x7d"
  | invalidUri detail => s!"InvalidUri({Text.quote detail})"
  | invariantViolation detail => s!"InvariantViolation({Text.quote detail})"
  | deadObject => "DeadObject"
  | delivery detail => s!"Delivery({Text.quote detail})"
  | invalidInput detail => s!"InvalidInput({Text.quote detail})"
  | internal detail => s!"Internal({Text.quote detail})"

end Error

namespace CommandLine

structure Options where
  /-- The path of the scenario. -/
  scenario : String
  /-- The report is to be JSON. -/
  json : Bool := false
  sink : Option String := none
  deriving DecidableEq, Repr

namespace Options

/-- Reads the words after the command `replay`, options in any order and a value either behind an equals sign or in the
    next word. -/
def ofWords? (o : Options) : List String → Option Options
  | [] => some o
  | "--json" :: rest => ofWords? { o with json := true } rest
  | "--scenario" :: path :: rest => ofWords? { o with scenario := path } rest
  | "-s" :: path :: rest => ofWords? { o with scenario := path } rest
  | "--sink" :: spec :: rest => ofWords? { o with sink := some spec } rest
  | word :: rest =>
    match word.splitOn "=" with
    | "--scenario" :: path => ofWords? { o with scenario := String.intercalate "=" path } rest
    | "--sink" :: spec => ofWords? { o with sink := some (String.intercalate "=" spec) } rest
    | _ => none

/-- The options of a command line; a scenario that it does not name may have been named beforehand. -/
def ofArguments? (named : Option String) : List String → Option Options
  | "replay" :: words => do
    let o ← ofWords? { scenario := named.getD "" } words
    if o.scenario.isEmpty then none else return o
  | _ => none

end Options

structure Plan where
  events : List Event
  sink : SinkSpec
  json : Bool

structure Outcome where
  exitCode : UInt8
  stdout : Array UInt8 := #[]
  stderr : String := ""
  /-- What was written to the sink file. -/
  file : Array UInt8 := #[]
  deriving DecidableEq, Repr

def plan (options : Options) (scenario : Except String ByteArray) : Except Error Plan := do
  let events ← Scenario.load options.scenario scenario
  let sink ← SinkSpec.parse options.sink
  return { events, sink, json := options.json }

def failure (e : Error) : Outcome := { exitCode := 1, stderr := s!"Error: {e.diagnostic}\n" }

namespace Plan

def file? (p : Plan) : Option String :=
  match p.sink with
  | .file path => some path
  | _ => none

def uncreated (path reason : String) : Error :=
  .invalidInput s!"cannot create sink file {path}: {reason}"

def report (p : Plan) (s : AccessState) (o : Outcome) : Outcome :=
  let r := Report.of s
  let bytes (text : String) : Array UInt8 := text.toUTF8.data
  if p.json then { o with stdout := o.stdout ++ bytes (r.toJson.pretty ++ "\n") }
  else if p.sink = .stdout then { o with stderr := r.render }
  else { o with stdout := o.stdout ++ bytes r.render }

/-- Replays and reports. The sink file has been made by now. -/
def carryOut (p : Plan) : Outcome :=
  let (answer, r) := (Replay.start p.sink).run p.events
  let written : Outcome :=
    match p.sink with
    | .log => { exitCode := 0 }
    | .stdout => { exitCode := 0, stdout := r.output }
    | .file _ => { exitCode := 0, file := r.output }
  let failed (e : Error) : Outcome := { written with exitCode := 1, stderr := (failure e).stderr }
  match answer with
  | .error e => failed e
  | .ok () =>
    match r.state.validate with
    | .error e => failed e
    | .ok () => p.report r.state written

end Plan
end CommandLine
end Gatekeeper
