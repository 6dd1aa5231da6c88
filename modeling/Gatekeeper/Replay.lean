import Gatekeeper.Scenario.Event
import Gatekeeper.Service
import Gatekeeper.Listener.Registry
import Gatekeeper.Sink.RowStream
import Gatekeeper.Sink.Spec

/-!
# Replaying scenarios

A replay applies events in order to a service with the built-in policies and to a switchboard of named listeners. A
listener is made when its name first subscribes, and keeps its stream of rows through all later subscriptions. All
streams lead to one device. The replay stops at the first event that fails, and only a check that finds another
decision than it expects does.
-/

set_option autoImplicit false

namespace Gatekeeper

structure ReplayStats where
  events : Nat := 0
  checks : Nat := 0
  subscriptions : Nat := 0
  deliveries : Nat := 0
  deriving DecidableEq, Repr

/-- The streams of the listeners made so far, by name, and the device they write to. -/
structure Outputs where
  streams : SortedMap String RowStream := ∅
  device : Device := {}
  deriving DecidableEq

structure Replay where
  sink : SinkSpec
  service : Service
  board : Switchboard String Outputs
  stats : ReplayStats := {}

namespace Replay

def start (sink : SinkSpec) (device : Device := {}) : Replay where
  sink := sink
  service := { policies := .builtin }
  board := { outside := { device } }

/-- Writes a row, or only takes notice when the sink is the log. -/
def behavior (sink : SinkSpec) : Behavior String Outputs := fun name data w =>
  match sink, w.outside.streams.get? name with
  | .log, _ => (.ok (), w)
  | _, none => (.ok (), w)
  | _, some stream =>
    let (answer, stream, device) := stream.deliver data w.outside.device
    (answer, { w with outside := { streams := w.outside.streams.insert name stream, device } })

def state (r : Replay) : AccessState := r.service.published

def output (r : Replay) : Array UInt8 := r.board.outside.device.received

def count (r : Replay) (f : ReplayStats → ReplayStats) : Replay := { r with stats := f r.stats }

def write (r : Replay) (c : Command) : Except Error Unit × Replay :=
  match r.service.perform c with
  | (.refused e, _, service) => (.error e, { r with service })
  | (_, _, service) => (.ok (), { r with service })

def checkError (subject object : AccessUri) (expected found : Decision) : Error :=
  .invalidInput
    s!"check {subject.text} -> {object.text}: expected {expected.text}, got {found.text}"

def ensureStream (name : String) (w : Switchboard String Outputs) : Switchboard String Outputs :=
  if w.outside.streams.contains name then w
  else { w with outside := { w.outside with streams := w.outside.streams.insert name { name } } }

def subscribe (r : Replay) (name : String) (u : UserId) : Replay :=
  let (registered, board) := (ensureStream name r.board).addListener name u
  let r := { r with board }
  if registered then r.count fun s => { s with subscriptions := s.subscriptions + 1 } else r

def unsubscribe (r : Replay) (name : String) (u : UserId) : Replay :=
  if r.board.outside.streams.contains name then { r with board := (r.board.removeListener name u).2 } else r

def publish (r : Replay) (u : UserId) (data : Safety.Data) : Replay :=
  let (delivered, board) := r.board.deliverToUser (behavior r.sink) u data
  { r with board }.count fun s => { s with deliveries := s.deliveries + delivered }

def check (r : Replay) (subject object : AccessUri) (expect : Option Decision) :
    Except Error Unit × Replay :=
  let found := r.service.decide subject object
  let r := r.count fun s => { s with checks := s.checks + 1 }
  match expect with
  | some d => (if d = found then .ok () else .error (checkError subject object d found), r)
  | none => (.ok (), r)

def apply (r : Replay) : Event → Except Error Unit × Replay
  | .addUser u => r.write (.addUser u)
  | .removeUser u =>
    match r.write (.removeUser u) with
    | (.ok (), r) => (.ok (), { r with board := r.board.clearUser u })
    | failed => failed
  | .addPackage p => r.write (.addPackage p)
  | .removePackage name =>
    match r.state.system.packages.get? name with
    | some p => r.write (.removePackage p)
    | none => (.ok (), r)
  | .setDecision subject object d => r.write (.setDecision subject object d)
  | .check subject object expect => r.check subject object expect
  | .subscribe name u => (.ok (), r.subscribe name u)
  | .unsubscribe name u => (.ok (), r.unsubscribe name u)
  | .publish u data => (.ok (), r.publish u data)

/-- Applies an event, which counts unless it fails. -/
def step (r : Replay) (e : Event) : Except Error Unit × Replay :=
  match r.apply e with
  | (.ok (), r) => (.ok (), r.count fun s => { s with events := s.events + 1 })
  | failed => failed

def run (r : Replay) : List Event → Except Error Unit × Replay
  | [] => (.ok (), r)
  | e :: rest =>
    match r.step e with
    | (.ok (), r) => run r rest
    | failed => failed

end Replay
end Gatekeeper
