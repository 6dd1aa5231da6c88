import Gatekeeper.Sink.Outlet
import Gatekeeper.Safety.Encoding
import Gatekeeper.Json.Printer
import Gatekeeper.Error

set_option autoImplicit false

namespace Gatekeeper

structure RowStream where
  name : String
  buffer : Array UInt8 := #[]
  rows : Nat := 0
  deriving DecidableEq, Repr, Inhabited

namespace RowStream

def row (s : RowStream) (data : Safety.Data) : Json := .record [
  ("listener", .text s.name),
  ("seq", .nat s.rows),
  ("highest_severity", data.highestSeverity.toJson),
  ("data", data.toJson)]

def bytes (text : String) : Array UInt8 := text.toUTF8.data

def pieces (s : RowStream) (data : Safety.Data) : List (Array UInt8) :=
  ((s.row data).pieces ++ ["\n"]).map bytes

def deliveryError (s : RowStream) (fault : String) : Error := .delivery s!"{s.name}: {fault}"

def deliver (s : RowStream) (data : Safety.Data) (device : Device) :
    Except Error Unit × RowStream × Device :=
  match Outlet.putAll (s.pieces data) { buffer := s.buffer, device } with
  | (some fault, o) => (.error (s.deliveryError fault), { s with buffer := o.buffer }, o.device)
  | (none, o) =>
    match o.flush with
    | (some fault, o) => (.error (s.deliveryError fault), { s with buffer := o.buffer }, o.device)
    | (none, o) => (.ok (), { s with buffer := o.buffer, rows := s.rows + 1 }, o.device)

/-- Gives the stream up; what is still buffered goes to the device first. -/
def close (s : RowStream) (device : Device) : Except Error Unit × Device :=
  match Outlet.empty { buffer := s.buffer, device } with
  | (some fault, o) => (.error (.delivery s!"flush failed: {fault}"), o.device)
  | (none, o) => (.ok (), o.device)

end RowStream
end Gatekeeper
