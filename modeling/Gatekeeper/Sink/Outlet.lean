import Gatekeeper.Sink.Device

/-!
# Buffered outlets

Bytes on their way to a device wait in a buffer of fixed capacity. A piece that fits goes into the buffer; one that does
not first empties it, and one as large as the buffer goes to the device directly. What the device has not accepted
when it fails stays in the buffer and is offered again before anything later.
-/

set_option autoImplicit false

namespace Gatekeeper

structure Outlet where
  buffer : Array UInt8 := #[]
  device : Device := {}
  deriving DecidableEq, Repr, Inhabited

namespace Outlet

def capacity : Nat := 64 * 1024

/-- Empties the buffer into the device. The fault, if any, comes first. -/
def empty (o : Outlet) : Option String × Outlet :=
  let ((fault, rest), device) :=
    Device.drain "failed to write the buffered data" o.buffer.size o.buffer.toList o.device
  (fault, { buffer := rest.toArray, device })

def hold (o : Outlet) (piece : Array UInt8) : Outlet := { o with buffer := o.buffer ++ piece }

def put (o : Outlet) (piece : Array UInt8) : Option String × Outlet :=
  let spare := capacity - o.buffer.size
  if piece.size < spare then (none, o.hold piece)
  else
    match if piece.size > spare then o.empty else (none, o) with
    | (some fault, o) => (some fault, o)
    | (none, o) =>
      if piece.size < capacity then (none, o.hold piece)
      else
        let ((fault, _), device) :=
          Device.drain "failed to write whole buffer" piece.size piece.toList o.device
        (fault, { o with device })

def putAll : List (Array UInt8) → Outlet → Option String × Outlet
  | [], o => (none, o)
  | piece :: rest, o =>
    match o.put piece with
    | (none, o) => putAll rest o
    | (some fault, o) => (some fault, o)

def flush (o : Outlet) : Option String × Outlet :=
  match o.empty with
  | (some fault, o) => (some fault, o)
  | (none, o) =>
    let (fault, device) := o.device.doFlush
    (fault, { o with device })

end Outlet
end Gatekeeper
