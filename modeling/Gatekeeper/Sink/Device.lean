/-!
# Devices

A device takes bytes in portions: a write offers it a run of bytes, of which it accepts a first part, possibly none,
or fails; a flush may fail too. How the coming calls will be answered is part of the device, so a device may fail and
recover at any point. Offers that are merely interrupted are made again by the writer and are no answers here.
-/

set_option autoImplicit false

namespace Gatekeeper

inductive WriteAnswer where
  | all
  | atMost (bytes : Nat)
  | fails (reason : String)
  deriving DecidableEq, Repr, Inhabited

structure Device where
  received : Array UInt8 := #[]
  /-- Answers to the next writes. -/
  writes : List WriteAnswer := []
  /-- The answer once those are used up. -/
  write : WriteAnswer := .all
  /-- Answers to the next flushes: the reason why one fails. -/
  flushes : List (Option String) := []
  flush : Option String := none
  deriving DecidableEq, Repr, Inhabited

namespace Device

def nextWrite (d : Device) : WriteAnswer × Device :=
  match d.writes with
  | a :: rest => (a, { d with writes := rest })
  | [] => (d.write, d)

def accept (d : Device) (bytes : List UInt8) : Device := { d with received := d.received.appendList bytes }

/-- Offers some bytes: how many are accepted, or why the offer failed. -/
def offer (d : Device) (bytes : List UInt8) : Except String Nat × Device :=
  match d.nextWrite with
  | (.all, d) => (.ok bytes.length, d.accept bytes)
  | (.atMost n, d) =>
    let part := bytes.take n
    (.ok part.length, d.accept part)
  | (.fails reason, d) => (.error reason, d)

def doFlush (d : Device) : Option String × Device :=
  match d.flushes with
  | a :: rest => (a, { d with flushes := rest })
  | [] => (d.flush, d)

/-- Offers bytes until all are accepted; the bytes left over when an offer fails or nothing is accepted. -/
def drain (stalled : String) : Nat → List UInt8 → Device → (Option String × List UInt8) × Device
  | _, [], d => ((none, []), d)
  | 0, bytes, d => ((some stalled, bytes), d)
  | bound + 1, bytes, d =>
    match d.offer bytes with
    | (.error reason, d) => ((some reason, bytes), d)
    | (.ok 0, d) => ((some stalled, bytes), d)
    | (.ok n, d) => drain stalled bound (bytes.drop n) d

end Device
end Gatekeeper
