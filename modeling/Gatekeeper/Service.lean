import Gatekeeper.Policy.Session

/-!
# The access service

A policy set together with the state now published. Readers take the published state as it is and keep it for as long
as they like. Writers come one at a time; each works on the version after the published one, which replaces it only
when the writer has finished. A writer that fails in the middle publishes nothing and leaves the service closed to
writing for good, while reading goes on.
-/

set_option autoImplicit false

namespace Gatekeeper

/-- Writers exclude one another by the first lock; the published state is read and replaced under the second. -/
inductive ServiceLock where
  | writers
  | published
  deriving DecidableEq, Repr

structure Service where
  policies : PolicySet
  published : AccessState := {}
  /-- The locks that were held when somebody failed. They are never taken again. -/
  poisoned : List ServiceLock := []

inductive Ending where
  | finished
  | failed
  deriving DecidableEq, Repr

/-- What became of an attempt to write. -/
inductive WriteResult where
  | published (version : Nat)
  | failed
  | refused (error : Error)
  deriving DecidableEq, Repr

/-- What a writer does with the session it is let into. It may leave any draft behind, also one of another number. -/
abbrev Work := PolicySet → Session → Session × Ending

def Command.work (c : Command) : Work := fun ps s => (s.perform ps c, .finished)

namespace Service

def readLockError : Error :=
  .internal "Failed to acquire state read lock: poisoned lock: another task failed inside"

def writeLockError : Error :=
  .internal "Failed to acquire state write lock: poisoned lock: another task failed inside"

def snapshot (svc : Service) : AccessState := svc.published

def decide (svc : Service) (subject object : AccessUri) : Decision :=
  svc.policies.decide subject object svc.published

/-- The snapshot, as far as its lock can be taken. -/
def read (svc : Service) : Except Error AccessState :=
  if .published ∈ svc.poisoned then .error readLockError else .ok svc.snapshot

def ask (svc : Service) (subject object : AccessUri) : Except Error Decision :=
  svc.read.map (svc.policies.decide subject object)

/-- Somebody fails who holds some locks. -/
def fail (svc : Service) (held : List ServiceLock) : Service :=
  { svc with poisoned := svc.poisoned ++ held }

/-- Lets a writer in, on the version after the published one. -/
def enter (svc : Service) : Except Error Session :=
  if .writers ∈ svc.poisoned then .error writeLockError else svc.read.map Session.begin

/-- Takes over what a writer made. It was working with the writers' lock alone; the other one is taken only now, to
    replace the published state. -/
def conclude (svc : Service) : Session × Ending → WriteResult × Service
  | (_, .failed) => (.failed, svc.fail [.writers])
  | (s, .finished) =>
    if .published ∈ svc.poisoned then (.refused writeLockError, svc)
    else (.published s.state.version, { svc with published := s.state })

/-- Lets a writer work on the next version, and gives the result with the calls made to policies on the way. -/
def write (svc : Service) (work : Work) : WriteResult × List Call × Service :=
  match svc.enter with
  | .error e => (.refused e, [], svc)
  | .ok s =>
    let done := work svc.policies s
    let (result, svc) := svc.conclude done
    (result, done.1.calls, svc)

def perform (svc : Service) (c : Command) : WriteResult × List Call × Service := svc.write c.work

end Service
end Gatekeeper
