import Gatekeeper.Service
import Gatekeeper.Proofs.Policy.Builtin
import Gatekeeper.Proofs.State.Storage

set_option autoImplicit false

namespace Gatekeeper

inductive ServiceCall where
  | perform (command : Command)
  | mutate (work : Work)
  | snapshot
  | decide (subject object : AccessUri)

inductive ServiceAnswer where
  | written (result : WriteResult)
  | state (result : Except Error AccessState)
  | decision (result : Except Error Decision)

abbrev ServiceLog := List (ServiceCall × ServiceAnswer)

def ServiceCall.work? : ServiceCall → Option Work
  | .perform c => some c.work
  | .mutate work => some work
  | .snapshot | .decide .. => none

namespace ServiceLog

def writes (log : ServiceLog) : List Work :=
  log.filterMap fun
    | (call, .written (.published _)) => call.work?
    | _ => none

def failed (log : ServiceLog) : Bool :=
  log.any fun
    | (_, .written result) => result = .failed
    | _ => false

end ServiceLog

/-- What a writer leaves of a state, working on the next version of it. -/
def AccessState.revised (ps : PolicySet) (s : AccessState) (work : Work) : AccessState :=
  (work ps (Session.begin s)).1.state

/-- A writer that leaves a state under the number it was given. -/
def Work.KeepsNumber (ps : PolicySet) (work : Work) : Prop :=
  ∀ s : AccessState, (s.revised ps work).version = s.nextVersion.version

/-- What comes of a session by single accesses and commands; a command may be shown any state as the published one. -/
inductive Session.Reaches (ps : PolicySet) (s : Session) : Session → Prop
  | refl : Reaches ps s s
  | access {s' : Session} (before : Reaches ps s s') (a : Access) : Reaches ps s (s'.edit (·.access a))
  | perform {s' : Session} (before : Reaches ps s s') (old : AccessState) (c : Command) :
    Reaches ps s (({ s' with old } : Session).perform ps c)

theorem Session.Reaches.version {ps : PolicySet} (h : ps.KeepsNumber) {s s' : Session} (reached : s.Reaches ps s') :
    s'.draft.version = s.draft.version := by
  induction reached with
  | refl => rfl
  | access before a ih => exact (Draft.access_version _ a).trans ih
  | perform before old c ih => exact (perform_version h c).trans ih

namespace Service

variable {svc : Service}

def handle (svc : Service) : ServiceCall → ServiceAnswer × Service
  | .perform c =>
    let (result, _, next) := svc.perform c
    (.written result, next)
  | .mutate work =>
    let (result, _, next) := svc.write work
    (.written result, next)
  | .snapshot => (.state svc.read, svc)
  | .decide subject object => (.decision (svc.ask subject object), svc)

def serve (svc : Service) : List ServiceCall → ServiceLog × Service
  | [] => ([], svc)
  | call :: rest =>
    let (answer, next) := svc.handle call
    let (log, last) := next.serve rest
    ((call, answer) :: log, last)

theorem read_eq (h : .published ∉ svc.poisoned) : svc.read = .ok svc.published := if_neg h

theorem write_closed (h : .writers ∈ svc.poisoned) (work : Work) :
    svc.write work = (.refused writeLockError, [], svc) := by
  rw [write, enter, if_pos h]

theorem write_finished (writers : .writers ∉ svc.poisoned) (published : .published ∉ svc.poisoned) {work : Work}
    {s : Session} (done : work svc.policies (Session.begin svc.published) = (s, .finished)) :
    svc.write work = (.published s.state.version, s.calls, { svc with published := s.state }) := by
  rw [write, enter, if_neg writers, read_eq published]
  simp only [Except.map, done, conclude, if_neg published]

theorem write_failed (writers : .writers ∉ svc.poisoned) (published : .published ∉ svc.poisoned) {work : Work}
    {s : Session} (done : work svc.policies (Session.begin svc.published) = (s, .failed)) :
    svc.write work = (.failed, s.calls, svc.fail [.writers]) := by
  rw [write, enter, if_neg writers, read_eq published]
  simp only [Except.map, done, conclude]

/-- What a service keeps to while it serves: the log tells the published state and whether the service is closed to
    writing, and nobody ever failed under the lock of the published state. -/
structure Accounted (ps : PolicySet) (init : AccessState) (log : ServiceLog) (svc : Service) : Prop where
  policies : svc.policies = ps
  published : svc.published = log.writes.foldl (AccessState.revised ps) init
  readable : .published ∉ svc.poisoned
  closed : .writers ∈ svc.poisoned ↔ log.failed

variable {ps : PolicySet} {init : AccessState} {log : ServiceLog}

theorem Accounted.write_eq (h : svc.Accounted ps init log) (work : Work) : svc.write work =
    if log.failed then (.refused writeLockError, [], svc)
    else match work ps (Session.begin svc.published) with
      | (s, .finished) => (.published s.state.version, s.calls, { svc with published := s.state })
      | (s, .failed) => (.failed, s.calls, { svc with poisoned := svc.poisoned ++ [.writers] }) := by
  split
  · next failed => exact write_closed (h.closed.2 failed) work
  · next unfailed =>
    have writers := mt h.closed.1 unfailed
    rw [← h.policies]
    split
    · next s done => exact write_finished writers h.readable done
    · next s done => exact write_failed writers h.readable done

end Service
end Gatekeeper
