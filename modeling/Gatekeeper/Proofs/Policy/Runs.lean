import Gatekeeper.Policy.Session

/-!
# Runs of sessions

A run is a list of batches of commands: each batch is one session on the version after the state before. The history
of a run pairs every command with the state it was given in, and its calls are those made to policies by all sessions
in turn. `run_induct` proves what holds of state, history and calls at any moment of a run.
-/

set_option autoImplicit false

namespace Gatekeeper

structure Step where
  before : AccessState
  command : Command

namespace Session

def steps (ps : PolicySet) (s : Session) : List Command → List Step
  | [] => []
  | c :: rest => ⟨s.state, c⟩ :: (s.perform ps c).steps ps rest

end Session

namespace PolicySet

def run (ps : PolicySet) (s : AccessState) : List (List Command) → AccessState
  | [] => s
  | batch :: rest => ps.run ((Session.begin s).run ps batch).state rest

def history (ps : PolicySet) (s : AccessState) : List (List Command) → List Step
  | [] => []
  | batch :: rest => (Session.begin s).steps ps batch ++ ps.history ((Session.begin s).run ps batch).state rest

def calls (ps : PolicySet) (s : AccessState) : List (List Command) → List Call
  | [] => []
  | batch :: rest =>
    ((Session.begin s).run ps batch).calls ++ ps.calls ((Session.begin s).run ps batch).state rest

theorem run_concat (ps : PolicySet) (s : AccessState) (batches : List (List Command)) (batch : List Command) :
    ps.run s (batches ++ [batch]) = ((Session.begin (ps.run s batches)).run ps batch).state := by
  induction batches generalizing s with
  | nil => rfl
  | cons first rest ih => exact ih _

end PolicySet

variable {ps : PolicySet} (P : AccessState → List Step → List Call → Prop) (allowed : Command → Prop)

theorem Session.run_induct
    (perform : ∀ (s : Session) (c : Command) (steps : List Step) (earlier : List Call), allowed c →
      P s.state steps (earlier ++ s.calls) →
      P (s.perform ps c).state (steps ++ [⟨s.state, c⟩]) (earlier ++ (s.perform ps c).calls))
    (batch : List Command) (all : ∀ c ∈ batch, allowed c) (s : Session) (steps : List Step) (earlier : List Call)
    (start : P s.state steps (earlier ++ s.calls)) :
    P (s.run ps batch).state (steps ++ s.steps ps batch) (earlier ++ (s.run ps batch).calls) := by
  induction batch generalizing s steps with
  | nil => simpa [Session.run, Session.steps] using start
  | cons c rest ih =>
    have now := perform s c steps earlier (all c List.mem_cons_self) start
    have later := ih (fun next hn => all next (List.mem_cons_of_mem _ hn)) _ _ now
    rw [List.append_assoc] at later
    exact later

/-- What holds at the start, survives the opening of a session and is kept by each allowed command holds at the end of
    every run, and so at every moment of it: a run cut short is a run. -/
theorem PolicySet.run_induct
    (reopen : ∀ (old : AccessState) (steps : List Step) (calls : List Call),
      P old steps calls → P (Session.begin old).state steps calls)
    (perform : ∀ (s : Session) (c : Command) (steps : List Step) (earlier : List Call), allowed c →
      P s.state steps (earlier ++ s.calls) →
      P (s.perform ps c).state (steps ++ [⟨s.state, c⟩]) (earlier ++ (s.perform ps c).calls))
    (batches : List (List Command)) (all : ∀ batch ∈ batches, ∀ c ∈ batch, allowed c) (s : AccessState)
    (start : P s [] []) : P (ps.run s batches) (ps.history s batches) (ps.calls s batches) := by
  -- `P` speaks of all that has happened, so the batches to come are run behind an arbitrary past.
  suffices general : ∀ steps earlier, P s steps earlier →
      P (ps.run s batches) (steps ++ ps.history s batches) (earlier ++ ps.calls s batches) from general [] [] start
  clear start
  induction batches generalizing s with
  | nil =>
    intro steps earlier h
    simpa [run, history, calls] using h
  | cons batch rest ih =>
    intro steps earlier h
    have opened : P (Session.begin s).state steps (earlier ++ (Session.begin s).calls) := by
      simpa [Session.begin] using reopen s steps earlier h
    have session := Session.run_induct P allowed perform batch (all batch List.mem_cons_self) _ _ _ opened
    have later := ih (fun next hn => all next (List.mem_cons_of_mem _ hn)) _ _ _ session
    rw [List.append_assoc, List.append_assoc] at later
    exact later

end Gatekeeper
