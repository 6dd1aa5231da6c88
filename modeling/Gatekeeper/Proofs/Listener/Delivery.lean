import Gatekeeper.Listener.Delivery
import Gatekeeper.Proofs.Listener.Roster

set_option autoImplicit false

namespace Gatekeeper

variable {ℓ σ τ : Type}

/-- A listener's turn in a delivery, without an answer if the listener was not called. -/
structure Visit (ℓ : Type) where
  listener : ℓ
  answer : Option (Except Error Unit)

namespace Visit

def called (v : Visit ℓ) : Bool := v.answer.isSome

def took (v : Visit ℓ) : Bool :=
  match v.answer with
  | some (.ok ()) => true
  | _ => false

/-- The listener was dead at its turn, or answered that it is. -/
def lost (v : Visit ℓ) : Bool :=
  match v.answer with
  | none | some (.error .deadObject) => true
  | _ => false

def outcome (v : Visit ℓ) : DeliveryOutcome := if v.took then .delivered else if v.lost then .dead else .failed

theorem outcome_eq_delivered_iff (v : Visit ℓ) : v.outcome = .delivered ↔ v.took := by
  unfold outcome
  split
  · simp [*]
  · split <;> simp [*]

theorem outcome_eq_dead_iff (v : Visit ℓ) : v.outcome = .dead ↔ v.lost := by
  obtain ⟨l, answer⟩ := v
  match answer with
  | none => simp [outcome, took, lost]
  | some (.ok ()) => simp [outcome, took, lost]
  | some (.error e) => cases e <;> simp [outcome, took, lost]

end Visit

def calls (data : Safety.Data) (visits : List (Visit ℓ)) : List (ℓ × Safety.Data) :=
  (visits.filter Visit.called).map fun v => (v.listener, data)

section Logged

def Switchboard.withOutside (w : Switchboard ℓ σ) (outside : τ) : Switchboard ℓ τ :=
  { dead := w.dead, groups := w.groups, byUser := w.byUser, outside }

def Switchboard.logging (w : Switchboard ℓ σ) (log : List (ℓ × Safety.Data)) :
    Switchboard ℓ (σ × List (ℓ × Safety.Data)) :=
  w.withOutside (w.outside, log)

/-- The same behavior, with every call put down in the log. -/
def Behavior.logged (behavior : Behavior ℓ σ) : Behavior ℓ (σ × List (ℓ × Safety.Data)) := fun l data w =>
  let (answer, next) := behavior l data (w.withOutside w.outside.1)
  (answer, next.logging (w.outside.2 ++ [(l, data)]))

end Logged

variable [DecidableEq ℓ]

/-- Visits in turn, from one switchboard to another: a dead listener is passed over, a living one is called with the
    data and answers, after it may have changed anything. -/
inductive Visited (behavior : Behavior ℓ σ) (data : Safety.Data) :
    Switchboard ℓ σ → List (Visit ℓ) → Switchboard ℓ σ → Prop where
  | done (w : Switchboard ℓ σ) : Visited behavior data w [] w
  | missed {w last : Switchboard ℓ σ} {l : ℓ} {later : List (Visit ℓ)} (dead : w.alive l = false)
      (rest : Visited behavior data w later last) : Visited behavior data w (⟨l, none⟩ :: later) last
  | called {w next last : Switchboard ℓ σ} {l : ℓ} {answer : Except Error Unit} {later : List (Visit ℓ)}
      (alive : w.alive l = true) (call : behavior l data w = (answer, next))
      (rest : Visited behavior data next later last) : Visited behavior data w (⟨l, some answer⟩ :: later) last

variable {behavior : Behavior ℓ σ} {data : Safety.Data} {w last : Switchboard ℓ σ} {visits : List (Visit ℓ)}

theorem exists_visited (behavior : Behavior ℓ σ) (data : Safety.Data) (listeners : List ℓ) (w : Switchboard ℓ σ) :
    ∃ visits last, visits.map Visit.listener = listeners ∧ Visited behavior data w visits last := by
  induction listeners generalizing w with
  | nil => exact ⟨[], w, rfl, .done w⟩
  | cons l rest ih =>
    cases alive : w.alive l with
    | false =>
      obtain ⟨visits, last, listeners, later⟩ := ih w
      exact ⟨⟨l, none⟩ :: visits, last, congrArg (l :: ·) listeners, .missed alive later⟩
    | true =>
      obtain ⟨visits, last, listeners, later⟩ := ih (behavior l data w).2
      exact ⟨⟨l, some (behavior l data w).1⟩ :: visits, last, congrArg (l :: ·) listeners, .called alive rfl later⟩

theorem Visited.logged (h : Visited behavior data w visits last) (log : List (ℓ × Safety.Data)) :
    Visited behavior.logged data (w.logging log) visits (last.logging (log ++ calls data visits)) := by
  induction h generalizing log with
  | done w =>
    rw [calls, List.filter_nil, List.map_nil, List.append_nil]
    exact .done _
  | missed dead rest ih => exact .missed dead (ih log)
  | @called w next last l answer later alive call rest ih =>
    have logged : behavior.logged l data (w.logging log) = (answer, next.logging (log ++ [(l, data)])) := by
      show ((behavior l data w).1, (behavior l data w).2.logging (log ++ [(l, data)])) = _
      rw [call]
    have both : log ++ calls data (⟨l, some answer⟩ :: later) = log ++ [(l, data)] ++ calls data later := by
      rw [List.append_assoc]
      rfl
    rw [both]
    exact .called alive logged (ih _)

namespace Switchboard

theorem deliver_missed {l : ℓ} (dead : w.alive l = false) :
    w.deliver behavior l data = ((Visit.mk l none).outcome, w) := by
  rw [deliver, dead]
  rfl

theorem deliver_called {l : ℓ} {answer : Except Error Unit} {next : Switchboard ℓ σ} (alive : w.alive l = true)
    (call : behavior l data w = (answer, next)) :
    w.deliver behavior l data = ((Visit.mk l (some answer)).outcome, next) := by
  rw [deliver, alive, if_pos rfl, call]
  match answer with
  | .ok () => rfl
  | .error e => cases e <;> rfl

def notes (todo : List (ℓ × Nat)) (visits : List (Visit ℓ)) : List (Nat × DeliveryOutcome) :=
  List.zipWith (fun turn v => (turn.2, v.outcome)) todo visits

end Switchboard

open Switchboard

theorem Visited.deliverEach (h : Visited behavior data w visits last) {todo : List (ℓ × Nat)}
    (turns : visits.map Visit.listener = todo.map (·.1)) :
    Switchboard.deliverEach behavior data todo w = (notes todo visits, last) := by
  induction h generalizing todo with
  | done w =>
    obtain rfl := List.map_eq_nil_iff.1 turns.symm
    rfl
  | missed dead rest ih =>
    obtain ⟨⟨l, i⟩, todo, rfl, rfl, others⟩ := List.map_eq_cons_iff.1 turns.symm
    simp only [Switchboard.deliverEach, deliver_missed dead, ih others.symm]
    rfl
  | called alive call rest ih =>
    obtain ⟨⟨l, i⟩, todo, rfl, rfl, others⟩ := List.map_eq_cons_iff.1 turns.symm
    simp only [Switchboard.deliverEach, deliver_called alive call, ih others.symm]
    rfl

namespace Switchboard

omit [DecidableEq ℓ] in
theorem notes_countP {todo : List (ℓ × Nat)} (turns : visits.map Visit.listener = todo.map (·.1)) :
    (notes todo visits).countP (·.2 = .delivered) = visits.countP Visit.took := by
  induction visits generalizing todo with
  | nil => rw [List.map_eq_nil_iff.1 turns.symm]; rfl
  | cons v visits ih =>
    obtain ⟨⟨l, i⟩, todo, rfl, rfl, others⟩ := List.map_eq_cons_iff.1 turns.symm
    have later := ih others.symm
    simp only [notes, List.zipWith_cons_cons, List.countP_cons, v.outcome_eq_delivered_iff] at later ⊢
    simp [later]

omit [DecidableEq ℓ] in
theorem exists_note_iff {todo : List (ℓ × Nat)} (turns : visits.map Visit.listener = todo.map (·.1)) {items : List ℓ}
    (places : ∀ turn ∈ todo, items[turn.2]? = some turn.1) (l : ℓ) :
    (∃ note ∈ notes todo visits, note.2 = .dead ∧ items[note.1]? = some l) ↔ ∃ v ∈ visits, v.listener = l ∧ v.lost := by
  induction visits generalizing todo with
  | nil =>
    rw [List.map_eq_nil_iff.1 turns.symm]
    simp [notes]
  | cons v visits ih =>
    obtain ⟨⟨l', i⟩, todo, rfl, rfl, others⟩ := List.map_eq_cons_iff.1 turns.symm
    have place := places _ List.mem_cons_self
    have later := ih others.symm fun turn mem => places turn (List.mem_cons_of_mem _ mem)
    simp only [notes, List.zipWith_cons_cons, List.mem_cons, exists_eq_or_imp] at later place ⊢
    rw [later, v.outcome_eq_dead_iff, place, Option.some.injEq, and_comm (a := v.lost = true)]

end Switchboard

namespace Broadcast

def markAll (notes : List (Nat × DeliveryOutcome)) (b : Broadcast ℓ) : Broadcast ℓ :=
  notes.foldl (fun b note => if note.2 = .dead then b.markDead note.1 else b) b

omit [DecidableEq ℓ] in
theorem mem_markAll_marked (notes : List (Nat × DeliveryOutcome)) (b : Broadcast ℓ) (l : ℓ) :
    l ∈ (b.markAll notes).marked ↔ l ∈ b.marked ∨ ∃ note ∈ notes, note.2 = .dead ∧ b.items[note.1]? = some l := by
  induction notes generalizing b with
  | nil => simp [markAll]
  | cons note rest ih =>
    show l ∈ (markAll rest (if note.2 = .dead then b.markDead note.1 else b)).marked ↔ _
    rw [ih]
    by_cases dead : note.2 = .dead
    · rw [if_pos dead, mem_markDead_marked, markDead_items]
      simp [dead, or_assoc]
    · rw [if_neg dead]
      simp [dead]

end Broadcast

namespace Switchboard

omit [DecidableEq ℓ] in
theorem setGroup_retain_group (w : Switchboard ℓ σ) (g : GroupId) (keep : ℓ → Bool) :
    (w.setGroup g ((w.group g).retain keep)).group g = (w.group g).retain keep := by
  simp only [group, setGroup, List.getElem?_set, if_true]
  by_cases made : g.index < w.groups.length
  · rw [if_pos made]
    rfl
  · rw [if_neg made, List.getElem?_eq_none (Nat.le_of_not_lt made)]
    rfl

/-- Who stays in the group after some visits: everybody who was not lost in one. -/
def kept (visits : List (Visit ℓ)) (l : ℓ) : Bool := decide (∀ v ∈ visits, v.listener = l → v.lost = false)

omit [DecidableEq ℓ] in
theorem visit_unique (distinct : (visits.map Visit.listener).Nodup) {v v' : Visit ℓ} (mem : v ∈ visits)
    (mem' : v' ∈ visits) (same : v.listener = v'.listener) : v = v' := by
  induction visits with
  | nil => exact absurd mem List.not_mem_nil
  | cons first rest ih =>
    obtain ⟨new, distinct⟩ := List.nodup_cons.1 distinct
    cases mem with
    | head =>
      cases mem' with
      | head => rfl
      | tail _ mem' => exact absurd (same ▸ List.mem_map_of_mem mem') new
    | tail _ mem =>
      cases mem' with
      | head => exact absurd (same ▸ List.mem_map_of_mem mem) new
      | tail _ mem' => exact ih distinct mem mem'

theorem kept_visited (distinct : (visits.map Visit.listener).Nodup) {v : Visit ℓ} (mem : v ∈ visits) :
    kept visits v.listener = !v.lost := by
  rw [kept, Bool.eq_iff_iff, decide_eq_true_iff, Bool.not_eq_true']
  constructor
  · intro all
    exact all v mem rfl
  · intro lives other mem' same
    rw [visit_unique distinct mem' mem same]
    exact lives

theorem deliverToGroup_visited (g : GroupId)
    (turns : visits.map Visit.listener = ((w.group g).living w.alive).reverse)
    (h : Visited behavior data (w.setGroup g ((w.group g).prune w.alive)) visits last) :
    w.deliverToGroup behavior g data =
      (visits.countP Visit.took, last.setGroup g ((last.group g).retain (kept visits))) := by
  let items := (w.group g).living w.alive
  have turns' : visits.map Visit.listener = items.zipIdx.reverse.map (·.1) := by
    rw [turns, List.map_reverse, List.zipIdx_map_fst]
  have places : ∀ turn ∈ items.zipIdx.reverse, items[turn.2]? = some turn.1 := by
    intro turn mem
    exact List.mem_zipIdx_iff_getElem?.1 (List.mem_reverse.1 mem)
  have gone : ((Broadcast.mk items []).markAll (notes items.zipIdx.reverse visits)).finish (last.group g) =
      (last.group g).retain (kept visits) := by
    refine congrArg (last.group g).retain (funext fun l => ?_)
    have marked := Broadcast.mem_markAll_marked (notes items.zipIdx.reverse visits) ⟨items, []⟩ l
    rw [exists_note_iff turns' places] at marked
    rw [kept, Bool.eq_iff_iff, Bool.not_eq_true', decide_eq_true_iff, ← Bool.not_eq_true, List.contains_iff_mem, marked]
    simp [Broadcast.marked]
  have went : deliverEach behavior data ((w.group g).prune w.alive).members.zipIdx.reverse
      (w.setGroup g ((w.group g).prune w.alive)) = (notes items.zipIdx.reverse visits, last) := h.deliverEach turns'
  simp only [deliverToGroup, onGroup, CallbackList.begin, went, notes_countP turns']
  exact congrArg (fun cs => (visits.countP Visit.took, last.setGroup g cs)) gone

/-- A delivery to a group, whatever the listeners do when they are called. It visits the listeners that the group has
    and that are alive when it begins, each once and the latest first: those alive at their turn are called with the
    data, and nobody else is, as a log of the calls would show. It counts those that took the update. In the end the
    group is as the calls have left it, but for the visited listeners that were lost, being dead at their turn or
    answering so. -/
theorem deliverToGroup_turns (behavior : Behavior ℓ σ) (g : GroupId) (data : Safety.Data) (w : Switchboard ℓ σ) :
    ∃ (visits : List (Visit ℓ)) (last : Switchboard ℓ σ),
      let after := last.setGroup g ((last.group g).retain (kept visits))
      visits.map Visit.listener = ((w.group g).living w.alive).reverse ∧
      (visits.map Visit.listener).Nodup ∧
      Visited behavior data (w.setGroup g ((w.group g).prune w.alive)) visits last ∧
      (∀ log, (w.logging log).deliverToGroup behavior.logged g data =
        (visits.countP Visit.took, after.logging (log ++ calls data visits))) ∧
      w.deliverToGroup behavior g data = (visits.countP Visit.took, after) ∧
      (after.group g).living after.alive = ((last.group g).living last.alive).filter (kept visits) ∧
      visits.map (fun v => kept visits v.listener) = visits.map fun v => !v.lost := by
  obtain ⟨visits, last, turns, visited⟩ := exists_visited behavior data ((w.group g).living w.alive).reverse
    (w.setGroup g ((w.group g).prune w.alive))
  have distinct : (visits.map Visit.listener).Nodup := by
    rw [turns]
    exact (List.reverse_perm _).nodup_iff.2 ((w.group g).living_nodup w.alive)
  refine ⟨visits, last, turns, distinct, visited, fun log => ?_, deliverToGroup_visited g turns visited, ?_, ?_⟩
  · have logged : Visited behavior.logged data
        ((w.logging log).setGroup g (((w.logging log).group g).prune (w.logging log).alive)) visits
        (last.logging (log ++ calls data visits)) := visited.logged log
    have turns' : visits.map Visit.listener =
        (((w.logging log).group g).living (w.logging log).alive).reverse := turns
    exact deliverToGroup_visited g turns' logged
  · rw [setGroup_retain_group]
    exact (last.group g).retain_living last.alive (kept visits)
  · exact List.map_congr_left fun v mem => kept_visited distinct mem

/-- The latest of four listeners takes the update, lets the first die and registers a fifth; the third fails, and the
    second answers that it is dead. -/
example :
    let behavior : Behavior Nat Unit := fun l _ w =>
      match l with
      | 4 => (.ok (), ((w.die 1).register ⟨0⟩ 5).2)
      | 3 => (.error (.internal "busy"), w)
      | 2 => (.error .deadObject, w)
      | _ => (.ok (), w)
    let w : Switchboard Nat Unit := { groups := [{ members := [1, 2, 3, 4], distinct := by decide }], outside := () }
    let (taken, after) := w.deliverToGroup behavior ⟨0⟩ default
    taken = 1 ∧ (after.group ⟨0⟩).members = [3, 4, 5] := by decide

end Switchboard
end Gatekeeper
