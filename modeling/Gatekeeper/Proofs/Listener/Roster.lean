import Gatekeeper.Listener.CallbackList

/-!
# Callback lists and rosters

A roster is what a callback list is taken for: the callbacks that are alive, in the order they were registered, each
struck off at the moment it dies. A callback list is slower, since it keeps the dead until some operation drops them,
but whoever uses it cannot tell: its living members are those of the roster at every moment, and it answers as the
roster does, save when a callback is unregistered after its death.
-/

set_option autoImplicit false

namespace Gatekeeper

/-- What happens around a list of callbacks. Broadcasts are numbered in the order in which they begin. -/
inductive CallbackEvent (ℓ : Type) where
  | register (c : ℓ)
  | unregister (c : ℓ)
  | isRegistered (c : ℓ)
  | count
  | begin
  | markDead (broadcast position : Nat)
  | finish (broadcast : Nat)
  | kill
  | die (c : ℓ)
  deriving DecidableEq

inductive CallbackAnswer (ℓ : Type) where
  | told (yes : Bool)
  | counted (n : Nat)
  | began (items : List ℓ)
  | done
  deriving DecidableEq

variable {ℓ : Type}

namespace CallbackList

def living (alive : ℓ → Bool) (cs : CallbackList ℓ) : List ℓ := cs.members.filter alive

variable (alive : ℓ → Bool) (cs : CallbackList ℓ)

theorem living_nodup : (cs.living alive).Nodup := cs.distinct.sublist List.filter_sublist

@[simp] theorem prune_members : (cs.prune alive).members = cs.living alive := rfl
@[simp] theorem prune_killed : (cs.prune alive).killed = cs.killed := rfl

@[simp] theorem prune_living : (cs.prune alive).living alive = cs.living alive := by
  simp [living]

theorem retain_living (keep : ℓ → Bool) : (cs.retain keep).living alive = (cs.living alive).filter keep := by
  show (cs.members.filter keep).filter alive = (cs.members.filter alive).filter keep
  rw [List.filter_filter, List.filter_filter]
  simp [Bool.and_comm]

theorem mem_living_iff (c : ℓ) : c ∈ cs.living alive ↔ c ∈ cs.members ∧ alive c := List.mem_filter

variable [DecidableEq ℓ] (c : ℓ)

theorem add_members : (cs.add c).members = if c ∈ cs.members then cs.members else cs.members ++ [c] := by
  unfold add
  split <;> rfl

@[simp] theorem add_killed : (cs.add c).killed = cs.killed := by
  unfold add
  split <;> rfl

theorem register_refused (h : cs.killed ∨ alive c = false) : cs.register alive c = (false, cs) := by
  refine if_pos ?_
  simpa using h

theorem register_accepted (h : ¬(cs.killed ∨ alive c = false)) :
    cs.register alive c = (true, (cs.prune alive).add c) := by
  refine if_neg ?_
  simpa using h

theorem register_living (h : alive c) : ((cs.prune alive).add c).living alive =
    if c ∈ cs.living alive then cs.living alive else cs.living alive ++ [c] := by
  rw [living, add_members, prune_members]
  split
  · exact cs.prune_living alive
  · rw [List.filter_append, List.filter_cons_of_pos h, List.filter_nil]
    exact congrArg (· ++ [c]) (cs.prune_living alive)

theorem unregister_living : (cs.unregister alive c).2.living alive = (cs.living alive).erase c := by
  show ((cs.members.erase c).filter alive).filter alive = (cs.members.filter alive).erase c
  rw [List.filter_filter, List.erase_filter]
  simp

theorem isRegistered_eq : cs.isRegistered alive c = decide (c ∈ cs.living alive) := by
  simp [isRegistered, mem_living_iff]

theorem living_of_death (dead : List ℓ) : cs.living (fun x => !(c :: dead).contains x) =
    (cs.living fun x => !dead.contains x).erase c := by
  rw [(cs.living_nodup _).erase_eq_filter, living, living, List.filter_filter]
  refine List.filter_congr fun x _ => ?_
  by_cases same : x = c <;> simp [same]

end CallbackList

/-- A callback list with the callbacks that have died and the broadcasts that have begun; a finished one is gone. -/
structure CallbackScene (ℓ : Type) where
  list : CallbackList ℓ := .empty
  dead : List ℓ := []
  broadcasts : List (Option (Broadcast ℓ)) := []
  deriving DecidableEq

/-- A broadcast as it is seen from outside: its items, and which of them are marked. -/
structure Snapshot (ℓ : Type) where
  items : List ℓ
  marked : ℓ → Bool := fun _ => false

@[ext] structure Roster (ℓ : Type) where
  members : List ℓ := []
  killed : Bool := false
  dead : List ℓ := []
  broadcasts : List (Option (Snapshot ℓ)) := []

variable [DecidableEq ℓ]

namespace CallbackScene

def alive (w : CallbackScene ℓ) (c : ℓ) : Bool := !w.dead.contains c

def living (w : CallbackScene ℓ) : List ℓ := w.list.living w.alive

omit [DecidableEq ℓ] in
def open? (w : CallbackScene ℓ) (b : Nat) : Option (Broadcast ℓ) := w.broadcasts[b]?.join

def step (w : CallbackScene ℓ) : CallbackEvent ℓ → CallbackAnswer ℓ × CallbackScene ℓ
  | .register c =>
    let (registered, list) := w.list.register w.alive c
    (.told registered, { w with list })
  | .unregister c =>
    let (unregistered, list) := w.list.unregister w.alive c
    (.told unregistered, { w with list })
  | .isRegistered c => (.told (w.list.isRegistered w.alive c), w)
  | .count =>
    let (n, list) := w.list.count w.alive
    (.counted n, { w with list })
  | .begin =>
    let (broadcast, list) := w.list.begin w.alive
    (.began broadcast.items, { w with list, broadcasts := w.broadcasts ++ [some broadcast] })
  | .markDead b i =>
    match w.open? b with
    | some broadcast => (.done, { w with broadcasts := w.broadcasts.set b (some (broadcast.markDead i)) })
    | none => (.done, w)
  | .finish b =>
    match w.open? b with
    | some broadcast => (.done, { w with list := broadcast.finish w.list, broadcasts := w.broadcasts.set b none })
    | none => (.done, w)
  | .kill => (.done, { w with list := w.list.kill })
  | .die c => (.done, { w with dead := c :: w.dead })

def run (w : CallbackScene ℓ) (events : List (CallbackEvent ℓ)) : CallbackScene ℓ :=
  events.foldl (fun w e => (w.step e).2) w

end CallbackScene

namespace Snapshot

def mark (i : Nat) (s : Snapshot ℓ) : Snapshot ℓ := { s with marked := fun c => s.marked c || s.items[i]? = some c }

end Snapshot

namespace Roster

omit [DecidableEq ℓ] in
def open? (r : Roster ℓ) (b : Nat) : Option (Snapshot ℓ) := r.broadcasts[b]?.join

def step (r : Roster ℓ) : CallbackEvent ℓ → CallbackAnswer ℓ × Roster ℓ
  | .register c =>
    if r.killed ∨ c ∈ r.dead then (.told false, r)
    else (.told true, { r with members := if c ∈ r.members then r.members else r.members ++ [c] })
  | .unregister c => (.told (c ∈ r.members), { r with members := r.members.erase c })
  | .isRegistered c => (.told (c ∈ r.members), r)
  | .count => (.counted r.members.length, r)
  | .begin => (.began r.members, { r with broadcasts := r.broadcasts ++ [some { items := r.members }] })
  | .markDead b i =>
    match r.open? b with
    | some s => (.done, { r with broadcasts := r.broadcasts.set b (some (s.mark i)) })
    | none => (.done, r)
  | .finish b =>
    match r.open? b with
    | some s =>
      (.done, { r with members := r.members.filter fun c => !s.marked c, broadcasts := r.broadcasts.set b none })
    | none => (.done, r)
  | .kill => (.done, { r with members := [], killed := true })
  | .die c => (.done, { r with members := r.members.erase c, dead := c :: r.dead })

def run (r : Roster ℓ) (events : List (CallbackEvent ℓ)) : Roster ℓ := events.foldl (fun r e => (r.step e).2) r

end Roster

namespace Broadcast

def snapshot (b : Broadcast ℓ) : Snapshot ℓ where
  items := b.items
  marked c := b.marked.contains c

omit [DecidableEq ℓ] in
theorem mem_markDead_marked (b : Broadcast ℓ) (i : Nat) (c : ℓ) :
    c ∈ (b.markDead i).marked ↔ c ∈ b.marked ∨ b.items[i]? = some c := by
  unfold markDead marked
  split
  · simp
  · next refused =>
    constructor
    · exact .inl
    · rintro (before | here)
      · exact before
      · -- A position of the broadcast is refused only when it was marked before.
        obtain ⟨inside, -⟩ := List.getElem?_eq_some_iff.1 here
        have again : i ∈ b.dead := Classical.not_not.1 fun new => refused ⟨inside, new⟩
        exact List.mem_filterMap.2 ⟨i, again, here⟩

omit [DecidableEq ℓ] in
theorem markDead_items (b : Broadcast ℓ) (i : Nat) : (b.markDead i).items = b.items := by
  unfold markDead
  split <;> rfl

theorem markDead_snapshot (b : Broadcast ℓ) (i : Nat) : (b.markDead i).snapshot = b.snapshot.mark i := by
  have marks : (fun c => (b.markDead i).marked.contains c) = fun c => b.marked.contains c || b.items[i]? = some c := by
    funext c
    rw [Bool.eq_iff_iff]
    simp [mem_markDead_marked]
  rw [snapshot, markDead_items, marks]
  rfl

end Broadcast

namespace CallbackScene

def roster (w : CallbackScene ℓ) : Roster ℓ where
  members := w.living
  killed := w.list.killed
  dead := w.dead
  broadcasts := w.broadcasts.map (Option.map Broadcast.snapshot)

variable (w : CallbackScene ℓ)

theorem roster_open? (b : Nat) : w.roster.open? b = (w.open? b).map Broadcast.snapshot := by
  simp only [Roster.open?, roster, List.getElem?_map, open?]
  cases w.broadcasts[b]? <;> rfl

theorem refuses_iff (c : ℓ) : w.roster.killed ∨ c ∈ w.roster.dead ↔ w.list.killed ∨ w.alive c = false := by
  simp [roster, alive]

theorem step_roster (e : CallbackEvent ℓ) : (w.step e).2.roster = (w.roster.step e).2 := by
  cases e with
  | register c =>
    simp only [step, Roster.step]
    by_cases refused : w.list.killed ∨ w.alive c = false
    · rw [if_pos ((w.refuses_iff c).2 refused), w.list.register_refused w.alive c refused]
    · have lives : w.alive c := by simpa using (not_or.1 refused).2
      have members := w.list.register_living w.alive c lives
      rw [if_neg (mt (w.refuses_iff c).1 refused), w.list.register_accepted w.alive c refused]
      exact Roster.ext members (by simp [roster]) rfl rfl
  | unregister c => exact Roster.ext (w.list.unregister_living w.alive c) rfl rfl rfl
  | isRegistered c => rfl
  | count => exact Roster.ext (w.list.prune_living w.alive) rfl rfl rfl
  | begin =>
    have began : (w.broadcasts ++ [some (w.list.begin w.alive).1]).map (Option.map Broadcast.snapshot) =
        w.roster.broadcasts ++ [some { items := w.roster.members }] := by
      rw [List.map_append]
      rfl
    exact Roster.ext (w.list.prune_living w.alive) rfl rfl began
  | markDead b i =>
    simp only [step, Roster.step, roster_open?]
    cases w.open? b with
    | none => rfl
    | some broadcast =>
      refine Roster.ext rfl rfl rfl ?_
      simp only [roster, List.map_set, Option.map_some, broadcast.markDead_snapshot]
  | finish b =>
    simp only [step, Roster.step, roster_open?]
    cases w.open? b with
    | none => rfl
    | some broadcast =>
      have members := w.list.retain_living w.alive fun c => !broadcast.marked.contains c
      refine Roster.ext members rfl rfl ?_
      simp only [roster, List.map_set, Option.map_none, Option.map_some]
  | kill => rfl
  | die c => exact Roster.ext (w.list.living_of_death c w.dead) rfl rfl rfl

theorem run_roster (events : List (CallbackEvent ℓ)) : (w.run events).roster = w.roster.run events := by
  induction events generalizing w with
  | nil => rfl
  | cons e rest ih =>
    show ((w.step e).2.run rest).roster = (w.roster.step e).2.run rest
    rw [ih, step_roster]

/-- Only a callback that is dead, but not yet dropped, lets a list answer otherwise than its roster. -/
theorem step_answer (e : CallbackEvent ℓ) :
    (w.step e).1 = (w.roster.step e).1 ∨ ∃ c ∈ w.dead, e = .unregister c := by
  cases e with
  | register c =>
    left
    simp only [step, Roster.step]
    by_cases refused : w.list.killed ∨ w.alive c = false
    · rw [if_pos ((w.refuses_iff c).2 refused), w.list.register_refused w.alive c refused]
    · rw [if_neg (mt (w.refuses_iff c).1 refused), w.list.register_accepted w.alive c refused]
  | unregister c =>
    by_cases gone : c ∈ w.dead
    · exact .inr ⟨c, gone, rfl⟩
    · left
      have lives : w.alive c = true := by simpa [alive] using gone
      simp [step, Roster.step, CallbackList.unregister, roster, living, CallbackList.mem_living_iff, lives]
  | isRegistered c => exact .inl (congrArg CallbackAnswer.told (w.list.isRegistered_eq w.alive c))
  | count => exact .inl rfl
  | begin => exact .inl rfl
  | markDead b i =>
    left
    simp only [step, Roster.step, roster_open?]
    cases w.open? b <;> rfl
  | finish b =>
    left
    simp only [step, Roster.step, roster_open?]
    cases w.open? b <;> rfl
  | kill => exact .inl rfl
  | die c => exact .inl rfl

theorem step_length (e : CallbackEvent ℓ) : w.broadcasts.length ≤ (w.step e).2.broadcasts.length := by
  cases e with
  | begin => simp [step]
  | markDead b i =>
    simp only [step]
    split <;> simp
  | finish b =>
    simp only [step]
    split <;> simp
  | register | unregister | isRegistered | count | kill | die => exact Nat.le_refl _

omit [DecidableEq ℓ] in
theorem open?_set (entry : Option (Broadcast ℓ)) (b' : Nat) {b : Nat} (begun : b < w.broadcasts.length) :
    (w.broadcasts.set b' entry)[b]?.join = if b' = b then entry else w.open? b := by
  by_cases here : b' = b
  · subst b'
    rw [if_pos rfl, List.getElem?_set_self begun]
    rfl
  · rw [if_neg here, List.getElem?_set_ne here]
    rfl

theorem step_items (e : CallbackEvent ℓ) {b : Nat} (begun : b < w.broadcasts.length) :
    ((w.step e).2.open? b).map (·.items) = if e = .finish b then none else (w.open? b).map (·.items) := by
  cases e with
  | begin =>
    rw [if_neg (by simp), open?, open?]
    exact congrArg (fun entry => (Option.join entry).map _) (List.getElem?_append_left begun)
  | markDead b' i =>
    rw [if_neg (by simp)]
    simp only [step]
    cases found : w.open? b' with
    | none => rfl
    | some broadcast =>
      refine (congrArg (Option.map _) (w.open?_set _ b' begun)).trans ?_
      split
      · next here =>
        subst b'
        rw [found, Option.map_some, broadcast.markDead_items, Option.map_some]
      · rfl
  | finish b' =>
    simp only [step, CallbackEvent.finish.injEq]
    cases found : w.open? b' with
    | none =>
      by_cases here : b' = b
      · rw [if_pos here, ← here]
        exact congrArg (Option.map _) found
      · exact (if_neg here).symm
    | some broadcast =>
      refine (congrArg (Option.map _) (w.open?_set none b' begun)).trans ?_
      split <;> rfl
  | register | unregister | isRegistered | count | kill | die => exact (if_neg (by simp)).symm

theorem run_items (events : List (CallbackEvent ℓ)) {b : Nat} (begun : b < w.broadcasts.length) :
    ((w.run events).open? b).map (·.items) = if .finish b ∈ events then none else (w.open? b).map (·.items) := by
  induction events generalizing w with
  | nil => simp [run]
  | cons e rest ih =>
    show (((w.step e).2.run rest).open? b).map (·.items) = _
    rw [ih _ (Nat.lt_of_lt_of_le begun (w.step_length e)), step_items w e begun]
    by_cases now : e = .finish b
    · simp [now]
    · simp [now, Ne.symm now]

structure Closed (w : CallbackScene ℓ) : Prop where
  killed : w.list.killed = true
  members : w.list.members = []

variable {w}

theorem Closed.register (h : w.Closed) (c : ℓ) : w.step (.register c) = (.told false, w) := by
  simp only [step, w.list.register_refused w.alive c (.inl h.killed)]

theorem Closed.step (h : w.Closed) (e : CallbackEvent ℓ) : (w.step e).2.Closed := by
  obtain ⟨killed, members⟩ := h
  cases e with
  | register c =>
    rw [Closed.register ⟨killed, members⟩]
    exact ⟨killed, members⟩
  | unregister c =>
    refine ⟨killed, ?_⟩
    simp [CallbackScene.step, CallbackList.unregister, CallbackList.remove, CallbackList.living, members]
  | count => exact ⟨killed, by simp [CallbackScene.step, CallbackList.count, CallbackList.living, members]⟩
  | begin => exact ⟨killed, by simp [CallbackScene.step, CallbackList.begin, CallbackList.living, members]⟩
  | markDead b i =>
    simp only [CallbackScene.step]
    split <;> exact ⟨killed, members⟩
  | finish b =>
    simp only [CallbackScene.step]
    split
    · exact ⟨killed, by simp [Broadcast.finish, CallbackList.removeAll, CallbackList.retain, members]⟩
    · exact ⟨killed, members⟩
  | kill => exact ⟨rfl, rfl⟩
  | isRegistered | die => exact ⟨killed, members⟩

theorem run_closed {events : List (CallbackEvent ℓ)} (h : w.Closed ∨ .kill ∈ events) : (w.run events).Closed := by
  induction events generalizing w with
  | nil => exact h.resolve_right List.not_mem_nil
  | cons e rest ih =>
    refine ih (w := (w.step e).2) ?_
    rcases h with closed | mem
    · exact .inl (closed.step e)
    · rcases List.mem_cons.1 mem with rfl | later
      · exact .inl ⟨rfl, rfl⟩
      · exact .inr later

/-- Whatever happens to a callback list, beside the roster to which the same happens: the next event is answered alike,
    unless it unregisters a callback that is dead. The living members of the list are those of the roster, all distinct
    and in the same order. Open broadcasts have the same items, which stay as they are until the broadcast finishes;
    what then leaves the roster are its marked members. Once it was killed, a list is empty and refuses to register. -/
theorem run_unobservable (events : List (CallbackEvent ℓ)) :
    let w := run {} events
    let r := Roster.run {} events
    (∀ e, (w.step e).1 = (r.step e).1 ∨ ∃ c ∈ w.dead, e = .unregister c) ∧
    (w.living = r.members ∧ r.members.Nodup ∧ ∀ c ∈ r.members, c ∉ w.dead) ∧
    (∀ b, (w.open? b).map (·.items) = (r.open? b).map (·.items)) ∧
    (∀ b, b < w.broadcasts.length → ∀ later,
      ((w.run later).open? b).map (·.items) = if .finish b ∈ later then none else (w.open? b).map (·.items)) ∧
    (∀ b s, r.open? b = some s →
      (w.step (.finish b)).2.living = r.members.filter fun c => !s.marked c) ∧
    (.kill ∈ events → w.list.members = [] ∧ ∀ c, (w.step (.register c)).1 = .told false) := by
  intro w r
  have same : w.roster = r := run_roster {} events
  refine ⟨fun e => ?_, ⟨?_, ?_, fun c mem => ?_⟩, fun b => ?_, fun b begun later => w.run_items later begun,
    fun b s found => ?_, fun killed => ?_⟩
  · rw [← same]
    exact w.step_answer e
  · rw [← same]
    rfl
  · rw [← same]
    exact w.list.living_nodup w.alive
  · rw [← same] at mem
    have lives := ((w.list.mem_living_iff w.alive c).1 mem).2
    simpa [alive] using lives
  · rw [← same, roster_open?, Option.map_map]
    rfl
  · have members := congrArg Roster.members (w.step_roster (.finish b))
    rw [same] at members
    simp only [Roster.step, found] at members
    exact members
  · have closed : w.Closed := run_closed (.inr killed)
    exact ⟨closed.members, fun c => by rw [closed.register]⟩

/-- The second of three callbacks is marked in a broadcast, the first dies, and so does a fourth before a fifth comes:
    the broadcast still has three items, its end leaves the third and the fifth, and a list that was killed is empty. -/
theorem run_unobservable_marked :
    let events : List (CallbackEvent Nat) :=
      [.register 1, .register 2, .register 3, .begin, .markDead 0 1, .die 1, .register 4, .die 4, .register 5]
    let w := run {} events
    0 < w.broadcasts.length ∧ ((w.run [.kill, .finish 1]).open? 0).map (·.items) = some [1, 2, 3] ∧
      (Roster.run {} events).open? 0 = some (Snapshot.mark 1 { items := [1, 2, 3] }) ∧
      (w.step (.finish 0)).2.living = [3, 5] ∧
      .kill ∈ events ++ [.kill] ∧ (run {} (events ++ [.kill])).list.members = [] ∧
      ((run {} (events ++ [.kill])).step (.register 6)).1 = .told false := by
  intro events w
  obtain ⟨-, -, -, kept, finished, -⟩ := run_unobservable events
  obtain ⟨-, -, -, -, -, killed⟩ := run_unobservable (events ++ [.kill])
  have begun : 0 < w.broadcasts.length := by decide
  have found : (Roster.run {} events).open? 0 = some (Snapshot.mark 1 { items := [1, 2, 3] }) := rfl
  have kill : .kill ∈ events ++ [.kill] := by decide
  obtain ⟨empty, refused⟩ := killed kill
  exact ⟨begun, kept 0 begun [.kill, .finish 1], found, finished 0 _ found, kill, empty, refused 6⟩

end CallbackScene
end Gatekeeper
