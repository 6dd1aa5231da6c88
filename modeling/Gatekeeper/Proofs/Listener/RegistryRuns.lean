import Gatekeeper.Proofs.Listener.Registry

set_option autoImplicit false

namespace Gatekeeper

variable {ℓ σ : Type}

/-- What becomes of a call: the answer, and who has died meanwhile. -/
structure Response (ℓ : Type) where
  answer : Except Error Unit
  deaths : List ℓ := []

/-- Listeners that may look at everything and let anybody die, but have no hand in groups and entries. -/
abbrev Script (ℓ σ : Type) := ℓ → Safety.Data → Switchboard ℓ σ → Response ℓ × σ

def Script.behavior (script : Script ℓ σ) : Behavior ℓ σ := fun l data w =>
  let (response, outside) := script l data w
  (response.answer, { w with dead := response.deaths ++ w.dead, outside })

/-- Listeners of whom each dies only by answering that it is dead. -/
def Script.mortal (answers : ℓ → Safety.Data → Switchboard ℓ σ → Except Error Unit × σ) : Script ℓ σ := fun l data w =>
  match answers l data w with
  | (.error .deadObject, outside) => ({ answer := .error .deadObject, deaths := [l] }, outside)
  | (answer, outside) => ({ answer }, outside)

inductive RegistryEvent (ℓ : Type) where
  | add (l : ℓ) (u : UserId)
  | remove (l : ℓ) (u : UserId)
  | clear (u : UserId)
  | deliver (u : UserId) (data : Safety.Data)
  | die (l : ℓ)

namespace RegistryEvent

def changes (u : UserId) : RegistryEvent ℓ → Bool
  | .add _ v | .remove _ v | .clear v => v = u
  | .deliver .. | .die _ => false

/-- The events up to the last that changed who listens for the user. -/
def untilChange (u : UserId) (events : List (RegistryEvent ℓ)) : List (RegistryEvent ℓ) :=
  (events.reverse.dropWhile fun e => !e.changes u).reverse

theorem untilChange_concat (u : UserId) (events : List (RegistryEvent ℓ)) (e : RegistryEvent ℓ) :
    untilChange u (events ++ [e]) = if e.changes u then events ++ [e] else untilChange u events := by
  rw [untilChange, List.reverse_append, List.reverse_singleton, List.singleton_append, List.dropWhile_cons]
  cases e.changes u with
  | false => rfl
  | true => simp

end RegistryEvent

variable [DecidableEq ℓ] {script : Script ℓ σ} {data : Safety.Data} {w last : Switchboard ℓ σ}
  {visits : List (Visit ℓ)}

theorem Visited.undisturbed (h : Visited script.behavior data w visits last) :
    last.groups = w.groups ∧ last.byUser = w.byUser ∧ ∀ l, last.alive l → w.alive l := by
  induction h with
  | done w => exact ⟨rfl, rfl, fun _ => id⟩
  | missed dead rest ih => exact ih
  | called alive call rest ih =>
    obtain ⟨-, rfl⟩ := Prod.mk.inj call
    obtain ⟨groups, byUser, dying⟩ := ih
    refine ⟨groups, byUser, fun l lives => ?_⟩
    have later := dying l lives
    simp only [Switchboard.alive, List.contains_append, Bool.not_or, Bool.and_eq_true] at later
    exact later.2

theorem Visited.sameBut (h : Visited script.behavior data w visits last) (wired : w.Wired) (u : UserId) :
    Switchboard.SameBut u w last := by
  obtain ⟨groups, byUser, dying⟩ := h.undisturbed
  exact .aged wired dying groups byUser u

namespace Switchboard

/-- The switchboard as a delivery to a user begins. -/
def calling (w : Switchboard ℓ σ) (u : UserId) : Switchboard ℓ σ :=
  match w.groupOf? u with
  | some g => w.setGroup g ((w.group g).prune w.alive)
  | none => w

theorem deliverToUser_visited (wired : w.Wired) (script : Script ℓ σ) (u : UserId) (data : Safety.Data) :
    ∃ (visits : List (Visit ℓ)) (last : Switchboard ℓ σ),
      let next := (w.deliverToUser script.behavior u data).2
      visits.map Visit.listener = (w.listeners u).reverse ∧
      Visited script.behavior data (w.calling u) visits last ∧
      (∀ log, (w.logging log).deliverToUser script.behavior.logged u data =
        (visits.countP Visit.took, next.logging (log ++ calls data visits))) ∧
      (w.deliverToUser script.behavior u data).1 = visits.countP Visit.took ∧
      SameBut u w next ∧ next.dead = last.dead ∧ next.groupOf? u = w.groupOf? u ∧
      next.listeners u = (w.listeners u).filter fun l => kept visits l && next.alive l := by
  cases entry : w.groupOf? u with
  | none =>
    have quiet : w.deliverToUser script.behavior u data = (0, w) := by rw [deliverToUser, entry]
    have start : w.calling u = w := by rw [calling, entry]
    have nobody := listeners_of_no_entry entry
    rw [quiet, start, nobody]
    refine ⟨[], w, rfl, .done w, fun log => ?_, rfl, .refl wired u, rfl, entry, nobody⟩
    have entry' : (w.logging log).groupOf? u = none := entry
    rw [deliverToUser, entry']
    simp [calls]
  | some g =>
    have taking := wired.taking u g entry
    have pruning := setGroup_regrouped wired entry ((w.group g).prune w.alive) taking
    have start : w.calling u = w.setGroup g ((w.group g).prune w.alive) := by rw [calling, entry]
    rw [start]
    -- Three changes in a row: the group is pruned, listeners may die while they are called, and those lost leave.
    obtain ⟨visits, last, turns, visited⟩ := exists_visited script.behavior data (w.listeners u).reverse
      (w.setGroup g ((w.group g).prune w.alive))
    have members : visits.map Visit.listener = ((w.group g).living w.alive).reverse := by
      rw [turns, listeners_of_entry entry]
    have delivered : w.deliverToUser script.behavior u data =
        (visits.countP Visit.took, last.setGroup g ((last.group g).retain (kept visits))) := by
      rw [deliverToUser, entry]
      exact deliverToGroup_visited g members visited
    have entry' : last.groupOf? u = some g := by
      rw [groupOf?, visited.undisturbed.2.1]
      exact entry
    have ageing := visited.sameBut (pruning.wired wired) u
    have retaining := setGroup_regrouped (ageing.wired (pruning.wired wired)) entry'
      ((last.group g).retain (kept visits)) (((ageing.wired (pruning.wired wired)).taking u g entry'))
    rw [delivered]
    refine ⟨visits, last, turns, visited, fun log => ?_, rfl, ?_, rfl, entry', ?_⟩
    · have logged : Visited script.behavior.logged data ((w.logging log).setGroup g
          (((w.logging log).group g).prune (w.logging log).alive)) visits (last.logging (log ++ calls data visits)) :=
        visited.logged log
      have there : (w.logging log).groupOf? u = some g := entry
      rw [deliverToUser, there]
      have members' : visits.map Visit.listener =
          (((w.logging log).group g).living (w.logging log).alive).reverse := members
      exact deliverToGroup_visited g members' logged
    · exact pruning.trans (ageing.trans retaining.toSameBut)
    · have group : last.group g = (w.group g).prune w.alive := by
        have made : w.Made g := wired.made u g entry
        rw [← setGroup_group_self made ((w.group g).prune w.alive), Switchboard.group, visited.undisturbed.1]
        rfl
      rw [retaining.listening, CallbackList.retain_living, group, listeners_of_entry entry]
      simp only [CallbackList.living, CallbackList.prune, CallbackList.retain, List.filter_filter]
      exact List.filter_congr fun l _ => (Bool.and_assoc _ _ _).symm

theorem deliverToUser_outside {behavior : Behavior ℓ σ} {u : UserId}
    (turns : visits.map Visit.listener = (w.listeners u).reverse)
    (visited : Visited behavior data (w.calling u) visits last) :
    (w.deliverToUser behavior u data).2.outside = last.outside := by
  cases entry : w.groupOf? u with
  | none =>
    rw [listeners_of_no_entry entry] at turns
    obtain rfl := List.map_eq_nil_iff.1 turns
    rw [calling, entry] at visited
    cases visited
    rw [deliverToUser, entry]
  | some g =>
    rw [listeners_of_entry entry] at turns
    rw [calling, entry] at visited
    rw [deliverToUser, entry]
    exact congrArg (fun delivered => delivered.2.outside) (deliverToGroup_visited g turns visited)

theorem calling_dead (w : Switchboard ℓ σ) (u : UserId) : (w.calling u).dead = w.dead := by
  unfold calling
  split <;> rfl

theorem calling_outside (w : Switchboard ℓ σ) (u : UserId) : (w.calling u).outside = w.outside := by
  unfold calling
  split <;> rfl

/-- A delivery that everybody takes, and after which everybody is alive, leaves all listeners where they are. -/
theorem deliverToUser_taken (wired : w.Wired) (script : Script ℓ σ) (u : UserId) (data : Safety.Data) :
    ∃ (visits : List (Visit ℓ)) (last : Switchboard ℓ σ),
      let next := (w.deliverToUser script.behavior u data).2
      visits.map Visit.listener = (w.listeners u).reverse ∧
      Visited script.behavior data (w.calling u) visits last ∧ next.outside = last.outside ∧
      ((∀ v ∈ visits, v.answer = some (.ok ())) → last.dead = [] →
        (w.deliverToUser script.behavior u data).1 = (w.listeners u).length ∧ next.Wired ∧ next.dead = [] ∧
          ∀ v, next.listeners v = w.listeners v) := by
  obtain ⟨visits, last, turns, visited, -, taken, same, dead, -, staying⟩ := deliverToUser_visited wired script u data
  refine ⟨visits, last, turns, visited, deliverToUser_outside turns visited, fun answers living => ?_⟩
  have all : visits.countP Visit.took = visits.length :=
    List.countP_eq_length.2 fun v mem => by rw [Visit.took, answers v mem]
  have count : visits.length = (w.listeners u).length := by
    rw [← List.length_map Visit.listener, turns, List.length_reverse]
  have stays (l : ℓ) : kept visits l = true := decide_eq_true fun v mem _ => by rw [Visit.lost, answers v mem]
  have alive (l : ℓ) : (w.deliverToUser script.behavior u data).2.alive l = true := by
    rw [Switchboard.alive, dead, living]
    rfl
  refine ⟨taken.trans (all.trans count), same.wired wired, dead.trans living, fun v => ?_⟩
  by_cases here : v = u
  · rw [here, staying]
    exact List.filter_eq_self.2 fun l _ => by rw [stays, alive]; rfl
  · rw [same.listeners_ne wired here]
    exact List.filter_eq_self.2 fun l _ => alive l

def handle (script : Script ℓ σ) (w : Switchboard ℓ σ) : RegistryEvent ℓ → Switchboard ℓ σ
  | .add l u => (w.addListener l u).2
  | .remove l u => (w.removeListener l u).2
  | .clear u => w.clearUser u
  | .deliver u data => (w.deliverToUser script.behavior u data).2
  | .die l => w.die l

def run (script : Script ℓ σ) (w : Switchboard ℓ σ) (events : List (RegistryEvent ℓ)) : Switchboard ℓ σ :=
  events.foldl (handle script) w

theorem alive_of_die (w : Switchboard ℓ σ) (l x : ℓ) (lives : (w.die l).alive x) : w.alive x := by
  simp only [alive, die, List.contains_cons, Bool.not_or, Bool.and_eq_true] at lives ⊢
  exact lives.2

theorem die_listeners (w : Switchboard ℓ σ) (l : ℓ) (u : UserId) :
    (w.die l).listeners u = (w.listeners u).erase l := by
  cases entry : w.groupOf? u with
  | none =>
    have entry' : (w.die l).groupOf? u = none := entry
    rw [listeners_of_no_entry entry', listeners_of_no_entry entry, List.erase_nil]
  | some g =>
    have entry' : (w.die l).groupOf? u = some g := entry
    rw [listeners_of_entry entry', listeners_of_entry entry]
    exact (w.group g).living_of_death l w.dead

theorem handle_sameBut (wired : w.Wired) (script : Script ℓ σ) (e : RegistryEvent ℓ) :
    ∃ u, SameBut u w (w.handle script e) := by
  cases e with
  | add l u => exact ⟨u, (addListener_settled wired l u).2.toSameBut⟩
  | remove l u => exact ⟨u, (removeListener_settled wired l u).2.toSameBut⟩
  | clear u => exact ⟨u, (clearUser_settled wired u).1.toSameBut⟩
  | deliver u data =>
    obtain ⟨_, _, _, _, _, _, same, _⟩ := deliverToUser_visited wired script u data
    exact ⟨u, same⟩
  | die l => exact ⟨⟨0⟩, .aged wired (w.alive_of_die l) rfl rfl ⟨0⟩⟩

theorem run_wired (wired : w.Wired) (script : Script ℓ σ) (events : List (RegistryEvent ℓ)) :
    (run script w events).Wired := by
  induction events generalizing w with
  | nil => exact wired
  | cons e rest ih =>
    obtain ⟨u, same⟩ := handle_sameBut wired script e
    exact ih (same.wired wired)

theorem run_retired {g : GroupId} (wired : w.Wired) (retired : w.Retired g) (script : Script ℓ σ)
    (events : List (RegistryEvent ℓ)) : (run script w events).Retired g := by
  induction events generalizing w with
  | nil => exact retired
  | cons e rest ih =>
    obtain ⟨u, same⟩ := handle_sameBut wired script e
    exact ih (same.wired wired) (retired.step same)

theorem clearUser_addListener (wired : w.Wired) (u : UserId) (l : ℓ) (lives : w.alive l) :
    ((w.clearUser u).addListener l u).1 = true ∧ ((w.clearUser u).addListener l u).2.listeners u = [l] ∧
      ∃ g, ((w.clearUser u).addListener l u).2.groupOf? u = some g ∧ ¬w.Made g := by
  obtain ⟨clearing, -⟩ := clearUser_settled wired u
  obtain ⟨added, adding⟩ := addListener_settled (clearing.wired wired) l u
  rw [clearing.alive, lives] at added
  rw [clearing.alive, clearing.listening, lives] at adding
  have listening : ((w.clearUser u).addListener l u).2.listeners u = [l] := adding.listening
  have entered := adding.kept.2 (List.cons_ne_nil l [])
  obtain ⟨g, entry⟩ := Option.isSome_iff_exists.1 entered
  refine ⟨added, listening, g, entry, ?_⟩
  obtain ⟨-, -, before | new⟩ := adding.entry g entry
  · exact absurd rfl (clearing.kept.1 (Option.isSome_iff_exists.2 ⟨g, before⟩))
  · exact mt (clearing.made g) new

/-- At every moment of a run. A living listener is added at the end of the user's list, or stays where it is, and a
    dead one is refused; a living listener is removed from the list it is in. A delivery visits the user's listeners,
    the latest first, and calls those still alive at their turn. No other user's list is touched, but for the listeners
    that die. A cleared user gets a new group with the next listener, and the old group is empty, refuses
    registrations and belongs to no user, whatever happens later. -/
theorem run_lists (script : Script ℓ σ) (outside : σ) (events : List (RegistryEvent ℓ)) :
    let w := run script { outside } events
    (∀ l u, let next := (w.addListener l u).2
      (w.addListener l u).1 = w.alive l ∧ next.dead = w.dead ∧ (w.alive l → (next.listeners u).count l = 1) ∧
      ∀ v, next.listeners v =
        if v = u ∧ w.alive l ∧ l ∉ w.listeners u then w.listeners u ++ [l] else w.listeners v) ∧
    (∀ l u, let next := (w.removeListener l u).2
      (w.alive l → (w.removeListener l u).1 = decide (l ∈ w.listeners u)) ∧ next.dead = w.dead ∧
      ∀ v, next.listeners v = if v = u then (w.listeners u).erase l else w.listeners v) ∧
    (∀ u data, ∃ (visits : List (Visit ℓ)) (last : Switchboard ℓ σ),
      let next := (w.deliverToUser script.behavior u data).2
      visits.map Visit.listener = (w.listeners u).reverse ∧
      Visited script.behavior data (w.calling u) visits last ∧
      (∀ log, (w.logging log).deliverToUser script.behavior.logged u data =
        (visits.countP Visit.took, next.logging (log ++ calls data visits))) ∧
      (w.deliverToUser script.behavior u data).1 = visits.countP Visit.took ∧
      ∀ v, next.listeners v = (w.listeners v).filter fun l => (v ≠ u || kept visits l) && next.alive l) ∧
    (∀ l v, (w.die l).listeners v = (w.listeners v).erase l) ∧
    (∀ u, let cleared := w.clearUser u
      cleared.dead = w.dead ∧ (∀ v, cleared.listeners v = if v = u then [] else w.listeners v) ∧
      (∀ l, w.alive l → let next := (cleared.addListener l u).2
        (cleared.addListener l u).1 = true ∧ next.listeners u = [l] ∧ ∃ g, next.groupOf? u = some g ∧ ¬w.Made g) ∧
      ∀ g, w.groupOf? u = some g → ∀ later, let last := run script cleared later
        (last.group g).members = [] ∧ (∀ l, last.register g l = (false, last)) ∧ ∀ v, last.groupOf? v ≠ some g) := by
  intro w
  have wired : w.Wired := run_wired (wired_unused outside) script events
  refine ⟨fun l u => ?_, fun l u => ?_, fun u data => ?_, w.die_listeners, fun u => ?_⟩
  · obtain ⟨added, settled⟩ := addListener_settled wired l u
    refine ⟨added, settled.dead, fun lives => ?_, fun v => ?_⟩
    · rw [(listeners_nodup _ u).count, if_pos]
      rw [settled.listening, lives]
      by_cases known : l ∈ w.listeners u <;> simp [known]
    · rw [settled.listeners wired v]
      by_cases here : v = u <;> simp [here]
  · obtain ⟨removed, settled⟩ := removeListener_settled wired l u
    exact ⟨removed, settled.dead, settled.listeners wired⟩
  · obtain ⟨visits, last, turns, visited, logged, taken, same, -, -, living⟩ :=
      deliverToUser_visited wired script u data
    refine ⟨visits, last, turns, visited, logged, taken, fun v => ?_⟩
    by_cases here : v = u
    · simpa [here] using living
    · simpa [here] using same.listeners_ne wired here
  · obtain ⟨settled, retired⟩ := clearUser_settled wired u
    refine ⟨settled.dead, settled.listeners wired, clearUser_addListener wired u, fun g entry later => ?_⟩
    have gone := run_retired (settled.wired wired) (retired g entry) script later
    exact ⟨gone.empty, gone.register, gone.loose⟩

/-- Four listeners of one user, the second of whom is a listener of another user too. In a delivery the fourth lets the
    first die and the third answers that it is dead. The user is cleared in the end, and gets a new group. -/
theorem run_lists_cleared :
    let script : Script Nat Unit := fun l _ _ =>
      match l with
      | 4 => ({ answer := .ok (), deaths := [1] }, ())
      | 3 => ({ answer := .error .deadObject }, ())
      | _ => ({ answer := .error (.internal "busy") }, ())
    let u : UserId := ⟨0⟩
    let w := run script { outside := () }
      [.add 1 u, .add 2 u, .add 2 ⟨1⟩, .add 3 u, .add 4 u, .add 2 u, .deliver u default]
    let cleared := w.clearUser u
    let last := run script cleared [.add 2 u, .die 2, .clear ⟨1⟩]
    w.listeners u = [2, 4] ∧ w.alive 5 ∧ ((w.addListener 5 u).2.listeners u).count 5 = 1 ∧
      w.alive 4 ∧ (w.removeListener 4 u).1 = decide (4 ∈ w.listeners u) ∧
      w.alive 2 ∧ (cleared.addListener 2 u).2.listeners u = [2] ∧
      w.groupOf? u = some ⟨0⟩ ∧ (last.group ⟨0⟩).members = [] ∧ last.register ⟨0⟩ 4 = (false, last) ∧
      last.groupOf? u = some ⟨2⟩ := by
  intro script u w cleared last
  obtain ⟨added, removed, -, -, clearing⟩ := run_lists script ()
    [.add 1 u, .add 2 u, .add 2 ⟨1⟩, .add 3 u, .add 4 u, .add 2 u, .deliver u default]
  obtain ⟨-, -, renewed, retired⟩ := clearing u
  obtain ⟨empty, refused, -⟩ := retired ⟨0⟩ (by decide) [.add 2 u, .die 2, .clear ⟨1⟩]
  exact ⟨by decide, by decide, (added 5 u).2.2.1 (by decide), by decide, (removed 4 u).1 (by decide), by decide,
    (renewed 2 (by decide)).2.1, by decide, empty, refused 4, by decide⟩

omit [DecidableEq ℓ] in
theorem mem_keys_iff (w : Switchboard ℓ σ) (u : UserId) : u ∈ w.byUser.keys ↔ (w.groupOf? u).isSome := by
  rw [SortedMap.mem_keys_iff]
  rfl

theorem handle_settled (wired : w.Wired) (script : Script ℓ σ) {e : RegistryEvent ℓ} {u : UserId}
    (change : e.changes u) : ∃ audience, Settled u audience w (w.handle script e) := by
  cases e with
  | add l v =>
    obtain rfl : v = u := of_decide_eq_true change
    exact ⟨_, (addListener_settled wired l v).2⟩
  | remove l v =>
    obtain rfl : v = u := of_decide_eq_true change
    exact ⟨_, (removeListener_settled wired l v).2⟩
  | clear v =>
    obtain rfl : v = u := of_decide_eq_true change
    exact ⟨_, (clearUser_settled wired v).1⟩
  | deliver | die => cases change

theorem mortal_dies {answers : ℓ → Safety.Data → Switchboard ℓ σ → Except Error Unit × σ} {l : ℓ}
    (call : (Script.mortal answers).behavior l data w = (.error .deadObject, last)) : last.alive l = false := by
  unfold Script.behavior Script.mortal at call
  cases made : answers l data w with
  | mk answer outside =>
    rw [made] at call
    match answer with
    | .ok () => cases call
    | .error .deadObject =>
      obtain ⟨-, rfl⟩ := Prod.mk.inj call
      simp [alive]
    | .error (.duplicateSchemePolicy ..) | .error (.invalidUri _) | .error (.invariantViolation _)
    | .error (.delivery _) | .error (.invalidInput _) | .error (.internal _) => cases call

theorem kept_of_alive {answers : ℓ → Safety.Data → Switchboard ℓ σ → Except Error Unit × σ} {l : ℓ}
    (h : Visited (Script.mortal answers).behavior data w visits last) (lives : last.alive l) : kept visits l := by
  refine decide_eq_true fun v mem same => Bool.eq_false_iff.2 fun lost => ?_
  induction h with
  | done w => cases mem
  | missed dead rest ih =>
    rcases List.mem_cons.1 mem with rfl | later
    · have alive := rest.undisturbed.2.2 l lives
      rw [← same, dead] at alive
      cases alive
    · exact ih lives later
  | @called w next last l' answer later alive call rest ih =>
    rcases List.mem_cons.1 mem with rfl | later
    · have answered : answer = .error .deadObject := by
        match answer, lost with
        | .error .deadObject, _ => rfl
      have alive := rest.undisturbed.2.2 l lives
      rw [← same, mortal_dies (answered ▸ call)] at alive
      cases alive
    · exact ih lives later

theorem handle_unchanged (wired : w.Wired) (answers : ℓ → Safety.Data → Switchboard ℓ σ → Except Error Unit × σ)
    {e : RegistryEvent ℓ} {u : UserId} (quiet : e.changes u = false) :
    let next := w.handle (.mortal answers) e
    next.groupOf? u = w.groupOf? u ∧ next.listeners u = (w.listeners u).filter next.alive := by
  have other {v : UserId} {next : Switchboard ℓ σ} (quiet : decide (v = u) = false) (same : SameBut v w next) :
      next.groupOf? u = w.groupOf? u ∧ next.listeners u = (w.listeners u).filter next.alive := by
    have apart : u ≠ v := Ne.symm (of_decide_eq_false quiet)
    exact ⟨same.entries u apart, same.listeners_ne wired apart⟩
  cases e with
  | add l v => exact other quiet (addListener_settled wired l v).2.toSameBut
  | remove l v => exact other quiet (removeListener_settled wired l v).2.toSameBut
  | clear v => exact other quiet (clearUser_settled wired v).1.toSameBut
  | deliver v data =>
    obtain ⟨visits, last, -, visited, -, -, same, dead, entry, living⟩ :=
      deliverToUser_visited wired (.mortal answers) v data
    by_cases here : v = u
    · subst v
      refine ⟨entry, living.trans (List.filter_congr fun l _ => ?_)⟩
      have implied : (w.deliverToUser (Script.mortal answers).behavior u data).2.alive l → kept visits l := by
        rw [Switchboard.alive, dead]
        exact kept_of_alive visited
      rw [Bool.eq_iff_iff, Bool.and_eq_true]
      exact and_iff_right_of_imp implied
    · exact other (decide_eq_false here) same
  | die l => exact ⟨rfl, aged_listeners (w.alive_of_die l) rfl rfl u⟩

/-- A user's entry is as it was settled, and of the listeners the user had then, those who have not died are left. -/
structure OnlyDied (u : UserId) (settled w : Switchboard ℓ σ) : Prop where
  entry : (w.groupOf? u).isSome ↔ settled.listeners u ≠ []
  living : w.listeners u = (settled.listeners u).filter w.alive

theorem Settled.onlyDied {u : UserId} {audience : List ℓ} (settled : Settled u audience w last) :
    OnlyDied u last last := by
  refine ⟨?_, (List.filter_eq_self.2 fun l mem => listeners_alive mem).symm⟩
  rw [settled.listening]
  exact settled.kept

theorem OnlyDied.handle {answers : ℓ → Safety.Data → Switchboard ℓ σ → Except Error Unit × σ} {u : UserId}
    {settled : Switchboard ℓ σ} {e : RegistryEvent ℓ} (died : OnlyDied u settled w) (wired : w.Wired)
    (quiet : e.changes u = false) : OnlyDied u settled (w.handle (.mortal answers) e) := by
  obtain ⟨entry, living⟩ := handle_unchanged wired answers quiet
  obtain ⟨v, same⟩ := handle_sameBut wired (.mortal answers) e
  constructor
  · rw [entry]
    exact died.entry
  · rw [living, died.living, List.filter_filter]
    refine List.filter_congr fun l _ => ?_
    rw [Bool.eq_iff_iff, Bool.and_eq_true]
    exact and_iff_left_of_imp (same.dying l)

theorem run_onlyDied (answers : ℓ → Safety.Data → Switchboard ℓ σ → Except Error Unit × σ) (outside : σ)
    (events : List (RegistryEvent ℓ)) (u : UserId) :
    OnlyDied u (run (.mortal answers) { outside } (RegistryEvent.untilChange u events))
      (run (.mortal answers) { outside } events) := by
  -- From the last event back to the first: each either changed who listens, or left what was there before.
  obtain ⟨latest, rfl⟩ : ∃ latest, events = latest.reverse := ⟨events.reverse, events.reverse_reverse.symm⟩
  induction latest with
  | nil => exact (settled_of_no_entry (wired_unused outside) rfl).onlyDied
  | cons e earlier ih =>
    let before := run (.mortal answers) { outside } earlier.reverse
    have wired : before.Wired := run_wired (wired_unused outside) _ _
    have now : run (.mortal answers) { outside } (earlier.reverse ++ [e]) = before.handle (.mortal answers) e := by
      rw [run, List.foldl_append]
      rfl
    rw [List.reverse_cons, RegistryEvent.untilChange_concat, now]
    cases change : e.changes u with
    | true =>
      obtain ⟨audience, settled⟩ := handle_settled wired (.mortal answers) change
      rw [if_pos rfl, now]
      exact settled.onlyDied
    | false => exact ih.handle wired change

/-- At every moment of a run in which listeners die only by answering so, or on their own. A user has an entry if the
    user had a listener after the last change of who listens for the user. Those of the listeners that have not died
    since are the ones left, so that the entry may lead to a group in which nobody is left: it stands for a living
    listener just if not all of them have died. -/
theorem run_entries (answers : ℓ → Safety.Data → Switchboard ℓ σ → Except Error Unit × σ) (outside : σ)
    (events : List (RegistryEvent ℓ)) (u : UserId) :
    let w := run (.mortal answers) { outside } events
    let settled := run (.mortal answers) { outside } (RegistryEvent.untilChange u events)
    (u ∈ w.byUser.keys ↔ (w.groupOf? u).isSome) ∧
    ((w.groupOf? u).isSome ↔ settled.listeners u ≠ []) ∧
    w.listeners u = (settled.listeners u).filter w.alive ∧
    (((w.groupOf? u).isSome ↔ w.listeners u ≠ []) ↔
      settled.listeners u = [] ∨ ∃ l ∈ settled.listeners u, w.alive l) := by
  intro w settled
  have died : OnlyDied u settled w := run_onlyDied answers outside events u
  have left : w.listeners u ≠ [] ↔ ∃ l ∈ settled.listeners u, w.alive l := by
    rw [died.living, Ne, List.filter_eq_nil_iff]
    simp
  refine ⟨w.mem_keys_iff u, died.entry, died.living, ?_⟩
  rw [died.entry, left]
  by_cases nobody : settled.listeners u = []
  · simp [nobody]
  · simp [nobody]

/-- The only listener of a user answers that it is dead: the entry is left behind. -/
theorem run_entries_emptied :
    let w := run (.mortal fun _ _ _ => (.error .deadObject, ())) ({ outside := () } : Switchboard Nat Unit)
      [.add 1 ⟨0⟩, .deliver ⟨0⟩ default]
    ⟨0⟩ ∈ w.byUser.keys ∧ (w.groupOf? ⟨0⟩).isSome ∧ w.listeners ⟨0⟩ = [] := by decide

end Switchboard
end Gatekeeper
