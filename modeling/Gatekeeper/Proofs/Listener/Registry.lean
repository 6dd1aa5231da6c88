import Gatekeeper.Listener.Registry
import Gatekeeper.Proofs.SortedMap
import Gatekeeper.Proofs.Listener.Delivery

set_option autoImplicit false

namespace Gatekeeper

variable {ℓ σ : Type}

theorem CallbackList.living_of_dying {alive later : ℓ → Bool} (dying : ∀ l, later l → alive l) (cs : CallbackList ℓ) :
    cs.living later = (cs.living alive).filter later := by
  rw [living, living, List.filter_filter]
  refine List.filter_congr fun l _ => ?_
  rw [Bool.eq_iff_iff, Bool.and_eq_true]
  exact ⟨fun lives => ⟨lives, dying l lives⟩, And.left⟩

namespace Switchboard

variable {w next last : Switchboard ℓ σ} {u v : UserId} {g h : GroupId} {cs : CallbackList ℓ}

/-- A group that has been made, by whom ever it is held now. -/
def Made (w : Switchboard ℓ σ) (g : GroupId) : Prop := g.index < w.groups.length

theorem setGroup_group_self (made : w.Made g) (cs : CallbackList ℓ) : (w.setGroup g cs).group g = cs := by
  simp only [group, setGroup, List.getElem?_set_self made, Option.getD_some]

theorem setGroup_group_ne (other : h ≠ g) (cs : CallbackList ℓ) : (w.setGroup g cs).group h = w.group h := by
  have places : g.index ≠ h.index := fun same => other (congrArg GroupId.mk same.symm)
  simp only [group, setGroup, List.getElem?_set_ne places]

theorem setGroup_made (cs : CallbackList ℓ) : (w.setGroup g cs).Made h ↔ w.Made h := by
  simp only [Made, setGroup, List.length_set]

theorem forget_groupOf?_self (w : Switchboard ℓ σ) (u : UserId) : (w.forget u).groupOf? u = none :=
  w.byUser.get?_erase_self u

theorem forget_groupOf?_ne (w : Switchboard ℓ σ) (other : v ≠ u) : (w.forget u).groupOf? v = w.groupOf? v :=
  w.byUser.get?_erase_ne other

/-- Every entry leads to a group of its own, which takes registrations. -/
structure Wired (w : Switchboard ℓ σ) : Prop where
  made : ∀ u g, w.groupOf? u = some g → w.Made g
  taking : ∀ u g, w.groupOf? u = some g → (w.group g).killed = false
  own : ∀ u v g, w.groupOf? u = some g → w.groupOf? v = some g → u = v

theorem wired_unused (outside : σ) : Wired ({ outside } : Switchboard ℓ σ) where
  made _ _ entry := nomatch entry
  taking _ _ entry := nomatch entry
  own _ _ _ entry _ := nomatch entry

variable [DecidableEq ℓ]

def listeners (w : Switchboard ℓ σ) (u : UserId) : List ℓ :=
  match w.groupOf? u with
  | some g => (w.group g).living w.alive
  | none => []

theorem listeners_of_entry (entry : w.groupOf? u = some g) : w.listeners u = (w.group g).living w.alive := by
  rw [listeners, entry]

theorem listeners_of_no_entry (none : w.groupOf? u = none) : w.listeners u = [] := by
  rw [listeners, none]

theorem listeners_nodup (w : Switchboard ℓ σ) (u : UserId) : (w.listeners u).Nodup := by
  unfold listeners
  split
  · exact CallbackList.living_nodup _ _
  · exact List.nodup_nil

theorem listeners_alive {l : ℓ} (mem : l ∈ w.listeners u) : w.alive l = true := by
  unfold listeners at mem
  split at mem
  · exact (CallbackList.mem_living_iff _ _ l |>.1 mem).2
  · exact absurd mem List.not_mem_nil

/-- Nothing has happened but to one user's entry and group, and that some listeners may have died. -/
structure SameBut (u : UserId) (w next : Switchboard ℓ σ) : Prop where
  dying : ∀ l, next.alive l → w.alive l
  made : ∀ g, w.Made g → next.Made g
  entries : ∀ v, v ≠ u → next.groupOf? v = w.groupOf? v
  groups : ∀ g, w.Made g → w.groupOf? u ≠ some g → next.group g = w.group g
  entry : ∀ g, next.groupOf? u = some g →
    next.Made g ∧ (next.group g).killed = false ∧ (w.groupOf? u = some g ∨ ¬w.Made g)

namespace SameBut

theorem refl (wired : w.Wired) (u : UserId) : SameBut u w w where
  dying _ := id
  made _ := id
  entries _ _ := rfl
  groups _ _ _ := rfl
  entry g entry := ⟨wired.made u g entry, wired.taking u g entry, .inl entry⟩

theorem trans (first : SameBut u w next) (second : SameBut u next last) : SameBut u w last where
  dying l alive := first.dying l (second.dying l alive)
  made g made := second.made g (first.made g made)
  entries v other := (second.entries v other).trans (first.entries v other)
  groups g made loose := by
    have still : next.groupOf? u ≠ some g := by
      intro entry
      obtain ⟨-, -, before | new⟩ := first.entry g entry
      · exact loose before
      · exact new made
    rw [second.groups g (first.made g made) still, first.groups g made loose]
  entry g entry := by
    obtain ⟨made, taking, between⟩ := second.entry g entry
    refine ⟨made, taking, ?_⟩
    rcases between with kept | new
    · exact (first.entry g kept).2.2
    · exact .inr (mt (first.made g) new)

theorem loose (same : SameBut u w next) (made : w.Made g) (loose : ∀ v, w.groupOf? v ≠ some g) (v : UserId) :
    next.groupOf? v ≠ some g := by
  by_cases here : v = u
  · subst v
    intro entry
    obtain ⟨-, -, before | new⟩ := same.entry g entry
    · exact loose u before
    · exact new made
  · rw [same.entries v here]
    exact loose v

theorem wired (same : SameBut u w next) (wired : w.Wired) : next.Wired := by
  -- The group of another user has not come to the user's entry: it was neither there before nor made just now.
  have apart : ∀ v g, v ≠ u → w.groupOf? v = some g → w.groupOf? u ≠ some g := fun v g other there here =>
    other (wired.own v u g there here)
  have theirs : ∀ v g, v ≠ u → w.groupOf? v = some g → next.groupOf? u ≠ some g := by
    intro v g other there entry
    obtain ⟨-, -, before | new⟩ := same.entry g entry
    · exact apart v g other there before
    · exact new (wired.made v g there)
  constructor
  · intro v g entry
    by_cases here : v = u
    · subst v
      exact (same.entry g entry).1
    · rw [same.entries v here] at entry
      exact same.made g (wired.made v g entry)
  · intro v g entry
    by_cases here : v = u
    · subst v
      exact (same.entry g entry).2.1
    · rw [same.entries v here] at entry
      rw [same.groups g (wired.made v g entry) (apart v g here entry)]
      exact wired.taking v g entry
  · intro v x g entry entry'
    by_cases here : v = u <;> by_cases there : x = u
    · rw [here, there]
    · rw [same.entries x there] at entry'
      exact absurd (here ▸ entry) (theirs x g there entry')
    · rw [same.entries v here] at entry
      exact absurd (there ▸ entry') (theirs v g here entry)
    · rw [same.entries v here] at entry
      rw [same.entries x there] at entry'
      exact wired.own v x g entry entry'

theorem listeners_ne (same : SameBut u w next) (wired : w.Wired) (other : v ≠ u) :
    next.listeners v = (w.listeners v).filter next.alive := by
  cases entry : w.groupOf? v with
  | none =>
    have none : next.groupOf? v = none := (same.entries v other).trans entry
    rw [listeners_of_no_entry none, listeners_of_no_entry entry, List.filter_nil]
  | some g =>
    have still : next.groupOf? v = some g := (same.entries v other).trans entry
    have group : next.group g = w.group g :=
      same.groups g (wired.made v g entry) fun here => other (wired.own v u g entry here)
    rw [listeners_of_entry still, listeners_of_entry entry, group]
    exact CallbackList.living_of_dying same.dying (w.group g)

theorem aged (wired : w.Wired) (dying : ∀ l, next.alive l → w.alive l) (groups : next.groups = w.groups)
    (byUser : next.byUser = w.byUser) (u : UserId) : SameBut u w next where
  dying := dying
  made g made := by rwa [Made, groups]
  entries v _ := by rw [groupOf?, byUser, groupOf?]
  groups g _ _ := by rw [group, groups, group]
  entry g entry := by
    rw [groupOf?, byUser] at entry
    refine ⟨?_, ?_, .inl entry⟩
    · rw [Made, groups]
      exact wired.made u g entry
    · rw [group, groups]
      exact wired.taking u g entry

end SameBut

theorem aged_listeners (dying : ∀ l, next.alive l → w.alive l) (groups : next.groups = w.groups)
    (byUser : next.byUser = w.byUser) (u : UserId) : next.listeners u = (w.listeners u).filter next.alive := by
  have same : next.groupOf? u = w.groupOf? u := congrArg (SortedMap.get? · u) byUser
  cases entry : w.groupOf? u with
  | none => rw [listeners_of_no_entry (same.trans entry), listeners_of_no_entry entry, List.filter_nil]
  | some g =>
    rw [listeners_of_entry (same.trans entry), listeners_of_entry entry, group, groups, ← group]
    exact CallbackList.living_of_dying dying (w.group g)

/-- One user has these listeners now, and nobody has died. -/
structure Regrouped (u : UserId) (audience : List ℓ) (w next : Switchboard ℓ σ) : Prop extends SameBut u w next where
  dead : next.dead = w.dead
  listening : next.listeners u = audience

/-- The user's entry is there if anybody listens for the user, and only then. -/
structure Settled (u : UserId) (audience : List ℓ) (w next : Switchboard ℓ σ) : Prop extends
    Regrouped u audience w next where
  kept : (next.groupOf? u).isSome ↔ audience ≠ []

variable {audience audience' : List ℓ}

theorem Regrouped.alive (change : Regrouped u audience w next) : next.alive = w.alive := by
  funext l
  rw [Switchboard.alive, change.dead, Switchboard.alive]

theorem Regrouped.settle (change : Regrouped u audience w next) (settled : Settled u audience' next last) :
    Settled u audience' w last where
  toSameBut := change.trans settled.toSameBut
  dead := settled.dead.trans change.dead
  listening := settled.listening
  kept := settled.kept

theorem Regrouped.listeners (change : Regrouped u audience w next) (wired : w.Wired) (v : UserId) :
    next.listeners v = if v = u then audience else w.listeners v := by
  by_cases here : v = u
  · rw [if_pos here, here, change.listening]
  · rw [if_neg here, change.listeners_ne wired here, change.alive]
    exact List.filter_eq_self.2 fun l mem => listeners_alive mem

theorem setGroup_regrouped (wired : w.Wired) (entry : w.groupOf? u = some g) (cs : CallbackList ℓ)
    (taking : cs.killed = false) : Regrouped u (cs.living w.alive) w (w.setGroup g cs) := by
  have made : w.Made g := wired.made u g entry
  have entry' : (w.setGroup g cs).groupOf? u = some g := entry
  refine ⟨⟨fun _ => id, fun h => (setGroup_made cs).2, fun _ _ => rfl, fun h _ loose => ?_, fun h entered => ?_⟩, rfl, ?_⟩
  · refine setGroup_group_ne ?_ cs
    rintro rfl
    exact loose entry
  · obtain rfl := Option.some.inj (entry.symm.trans entered)
    exact ⟨(setGroup_made cs).2 made, (congrArg _ (setGroup_group_self made cs)).trans taking, .inl entry⟩
  · rw [listeners_of_entry entry', setGroup_group_self made]
    rfl

theorem settled_of_no_entry (wired : w.Wired) (none : w.groupOf? u = none) : Settled u [] w w := by
  refine ⟨⟨.refl wired u, rfl, listeners_of_no_entry none⟩, ?_⟩
  rw [none]
  simp

theorem forget_settled (w : Switchboard ℓ σ) (u : UserId) : Settled u [] w (w.forget u) := by
  have none := w.forget_groupOf?_self u
  refine ⟨⟨⟨fun _ => id, fun _ => id, fun v => w.forget_groupOf?_ne, fun _ _ _ => rfl, fun g entry => ?_⟩, rfl,
    listeners_of_no_entry none⟩, ?_⟩
  · cases none.symm.trans entry
  · rw [none]
    simp

theorem forgetIfEmpty_settled (wired : w.Wired) (entry : w.groupOf? u = some g) :
    Settled u (w.listeners u) w (w.forgetIfEmpty u g) := by
  let pruned := w.setGroup g ((w.group g).prune w.alive)
  have pruning : Regrouped u (w.listeners u) w pruned := by
    have same := setGroup_regrouped wired entry ((w.group g).prune w.alive) (wired.taking u g entry)
    rwa [CallbackList.prune_living, ← listeners_of_entry entry] at same
  have forgotten : w.forgetIfEmpty u g = if (w.listeners u).length = 0 then pruned.forget u else pruned := by
    rw [listeners_of_entry entry]
    rfl
  rw [forgotten]
  by_cases empty : w.listeners u = []
  · rw [if_pos (List.length_eq_zero_iff.2 empty)]
    rw [empty] at pruning ⊢
    exact pruning.settle (forget_settled pruned u)
  · rw [if_neg (mt List.length_eq_zero_iff.1 empty)]
    have entry' : pruned.groupOf? u = some g := entry
    refine ⟨pruning, ?_⟩
    rw [entry']
    simp [empty]

theorem ensureGroup_regrouped (wired : w.Wired) (made : w.ensureGroup u = (g, next)) :
    Regrouped u (w.listeners u) w next ∧ next.groupOf? u = some g := by
  cases entry : w.groupOf? u with
  | some g' =>
    rw [ensureGroup, entry] at made
    obtain ⟨rfl, rfl⟩ := Prod.mk.inj made
    exact ⟨⟨.refl wired u, rfl, rfl⟩, entry⟩
  | none =>
    rw [ensureGroup, entry] at made
    obtain ⟨rfl, rfl⟩ := Prod.mk.inj made
    let fresh : GroupId := ⟨w.groups.length⟩
    let next : Switchboard ℓ σ := { w with groups := w.groups ++ [.empty], byUser := w.byUser.insert u fresh }
    have entry' : next.groupOf? u = some fresh := w.byUser.get?_insert_self u fresh
    have empty : next.group fresh = .empty := by simp [next, group, fresh]
    have length : next.groups.length = w.groups.length + 1 := List.length_append
    refine ⟨⟨⟨fun _ => id, fun h made => ?_, fun v => w.byUser.get?_insert_ne fresh, fun h made _ => ?_, fun h entered => ?_⟩,
      rfl, ?_⟩, entry'⟩
    · have bound : h.index < w.groups.length := made
      show h.index < next.groups.length
      omega
    · show next.group h = w.group h
      simp only [group, next, List.getElem?_append_left made]
    · obtain rfl := Option.some.inj (entry'.symm.trans entered)
      refine ⟨?_, congrArg CallbackList.killed empty, .inr (Nat.lt_irrefl _)⟩
      show w.groups.length < next.groups.length
      omega
    · show next.listeners u = w.listeners u
      rw [listeners_of_no_entry entry, listeners_of_entry entry', empty]
      rfl

theorem register_regrouped (wired : w.Wired) (entry : w.groupOf? u = some g) (l : ℓ) :
    (w.register g l).1 = w.alive l ∧
      Regrouped u (if w.alive l ∧ l ∉ w.listeners u then w.listeners u ++ [l] else w.listeners u) w
        (w.register g l).2 := by
  have taking := wired.taking u g entry
  rw [register, onGroup, listeners_of_entry entry]
  cases lives : w.alive l with
  | false =>
    rw [(w.group g).register_refused w.alive l (.inr lives)]
    exact ⟨rfl, by simpa using setGroup_regrouped wired entry (w.group g) taking⟩
  | true =>
    have accepted : ¬((w.group g).killed ∨ w.alive l = false) := by simp [taking, lives]
    rw [(w.group g).register_accepted w.alive l accepted]
    refine ⟨rfl, ?_⟩
    have same := setGroup_regrouped wired entry (((w.group g).prune w.alive).add l) (by simpa using taking)
    rw [(w.group g).register_living w.alive l lives] at same
    simpa only [true_and, ite_not] using same

theorem unregister_regrouped (wired : w.Wired) (entry : w.groupOf? u = some g) (l : ℓ) :
    (w.alive l → (w.unregister g l).1 = decide (l ∈ w.listeners u)) ∧
      Regrouped u ((w.listeners u).erase l) w (w.unregister g l).2 := by
  have same := setGroup_regrouped wired entry ((w.group g).unregister w.alive l).2 (wired.taking u g entry)
  rw [(w.group g).unregister_living w.alive l, ← listeners_of_entry entry] at same
  refine ⟨fun lives => ?_, same⟩
  rw [listeners_of_entry entry]
  simp [unregister, onGroup, CallbackList.unregister, CallbackList.mem_living_iff, lives]

theorem addListener_settled (wired : w.Wired) (l : ℓ) (u : UserId) :
    (w.addListener l u).1 = w.alive l ∧
      Settled u (if w.alive l ∧ l ∉ w.listeners u then w.listeners u ++ [l] else w.listeners u) w
        (w.addListener l u).2 := by
  cases made : w.ensureGroup u with
  | mk g ensured =>
    obtain ⟨ensuring, entry⟩ := ensureGroup_regrouped wired made
    have wired' := ensuring.wired wired
    obtain ⟨answer, registering⟩ := register_regrouped wired' entry l
    rw [ensuring.alive, ensuring.listening] at registering
    rw [ensuring.alive] at answer
    have added : w.addListener l u = ((ensured.register g l).1,
        if (ensured.register g l).1 then (ensured.register g l).2
        else (ensured.register g l).2.forgetIfEmpty u g) := by
      rw [addListener, made]
    have entry' : (ensured.register g l).2.groupOf? u = some g := entry
    rw [added, answer]
    refine ⟨rfl, ?_⟩
    cases lives : w.alive l with
    | false =>
      have settled := forgetIfEmpty_settled (registering.wired wired') entry'
      rw [registering.listening, lives] at settled
      rw [lives] at registering
      exact ensuring.settle (registering.settle settled)
    | true =>
      rw [lives] at registering
      refine ensuring.settle ⟨registering, ?_⟩
      rw [if_pos rfl, entry']
      simp only [Option.isSome_some, true_iff, true_and]
      split
      · exact List.concat_ne_nil l _
      · next known => exact List.ne_nil_of_mem (Classical.not_not.1 known)

theorem removeListener_settled (wired : w.Wired) (l : ℓ) (u : UserId) :
    (w.alive l → (w.removeListener l u).1 = decide (l ∈ w.listeners u)) ∧
      Settled u ((w.listeners u).erase l) w (w.removeListener l u).2 := by
  unfold removeListener
  split
  · next g entry =>
    obtain ⟨answer, unregistering⟩ := unregister_regrouped wired entry l
    have entry' : (w.unregister g l).2.groupOf? u = some g := entry
    have settled := forgetIfEmpty_settled (unregistering.wired wired) entry'
    rw [unregistering.listening] at settled
    exact ⟨answer, unregistering.settle settled⟩
  · next none =>
    rw [listeners_of_no_entry none]
    exact ⟨fun _ => rfl, settled_of_no_entry wired none⟩

/-- A group that nobody gets at any more: no entry leads to it, nobody is in it, and it refuses registrations. -/
structure Retired (w : Switchboard ℓ σ) (g : GroupId) : Prop where
  made : w.Made g
  loose : ∀ u, w.groupOf? u ≠ some g
  empty : (w.group g).members = []
  killed : (w.group g).killed = true

theorem Retired.step (retired : w.Retired g) (same : SameBut u w next) : next.Retired g := by
  have group : next.group g = w.group g := same.groups g retired.made (retired.loose u)
  refine ⟨same.made g retired.made, same.loose retired.made retired.loose, ?_, ?_⟩
  · rw [group, retired.empty]
  · rw [group, retired.killed]

theorem Retired.register (retired : w.Retired g) (l : ℓ) : w.register g l = (false, w) := by
  have bound : g.index < w.groups.length := retired.made
  have there : w.group g = w.groups[g.index] := by rw [group, List.getElem?_eq_getElem bound, Option.getD_some]
  have back : w.setGroup g (w.group g) = w := by rw [setGroup, there, List.set_getElem_self]
  rw [Switchboard.register, onGroup, (w.group g).register_refused w.alive l (.inl retired.killed)]
  exact congrArg (Prod.mk false) back

theorem clearUser_settled (wired : w.Wired) (u : UserId) :
    Settled u [] w (w.clearUser u) ∧ ∀ g, w.groupOf? u = some g → (w.clearUser u).Retired g := by
  unfold clearUser
  split
  · next g entry =>
    let cleared := (w.forget u).killGroup g
    have made : (w.forget u).Made g := wired.made u g entry
    have none : cleared.groupOf? u = none := w.forget_groupOf?_self u
    have others : ∀ v, v ≠ u → cleared.groupOf? v = w.groupOf? v := fun v => w.forget_groupOf?_ne
    have group : cleared.group g = (w.group g).kill := setGroup_group_self made _
    refine ⟨⟨⟨⟨fun _ => id, fun h => (setGroup_made _).2, others, fun h _ loose => ?_, fun h entered => ?_⟩, rfl,
      listeners_of_no_entry none⟩, ?_⟩, fun h entry' => ?_⟩
    · refine setGroup_group_ne ?_ _
      rintro rfl
      exact loose entry
    · cases none.symm.trans entered
    · show (cleared.groupOf? u).isSome ↔ _
      simp [none]
    · obtain rfl := Option.some.inj (entry.symm.trans entry')
      refine ⟨(setGroup_made _).2 made, fun v there => ?_, congrArg _ group, congrArg _ group⟩
      by_cases here : v = u
      · rw [here] at there
        cases none.symm.trans there
      · exact here (wired.own v u g ((others v here).symm.trans there) entry)
  · next none =>
    refine ⟨settled_of_no_entry wired none, fun g entry => ?_⟩
    cases none.symm.trans entry

theorem forgetIfEmpty_outside (w : Switchboard ℓ σ) (u : UserId) (g : GroupId) :
    (w.forgetIfEmpty u g).outside = w.outside := by
  simp only [forgetIfEmpty]
  split <;> rfl

omit [DecidableEq ℓ] in
theorem ensureGroup_outside (w : Switchboard ℓ σ) (u : UserId) : (w.ensureGroup u).2.outside = w.outside := by
  unfold ensureGroup
  split <;> rfl

theorem addListener_outside (w : Switchboard ℓ σ) (l : ℓ) (u : UserId) :
    (w.addListener l u).2.outside = w.outside := by
  have ensured := w.ensureGroup_outside u
  simp only [addListener]
  split
  · exact ensured
  · exact (forgetIfEmpty_outside _ _ _).trans ensured

theorem removeListener_outside (w : Switchboard ℓ σ) (l : ℓ) (u : UserId) :
    (w.removeListener l u).2.outside = w.outside := by
  unfold removeListener
  split
  · exact forgetIfEmpty_outside _ _ _
  · rfl

omit [DecidableEq ℓ] in
theorem clearUser_outside (w : Switchboard ℓ σ) (u : UserId) : (w.clearUser u).outside = w.outside := by
  unfold clearUser
  split <;> rfl

end Switchboard
end Gatekeeper
