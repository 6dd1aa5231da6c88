import Gatekeeper.State.Pool
import Gatekeeper.Proofs.State.Draft

/-!
# What lies behind the tokens of a pool

The tokens of a pool stand for places in a memory, and every part of a member is what lies at its token. A draft marks
each part it is given access to, so a member that takes over a draft has its marked parts at places that were unused
before, and the rest where it was: writing to one member adds to the memory and changes nothing in it.
-/

set_option autoImplicit false

namespace Gatekeeper

/-- One access to a state for writing. -/
inductive Access where
  | editSystem (f : SystemState → SystemState)
  | editUser (u : UserId) (f : UserState → UserState)
  | editUsers (f : UserId → UserState → UserState)
  | insertUser (u : UserId) (user : UserState)
  | removeUser (u : UserId)

namespace Draft

def access (d : Draft) : Access → Draft
  | .editSystem f => d.editSystem f
  | .editUser u f => d.editUser u f
  | .editUsers f => d.editUsers f
  | .insertUser u user => d.insertUser u user
  | .removeUser u => d.removeUser u

theorem access_version (d : Draft) (a : Access) : (d.access a).version = d.version := by
  cases a with
  | editUser u f => exact editUser_version d u f
  | editSystem | editUsers | insertUser | removeUser => rfl

/-- What a draft has not marked as copied is still that of the state it was begun from. -/
structure Owns (s : AccessState) (d : Draft) : Prop where
  system : d.systemCopied = false → d.system = s.system
  users : ∀ u user, d.users.get? u = some user → d.copiedUsers.contains u = false → s.users.get? u = some user

theorem of_owns (s : AccessState) : Owns s (of s) := ⟨fun _ => rfl, fun _ _ known _ => known⟩

theorem Owns.access {s : AccessState} {d : Draft} (h : Owns s d) (a : Access) : Owns s (d.access a) := by
  cases a with
  | editSystem f => exact ⟨fun unmarked => (nomatch unmarked), h.users⟩
  | editUser u f =>
    refine ⟨fun unmarked => ?_, fun v user known unmarked => ?_⟩
    · rw [Draft.access, editUser_systemCopied] at unmarked
      exact (editUser_system d u f).trans (h.system unmarked)
    · have apart := mt (editUser_copied_iff d u v f).2 (Bool.eq_false_iff.1 unmarked)
      have other : v ≠ u := by
        rintro rfl
        have stays := (SortedMap.contains_iff _ _).2 ⟨user, known⟩
        rw [Draft.access, editUser_contains] at stays
        exact apart (.inl ⟨rfl, stays⟩)
      rw [Draft.access, editUser_get?_ne d u f other] at known
      exact h.users v user known (Bool.eq_false_iff.2 fun marked => apart (.inr marked))
  | editUsers f =>
    -- Every user is marked, so none is left to speak of.
    refine ⟨h.system, fun v user known unmarked => ?_⟩
    have stays := (SortedMap.contains_iff _ _).2 ⟨user, known⟩
    rw [Draft.access, editUsers_users, SortedMap.contains_mapWithKey] at stays
    exact absurd ((editUsers_copied_iff d v f).2 (.inl stays)) (Bool.eq_false_iff.1 unmarked)
  | insertUser u new =>
    refine ⟨h.system, fun v user known unmarked => ?_⟩
    have apart := mt (insertUser_copied_iff d u v new).2 (Bool.eq_false_iff.1 unmarked)
    have other : v ≠ u := fun same => apart (.inl same)
    rw [Draft.access, insertUser_users, SortedMap.get?_insert_ne d.users new other] at known
    exact h.users v user known (Bool.eq_false_iff.2 fun marked => apart (.inr marked))
  | removeUser u =>
    refine ⟨h.system, fun v user known unmarked => ?_⟩
    by_cases same : v = u
    · subst v
      rw [Draft.access, removeUser_users, SortedMap.get?_erase_self] at known
      cases known
    · rw [Draft.access, removeUser_users, SortedMap.get?_erase_ne d.users same] at known
      exact h.users v user known unmarked

end Draft

structure Memory where
  system : Nat → SystemState
  user : Nat → UserState

namespace Memory

def AgreeBelow (bound : Nat) (m m' : Memory) : Prop :=
  ∀ t < bound, m'.system t = m.system t ∧ m'.user t = m.user t

theorem AgreeBelow.refl (bound : Nat) (m : Memory) : AgreeBelow bound m m := fun _ _ => ⟨rfl, rfl⟩

theorem AgreeBelow.trans {bound bound' : Nat} {a b c : Memory} (h : AgreeBelow bound a b)
    (h' : AgreeBelow bound' b c) (le : bound ≤ bound') : AgreeBelow bound a c := by
  intro t used
  have later := h' t (by omega)
  exact ⟨later.1.trans (h t used).1, later.2.trans (h t used).2⟩

def putSystem (m : Memory) (place : Nat) (system : SystemState) : Memory :=
  { m with system := fun t => if t = place then system else m.system t }

def putUser (m : Memory) (place : Nat) (user : UserState) : Memory :=
  { m with user := fun t => if t = place then user else m.user t }

theorem putSystem_agreeBelow (m : Memory) (bound : Nat) (system : SystemState) :
    AgreeBelow bound m (m.putSystem bound system) :=
  fun _ used => ⟨if_neg (Nat.ne_of_lt used), rfl⟩

theorem putUser_agreeBelow (m : Memory) (bound : Nat) (user : UserState) :
    AgreeBelow bound m (m.putUser bound user) :=
  fun _ used => ⟨rfl, if_neg (Nat.ne_of_lt used)⟩

end Memory

open Memory

/-- A user's part lies at the token it has, one of those below a bound. -/
def UserLiesIn (m : Memory) (bound : Nat) (tokens : SortedMap UserId Nat) (u : UserId) (user : UserState) : Prop :=
  ∃ t < bound, tokens.get? u = some t ∧ m.user t = user

theorem UserLiesIn.mono {m m' : Memory} {bound bound' : Nat} {tokens : SortedMap UserId Nat} {u : UserId}
    {user : UserState} (h : UserLiesIn m bound tokens u user) (le : bound ≤ bound') (same : AgreeBelow bound m m') :
    UserLiesIn m' bound' tokens u user := by
  obtain ⟨t, used, token, holds⟩ := h
  exact ⟨t, Nat.lt_of_lt_of_le used le, token, (same t used).2.trans holds⟩

namespace Version

/-- Every part of a version is what lies at its token, one of those below a bound. -/
structure LiesIn (m : Memory) (bound : Nat) (v : Version) : Prop where
  used : v.systemToken < bound
  system : m.system v.systemToken = v.state.system
  users : ∀ u user, v.state.users.get? u = some user → UserLiesIn m bound v.userTokens u user

theorem LiesIn.mono {m m' : Memory} {bound bound' : Nat} {v : Version} (h : v.LiesIn m bound) (le : bound ≤ bound')
    (same : AgreeBelow bound m m') : v.LiesIn m' bound' := by
  have used := h.used
  have system := (same v.systemToken h.used).1.trans h.system
  exact ⟨by omega, system, fun u user known => (h.users u user known).mono le same⟩

variable {m : Memory} {bound bound' : Nat} {a b : Version}

theorem sharesSystem_eq (ha : a.LiesIn m bound) (hb : b.LiesIn m bound') (shared : a.sharesSystem b) :
    a.state.system = b.state.system := by
  have same : a.systemToken = b.systemToken := of_decide_eq_true shared
  rw [← ha.system, ← hb.system, same]

theorem sharesUser_iff (a b : Version) (u : UserId) : a.sharesUser b u ↔
    a.state.users.contains u ∧ b.state.users.contains u ∧ a.userTokens.get? u = b.userTokens.get? u := by
  unfold sharesUser
  rw [SortedMap.contains_eq_isSome, SortedMap.contains_eq_isSome]
  cases a.state.users.get? u <;> cases b.state.users.get? u <;> simp

theorem sharesUser_eq {u : UserId} (ha : a.LiesIn m bound) (hb : b.LiesIn m bound') (shared : a.sharesUser b u) :
    ∃ user, a.state.users.get? u = some user ∧ b.state.users.get? u = some user := by
  obtain ⟨known, known', tokens⟩ := (sharesUser_iff a b u).1 shared
  obtain ⟨x, hx⟩ := (SortedMap.contains_iff _ _).1 known
  obtain ⟨y, hy⟩ := (SortedMap.contains_iff _ _).1 known'
  obtain ⟨t, -, token, holds⟩ := ha.users u x hx
  obtain ⟨t', -, token', holds'⟩ := hb.users u y hy
  rw [token, token', Option.some.injEq] at tokens
  have same : x = y := by rw [← holds, ← holds', tokens]
  exact ⟨x, hx, same ▸ hy⟩

theorem stamp_get?_of_not_mem {u : UserId} {stamped : List UserId} (h : u ∉ stamped) (tokens : SortedMap UserId Nat)
    (bound : Nat) : (stamp stamped tokens bound).1.get? u = tokens.get? u := by
  induction stamped generalizing tokens bound with
  | nil => rfl
  | cons v later ih =>
    rw [List.mem_cons, not_or] at h
    exact (ih h.2 (tokens.insert v bound) (bound + 1)).trans (SortedMap.get?_insert_ne tokens bound h.1)

theorem exists_stamp_get? {u : UserId} {stamped : List UserId} (h : u ∈ stamped) (tokens : SortedMap UserId Nat)
    (bound : Nat) : ∃ t, bound ≤ t ∧ (stamp stamped tokens bound).1.get? u = some t := by
  induction stamped generalizing tokens bound with
  | nil => cases h
  | cons v later ih =>
    by_cases again : u ∈ later
    · obtain ⟨t, le, token⟩ := ih again (tokens.insert v bound) (bound + 1)
      exact ⟨t, by omega, token⟩
    · obtain rfl := (List.mem_cons.1 h).resolve_right again
      refine ⟨bound, Nat.le_refl bound, ?_⟩
      exact (stamp_get?_of_not_mem again _ (bound + 1)).trans (SortedMap.get?_insert_self tokens u bound)

section Accept

variable {v : Version} {unused : Nat}

/-- A version that takes over a draft shares with the one it was begun at what the draft has not marked. -/
theorem accept_sharesSystem_iff (used : v.systemToken < unused) (d : Draft) :
    (v.accept unused d).1.sharesSystem v ↔ d.systemCopied = false := by
  unfold sharesSystem accept
  cases d.systemCopied with
  | true => simp [Nat.ne_of_gt used]
  | false => simp

theorem accept_sharesUser_iff (used : ∀ u t, v.userTokens.get? u = some t → t < unused) (d : Draft) (u : UserId) :
    (v.accept unused d).1.sharesUser v u ↔
      d.users.contains u ∧ v.state.users.contains u ∧ d.copiedUsers.contains u = false := by
  rw [sharesUser_iff]
  refine and_congr_right fun _ => and_congr_right fun _ => ?_
  have next : unused ≤ if d.systemCopied then unused + 1 else unused := by
    split <;> omega
  show (stamp d.copiedUsers.toList v.userTokens _).1.get? u = _ ↔ _
  cases marked : d.copiedUsers.contains u with
  | true =>
    obtain ⟨t, le, token⟩ := exists_stamp_get? ((SortedMap.mem_keys_iff _ u).2 marked) v.userTokens
      (if d.systemCopied then unused + 1 else unused)
    rw [token]
    refine iff_of_false (fun same => ?_) (by simp)
    have below := used u t same.symm
    omega
  | false =>
    have unstamped : u ∉ d.copiedUsers.toList := fun mem => by simp [(SortedMap.mem_keys_iff _ u).1 mem] at marked
    exact iff_of_true (stamp_get?_of_not_mem unstamped _ _) rfl

end Accept

theorem stamp_liesIn (all : SortedMap UserId UserState) (stamped : List UserId) (tokens : SortedMap UserId Nat)
    (bound : Nat) (m : Memory)
    (rest : ∀ u user, all.get? u = some user → u ∉ stamped → UserLiesIn m bound tokens u user) :
    bound ≤ (stamp stamped tokens bound).2 ∧ ∃ m', AgreeBelow bound m m' ∧
      ∀ u user, all.get? u = some user →
        UserLiesIn m' (stamp stamped tokens bound).2 (stamp stamped tokens bound).1 u user := by
  -- A user that has been stamped lies at its new token from then on: the next ones get places that are still unused.
  induction stamped generalizing tokens bound m with
  | nil => exact ⟨Nat.le_refl _, m, .refl bound m, fun u user known => rest u user known List.not_mem_nil⟩
  | cons u later ih =>
    have put := m.putUser_agreeBelow bound ((all.get? u).getD {})
    have now : ∀ v user, all.get? v = some user → v ∉ later →
        UserLiesIn (m.putUser bound ((all.get? u).getD {})) (bound + 1) (tokens.insert u bound) v user := by
      intro v user known unstamped
      by_cases same : v = u
      · subst v
        have placed : (m.putUser bound ((all.get? u).getD {})).user bound = user := by simp [putUser, known]
        exact ⟨bound, by omega, SortedMap.get?_insert_self _ _ _, placed⟩
      · have before := rest v user known fun mem => (List.mem_cons.1 mem).elim same unstamped
        obtain ⟨t, used, token, holds⟩ := before.mono (Nat.le_succ bound) put
        exact ⟨t, used, (SortedMap.get?_insert_ne tokens bound same).trans token, holds⟩
    obtain ⟨grown, m', same, placed⟩ := ih (tokens.insert u bound) (bound + 1) _ now
    exact ⟨Nat.le_of_succ_le grown, m', put.trans same (Nat.le_succ bound), placed⟩

theorem LiesIn.place_system {v : Version} {d : Draft} (h : v.LiesIn m bound) (owns : d.Owns v.state) :
    let next := if d.systemCopied then bound + 1 else bound
    let token := if d.systemCopied then bound else v.systemToken
    bound ≤ next ∧ token < next ∧ ∃ m', AgreeBelow bound m m' ∧ m'.system token = d.system := by
  cases marked : d.systemCopied with
  | true =>
    have put := m.putSystem_agreeBelow bound d.system
    exact ⟨Nat.le_succ bound, Nat.lt_succ_self bound, m.putSystem bound d.system, put, if_pos rfl⟩
  | false => exact ⟨Nat.le_refl bound, h.used, m, .refl bound m, h.system.trans (owns.system marked).symm⟩

theorem LiesIn.accept {v : Version} {d : Draft} (h : v.LiesIn m bound) (owns : d.Owns v.state) :
    bound ≤ (v.accept bound d).2 ∧
      ∃ m', AgreeBelow bound m m' ∧ (v.accept bound d).1.LiesIn m' (v.accept bound d).2 := by
  obtain ⟨grown, used, m₁, same, placed⟩ := h.place_system owns
  have rest : ∀ u user, d.users.get? u = some user → u ∉ d.copiedUsers.toList →
      UserLiesIn m₁ (if d.systemCopied then bound + 1 else bound) v.userTokens u user := by
    intro u user known unmarked
    have before := owns.users u user known (Bool.eq_false_iff.2 (mt (SortedMap.mem_keys_iff _ _).2 unmarked))
    exact (h.users u user before).mono grown same
  obtain ⟨grown', m₂, same', users⟩ := stamp_liesIn d.users d.copiedUsers.toList v.userTokens _ m₁ rest
  exact ⟨Nat.le_trans grown grown', m₂, same.trans same' grown, Nat.lt_of_lt_of_le used grown',
    (same' _ used).1.trans placed, users⟩

end Version

namespace VersionPool

/-- Every member of a pool lies in a memory, at places the pool has used. -/
def StoredIn (m : Memory) (p : VersionPool) : Prop := ∀ v ∈ p.members, v.LiesIn m p.unused

theorem empty_storedIn : StoredIn ⟨fun _ => {}, fun _ => {}⟩ {} := by
  intro v mem
  obtain rfl := List.mem_singleton.1 mem
  exact ⟨Nat.zero_lt_one, rfl, fun u user known => nomatch known⟩

variable {m : Memory} {p : VersionPool}

theorem StoredIn.create (h : p.StoredIn m) : ∃ m', AgreeBelow p.unused m m' ∧ p.create.StoredIn m' := by
  have same := m.putSystem_agreeBelow p.unused {}
  refine ⟨m.putSystem p.unused {}, same, fun v mem => ?_⟩
  rcases List.mem_append.1 mem with old | new
  · exact (h v old).mono (Nat.le_succ p.unused) same
  · obtain rfl := List.mem_singleton.1 new
    exact ⟨Nat.lt_succ_self p.unused, if_pos rfl, fun u user known => nomatch known⟩

theorem StoredIn.derive (h : p.StoredIn m) (i : Nat) {f : Version → Version}
    (same : ∀ v, v.LiesIn m p.unused → (f v).LiesIn m p.unused) : (p.derive i f).StoredIn m := by
  unfold VersionPool.derive
  cases source : p.members[i]? with
  | none => exact h
  | some v =>
    intro w mem
    rcases List.mem_append.1 mem with old | new
    · exact h w old
    · obtain rfl := List.mem_singleton.1 new
      exact same v (h v (List.mem_of_getElem? source))

theorem StoredIn.write (h : p.StoredIn m) (i : Nat) {f : Draft → Draft}
    (owns : ∀ s : AccessState, (f (.of s)).Owns s) :
    ∃ m', AgreeBelow p.unused m m' ∧ (p.write i f).StoredIn m' := by
  unfold VersionPool.write
  cases source : p.members[i]? with
  | none => exact ⟨m, .refl _ m, h⟩
  | some v =>
    obtain ⟨grown, m', same, lies⟩ := (h v (List.mem_of_getElem? source)).accept (owns v.state)
    refine ⟨m', same, fun w mem => ?_⟩
    rcases List.mem_or_eq_of_mem_set mem with old | rfl
    · exact (h w old).mono grown same
    · exact lies

theorem create_get? (p : VersionPool) {i : Nat} {v : Version} (h : p.get? i = some v) : p.create.get? i = some v := by
  obtain ⟨lt, -⟩ := List.getElem?_eq_some_iff.1 h
  exact (List.getElem?_append_left lt).trans h

theorem derive_get? (p : VersionPool) (j : Nat) (f : Version → Version) {i : Nat} {v : Version}
    (h : p.get? i = some v) : (p.derive j f).get? i = some v := by
  obtain ⟨lt, -⟩ := List.getElem?_eq_some_iff.1 h
  unfold derive
  split
  · exact (List.getElem?_append_left lt).trans h
  · exact h

theorem write_get?_ne (p : VersionPool) {i j : Nat} (f : Draft → Draft) (h : j ≠ i) :
    (p.write j f).get? i = p.get? i := by
  unfold write
  split
  · exact List.getElem?_set_ne h
  · rfl

end VersionPool
end Gatekeeper
