import Gatekeeper.Proofs.Policy.Builtin
import Gatekeeper.Proofs.State.Storage

set_option autoImplicit false

namespace Gatekeeper

inductive PoolStep where
  | create
  | next (i : Nat)
  | fork (i : Nat)
  | access (i : Nat) (a : Access)
  /-- The state given as the old one may be any; the member is written as the new one. -/
  | perform (i : Nat) (old : AccessState) (c : Command)

def PoolStep.written? : PoolStep → Option Nat
  | .create | .next _ | .fork _ => none
  | .access i _ | .perform i .. => some i

namespace VersionPool

def apply (p : VersionPool) : PoolStep → VersionPool
  | .create => p.create
  | .next i => p.next i
  | .fork i => p.fork i
  | .access i a => p.write i (·.access a)
  | .perform i old c => p.write i fun d => (Session.perform .builtin { old, draft := d } c).draft

def run (p : VersionPool) (steps : List PoolStep) : VersionPool := steps.foldl apply p

end VersionPool

theorem Session.perform_owns {s : Session} {begun : AccessState} (c : Command) (start : s.draft.Owns begun) :
    (s.perform .builtin c).draft.Owns begun :=
  perform_builtin_induct (Draft.Owns begun) (fun f _ h => h.access (.editSystem f))
    (fun u _ h => h.access (.insertUser u {})) (fun u _ h => h.access (.removeUser u))
    (fun t uid name decision _ h => h.access (.editUser uid.user (t.update (t.write uid.app name decision))))
    (fun t app _ h => h.access (.editUsers fun _ => t.update (SortedMap.erase · app))) c start

namespace VersionPool

open Memory

variable {m : Memory} {p : VersionPool}

theorem StoredIn.apply (h : p.StoredIn m) (step : PoolStep) :
    ∃ m', AgreeBelow p.unused m m' ∧ (p.apply step).StoredIn m' := by
  cases step with
  | create => exact h.create
  | next i => exact ⟨m, .refl _ m, h.derive i fun v lies => ⟨lies.used, lies.system, lies.users⟩⟩
  | fork i => exact ⟨m, .refl _ m, h.derive i fun _ lies => lies⟩
  | access i a => exact h.write i fun s => (Draft.of_owns s).access a
  | perform i old c => exact h.write i fun s => Session.perform_owns c (Draft.of_owns s)

theorem run_storedIn (h : p.StoredIn m) (steps : List PoolStep) : ∃ m', (p.run steps).StoredIn m' := by
  induction steps generalizing p m with
  | nil => exact ⟨m, h⟩
  | cons step rest ih =>
    obtain ⟨m', -, stored⟩ := h.apply step
    exact ih stored

theorem apply_get?_unwritten (p : VersionPool) (step : PoolStep) {i : Nat} {v : Version} (known : p.get? i = some v)
    (other : step.written? ≠ some i) : (p.apply step).get? i = some v := by
  cases step with
  | create => exact p.create_get? known
  | next j => exact p.derive_get? j Version.next known
  | fork j => exact p.derive_get? j id known
  | access j a => exact (p.write_get?_ne _ fun same => other (congrArg some same)).trans known
  | perform j old c => exact (p.write_get?_ne _ fun same => other (congrArg some same)).trans known

/-- At any moment in the life of a pool, members that share the system part have equal ones, and members that share the
    part of a user both know the user and have equal parts. A step leaves every member as it is but the one it writes
    to. This is so because all members lie in one memory to which a step adds, but where it changes nothing that lies
    at a token ever used. -/
theorem run_sharing (steps : List PoolStep) :
    let p := run {} steps
    (∀ a ∈ p.members, ∀ b ∈ p.members,
      (a.sharesSystem b → a.state.system = b.state.system) ∧
      ∀ u, a.sharesUser b u → ∃ user, a.state.users.get? u = some user ∧ b.state.users.get? u = some user) ∧
    (∀ step i v, p.get? i = some v → step.written? ≠ some i → (p.apply step).get? i = some v) ∧
    ∃ m, p.StoredIn m ∧ ∀ step, ∃ m', AgreeBelow p.unused m m' ∧ (p.apply step).StoredIn m' := by
  intro p
  obtain ⟨m, stored⟩ := run_storedIn empty_storedIn steps
  refine ⟨fun a ha b hb => ⟨fun shared => ?_, fun u shared => ?_⟩, ?_, m, stored, stored.apply⟩
  · exact Version.sharesSystem_eq (stored a ha) (stored b hb) shared
  · exact Version.sharesUser_eq (stored a ha) (stored b hb) shared
  · exact fun step i v known other => p.apply_get?_unwritten step known other

/-- A version with one more package shares its user, but not its system part, with the version before, which stays as
    it is when the user is then granted a permission. -/
theorem run_sharing_next :
    let camera : Package := ⟨⟨"camera"⟩, ⟨10⟩, []⟩
    let p := run {} [.perform 0 {} (.addUser ⟨7⟩), .next 0, .perform 1 {} (.addPackage camera)]
    let grant := PoolStep.perform 1 {} (.setDecision (.uid ⟨700010⟩) (.permission "CAMERA") .granted)
    let a := (p.get? 0).getD default
    let b := (p.get? 1).getD default
    a ∈ p.members ∧ b ∈ p.members ∧ a.sharesSystem b = false ∧ a.sharesUser b ⟨7⟩ = true ∧
      (∃ user, a.state.users.get? ⟨7⟩ = some user ∧ b.state.users.get? ⟨7⟩ = some user) ∧
      p.get? 0 = some a ∧ grant.written? ≠ some 0 ∧ (p.apply grant).get? 0 = some a ∧
      (p.apply grant).get? 1 ≠ some b := by
  intro camera p grant a b
  obtain ⟨shared, unwritten, -⟩ := run_sharing
    [.perform 0 {} (.addUser ⟨7⟩), .next 0, .perform 1 {} (.addPackage camera)]
  have ha : a ∈ p.members := by decide
  have hb : b ∈ p.members := by decide
  have user : a.sharesUser b ⟨7⟩ = true := by decide
  have known : p.get? 0 = some a := by decide
  have other : grant.written? ≠ some 0 := by decide
  exact ⟨ha, hb, by decide, user, (shared a ha b hb).2 ⟨7⟩ user, known, other, unwritten grant 0 a known other,
    by decide⟩

end VersionPool
end Gatekeeper
