import Gatekeeper.Ident

set_option autoImplicit false

namespace Gatekeeper
namespace Word

variable (a b c : UInt32)

/-- An operation that wraps around, refused where its exact result would. -/
theorem checked_eq_some_iff {result : Nat} {wrapped : UInt32} (h : wrapped.toNat = result % UInt32.size) :
    (if result ≥ UInt32.size then none else some wrapped) = some c ↔ c.toNat = result := by
  by_cases fits : result < UInt32.size
  · rw [if_neg (Nat.not_le.2 fits), Option.some.injEq, ← UInt32.toNat_inj, h, Nat.mod_eq_of_lt fits, eq_comm]
  · rw [if_pos (Nat.not_lt.1 fits)]
    refine iff_of_false (by simp) fun same => fits ?_
    rw [← same]
    exact c.toNat_lt

theorem mul?_eq_some_iff : mul? a b = some c ↔ c.toNat = a.toNat * b.toNat := by
  rw [← checked_eq_some_iff c (UInt32.toNat_mul a b)]
  simp [mul?, BitVec.umulOverflow]

theorem add?_eq_some_iff : add? a b = some c ↔ c.toNat = a.toNat + b.toNat := by
  rw [← checked_eq_some_iff c (UInt32.toNat_add a b)]
  simp [add?, BitVec.uaddOverflow]

/-- When the product alone does not fit, no sum with it does. -/
theorem mul?_bind_add?_eq_some_iff (d : UInt32) :
    ((mul? a b).bind fun product => add? product c) = some d ↔ d.toNat = a.toNat * b.toNat + c.toNat := by
  simp only [Option.bind_eq_some_iff, mul?_eq_some_iff, add?_eq_some_iff]
  constructor
  · intro steps
    obtain ⟨product, multiplied, added⟩ := steps
    rw [added, multiplied]
  · intro sum
    have fits : a.toNat * b.toNat < UInt32.size :=
      Nat.lt_of_le_of_lt (Nat.le_add_right _ c.toNat) (sum ▸ d.toNat_lt)
    have product : (UInt32.ofNat (a.toNat * b.toNat)).toNat = a.toNat * b.toNat := UInt32.toNat_ofNat_of_lt' fits
    exact ⟨_, product, by rw [sum, product]⟩

end Word

namespace Uid

variable (user : UserId) (app : AppId) (uid : Uid)

theorem pack?_eq_some_iff_value : pack? user app = some uid ↔
    app.isValid ∧ uid.value.toNat = user.value.toNat * appsPerUser + app.value.toNat := by
  unfold pack?
  by_cases valid : app.isValid
  · rw [if_pos valid]
    have steps := Word.mul?_bind_add?_eq_some_iff user.value (.ofNat appsPerUser) app.value uid.value
    rw [show (UInt32.ofNat appsPerUser).toNat = appsPerUser by decide] at steps
    rw [← steps]
    cases uid
    simp [valid, Option.bind_eq_some_iff]
  · simp [valid]

theorem user_eq_iff : uid.user = user ↔ uid.value.toNat / appsPerUser = user.value.toNat := by
  rw [← user_value, UInt32.toNat_inj]
  exact ⟨congrArg UserId.value, congrArg UserId.mk⟩

theorem app_eq_iff : uid.app = app ↔ uid.value.toNat % appsPerUser = app.value.toNat := by
  rw [← app_value, UInt32.toNat_inj]
  exact ⟨congrArg AppId.value, congrArg AppId.mk⟩

theorem pack?_eq_some_iff : pack? user app = some uid ↔ uid.user = user ∧ uid.app = app := by
  rw [pack?_eq_some_iff_value, user_eq_iff, app_eq_iff, Nat.div_mod_unique (by decide), AppId.isValid,
    decide_eq_true_eq, Nat.mul_comm, Nat.add_comm, and_comm, eq_comm]

theorem ext_parts {a b : Uid} (user : a.user = b.user) (app : a.app = b.app) : a = b := by
  have whole : pack? b.user b.app = some a := (pack?_eq_some_iff _ _ a).2 ⟨user, app⟩
  rw [(pack?_eq_some_iff _ _ b).2 ⟨rfl, rfl⟩] at whole
  exact (Option.some.inj whole).symm

theorem exists_pack?_iff : (∃ uid, pack? user app = some uid) ↔
    app.isValid ∧ user.value.toNat * appsPerUser + app.value.toNat < UInt32.size := by
  simp only [pack?_eq_some_iff_value]
  constructor
  · intro packed
    obtain ⟨uid, valid, value⟩ := packed
    exact ⟨valid, value ▸ uid.value.toNat_lt⟩
  · intro fits
    exact ⟨⟨UInt32.ofNat _⟩, fits.1, UInt32.toNat_ofNat_of_lt' fits.2⟩

/-- A user and an application pack into a uid exactly if the application identifier is below 100000 and the uid, reckoned
    without wrapping, takes no more than 32 bits. That uid is the number reckoned, and division takes it apart into the
    two again, so that no other two pack into it. And every 32-bit value is what its parts pack into. -/
theorem pack?_exact :
    (∀ user app, (∃ uid, pack? user app = some uid) ↔
      app.value.toNat < 100000 ∧ user.value.toNat * 100000 + app.value.toNat < 4294967296) ∧
    (∀ user app uid, pack? user app = some uid →
      uid.value.toNat = user.value.toNat * 100000 + app.value.toNat ∧ uid.user = user ∧ uid.app = app ∧
      ∀ user' app', pack? user' app' = some uid → user' = user ∧ app' = app) ∧
    ∀ uid : Uid, pack? uid.user uid.app = some uid ∧ uid.app.isValid ∧ uid.app.value.toNat < 100000 := by
  refine ⟨fun user app => ?_, fun user app uid packed => ?_, fun uid => ?_⟩
  · rw [exists_pack?_iff, AppId.isValid, decide_eq_true_eq]
    rfl
  · obtain ⟨rfl, rfl⟩ := (pack?_eq_some_iff user app uid).1 packed
    refine ⟨((pack?_eq_some_iff_value _ _ uid).1 packed).2, rfl, rfl, fun user' app' packed' => ?_⟩
    obtain ⟨rfl, rfl⟩ := (pack?_eq_some_iff user' app' uid).1 packed'
    exact ⟨rfl, rfl⟩
  · have packed : pack? uid.user uid.app = some uid := (pack?_eq_some_iff _ _ uid).2 ⟨rfl, rfl⟩
    have valid := ((pack?_eq_some_iff_value _ _ uid).1 packed).1
    exact ⟨packed, valid, of_decide_eq_true valid⟩

/-- The last user has no more than 67296 applications; and what would wrap around to the uid of an application of the
    first user is refused. -/
theorem pack?_exact_last :
    pack? ⟨42949⟩ ⟨67295⟩ = some ⟨4294967295⟩ ∧ (⟨4294967295⟩ : Uid).user = ⟨42949⟩ ∧
      (⟨4294967295⟩ : Uid).app = ⟨67295⟩ ∧ pack? ⟨42949⟩ ⟨67296⟩ = none ∧ pack? ⟨0⟩ ⟨0⟩ = some ⟨0⟩ := by
  have last : pack? ⟨42949⟩ ⟨67295⟩ = some ⟨4294967295⟩ := by decide
  obtain ⟨bound, parts, -⟩ := pack?_exact
  obtain ⟨-, user, app, -⟩ := parts _ _ _ last
  refine ⟨last, user, app, ?_, by decide⟩
  cases beyond : pack? ⟨42949⟩ ⟨67296⟩ with
  | none => rfl
  | some uid => exact absurd ((bound _ _).1 ⟨uid, beyond⟩) (by decide)

end Uid
end Gatekeeper
