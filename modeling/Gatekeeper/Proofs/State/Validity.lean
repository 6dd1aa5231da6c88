import Gatekeeper.Proofs.State.Records

set_option autoImplicit false

namespace Gatekeeper

/-- What a breach says about a state. -/
def Breach.Of (s : AccessState) : Breach → Prop
  | noPackages app => ∃ names, s.system.appIds.get? app = some names ∧ names.isEmpty
  | otherOwner name listed owned =>
    SetMap.holds s.system.appIds listed name ∧
      ∃ p, s.system.packages.get? name = some p ∧ p.appId = owned ∧ owned ≠ listed
  | unknownPackage app name =>
    SetMap.holds s.system.appIds app name ∧ s.system.packages.get? name = none
  | unlisted name app =>
    SetMap.holds s.system.appIds app name = false ∧ ∃ p, s.system.packages.get? name = some p ∧ p.appId = app
  | users known stored => known = s.system.userIds.toList ∧ stored = s.users.keys ∧ stored ≠ known

namespace AccessState

variable {s : AccessState} {b : Breach}

theorem listingBreach?_of {app : AppId} {name : PackageName} (listed : SetMap.holds s.system.appIds app name)
    (h : s.system.listingBreach? app name = some b) : b.Of s := by
  unfold SystemState.listingBreach? at h
  split at h
  · next p installed =>
    split at h
    · cases h
    · next other =>
      cases h
      exact ⟨listed, p, installed, rfl, other⟩
  · next unknown =>
    cases h
    exact ⟨listed, unknown⟩

theorem appIdBreach?_of {app : AppId} {names : SortedSet PackageName} (there : s.system.appIds.get? app = some names)
    (h : s.system.appIdBreach? app names = some b) : b.Of s := by
  unfold SystemState.appIdBreach? at h
  split at h
  · next nothing =>
    cases h
    exact ⟨names, there, nothing⟩
  · obtain ⟨name, mem, found⟩ := List.exists_of_findSome?_eq_some h
    exact listingBreach?_of ((SetMap.holds_iff _ _ _).2 ⟨names, there, (names.mem_keys_iff name).1 mem⟩) found

theorem packageBreach?_of {name : PackageName} {p : Package} (installed : s.system.packages.get? name = some p)
    (h : s.system.packageBreach? name p = some b) : b.Of s := by
  unfold SystemState.packageBreach? at h
  split at h
  · cases h
  · next unlisted =>
    cases h
    exact ⟨Bool.eq_false_iff.2 unlisted, p, installed, rfl⟩

theorem breach?_of (h : s.breach? = some b) : b.Of s := by
  unfold breach? at h
  simp only [Option.orElse_eq_orElse, Option.orElse_eq_or, Option.or_eq_some_iff] at h
  obtain listing | ⟨-, package | ⟨-, users⟩⟩ := h
  · obtain ⟨app, names, there, found⟩ := SortedMap.exists_of_findSome?_entries listing
    exact appIdBreach?_of there found
  · obtain ⟨name, p, installed, found⟩ := SortedMap.exists_of_findSome?_entries package
    exact packageBreach?_of installed found
  · split at users
    · cases users
    · next other =>
      cases users
      exact ⟨rfl, rfl, other⟩

theorem validate_eq_error_iff (s : AccessState) (e : Error) :
    s.validate = .error e ↔ ∃ b, s.breach? = some b ∧ e = .invariantViolation b.detail := by
  unfold validate
  cases s.breach? <;> simp [Breach.error, eq_comm]

end AccessState

namespace SystemState.Indexed

variable {s s' : SystemState}

theorem holds_unique (h : s.Indexed) {app app' : AppId} {name : PackageName} (listed : SetMap.holds s.appIds app name)
    (listed' : SetMap.holds s.appIds app' name) : app = app' := by
  obtain ⟨p, installed, rfl⟩ := (h.listed app name).1 listed
  obtain ⟨p', installed', rfl⟩ := (h.listed app' name).1 listed'
  rw [installed, Option.some.injEq] at installed'
  rw [installed']

theorem appIds_eq (h : s.Indexed) (h' : s'.Indexed) (same : s.packages = s'.packages) : s.appIds = s'.appIds := by
  refine h.noneEmpty.ext h'.noneEmpty fun app name => ?_
  rw [h.listed, h'.listed, same]

end SystemState.Indexed

/-- Validation accepts a state exactly if no application identifier lists nothing, each lists exactly the installed
    packages that hold it, and decisions are kept for the known users and no others. Of any other state it reports a
    breach the state has. Valid states with the same packages have the same index, in which no package is listed under
    two application identifiers. -/
theorem AccessState.validate_decides (s : AccessState) :
    (s.validate = .ok () ↔
      (∀ app names, s.system.appIds.get? app = some names → ∃ name, names.contains name) ∧
      (∀ app name, (∃ names, s.system.appIds.get? app = some names ∧ names.contains name) ↔
        ∃ p, s.system.packages.get? name = some p ∧ p.appId = app) ∧
      s.users.keys = s.system.userIds.toList) ∧
    (s.validate ≠ .ok () → ∃ b : Breach, b.Of s ∧ s.validate = .error (.invariantViolation b.detail)) ∧
    (s.validate = .ok () →
      (∀ app app' names names' name, s.system.appIds.get? app = some names → s.system.appIds.get? app' = some names' →
        names.contains name → names'.contains name → app = app') ∧
      ∀ s' : AccessState,
        s'.validate = .ok () → s'.system.packages = s.system.packages → s'.system.appIds = s.system.appIds) := by
  refine ⟨?_, fun invalid => ?_, fun valid => ?_⟩
  · rw [validate_eq_ok_iff, SortedMap.toList, SortedMap.keys_eq_iff]
    simp only [← SetMap.holds_iff, ← SortedMap.isEmpty_eq_false_iff]
    constructor
    · intro h
      exact ⟨h.1.noneEmpty, h.1.listed, h.2⟩
    · intro h
      exact ⟨⟨h.2.1, h.1⟩, h.2.2⟩
  · cases result : s.validate with
    | ok => exact absurd result invalid
    | error e =>
      obtain ⟨b, found, rfl⟩ := (s.validate_eq_error_iff e).1 result
      exact ⟨b, breach?_of found, rfl⟩
  · obtain ⟨indexed, -⟩ := s.validate_eq_ok_iff.1 valid
    refine ⟨fun app app' names names' name there there' mem mem' => ?_, fun s' valid' same => ?_⟩
    · exact indexed.holds_unique ((SetMap.holds_iff _ _ _).2 ⟨names, there, mem⟩)
        ((SetMap.holds_iff _ _ _).2 ⟨names', there', mem'⟩)
    · exact (s'.validate_eq_ok_iff.1 valid').1.appIds_eq indexed same

/-- Two packages share an application identifier, and the order they came in is not to be seen. One that is listed
    under a second identifier is found out. -/
theorem AccessState.validate_decides_shared :
    let camera : PackageName := ⟨"camera"⟩
    let gallery : PackageName := ⟨"gallery"⟩
    let packages := (SortedMap.insert ∅ camera ⟨camera, ⟨10⟩, []⟩).insert gallery ⟨gallery, ⟨10⟩, []⟩
    let s : AccessState := { system := { packages, appIds := SetMap.relate (SetMap.relate ∅ ⟨10⟩ camera) ⟨10⟩ gallery } }
    let s' : AccessState := { version := 7, system :=
      { packages, appIds := SetMap.relate (SetMap.relate ∅ ⟨10⟩ gallery) ⟨10⟩ camera } }
    let twice : AccessState := { system := { packages, appIds := SetMap.relate s.system.appIds ⟨11⟩ camera } }
    let names := (SortedMap.add ∅ camera).add gallery
    s.validate = .ok () ∧ s'.validate = .ok () ∧ s'.system.packages = s.system.packages ∧
      s.system.appIds.get? ⟨10⟩ = some names ∧ names.contains camera ∧ (⟨10⟩ : AppId) = ⟨10⟩ ∧
      s'.system.appIds = s.system.appIds ∧ twice.validate ≠ .ok () ∧
      ∃ b : Breach, b.Of twice ∧ twice.validate = .error (.invariantViolation b.detail) := by
  intro camera gallery packages s s' twice names
  have valid : s.validate = .ok () := s.validate_eq_ok_iff_breach?.2 (by decide)
  have valid' : s'.validate = .ok () := s'.validate_eq_ok_iff_breach?.2 (by decide)
  have invalid : twice.validate ≠ .ok () := mt twice.validate_eq_ok_iff_breach?.1 (by decide)
  have listed : s.system.appIds.get? ⟨10⟩ = some names := by decide
  have mem : names.contains camera := by decide
  obtain ⟨unique, same⟩ := (validate_decides s).2.2 valid
  exact ⟨valid, valid', rfl, listed, mem, unique ⟨10⟩ ⟨10⟩ names names camera listed listed mem mem,
    same s' valid' rfl, invalid, (validate_decides twice).2.1 invalid⟩

end Gatekeeper
