import Gatekeeper.State.Validity
import Gatekeeper.Proofs.SetMap

set_option autoImplicit false

namespace Gatekeeper
namespace SystemState

/-- The names of the installed packages that hold an application identifier, as the packages themselves tell. -/
def holders (s : SystemState) (app : AppId) : List PackageName :=
  (s.packages.entries.filter fun e => e.2.appId = app).map (·.1)

/-- The application identifiers list the packages that hold them, and none of them lists nothing. -/
structure Indexed (s : SystemState) : Prop where
  listed : ∀ app name, SetMap.holds s.appIds app name ↔ ∃ p, s.packages.get? name = some p ∧ p.appId = app
  noneEmpty : SetMap.NoneEmpty s.appIds

/-- Moreover packages stand under their own names, and hold application identifiers that fit into a uid. -/
structure Recorded (s : SystemState) : Prop extends Indexed s where
  named : ∀ name p, s.packages.get? name = some p → p.name = name
  valid : ∀ name p, s.packages.get? name = some p → p.appId.isValid

theorem mem_holders_iff (s : SystemState) (app : AppId) (name : PackageName) :
    name ∈ s.holders app ↔ ∃ p, s.packages.get? name = some p ∧ p.appId = app := by
  simp only [holders, List.mem_map, List.mem_filter, decide_eq_true_eq, SortedMap.get?_eq_some_iff]
  constructor
  · intro mem
    obtain ⟨e, ⟨he, happ⟩, rfl⟩ := mem
    exact ⟨e.2, he, happ⟩
  · intro owner
    obtain ⟨p, hp, happ⟩ := owner
    exact ⟨(name, p), ⟨hp, happ⟩, rfl⟩

theorem holders_nodup (s : SystemState) (app : AppId) : (s.holders app).Nodup :=
  s.packages.keys_nodup.sublist (List.filter_sublist.map _)

theorem holders_eq_singleton_iff (s : SystemState) (app : AppId) (name : PackageName) :
    s.holders app = [name] ↔ name ∈ s.holders app ∧ ∀ other ∈ s.holders app, other = name := by
  constructor
  · intro h
    simp [h]
  · intro alone
    obtain ⟨mem, only⟩ := alone
    have unique := s.holders_nodup app
    generalize s.holders app = names at *
    cases names with
    | nil => cases mem
    | cons first rest =>
      obtain rfl := only first List.mem_cons_self
      cases rest with
      | nil => rfl
      | cons second rest =>
        have same := only second (by simp)
        rw [List.nodup_cons, same] at unique
        exact absurd List.mem_cons_self unique.1

namespace Indexed

variable {s : SystemState}

theorem holds_iff (h : s.Indexed) (app : AppId) (name : PackageName) :
    SetMap.holds s.appIds app name ↔ name ∈ s.holders app := by
  rw [h.listed, mem_holders_iff]

theorem contains_iff (h : s.Indexed) (app : AppId) : s.appIds.contains app ↔ s.holders app ≠ [] := by
  rw [h.noneEmpty.contains_iff]
  simp only [h.holds_iff]
  exact ⟨fun ⟨_, mem⟩ => List.ne_nil_of_mem mem, List.exists_mem_of_ne_nil _⟩

theorem creates_iff (h : s.Indexed) (app : AppId) : SetMap.creates s.appIds app ↔ s.holders app = [] := by
  rw [h.noneEmpty.creates_iff, List.eq_nil_iff_forall_not_mem]
  exact forall_congr' fun name => not_congr (h.holds_iff app name)

theorem emptied_iff (h : s.Indexed) (app : AppId) (name : PackageName) :
    (SetMap.removal s.appIds app name).emptied ↔ s.holders app = [name] := by
  rw [h.noneEmpty.emptied_iff, holders_eq_singleton_iff]
  simp only [h.holds_iff]

end Indexed

theorem listingBreach?_eq_none_iff (s : SystemState) (app : AppId) (name : PackageName) :
    s.listingBreach? app name = none ↔ ∃ p, s.packages.get? name = some p ∧ p.appId = app := by
  unfold listingBreach?
  cases s.packages.get? name <;> simp

theorem appIdBreach?_eq_none_iff (s : SystemState) (app : AppId) (names : SortedSet PackageName) :
    s.appIdBreach? app names = none ↔ names.isEmpty = false ∧
      ∀ name, names.contains name → ∃ p, s.packages.get? name = some p ∧ p.appId = app := by
  unfold appIdBreach?
  simp only [← SortedMap.mem_keys_iff, ← listingBreach?_eq_none_iff]
  cases names.isEmpty <;> simp

theorem packageBreach?_eq_none_iff (s : SystemState) (name : PackageName) (p : Package) :
    s.packageBreach? name p = none ↔ SetMap.holds s.appIds p.appId name := by
  simp [packageBreach?]

theorem indexed_iff (s : SystemState) : s.Indexed ↔
    (∀ app names, s.appIds.get? app = some names → s.appIdBreach? app names = none) ∧
      ∀ name p, s.packages.get? name = some p → s.packageBreach? name p = none := by
  simp only [appIdBreach?_eq_none_iff, packageBreach?_eq_none_iff]
  constructor
  · intro h
    refine ⟨fun app names hn => ⟨h.noneEmpty app names hn, fun name mem => ?_⟩, fun name p hp => ?_⟩
    · exact (h.listed app name).1 ((SetMap.holds_iff _ _ _).2 ⟨names, hn, mem⟩)
    · exact (h.listed p.appId name).2 ⟨p, hp, rfl⟩
  · intro scans
    obtain ⟨apps, packages⟩ := scans
    refine ⟨fun app name => ⟨fun hold => ?_, ?_⟩, fun app names hn => (apps app names hn).1⟩
    · obtain ⟨names, hn, mem⟩ := (SetMap.holds_iff _ _ _).1 hold
      exact (apps app names hn).2 name mem
    · intro owner
      obtain ⟨p, hp, rfl⟩ := owner
      exact packages name p hp

end SystemState

namespace AccessState

theorem breach?_eq_none_iff (s : AccessState) : s.breach? = none ↔
    s.system.Indexed ∧ ∀ u, s.users.contains u = s.system.userIds.contains u := by
  unfold breach?
  simp only [Option.orElse_eq_orElse, Option.orElse_eq_or, Option.or_eq_none_iff,
    SortedMap.findSome?_entries_eq_none_iff, ← SortedMap.keys_eq_iff, ← and_assoc, ← SystemState.indexed_iff,
    SortedMap.toList]
  simp

theorem validate_eq_ok_iff_breach? (s : AccessState) : s.validate = .ok () ↔ s.breach? = none := by
  unfold validate
  cases s.breach? <;> simp

theorem validate_eq_ok_iff (s : AccessState) : s.validate = .ok () ↔
    s.system.Indexed ∧ ∀ u, s.users.contains u = s.system.userIds.contains u := by
  rw [validate_eq_ok_iff_breach?, breach?_eq_none_iff]

end AccessState
end Gatekeeper
