import Gatekeeper.Report
import Gatekeeper.Proofs.Uid
import Gatekeeper.Proofs.Policy.Canonical
import Gatekeeper.Proofs.State.Validity
import Mathlib.Algebra.GroupWithZero.Nat
import Mathlib.Data.List.Nodup

set_option autoImplicit false

namespace Gatekeeper

/-- The property holds of that many values. -/
def ThatMany {α : Type} (n : Nat) (P : α → Prop) : Prop :=
  ∃ values : List α, values.Nodup ∧ (∀ a, a ∈ values ↔ P a) ∧ values.length = n

namespace ThatMany

variable {α β : Type} {n : Nat} {P Q : α → Prop}

theorem congr (h : ThatMany n P) (same : ∀ a, P a ↔ Q a) : ThatMany n Q := by
  obtain ⟨values, distinct, mem, count⟩ := h
  exact ⟨values, distinct, fun a => (mem a).trans (same a), count⟩

/-- Two properties hold of as many values each, if a partial map takes those of the one to those of the other, each to one
    of its own. -/
theorem transport {Q : β → Prop} (h : ThatMany n P) (f : α → Option β) (total : ∀ a, P a → (f a).isSome)
    (apart : ∀ a a' b, f a = some b → f a' = some b → a = a') (image : ∀ b, (∃ a, P a ∧ f a = some b) ↔ Q b) :
    ThatMany n Q := by
  obtain ⟨values, distinct, mem, rfl⟩ := h
  refine ⟨values.filterMap f, distinct.filterMap fun a a' b => apart a a' b, fun b => ?_, ?_⟩
  · simp only [List.mem_filterMap, mem, image]
  · exact List.filterMap_length_eq_length.2 fun a there => total a ((mem a).1 there)

end ThatMany

theorem Decision.isCustom_iff (d : Decision) : d.isCustom ↔ ∃ code, d = .custom code := by
  cases d <;> simp [isCustom]

namespace DecisionTable

theorem decisions_eq_cells (t : DecisionTable) : decisions t = t.cells.map (·.2) := t.cells_values.symm

theorem thatMany_stored (t : DecisionTable) (P : Decision → Bool) : ThatMany ((decisions t).countP P)
    fun place : AppId × String => ∃ d, find? t place.1 place.2 = some d ∧ P d := by
  refine ⟨(t.cells.filter fun cell => P cell.2).map (·.1), ?_, fun place => ?_, ?_⟩
  · exact t.cells_places_nodup.sublist (List.filter_sublist.map _)
  · simp [find?_eq_bind, ← SortedMap.mem_cells_iff]
  · rw [List.length_map, ← List.countP_eq_length_filter, decisions_eq_cells, List.countP_map]
    rfl

end DecisionTable

namespace UidTable

variable {t : UidTable} {s : AccessState} {u : UserId} {user : UserState}

theorem lookup_satisfies_iff {uid : Uid} (known : s.users.get? uid.user = some user) (name : String)
    {P : Decision → Bool} (unset : P t.unset = false) :
    P (t.lookup uid name s) ↔ ∃ d, DecisionTable.find? (t.of user) uid.app name = some d ∧ P d := by
  rw [lookup_eq, known, Option.map_some, Option.getD_some, decided]
  cases DecisionTable.find? (t.of user) uid.app name <;> simp [unset]

/-- There is one uid of the user to ask about each stored decision. -/
theorem thatMany_answered (known : s.users.get? u = some user) (canonical : (t.of user).Canonical t.unset u)
    {P : Decision → Bool} (unset : P t.unset = false) : ThatMany ((DecisionTable.decisions (t.of user)).countP P)
      fun place : Uid × String => place.1.user = u ∧ P (t.lookup place.1 place.2 s) := by
  have packed_iff (place : AppId × String) (there : Uid × String) :
      (Uid.pack? u place.1).map (·, place.2) = some there ↔
        there.1.user = u ∧ there.1.app = place.1 ∧ there.2 = place.2 := by
    simp only [Option.map_eq_some_iff, Uid.pack?_eq_some_iff]
    constructor
    · rintro ⟨uid, ⟨own, app⟩, rfl⟩
      exact ⟨own, app, rfl⟩
    · rintro ⟨own, app, name⟩
      exact ⟨there.1, ⟨own, app⟩, Prod.ext rfl name.symm⟩
  refine ((t.of user).thatMany_stored P).transport (fun place => (Uid.pack? u place.1).map (·, place.2)) ?_ ?_ ?_
  · intro place stored
    obtain ⟨d, found, -⟩ := stored
    obtain ⟨-, uid, own, app⟩ := canonical.stored _ _ d found
    exact Option.isSome_of_eq_some ((packed_iff place (uid, place.2)).2 ⟨own, app, rfl⟩)
  · intro place place' there packed packed'
    obtain ⟨-, app, name⟩ := (packed_iff place there).1 packed
    obtain ⟨-, app', name'⟩ := (packed_iff place' there).1 packed'
    exact Prod.ext (app.symm.trans app') (name.symm.trans name')
  · intro there
    constructor
    · rintro ⟨⟨app, name⟩, stored, packed⟩
      obtain ⟨rfl, rfl, rfl⟩ := (packed_iff _ there).1 packed
      exact ⟨rfl, (lookup_satisfies_iff known there.2 unset).2 stored⟩
    · rintro ⟨rfl, answered⟩
      exact ⟨(there.1.app, there.2), (lookup_satisfies_iff known there.2 unset).1 answered,
        (packed_iff _ there).2 ⟨rfl, rfl, rfl⟩⟩

theorem countP_ne_unset (canonical : (t.of user).Canonical t.unset u) :
    (DecisionTable.decisions (t.of user)).countP (· ≠ t.unset) = (DecisionTable.decisions (t.of user)).length := by
  rw [List.countP_eq_length, DecisionTable.decisions_eq_cells]
  intro d mem
  obtain ⟨⟨⟨app, name⟩, _⟩, cell, rfl⟩ := List.mem_map.1 mem
  rw [SortedMap.mem_cells_iff, ← DecisionTable.find?_eq_bind] at cell
  exact decide_eq_true (canonical.stored app name _ cell).1

end UidTable

theorem SortedMap.cells_length {κ ν α : Type} [Ord κ] [Ord ν] (m : SortedMap κ (SortedMap ν α)) :
    m.cells.length = (m.values.map size).sum := by
  simp [cells, List.length_flatMap, values, size, Function.comp_def]

namespace SystemState

variable {s : SystemState}

theorem Indexed.packages_size (h : s.Indexed) : s.packages.size = (s.appIds.values.map SortedMap.size).sum := by
  let place (e : PackageName × Package) : AppId × PackageName := (e.2.appId, e.1)
  have names : (s.packages.entries.map place).map (·.2) = s.packages.keys := by simp [place, SortedMap.keys]
  have once : (s.packages.entries.map place).Nodup := List.Nodup.of_map (·.2) (names ▸ s.packages.keys_nodup)
  have listed : (s.packages.entries.map place).Perm (s.appIds.cells.map (·.1)) := by
    refine (List.perm_ext_iff_of_nodup once s.appIds.cells_places_nodup).2 fun there => ?_
    rw [SetMap.mem_places_iff, h.listed]
    simp only [List.mem_map, Prod.exists, ← SortedMap.get?_eq_some_iff, place]
    constructor
    · rintro ⟨name, p, installed, rfl⟩
      exact ⟨p, installed, rfl⟩
    · rintro ⟨p, installed, app⟩
      exact ⟨there.2, p, installed, Prod.ext app rfl⟩
  rw [← SortedMap.cells_length, SortedMap.size, ← List.length_map place, listed.length_eq, List.length_map]

def RunsUnder (s : SystemState) (name : PackageName) (app : AppId) : Prop :=
  ∃ p, s.packages.get? name = some p ∧ p.appId = app

/-- The application identifiers that several packages run under, ascending, and with each the names of these packages,
    ascending too. -/
structure Shared (s : SystemState) (shared : List SharedAppId) : Prop where
  ascending : (shared.map SharedAppId.app).Pairwise (·.value < ·.value)
  several : ∀ app, app ∈ shared.map SharedAppId.app ↔
    ∃ name name', name ≠ name' ∧ s.RunsUnder name app ∧ s.RunsUnder name' app
  packagesAscending : ∀ x ∈ shared, x.packages.Pairwise (·.value < ·.value)
  packages : ∀ x ∈ shared, ∀ name, name ∈ x.packages ↔ s.RunsUnder name x.app

end SystemState

namespace Report

variable {s : AccessState}

theorem mem_shared_iff (s : AccessState) (x : SharedAppId) : x ∈ (Report.of s).shared ↔
    ∃ names, s.system.appIds.get? x.app = some names ∧ names.toList = x.packages ∧ 1 < names.size := by
  simp only [Report.of, List.mem_map, List.mem_filter, decide_eq_true_eq, Prod.exists, SortedMap.get?_eq_some_iff]
  constructor
  · rintro ⟨app, names, ⟨there, several⟩, rfl⟩
    exact ⟨names, there, rfl, several⟩
  · rintro ⟨names, there, packages, several⟩
    exact ⟨x.app, names, ⟨there, several⟩, by rw [packages]⟩

theorem shared_exact (h : s.system.Indexed) : s.system.Shared (Report.of s).shared := by
  have member {app : AppId} {names : SortedSet PackageName} (there : s.system.appIds.get? app = some names)
      (name : PackageName) : names.contains name ↔ s.system.RunsUnder name app := by
    rw [SystemState.RunsUnder, ← h.listed, SetMap.holds, there]
  constructor
  · simp only [Report.of, List.map_map, Function.comp_def]
    refine (s.system.appIds.keys_sorted.sublist (List.filter_sublist.map _)).imp fun ascending => ?_
    exact compareOfLessAndEq_eq_lt.1 ascending
  · intro app
    rw [List.mem_map]
    constructor
    · rintro ⟨x, mem, rfl⟩
      obtain ⟨names, there, -, several⟩ := (mem_shared_iff s x).1 mem
      simpa only [member there] using names.one_lt_size_iff.1 several
    · rintro ⟨name, name', other, runs, runs'⟩
      obtain ⟨names, there, mem⟩ := (SetMap.holds_iff _ _ _).1 ((h.listed app name).2 runs)
      have several : 1 < names.size :=
        names.one_lt_size_iff.2 ⟨name, name', other, mem, (member there name').2 runs'⟩
      exact ⟨⟨app, names.toList⟩, (mem_shared_iff s _).2 ⟨names, there, rfl, several⟩, rfl⟩
  · intro x mem
    obtain ⟨names, -, packages, -⟩ := (mem_shared_iff s x).1 mem
    rw [← packages]
    exact names.keys_sorted.imp fun ascending => compareOfLessAndEq_eq_lt.1 ascending
  · intro x mem name
    obtain ⟨names, there, packages, -⟩ := (mem_shared_iff s x).1 mem
    rw [← packages, SortedMap.mem_keys_iff, member there]

theorem length_le_sum_and_eq_iff {sizes : List Nat} (positive : ∀ n ∈ sizes, 0 < n) :
    sizes.length ≤ sizes.sum ∧ (sizes.sum = sizes.length ↔ ∀ n ∈ sizes, ¬1 < n) := by
  induction sizes with
  | nil => simp
  | cons n rest ih =>
    obtain ⟨least, exact_iff⟩ := ih fun m mem => positive m (List.mem_cons_of_mem n mem)
    have first := positive n List.mem_cons_self
    simp only [List.sum_cons, List.length_cons, List.forall_mem_cons, ← exact_iff]
    omega

theorem shared_eq_nil_iff (h : s.system.Indexed) :
    (Report.of s).shared = [] ↔ (Report.of s).packageCount = (Report.of s).appIdCount := by
  have positive : ∀ n ∈ s.system.appIds.values.map SortedMap.size, 0 < n := by
    simp only [SortedMap.values, List.map_map, List.forall_mem_map]
    intro row mem
    have full := h.noneEmpty row.1 row.2 ((SortedMap.get?_eq_some_iff _ _ _).2 mem)
    exact List.length_pos_iff.2 (List.isEmpty_eq_false_iff.1 full)
  have count : (s.system.appIds.values.map SortedMap.size).length = s.system.appIds.size := by
    simp [SortedMap.values, SortedMap.size]
  simp only [Report.of]
  rw [h.packages_size, ← count, (length_le_sum_and_eq_iff positive).2]
  simp only [List.map_eq_nil_iff, List.filter_eq_nil_iff, SortedMap.values, List.map_map, List.forall_mem_map,
    decide_eq_true_eq, Function.comp_apply]

end Report

/-- A summary counts answers of the built-in policies: for how many uids of the user and names of permissions the answer
    is that it is granted, or a code, and for how many uids and operations it is not the default mode. -/
structure UserSummary.Counts (x : UserSummary) (s : AccessState) : Prop where
  granted : ThatMany x.granted fun place : Uid × String => place.1.user = x.user ∧
    PolicySet.builtin.decide (.uid place.1) (.permission place.2) s = .granted
  custom : ThatMany x.custom fun place : Uid × String => place.1.user = x.user ∧
    ∃ code, PolicySet.builtin.decide (.uid place.1) (.permission place.2) s = .custom code
  appOpOverrides : ThatMany x.appOpOverrides fun place : Uid × String => place.1.user = x.user ∧
    PolicySet.builtin.decide (.uid place.1) (.appOp place.2) s ≠ .custom 3

theorem Report.summary_counts {s : AccessState} {u : UserId} {user : UserState} (known : s.users.get? u = some user)
    (canonical : UidTable.CanonicalUser u user) : (summary u user).Counts s := by
  constructor
  · refine (UidTable.thatMany_answered known (canonical .permission) rfl).congr fun place => and_congr_right' ?_
    rw [← PolicySet.builtin_decide, Decision.isGranted, decide_eq_true_eq]
    rfl
  · refine (UidTable.thatMany_answered known (canonical .permission) rfl).congr fun place => and_congr_right' ?_
    rw [← PolicySet.builtin_decide, Decision.isCustom_iff]
    rfl
  · have stored : (summary u user).appOpOverrides = _ := (UidTable.countP_ne_unset (canonical .appOp)).symm
    rw [stored]
    refine (UidTable.thatMany_answered known (canonical .appOp) (by simp)).congr fun place => and_congr_right' ?_
    rw [← PolicySet.builtin_decide, decide_eq_true_eq]
    rfl

/-- In every state that a run under the built-in policies leads to, a report has one summary for each user there is, in
    ascending order, which counts what the policies answer about the uids of the user. The shared application
    identifiers are those that several packages run under, each with these packages, in ascending order. There are as
    many packages as the application identifiers list, and none is shared exactly if there are as many of one as of the
    other. -/
theorem PolicySet.run_report (batches : List (List Command)) :
    let s := builtin.run .empty batches
    let r := Report.of s
    (r.users.map UserSummary.user).Pairwise (·.value < ·.value) ∧
      (∀ u, u ∈ r.users.map UserSummary.user ↔ s.system.userIds.contains u) ∧ r.userCount = r.users.length ∧
      (∀ x ∈ r.users, x.Counts s) ∧ s.system.Shared r.shared ∧
      r.packageCount = (s.system.appIds.values.map SortedMap.size).sum ∧
      (r.shared = [] ↔ r.packageCount = r.appIdCount) := by
  intro s r
  have recorded : s.Recorded := run_recorded builtin_keepsRecords batches
  have indexed : s.system.Indexed := recorded.system.toIndexed
  have users : r.users.map UserSummary.user = s.users.keys := by
    simp [r, Report.of, Report.summary, SortedMap.keys, Function.comp_def]
  have known : s.users.keys = s.system.userIds.keys := (SortedMap.keys_eq_iff _ _).2 recorded.users
  refine ⟨?_, fun u => ?_, ?_, fun x mem => ?_, Report.shared_exact indexed, indexed.packages_size,
    Report.shared_eq_nil_iff indexed⟩
  · rw [users]
    exact s.users.keys_sorted.imp fun ascending => compareOfLessAndEq_eq_lt.1 ascending
  · rw [users, known, SortedMap.mem_keys_iff]
  · rw [← List.length_map, users, known, SortedMap.keys_length]
    rfl
  · obtain ⟨⟨u, user⟩, there, rfl⟩ := List.mem_map.1 mem
    have stored := (s.users.get?_eq_some_iff u user).2 there
    exact Report.summary_counts stored (run_canonical batches u user stored)

/-- Two packages share an application identifier, and decisions are made for that one and for one that no package has.
    The mode that is set to the default one, and what is decided for a user that is not there, are not counted. -/
theorem PolicySet.run_report_shared :
    let camera : PackageName := ⟨"camera"⟩
    let gallery : PackageName := ⟨"gallery"⟩
    let batches : List (List Command) := [[.addUser ⟨7⟩, .addUser ⟨0⟩, .addPackage ⟨gallery, ⟨10⟩, []⟩,
        .addPackage ⟨⟨"mail"⟩, ⟨11⟩, []⟩, .addPackage ⟨camera, ⟨10⟩, []⟩],
      [.setDecision (.uid ⟨700010⟩) (.permission "CAMERA") .granted,
        .setDecision (.uid ⟨700099⟩) (.permission "CAMERA") .granted,
        .setDecision (.uid ⟨700099⟩) (.permission "MIC") (.custom 5),
        .setDecision (.uid ⟨700010⟩) (.appOp "mic") .denied,
        .setDecision (.uid ⟨700010⟩) (.appOp "camera") (.custom 3),
        .setDecision (.uid ⟨800010⟩) (.appOp "camera") .granted]]
    let s := builtin.run .empty batches
    let r := Report.of s
    r.users = [⟨⟨0⟩, 0, 0, 0⟩, ⟨⟨7⟩, 2, 1, 1⟩] ∧ r.shared = [⟨⟨10⟩, [camera, gallery]⟩] ∧
      (ThatMany 2 fun place : Uid × String => place.1.user = ⟨7⟩ ∧
        builtin.decide (.uid place.1) (.permission place.2) s = .granted) ∧
      (ThatMany 1 fun place : Uid × String => place.1.user = ⟨7⟩ ∧
        builtin.decide (.uid place.1) (.appOp place.2) s ≠ .custom 3) ∧
      (∀ name, name ∈ [camera, gallery] ↔ s.system.RunsUnder name ⟨10⟩) ∧ r.packageCount ≠ r.appIdCount := by
  intro camera gallery batches s r
  obtain ⟨-, -, -, counts, shares, -, none_iff⟩ := run_report batches
  have users : r.users = [⟨⟨0⟩, 0, 0, 0⟩, ⟨⟨7⟩, 2, 1, 1⟩] := by decide
  have shared : r.shared = [⟨⟨10⟩, [camera, gallery]⟩] := by decide
  have seventh := counts ⟨⟨7⟩, 2, 1, 1⟩ (by decide)
  have several : r.shared ≠ [] := by decide
  exact ⟨users, shared, seventh.granted, seventh.appOpOverrides,
    shares.packages ⟨⟨10⟩, [camera, gallery]⟩ (by decide), mt none_iff.2 several⟩

end Gatekeeper
