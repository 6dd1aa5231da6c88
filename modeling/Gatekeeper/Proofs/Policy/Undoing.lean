import Gatekeeper.Proofs.Policy.Effects

set_option autoImplicit false

namespace Gatekeeper
namespace SystemState

def HeldBesides (s : SystemState) (p : Package) : Prop :=
  ∃ name q, s.packages.get? name = some q ∧ q.appId = p.appId ∧ name ≠ p.name

variable {s : SystemState} {p : Package}

theorem holders_singleton_iff_not_heldBesides (installed : s.packages.get? p.name = some p) :
    s.holders p.appId = [p.name] ↔ ¬s.HeldBesides p := by
  rw [holders_eq_singleton_iff, mem_holders_iff, and_iff_right ⟨p, installed, rfl⟩]
  simp only [mem_holders_iff, HeldBesides, not_exists, not_and, not_not, forall_exists_index, and_imp]

theorem install_heldBesides_iff : (Session.install p s).HeldBesides p ↔ s.HeldBesides p := by
  refine exists_congr fun name => exists_congr fun q => ?_
  by_cases own : name = p.name
  · simp [own]
  · rw [Session.install, SortedMap.get?_insert_ne _ _ own]

theorem uninstall_install (h : s.Indexed) (new : s.packages.get? p.name = none) :
    Session.uninstall p.name p.appId (Session.install p s) = s := by
  have unlisted : ¬SetMap.holds s.appIds p.appId p.name := by
    rw [h.listed, new]
    simp
  unfold Session.uninstall Session.install
  rw [SetMap.unrelate_relate h.noneEmpty unlisted,
    SortedMap.erase_insert_of_not_contains _ _ ((SortedMap.not_contains_iff _ _).2 new)]

theorem install_uninstall (h : s.Indexed) (installed : s.packages.get? p.name = some p) :
    Session.install p (Session.uninstall p.name p.appId s) = s := by
  have listed : SetMap.holds s.appIds p.appId p.name := (h.listed _ _).2 ⟨p, installed, rfl⟩
  unfold Session.uninstall Session.install
  rw [SetMap.relate_unrelate h.noneEmpty listed, SortedMap.insert_erase_of_get? _ installed]

end SystemState

def UidTable.row? (t : UidTable) (users : SortedMap UserId UserState) (u : UserId) (app : AppId) :
    Option (SortedMap String Decision) :=
  (users.get? u).bind fun user => (t.of user).get? app

/-- A package went, and with it, if no other package holds its application identifier, the rows of that for every user;
    nothing else did. -/
structure SystemState.Forgets (sys : SystemState) (p : Package) (before after : SortedMap UserId UserState) : Prop where
  known : ∀ u, after.contains u = before.contains u
  held : sys.HeldBesides p → after = before
  gone : ¬sys.HeldBesides p → ∀ (t : UidTable) u, t.row? after u p.appId = none
  kept : ∀ (t : UidTable) u app, app ≠ p.appId → t.row? after u app = t.row? before u app

theorem UidTable.forget_of (t : UidTable) (app : AppId) (user : UserState) :
    t.of (user.forget app) = SortedMap.erase (t.of user) app := by
  cases t <;> rfl

namespace Command

variable {s : AccessState} {p q : Package}

theorem removePackage_system (installed : s.system.packages.get? q.name = some p) :
    ((removePackage q).effect s).system = Session.uninstall q.name p.appId s.system := by
  simp only [effect, records, installed]

theorem removePackage_forgets (installed : s.system.packages.get? q.name = some p) (named : q.name = p.name) :
    s.system.Forgets p s.users ((removePackage q).effect s).users := by
  have last := SystemState.holders_singleton_iff_not_heldBesides (named ▸ installed)
  simp only [effect, userParts, installed]
  by_cases held : s.system.HeldBesides p
  · rw [named, if_neg fun alone => last.1 alone held]
    exact ⟨fun _ => rfl, fun _ => rfl, fun alone => absurd held alone, fun _ _ _ _ => rfl⟩
  · rw [named, if_pos (last.2 held)]
    refine ⟨fun u => SortedMap.contains_mapWithKey _ _ u, fun other => absurd other held, fun _ t u => ?_,
      fun t u app other => ?_⟩ <;> rw [UidTable.row?, SortedMap.get?_mapWithKey]
    · cases s.users.get? u with
      | none => rfl
      | some user => simp [UidTable.forget_of]
    · rw [UidTable.row?]
      cases s.users.get? u with
      | none => rfl
      | some user => simp [UidTable.forget_of, SortedMap.get?_erase_ne _ other]

theorem addPackage_effect (may : Session.mayInstall p s.system) :
    (addPackage p).effect s = { s with system := Session.install p s.system } := by
  simp only [effect, records, userParts, may, if_true]

theorem addUser_undone (h : s.Recorded) {u : UserId} (new : s.system.userIds.contains u = false) :
    effects [.addUser u, .removeUser u] s = s := by
  have unknown : s.users.contains u = false := (h.users u).trans new
  simp only [effects, List.foldl_cons, List.foldl_nil, effect, records, userParts, SortedMap.contains_insert_self,
    if_true, SortedMap.erase_insert_of_not_contains _ _ new, SortedMap.erase_insert_of_not_contains _ _ unknown]

theorem addPackage_undone (h : s.Recorded) (new : s.system.packages.get? p.name = none) (valid : p.appId.isValid)
    (named : q.name = p.name) : (effects [.addPackage p, .removePackage q] s).system = s.system ∧
      s.system.Forgets p s.users (effects [.addPackage p, .removePackage q] s).users := by
  have may : Session.mayInstall p s.system := (Session.mayInstall_iff p _).2 ⟨valid, by simp [new]⟩
  let added : AccessState := { s with system := Session.install p s.system }
  have installed : added.system.packages.get? q.name = some p := by
    rw [named]
    exact SortedMap.get?_insert_self _ _ _
  have both : effects [.addPackage p, .removePackage q] s = (removePackage q).effect added :=
    congrArg (removePackage q).effect (addPackage_effect may)
  have lost : added.system.Forgets p s.users ((removePackage q).effect added).users :=
    removePackage_forgets installed named
  -- Whether the identifier is held besides does not depend on the package that was added.
  have same : added.system.HeldBesides p ↔ s.system.HeldBesides p := SystemState.install_heldBesides_iff
  rw [both]
  constructor
  · rw [removePackage_system installed, named]
    exact SystemState.uninstall_install h.system.toIndexed new
  · exact ⟨lost.known, fun held => lost.held (same.2 held), fun alone => lost.gone (mt same.1 alone), lost.kept⟩

theorem removePackage_undone (h : s.Recorded) (installed : s.system.packages.get? q.name = some p) :
    (effects [.removePackage q, .addPackage p] s).system = s.system ∧
      s.system.Forgets p s.users (effects [.removePackage q, .addPackage p] s).users := by
  have named : q.name = p.name := (h.system.named _ _ installed).symm
  have removed := removePackage_system installed
  have may : Session.mayInstall p ((removePackage q).effect s).system := by
    refine (Session.mayInstall_iff p _).2 ⟨h.system.valid _ _ installed, ?_⟩
    rw [removed, named, Session.uninstall, SortedMap.get?_erase_self]
    simp
  have both : effects [.removePackage q, .addPackage p] s = (addPackage p).effect ((removePackage q).effect s) := rfl
  rw [both, addPackage_effect may]
  constructor
  · show Session.install p ((removePackage q).effect s).system = s.system
    rw [removed, named]
    exact SystemState.install_uninstall h.system.toIndexed (named ▸ installed)
  · exact removePackage_forgets installed named

end Command

/-- In every state that a run under the built-in policies leads to, and over however many versions the two commands are
    spread: adding a user and removing it again restores the records and every user's part. Adding a package that is not
    installed and removing the package of its name restores the records, and so does removing an installed package and
    adding what was installed. Either leaves the users' parts as they were, but for what was decided for the application
    identifier of the package, which is gone exactly if no other package holds that identifier. -/
theorem PolicySet.run_undone (batches : List (List Command)) :
    let s := builtin.run .empty batches
    (∀ u (steps : List (List Command)), s.system.userIds.contains u = false →
      steps.flatten = [.addUser u, .removeUser u] →
      (builtin.run s steps).system = s.system ∧ ∀ v, (builtin.run s steps).users.get? v = s.users.get? v) ∧
    (∀ (p q : Package) (steps : List (List Command)), s.system.packages.get? p.name = none → p.appId.isValid →
      q.name = p.name → steps.flatten = [.addPackage p, .removePackage q] →
      (builtin.run s steps).system = s.system ∧ s.system.Forgets p s.users (builtin.run s steps).users) ∧
    ∀ (p q : Package) (steps : List (List Command)), s.system.packages.get? q.name = some p →
      steps.flatten = [.removePackage q, .addPackage p] →
      (builtin.run s steps).system = s.system ∧ s.system.Forgets p s.users (builtin.run s steps).users := by
  intro s
  have recorded : s.Recorded := run_recorded builtin_keepsRecords batches
  refine ⟨fun u steps new both => ?_, fun p q steps new valid named both => ?_, fun p q steps installed both => ?_⟩
  · rw [run_effects recorded, both, Command.addUser_undone recorded new]
    exact ⟨rfl, fun v => rfl⟩
  · rw [run_effects recorded, both]
    exact Command.addPackage_undone recorded new valid named
  · rw [run_effects recorded, both]
    exact Command.removePackage_undone recorded installed

/-- Two packages share an application identifier, and for another one, which no package holds, something is decided. A
    package comes to hold that one and is removed under its name: what was decided is gone. A package of the shared
    identifier is removed and installed again: nothing is. -/
theorem PolicySet.run_undone_shared :
    let camera : Package := ⟨⟨"camera"⟩, ⟨10⟩, ["CAMERA"]⟩
    let gallery : Package := ⟨⟨"gallery"⟩, ⟨10⟩, []⟩
    let mail : Package := ⟨⟨"mail"⟩, ⟨11⟩, []⟩
    let namesake : Package := ⟨⟨"mail"⟩, ⟨12⟩, ["MIC"]⟩
    let batches : List (List Command) := [[.addUser ⟨7⟩, .addPackage camera, .addPackage gallery],
      [.setDecision (.uid ⟨700010⟩) (.permission "CAMERA") .granted,
        .setDecision (.uid ⟨700011⟩) (.permission "MIC") .granted]]
    let s := builtin.run .empty batches
    let visit := builtin.run s [[.addUser ⟨8⟩], [.removeUser ⟨8⟩]]
    let trial := builtin.run s [[.addPackage mail, .removePackage namesake]]
    let again := builtin.run s [[.removePackage ⟨⟨"camera"⟩, ⟨0⟩, []⟩], [], [.addPackage camera]]
    s.system.userIds.contains ⟨8⟩ = false ∧ visit.system = s.system ∧ visit.users.get? ⟨7⟩ = s.users.get? ⟨7⟩ ∧
      s.system.packages.get? mail.name = none ∧ mail.appId.isValid ∧ namesake.name = mail.name ∧
      trial.system = s.system ∧ UidTable.permission.row? s.users ⟨7⟩ ⟨11⟩ ≠ none ∧
      UidTable.permission.row? trial.users ⟨7⟩ ⟨11⟩ = none ∧
      UidTable.permission.row? trial.users ⟨7⟩ ⟨10⟩ = UidTable.permission.row? s.users ⟨7⟩ ⟨10⟩ ∧
      s.system.packages.get? ⟨"camera"⟩ = some camera ∧ again.system = s.system ∧ again.users = s.users := by
  intro camera gallery mail namesake batches s visit trial again
  obtain ⟨users, packages, installed⟩ := run_undone batches
  obtain ⟨system, parts⟩ := users ⟨8⟩ [[.addUser ⟨8⟩], [.removeUser ⟨8⟩]] (by decide) rfl
  obtain ⟨system', lost⟩ := packages mail namesake [[.addPackage mail, .removePackage namesake]] (by decide)
    (by decide) (by decide) rfl
  obtain ⟨system'', lost'⟩ := installed camera ⟨⟨"camera"⟩, ⟨0⟩, []⟩
    [[.removePackage ⟨⟨"camera"⟩, ⟨0⟩, []⟩], [], [.addPackage camera]] (by decide) rfl
  have alone : ¬s.system.HeldBesides mail := by
    rintro ⟨name, q, found, same, -⟩
    have holder : name ∈ s.system.holders ⟨11⟩ := (s.system.mem_holders_iff _ name).2 ⟨q, found, same⟩
    exact absurd holder (by rw [show s.system.holders ⟨11⟩ = [] by decide]; exact List.not_mem_nil)
  have shared : s.system.HeldBesides camera := ⟨⟨"gallery"⟩, gallery, by decide, rfl, by decide⟩
  exact ⟨by decide, system, parts ⟨7⟩, by decide, by decide, by decide, system', by decide,
    lost.gone alone .permission ⟨7⟩, lost.kept .permission ⟨7⟩ ⟨10⟩ (by decide), by decide, system'',
    lost'.held shared⟩

end Gatekeeper
