import Gatekeeper.Proofs.Policy.Bookkeeping

set_option autoImplicit false

namespace Gatekeeper

/-- A user's table in which every decision is worth storing, and is one about some uid of the user. -/
structure DecisionTable.Canonical (unset : Decision) (u : UserId) (table : DecisionTable) : Prop where
  noneEmpty : NoneEmpty table
  stored : ∀ app name d, find? table app name = some d → d ≠ unset ∧ ∃ uid : Uid, uid.user = u ∧ uid.app = app

namespace DecisionTable

variable {unset : Decision} {u : UserId} {table : DecisionTable}

theorem canonical_empty (unset : Decision) (u : UserId) : Canonical unset u ∅ :=
  ⟨SortedMap.all_empty _, fun _ _ _ found => (nomatch found)⟩

theorem Canonical.erase (h : Canonical unset u table) (app : AppId) :
    Canonical unset u (SortedMap.erase table app) := by
  refine ⟨SortedMap.All.erase h.noneEmpty app, fun app' name d now => ?_⟩
  rw [erase_find?] at now
  split at now
  · cases now
  · exact h.stored app' name d now

end DecisionTable

namespace UidTable

variable (t : UidTable)

theorem write_canonical {uid : Uid} {table : DecisionTable} (h : table.Canonical t.unset uid.user) (name : String)
    (d : Decision) : (t.write uid.app name d table).Canonical t.unset uid.user := by
  refine ⟨fun app' => t.write_fullAt name (fun _ => h.noneEmpty app') d, fun app' name' d' now => ?_⟩
  rw [write_find?] at now
  split at now
  · next here =>
    split at now
    · cases now
    · next meant =>
      obtain rfl := Option.some.inj now
      exact ⟨meant, uid, rfl, here.1.symm⟩
  · exact h.stored app' name' d' now

def CanonicalUser (u : UserId) (user : UserState) : Prop := ∀ t : UidTable, (t.of user).Canonical t.unset u

theorem fresh_canonicalUser (u : UserId) : CanonicalUser u {} := by
  intro t
  cases t with
  | permission => exact DecisionTable.canonical_empty _ u
  | appOp => exact DecisionTable.canonical_empty _ u

theorem CanonicalUser.update {u : UserId} {user : UserState} (h : CanonicalUser u user)
    {f : DecisionTable → DecisionTable} (keeps : (f (t.of user)).Canonical t.unset u) :
    CanonicalUser u (t.update f user) := by
  intro t'
  by_cases table : t = t'
  · subst t'
    rw [update_of_self]
    exact keeps
  · rw [update_of_ne table]
    exact h t'

theorem ext_of {user user' : UserState} (h : ∀ t : UidTable, t.of user = t.of user') : user = user' := by
  have permissions := h .permission
  have appOpModes := h .appOp
  change user.permissions = user'.permissions at permissions
  change user.appOpModes = user'.appOpModes at appOpModes
  cases user
  cases user'
  rw [UserState.mk.injEq]
  exact ⟨permissions, appOpModes⟩

end UidTable

open UidTable

theorem Session.perform_canonical {s : Session} (c : Command) (start : s.draft.users.All CanonicalUser) :
    (s.perform .builtin c).draft.users.All CanonicalUser := by
  refine perform_builtin_induct (fun d => d.users.All CanonicalUser) (fun _ _ h => h)
    (fun u _ h => h.insert (fresh_canonicalUser u)) (fun u _ h => h.erase u) ?_ ?_ c start
  · intro t uid name decision d h
    unfold Draft.editUser
    split
    · next user known =>
      have before := h uid.user user known
      exact h.insert (before.update t (t.write_canonical (before t) name decision))
    · exact h
  · intro t app d h
    exact h.mapWithKey fun u user before => before.update t ((before t).erase app)

theorem PolicySet.run_canonical (batches : List (List Command)) :
    (builtin.run .empty batches).users.All CanonicalUser :=
  PolicySet.run_induct (fun state _ _ => state.users.All CanonicalUser) (fun _ => True) (fun _ _ _ h => h)
    (fun _ c _ _ _ h => Session.perform_canonical c h) batches (fun _ _ _ _ => trivial) .empty
    (SortedMap.all_empty _)

namespace AccessState

variable {s s' : AccessState} {u : UserId} {user user' : UserState}

/-- A decision that is stored is given by a lookup, since there is a uid to look it up for; and a state that gives the
    same must store it too, since it is not the one that holds where nothing is stored. -/
theorem find?_of_lookup_eq (t : UidTable) (h : (t.of user).Canonical t.unset u) (known : s.users.get? u = some user)
    (known' : s'.users.get? u = some user') (same : ∀ uid name, t.lookup uid name s = t.lookup uid name s')
    {app : AppId} {name : String} {d : Decision} (found : DecisionTable.find? (t.of user) app name = some d) :
    DecisionTable.find? (t.of user') app name = some d := by
  obtain ⟨meant, uid, rfl, rfl⟩ := h.stored app name d found
  have looked := same uid name
  rw [lookup_eq, known, lookup_eq, known', Option.map_some, Option.map_some, Option.getD_some, Option.getD_some,
    decided, found, Option.getD_some, decided] at looked
  cases found' : DecisionTable.find? (t.of user') uid.app name with
  | none =>
    rw [found', Option.getD_none] at looked
    exact absurd looked meant
  | some d' =>
    rw [found', Option.getD_some] at looked
    rw [looked]

theorem users_eq_of_lookup_eq (h : s.users.All CanonicalUser) (h' : s'.users.All CanonicalUser)
    (users : ∀ u, s.users.contains u = s'.users.contains u)
    (same : ∀ (t : UidTable) uid name, t.lookup uid name s = t.lookup uid name s') : s.users = s'.users := by
  apply SortedMap.ext_get?
  intro u
  have both := users u
  rw [SortedMap.contains_eq_isSome, SortedMap.contains_eq_isSome] at both
  cases known : s.users.get? u with
  | none =>
    rw [known, Option.isSome_none] at both
    exact (Option.isSome_eq_false_iff.1 both.symm |> Option.isNone_iff_eq_none.1).symm
  | some user =>
    cases known' : s'.users.get? u with
    | none => simp [known, known'] at both
    | some user' =>
      refine congrArg some (ext_of fun t => ?_)
      have canonical := h u user known t
      have canonical' := h' u user' known' t
      refine canonical.noneEmpty.ext canonical'.noneEmpty fun app name => Option.ext fun d => ?_
      constructor <;> intro found
      · exact find?_of_lookup_eq t canonical known known' (same t) found
      · exact find?_of_lookup_eq t canonical' known' known (fun uid name => (same t uid name).symm) found

end AccessState

namespace PolicySet

/-- In every state that a run under the built-in policies leads to, no user's permissions say that something is denied,
    no modes say the default one, and neither table has an empty row. Two such states with the same users store the same
    for every user, if they decide every permission and every mode alike. -/
theorem run_sparse :
    (∀ (batches : List (List Command)) (u : UserId) (user : UserState),
      (builtin.run .empty batches).users.get? u = some user →
      (∀ app name, DecisionTable.find? user.permissions app name ≠ some .denied) ∧
      (∀ app name, DecisionTable.find? user.appOpModes app name ≠ some (.custom 3)) ∧
      (∀ app row, user.permissions.get? app = some row → row.isEmpty = false) ∧
      ∀ app row, user.appOpModes.get? app = some row → row.isEmpty = false) ∧
    ∀ batches batches' : List (List Command),
      let s := builtin.run .empty batches
      let s' := builtin.run .empty batches'
      s.system.userIds = s'.system.userIds →
      (∀ uid name, builtin.decide (.uid uid) (.permission name) s = builtin.decide (.uid uid) (.permission name) s') →
      (∀ uid name, builtin.decide (.uid uid) (.appOp name) s = builtin.decide (.uid uid) (.appOp name) s') →
      ∀ u, s.users.get? u = s'.users.get? u := by
  refine ⟨fun batches u user known => ?_, ?_⟩
  · have permissions := run_canonical batches u user known .permission
    have modes := run_canonical batches u user known .appOp
    exact ⟨fun app name found => (permissions.stored app name _ found).1 rfl,
      fun app name found => (modes.stored app name _ found).1 rfl, permissions.noneEmpty, modes.noneEmpty⟩
  · intro batches batches' s s' users permissions modes u
    have known : ∀ v, s.users.contains v = s'.users.contains v := by
      intro v
      have recorded := (run_recorded builtin_keepsRecords batches).users v
      have recorded' := (run_recorded builtin_keepsRecords batches').users v
      rw [recorded, users, recorded']
    have same : ∀ (t : UidTable) uid name, t.lookup uid name s = t.lookup uid name s' := by
      intro t uid name
      rw [← builtin_decide, ← builtin_decide]
      cases t with
      | permission => exact permissions uid name
      | appOp => exact modes uid name
    rw [AccessState.users_eq_of_lookup_eq (run_canonical batches) (run_canonical batches') known same]

/-- A permission that was granted and taken back, and a mode that was set back to the default one, are not stored: the
    state is that of a run without them, but for its system part and its version. -/
theorem run_sparse_after_reset :
    let camera := Command.setDecision (.uid ⟨700010⟩) (.permission "CAMERA") .granted
    let detour : List (List Command) := [[.addUser ⟨7⟩, .addPackage ⟨⟨"camera"⟩, ⟨10⟩, []⟩, camera],
      [.setDecision (.uid ⟨700011⟩) (.permission "MIC") .granted, .setDecision (.uid ⟨700010⟩) (.appOp "mic") .granted],
      [.setDecision (.uid ⟨700011⟩) (.permission "MIC") .denied,
        .setDecision (.uid ⟨700010⟩) (.appOp "mic") (.custom 3)]]
    let direct : List (List Command) := [[.addUser ⟨7⟩, camera]]
    let s := builtin.run .empty detour
    let s' := builtin.run .empty direct
    s ≠ s' ∧ s.users.contains ⟨7⟩ ∧ s.system.userIds = s'.system.userIds ∧
      (∀ uid name, builtin.decide (.uid uid) (.permission name) s = builtin.decide (.uid uid) (.permission name) s') ∧
      (∀ uid name, builtin.decide (.uid uid) (.appOp name) s = builtin.decide (.uid uid) (.appOp name) s') ∧
      s.users.get? ⟨7⟩ = s'.users.get? ⟨7⟩ ∧
      ∃ user, s.users.get? ⟨7⟩ = some user ∧
        DecisionTable.find? user.permissions ⟨10⟩ "MIC" ≠ some .denied ∧
        DecisionTable.find? user.appOpModes ⟨10⟩ "mic" ≠ some (.custom 3) := by
  intro camera detour direct s s'
  obtain ⟨sparse, determined⟩ := run_sparse
  have users : s.system.userIds = s'.system.userIds := by decide
  have stored : s.users = s'.users := by decide
  have same (t : UidTable) (uid : Uid) (name : String) :
      builtin.decide (.uid uid) (t.object name) s = builtin.decide (.uid uid) (t.object name) s' := by
    rw [builtin_decide, builtin_decide]
    exact t.lookup_congr uid name (by rw [stored])
  have known : s.users.contains ⟨7⟩ := by decide
  obtain ⟨user, found⟩ := (SortedMap.contains_iff _ _).1 known
  have meant := sparse detour ⟨7⟩ user found
  exact ⟨by decide, known, users, same .permission, same .appOp,
    determined detour direct users (same .permission) (same .appOp) ⟨7⟩, user, found, meant.1 ⟨10⟩ "MIC",
    meant.2.1 ⟨10⟩ "mic"⟩

end PolicySet
end Gatekeeper
