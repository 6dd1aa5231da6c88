import Gatekeeper.Proofs.Policy.Builtin

set_option autoImplicit false

namespace Gatekeeper
namespace UidTable

variable (t : UidTable) {subject object : AccessUri}

theorem write_get?_ne {app app' : AppId} (name : String) (d : Decision) (table : DecisionTable) (h : app' ≠ app) :
    SortedMap.get? (t.write app name d table) app' = table.get? app' := by
  unfold write
  split
  · exact table.discard_get?_ne name h
  · exact SortedMap.get?_insert_ne table _ h

/-- Of two decisions written at different places of a table it does not matter which is written first, even if one takes
    away the row that the other needs. -/
theorem write_write_comm {app app' : AppId} {name name' : String} (apart : (app', name') ≠ (app, name)) (d d' : Decision)
    (table : DecisionTable) :
    t.write app' name' d' (t.write app name d table) = t.write app name d (t.write app' name' d' table) := by
  have found (i : AppId) (column : String) :
      DecisionTable.find? (t.write app' name' d' (t.write app name d table)) i column =
        DecisionTable.find? (t.write app name d (t.write app' name' d' table)) i column := by
    simp only [write_find?]
    by_cases here : i = app ∧ column = name
    · have nowhere : ¬(i = app' ∧ column = name') := fun there =>
        apart (by rw [← here.1, ← here.2, there.1, there.2])
      rw [if_neg nowhere, if_pos here, if_pos here]
    · rw [if_neg here, if_neg here]
  apply SortedMap.ext_get?
  intro i
  by_cases untouched : i ≠ app ∧ i ≠ app'
  · rw [write_get?_ne t name' d' _ untouched.2, write_get?_ne t name d _ untouched.1,
      write_get?_ne t name d _ untouched.1, write_get?_ne t name' d' _ untouched.2]
  · -- Neither leaves an empty row where it writes, nor makes one where it does not.
    refine DecisionTable.FullAt.get?_eq ?_ ?_ (found i)
    · refine t.write_fullAt name' (fun other' => t.write_fullAt name (fun other => ?_) d) d'
      exact absurd ⟨other, other'⟩ untouched
    · refine t.write_fullAt name (fun other => t.write_fullAt name' (fun other' => ?_) d') d
      exact absurd ⟨other, other'⟩ untouched

theorem update_update_comm {t t' : UidTable} {f g : DecisionTable → DecisionTable}
    (h : t' = t → ∀ table, g (f table) = f (g table)) (user : UserState) :
    t'.update g (t.update f user) = t.update f (t'.update g user) := by
  cases t <;> cases t' <;> simp_all [update]

theorem decide_apart (apart : ¬∃ uid name, subject = .uid uid ∧ object = t.object name) (s : AccessState) :
    t.decide subject object s = .denied := by
  rw [UidTable.decide, (t.about?_eq_none_iff subject object).2 apart]

theorem store_apart (apart : ¬∃ uid name, subject = .uid uid ∧ object = t.object name) (d : Decision)
    (draft : Draft) : t.store subject object d draft = draft := by
  rw [store, (t.about?_eq_none_iff subject object).2 apart]

theorem store_unknown {uid : Uid} {draft : Draft} (h : draft.users.get? uid.user = none) (name : String)
    (d : Decision) : t.store (.uid uid) (t.object name) d draft = draft := by
  rw [store_object, Draft.editUser_of_unknown draft _ h]

theorem store_decide {uid : Uid} {draft : Draft} (known : draft.users.contains uid.user) (name : String)
    (d : Decision) : t.decide (.uid uid) (t.object name) (t.store (.uid uid) (t.object name) d draft).state = d := by
  rw [decide_object, store_lookup, if_pos ⟨rfl, rfl, rfl, known⟩]

theorem store_decide_other (t' : UidTable) (uid uid' : Uid) (name name' : String)
    (other : (t', uid', name') ≠ (t, uid, name)) (d : Decision) (draft : Draft) :
    t'.decide (.uid uid') (t'.object name') (t.store (.uid uid) (t.object name) d draft).state =
      t'.decide (.uid uid') (t'.object name') draft.state := by
  rw [decide_object, decide_object, store_lookup, if_neg]
  intro here
  obtain ⟨uids, names, tables, -⟩ := here
  obtain rfl := AccessUri.uid.inj uids
  obtain rfl := (object_inj names).2
  exact other (by rw [tables])

/-- Whatever the state, a decision that a built-in policy is given about a uid of a known user and a name of its table is
    the one it answers with. It answers no other question in another way, nor does the other policy. All that is another
    in the state is one row of one table of that user. When the user is unknown, or the policy is given anything else,
    the state is as before; what is not about a uid and a name of its table is always denied. -/
theorem decide_store (old : AccessState) (draft : Draft) (uid : Uid) (name : String) (d : Decision) :
    let before := draft.state
    let after := (t.policy.store (.uid uid) (t.object name) d old draft).state
    (∀ user, before.users.get? uid.user = some user →
      t.policy.decide (.uid uid) (t.object name) after = d ∧
      (∀ (t' : UidTable) uid' name', (t', uid', name') ≠ (t, uid, name) →
        t'.policy.decide (.uid uid') (t'.object name') after = t'.policy.decide (.uid uid') (t'.object name') before) ∧
      after.version = before.version ∧ after.system = before.system ∧
      (∀ u, u ≠ uid.user → after.users.get? u = before.users.get? u) ∧
      ∃ user', after.users.get? uid.user = some user' ∧ (∀ t', t' ≠ t → t'.of user' = t'.of user) ∧
        ∀ app, app ≠ uid.app → (t.of user').get? app = (t.of user).get? app) ∧
    (before.users.get? uid.user = none → after = before) ∧
    (∀ subject object, (¬∃ uid name, subject = .uid uid ∧ object = t.object name) →
      (t.policy.store subject object d old draft).state = before ∧
      ∀ s, t.policy.decide subject object s = .denied) ∧
    ∀ s : AccessState, (∀ user, s.users.get? uid.user = some user →
        DecisionTable.find? (t.of user) uid.app name = none) →
      t.policy.decide (.uid uid) (t.object name) s = if t = .appOp then .custom 3 else .denied := by
  intro before after
  have stored : after = (draft.editUser uid.user (t.update (t.write uid.app name d))).state :=
    congrArg Draft.state (t.store_object uid name d draft)
  refine ⟨fun user known => ?_, fun unknown => ?_, fun subject object apart => ?_, fun s nothing => ?_⟩
  · have known' : draft.users.contains uid.user := (SortedMap.contains_iff _ _).2 ⟨user, known⟩
    refine ⟨t.store_decide known' name d,
      fun t' uid' name' other => t.store_decide_other t' uid uid' name name' other d draft,
      t.store_version _ _ d draft, (t.store_sameRecords _ _ d draft).system, fun u other => ?_,
      t.update (t.write uid.app name d) user, ?_, fun t' other => update_of_ne other.symm _ _, fun app other => ?_⟩
    · rw [stored]
      exact draft.editUser_get?_ne uid.user _ other
    · rw [stored]
      exact (draft.editUser_get?_self uid.user _).trans (congrArg (Option.map _) known)
    · rw [update_of_self]
      exact t.write_get?_ne name d _ other
  · exact congrArg Draft.state (t.store_unknown unknown name d)
  · exact ⟨congrArg Draft.state (t.store_apart apart d draft), t.decide_apart apart⟩
  · refine (t.decide_object uid name s).trans ((t.lookup_unstored uid name nothing).trans ?_)
    cases t <;> rfl

/-- A state no command leaves behind: one row holds nothing, another a decision that would hold anyway. A permission is
    granted in it to a uid of the first row; the mode of the same name, the other row and an unknown user are as before,
    and tags do not make a uid and a permission. -/
theorem decide_store_uncanonical :
    let row : SortedMap String Decision := SortedMap.insert ∅ "MIC" .denied
    let table : DecisionTable := (SortedMap.insert ∅ ⟨10⟩ ∅).insert ⟨11⟩ row
    let user : UserState := { permissions := table, appOpModes := table }
    let draft : Draft := { version := 1, system := {}, users := SortedMap.insert ∅ ⟨7⟩ user }
    let uid : Uid := ⟨700010⟩
    let stranger : Uid := ⟨800010⟩
    let after := (permission.policy.store (.uid uid) (.permission "CAMERA") .granted {} draft).state
    draft.users.get? uid.user = some user ∧
      permission.policy.decide (.uid uid) (.permission "CAMERA") after = .granted ∧
      appOp.policy.decide (.uid uid) (.appOp "CAMERA") after =
        appOp.policy.decide (.uid uid) (.appOp "CAMERA") draft.state ∧
      (∃ user', after.users.get? uid.user = some user' ∧ user'.appOpModes = table ∧
        SortedMap.get? user'.permissions ⟨11⟩ = some row) ∧
      draft.users.get? stranger.user = none ∧ after.users.get? stranger.user = none ∧
      (permission.policy.store (.uid stranger) (.permission "CAMERA") .granted {} draft).state = draft.state ∧
      (permission.policy.store (.other "uid" "700010") (.other "permission" "CAMERA") .granted {} draft).state =
        draft.state ∧
      permission.policy.decide (.other "uid" "700010") (.other "permission" "CAMERA") after = .denied ∧
      permission.policy.decide (.uid stranger) (.permission "CAMERA") after = .denied := by
  intro row table user draft uid stranger after
  have known : draft.users.get? uid.user = some user := by decide
  have unknown : draft.users.get? stranger.user = none := by decide
  have tags : ¬∃ (uid : Uid) (name : String), AccessUri.other "uid" "700010" = .uid uid ∧
      AccessUri.other "permission" "CAMERA" = permission.object name := by simp
  obtain ⟨written, -, -, -⟩ := decide_store permission {} draft uid "CAMERA" .granted
  obtain ⟨reads, others, -, -, users, user', there, tables, rows⟩ := written user known
  obtain ⟨-, dropped, apart, unstored⟩ := decide_store permission {} draft stranger "CAMERA" .granted
  have absent : after.users.get? stranger.user = none := (users stranger.user (by decide)).trans unknown
  refine ⟨known, reads, others appOp uid "CAMERA" (by decide), ⟨user', there, tables appOp (by decide), ?_⟩, unknown,
    absent, dropped unknown, (apart _ _ tags).1, (apart _ _ tags).2 after, ?_⟩
  · exact (rows ⟨11⟩ (by decide)).trans (by decide)
  · refine unstored after fun user found => ?_
    rw [absent] at found
    cases found

end UidTable

theorem Session.setDecision_apart {subject object : AccessUri} (s : Session)
    (apart : ¬∃ (t : UidTable) (uid : Uid) (name : String), subject = .uid uid ∧ object = t.object name)
    (d : Decision) : (s.setDecision .builtin subject object d).draft = s.draft := by
  unfold setDecision
  split
  · next p route =>
    obtain ⟨t, rfl⟩ := PolicySet.policy_of_builtin_route? route
    exact t.store_apart (fun here => apart ⟨t, here⟩) d s.draft
  · rfl

end Gatekeeper
