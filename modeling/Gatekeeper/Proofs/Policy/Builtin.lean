import Gatekeeper.Proofs.Policy.Commands
import Gatekeeper.Proofs.Policy.Registry
import Gatekeeper.Proofs.Uid
import Gatekeeper.Proofs.State.Decisions

set_option autoImplicit false

namespace Gatekeeper

namespace UidTable

variable (t t' : UidTable) (uid : Uid) (name : String)

def object : UidTable → String → AccessUri
  | permission, name => .permission name
  | appOp, name => .appOp name

theorem about?_eq_some_iff (subject object : AccessUri) :
    t.about? subject object = some (uid, name) ↔ subject = .uid uid ∧ object = t.object name := by
  cases t <;> cases subject <;> cases object <;> simp [about?, UidTable.object]

theorem object_inj {t t' : UidTable} {name name' : String} (h : t.object name = t'.object name') :
    t = t' ∧ name = name' := by
  cases t <;> cases t' <;> simp_all [object]

@[simp] theorem update_of_self (f : DecisionTable → DecisionTable) (user : UserState) :
    t.of (t.update f user) = f (t.of user) := by
  cases t <;> rfl

theorem update_of_ne {t t' : UidTable} (h : t' ≠ t) (f : DecisionTable → DecisionTable) (user : UserState) :
    t.of (t'.update f user) = t.of user := by
  cases t <;> cases t' <;> first | rfl | exact absurd rfl h

def decided (user : UserState) (app : AppId) : Decision := (DecisionTable.find? (t.of user) app name).getD t.unset

theorem lookup_eq (s : AccessState) :
    t.lookup uid name s = ((s.users.get? uid.user).map fun user => t.decided name user uid.app).getD t.unset := by
  unfold lookup
  cases s.users.get? uid.user <;> rfl

theorem about?_eq_none_iff (subject object : AccessUri) :
    t.about? subject object = none ↔ ¬∃ uid name, subject = .uid uid ∧ object = t.object name := by
  simp only [← about?_eq_some_iff, Option.eq_none_iff_forall_ne_some, Prod.forall, not_exists]

theorem decide_object (s : AccessState) : t.decide (.uid uid) (t.object name) s = t.lookup uid name s := by
  rw [UidTable.decide, (t.about?_eq_some_iff uid name _ _).2 ⟨rfl, rfl⟩]

theorem store_object (d : Decision) (draft : Draft) : t.store (.uid uid) (t.object name) d draft =
    draft.editUser uid.user (t.update (t.write uid.app name d)) := by
  rw [store, (t.about?_eq_some_iff uid name _ _).2 ⟨rfl, rfl⟩]

theorem lookup_congr {s s' : AccessState} (h : s.users.get? uid.user = s'.users.get? uid.user) :
    t.lookup uid name s = t.lookup uid name s' := by
  rw [lookup_eq, lookup_eq, h]

theorem lookup_unstored {s : AccessState} (nothing : ∀ user, s.users.get? uid.user = some user →
    DecisionTable.find? (t.of user) uid.app name = none) : t.lookup uid name s = t.unset := by
  unfold lookup
  split
  · next user known => rw [nothing user known, Option.getD_none]
  · rfl

theorem lookup_unknown {s : AccessState} (h : s.users.get? uid.user = none) : t.lookup uid name s = t.unset := by
  refine t.lookup_unstored uid name fun user known => ?_
  rw [h] at known
  cases known

theorem lookup_fresh {s : AccessState} (h : s.users.get? uid.user = some {}) : t.lookup uid name s = t.unset := by
  refine t.lookup_unstored uid name fun user known => ?_
  rw [h, Option.some.injEq] at known
  subst known
  cases t <;> rfl

theorem write_find? (app app' : AppId) (name' : String) (d : Decision) (table : DecisionTable) :
    DecisionTable.find? (t.write app name d table) app' name' =
      if app' = app ∧ name' = name then (if d = t.unset then none else some d)
      else DecisionTable.find? table app' name' := by
  unfold write
  by_cases unset : d = t.unset
  · rw [if_pos unset, if_pos unset, DecisionTable.discard_find?]
  · rw [if_neg unset, if_neg unset, DecisionTable.store_find?]

theorem write_fullAt {app app' : AppId} {table : DecisionTable} (h : app' ≠ app → table.FullAt app') (d : Decision) :
    (t.write app name d table).FullAt app' := by
  unfold write
  split
  · exact DecisionTable.FullAt.discard h name
  · exact DecisionTable.FullAt.store h name d

theorem write_decided (user : UserState) (app app' : AppId) (name' : String) (d : Decision) :
    t.decided name' (t.update (t.write app name d) user) app' =
      if app' = app ∧ name' = name then d else t.decided name' user app' := by
  unfold decided
  rw [update_of_self, write_find?, apply_ite (Option.getD · t.unset)]
  refine ite_congr rfl (fun _ => ?_) fun _ => rfl
  by_cases unset : d = t.unset
  · rw [if_pos unset, Option.getD_none, unset]
  · rw [if_neg unset, Option.getD_some]

theorem update_decided (uid' : Uid) (name' : String) (d : Decision) (user : UserState) :
    t.decided name (t'.update (t'.write uid'.app name' d) user) uid.app =
      if t' = t ∧ uid'.app = uid.app ∧ name' = name then d else t.decided name user uid.app := by
  by_cases table : t' = t
  · subst table
    rw [write_decided]
    exact ite_congr (by simp [eq_comm]) (fun _ => rfl) (fun _ => rfl)
  · rw [if_neg fun here => table here.1]
    unfold decided
    rw [update_of_ne table]

theorem store_lookup (subject object : AccessUri) (d : Decision) (draft : Draft) :
    t.lookup uid name (t'.store subject object d draft).state =
      if subject = .uid uid ∧ object = t.object name ∧ t' = t ∧ draft.users.contains uid.user then d
      else t.lookup uid name draft.state := by
  unfold store
  cases entry : t'.about? subject object with
  | none =>
    refine (if_neg fun here => ?_).symm
    obtain ⟨rfl, rfl, rfl, -⟩ := here
    rw [(about?_eq_some_iff t' uid name _ _).2 ⟨rfl, rfl⟩] at entry
    cases entry
  | some found =>
    obtain ⟨uid', name'⟩ := found
    obtain ⟨rfl, rfl⟩ := (about?_eq_some_iff t' uid' name' _ _).1 entry
    rw [lookup_eq, lookup_eq]
    show ((((draft.editUser uid'.user _).users.get? uid.user).map _).getD _) =
      if _ then d else (((draft.users.get? uid.user).map _).getD _)
    -- Only the part of the written user is another; within it the entries are told apart.
    by_cases user : uid.user = uid'.user
    · rw [user, Draft.editUser_get?_self, SortedMap.contains_eq_isSome]
      cases draft.users.get? uid'.user with
      | none => simp
      | some known =>
        simp only [Option.map_some, Option.getD_some, Option.isSome_some, and_true]
        rw [update_decided]
        refine ite_congr (propext ⟨fun here => ?_, fun here => ?_⟩) (fun _ => rfl) (fun _ => rfl)
        · obtain ⟨rfl, app, rfl⟩ := here
          exact ⟨congrArg _ (Uid.ext_parts user.symm app), rfl, rfl⟩
        · obtain ⟨same, named, table⟩ := here
          exact ⟨table, congrArg Uid.app (AccessUri.uid.inj same), (object_inj named).2⟩
    · rw [Draft.editUser_get?_ne _ _ _ user, if_neg]
      intro here
      exact user (congrArg Uid.user (AccessUri.uid.inj here.1).symm)

theorem react_lookup (event : Lifecycle) (draft : Draft) :
    t.lookup uid name (t'.react event draft).state =
      if t' = t ∧ event = .appIdRemoved uid.app then t.unset
      else t.lookup uid name draft.state := by
  cases event with
  | appIdRemoved app =>
    rw [lookup_eq, lookup_eq]
    show (((draft.users.mapWithKey fun _ => t'.update (SortedMap.erase · app)).get? uid.user).map _).getD _ = _
    rw [SortedMap.get?_mapWithKey, Option.map_map]
    show _ = if _ then _ else (((draft.users.get? uid.user).map _).getD _)
    cases draft.users.get? uid.user with
    | none => simp
    | some known =>
      simp only [Option.map_some, Option.getD_some, Function.comp_apply, Lifecycle.appIdRemoved.injEq]
      unfold decided
      by_cases table : t' = t
      · subst table
        rw [update_of_self, DecisionTable.erase_find?]
        by_cases row : app = uid.app
        · simp [row]
        · simp [row, Ne.symm row]
      · simp [update_of_ne table, table]
  | _ => exact (if_neg (by simp)).symm

theorem store_sameRecords (subject object : AccessUri) (d : Decision) (draft : Draft) :
    Draft.SameRecords draft (t.store subject object d draft) := by
  unfold store
  cases t.about? subject object with
  | none => exact .refl draft
  | some found => exact Draft.editUser_sameRecords draft _ _

theorem store_version (subject object : AccessUri) (d : Decision) (draft : Draft) :
    (t.store subject object d draft).version = draft.version := by
  unfold store
  split
  · exact Draft.editUser_version ..
  · rfl

theorem react_version (event : Lifecycle) (draft : Draft) : (t.react event draft).version = draft.version := by
  cases event <;> rfl

theorem react_sameRecords (event : Lifecycle) (draft : Draft) :
    Draft.SameRecords draft (t.react event draft) := by
  cases event with
  | appIdRemoved app => exact Draft.editUsers_sameRecords draft _
  | _ => exact .refl draft

end UidTable

namespace PolicySet

theorem mem_builtin_iff (p : SchemePolicy) : p ∈ builtin.policies ↔ ∃ t : UidTable, p = t.policy := by
  change p ∈ [UidTable.permission.policy, UidTable.appOp.policy] ↔ _
  simp only [List.mem_cons, List.not_mem_nil, or_false]
  constructor
  · rintro (rfl | rfl)
    · exact ⟨.permission, rfl⟩
    · exact ⟨.appOp, rfl⟩
  · intro table
    obtain ⟨_ | _, rfl⟩ := table
    · exact .inl rfl
    · exact .inr rfl

theorem policy_of_builtin_route? {subject object : AccessUri} {p : SchemePolicy}
    (h : builtin.route? subject object = some p) : ∃ t : UidTable, p = t.policy :=
  (mem_builtin_iff p).1 ((builtin_registered.located.route?_eq_some_iff _ _ p).1 h).1

theorem builtin_route? (t : UidTable) (uid : Uid) (name : String) :
    builtin.route? (.uid uid) (t.object name) = some t.policy := by
  refine (builtin_registered.located.route?_eq_some_iff _ _ _).2 ⟨(mem_builtin_iff _).2 ⟨t, rfl⟩, ?_⟩
  cases t <;> rfl

theorem builtin_decide (t : UidTable) (uid : Uid) (name : String) (s : AccessState) :
    builtin.decide (.uid uid) (t.object name) s = t.lookup uid name s := by
  rw [decide, builtin_route?]
  exact t.decide_object uid name s

theorem builtin_keepsRecords : builtin.KeepsRecords where
  store subject object p route d old draft := by
    obtain ⟨t, rfl⟩ := policy_of_builtin_route? route
    exact t.store_sameRecords subject object d draft
  react p mem event old draft := by
    obtain ⟨t, rfl⟩ := (mem_builtin_iff p).1 mem
    exact t.react_sameRecords event draft

theorem builtin_keepsNumber : builtin.KeepsNumber where
  store subject object p route d old draft := by
    obtain ⟨t, rfl⟩ := policy_of_builtin_route? route
    exact t.store_version subject object d draft
  react p mem event old draft := by
    obtain ⟨t, rfl⟩ := (mem_builtin_iff p).1 mem
    exact t.react_version event draft

end PolicySet

/-- All that the built-in policies do to a draft is write decisions about uids and forget rows of tables. -/
theorem Session.perform_builtin_induct (P : Draft → Prop) {s : Session}
    (editSystem : ∀ f d, P d → P (d.editSystem f)) (insertUser : ∀ u d, P d → P (d.insertUser u {}))
    (removeUser : ∀ u d, P d → P (d.removeUser u))
    (write : ∀ (t : UidTable) (uid : Uid) name decision d, P d →
      P (d.editUser uid.user (t.update (t.write uid.app name decision))))
    (forget : ∀ (t : UidTable) app d, P d → P (d.editUsers fun _ => t.update (SortedMap.erase · app)))
    (c : Command) (start : P s.draft) : P (s.perform .builtin c).draft := by
  refine perform_induct P editSystem insertUser removeUser ?_ ?_ c start
  · intro p mem event d before
    obtain ⟨t, rfl⟩ := (PolicySet.mem_builtin_iff p).1 mem
    cases event with
    | appIdRemoved app => exact forget t app d before
    | _ => exact before
  · intro subject object p route decision d before
    obtain ⟨t, rfl⟩ := PolicySet.policy_of_builtin_route? route
    show P (t.store subject object decision d)
    unfold UidTable.store
    split
    · exact write t _ _ decision d before
    · exact before

namespace Session

variable (s : Session) (t : UidTable) (uid : Uid) (name : String)

theorem setDecision_lookup (subject object : AccessUri) (d : Decision) :
    t.lookup uid name (s.setDecision .builtin subject object d).state =
      if subject = .uid uid ∧ object = t.object name ∧ s.state.users.contains uid.user then d
      else t.lookup uid name s.state := by
  unfold setDecision
  by_cases here : subject = .uid uid ∧ object = t.object name
  · obtain ⟨rfl, rfl⟩ := here
    rw [PolicySet.builtin_route?]
    refine (t.store_lookup t uid name _ _ d s.draft).trans ?_
    simp only [true_and]
    rfl
  · rw [if_neg fun h => here ⟨h.1, h.2.1⟩]
    cases route : PolicySet.builtin.route? subject object with
    | none => rfl
    | some p =>
      obtain ⟨t', rfl⟩ := PolicySet.policy_of_builtin_route? route
      refine (t.store_lookup t' uid name subject object d s.draft).trans ?_
      exact if_neg fun h => here ⟨h.1, h.2.1⟩

theorem notify_lookup (event : Lifecycle) :
    t.lookup uid name (s.notify .builtin event).state =
      if event = .appIdRemoved uid.app then t.unset else t.lookup uid name s.state := by
  show t.lookup uid name (UidTable.appOp.react event (UidTable.permission.react event s.draft)).state = _
  rw [UidTable.react_lookup, UidTable.react_lookup]
  cases t <;> simp [state]

theorem announce_lookup (events : List Lifecycle) :
    t.lookup uid name (s.announce .builtin events).state =
      if .appIdRemoved uid.app ∈ events then t.unset else t.lookup uid name s.state := by
  induction events generalizing s with
  | nil => simp [announce]
  | cons event rest ih =>
    refine (ih (s.notify .builtin event)).trans ?_
    rw [notify_lookup]
    by_cases now : event = .appIdRemoved uid.app
    · simp [now]
    · simp [now, Ne.symm now]

end Session
end Gatekeeper
