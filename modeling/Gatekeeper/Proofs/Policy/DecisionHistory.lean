import Gatekeeper.Proofs.Policy.Bookkeeping

set_option autoImplicit false

namespace Gatekeeper

inductive Mark where
  | set (decision : Decision)
  | reset
  deriving DecidableEq, Repr

/-- The mark a step makes upon what a table decides for a uid and a name. -/
def Step.mark? (t : UidTable) (uid : Uid) (name : String) (step : Step) : Option Mark :=
  let known := step.before.system.userIds
  match step.command with
  | .addUser u => if u = uid.user then some .reset else none
  | .removeUser u => if u = uid.user ∧ known.contains u then some .reset else none
  | .addPackage _ => none
  | .removePackage p => if step.before.system.holders uid.app = [p.name] then some .reset else none
  | .setDecision subject object d =>
    if subject = .uid uid ∧ object = t.object name ∧ known.contains uid.user then some (.set d) else none

def UidTable.after (t : UidTable) (before : Decision) : Option Mark → Decision
  | some (.set d) => d
  | some .reset => t.unset
  | none => before

def Command.resetsUser (c : Command) (u : UserId) (sys : SystemState) : Bool :=
  match c with
  | .addUser v => v = u
  | .removeUser v => v = u && sys.userIds.contains u
  | _ => false

section Lookup

variable (t : UidTable) (uid : Uid) (name : String)

theorem Command.bookkeeping_lookup (c : Command) (d : Draft) :
    t.lookup uid name (c.bookkeeping d).state =
      if c.resetsUser uid.user d.system then t.unset else t.lookup uid name d.state := by
  cases c with
  | addUser u =>
    by_cases e : u = uid.user
    · rw [if_pos (by simp [resetsUser, e])]
      exact t.lookup_fresh uid name (by rw [← e]; exact SortedMap.get?_insert_self d.users u {})
    · rw [if_neg (by simp [resetsUser, e])]
      exact t.lookup_congr uid name (SortedMap.get?_insert_ne d.users {} (Ne.symm e))
  | removeUser u =>
    simp only [bookkeeping]
    by_cases known : d.system.userIds.contains u
    · rw [if_pos known]
      by_cases e : u = uid.user
      · rw [if_pos (by simp [resetsUser, ← e, known])]
        exact t.lookup_unknown uid name (by rw [← e]; exact SortedMap.get?_erase_self d.users u)
      · rw [if_neg (by simp [resetsUser, e])]
        exact t.lookup_congr uid name (SortedMap.get?_erase_ne d.users (Ne.symm e))
    · have stays : removeUser u = .removeUser uid.user → d.system.userIds.contains uid.user = false := by
        intro e
        rw [← Command.removeUser.inj e]
        exact Bool.eq_false_iff.2 known
      rw [if_neg known, if_neg]
      simpa [resetsUser] using stays
  | addPackage p =>
    refine t.lookup_congr uid name (congrArg (SortedMap.get? · uid.user) ?_)
    simp only [bookkeeping]
    split <;> rfl
  | removePackage p =>
    refine t.lookup_congr uid name (congrArg (SortedMap.get? · uid.user) ?_)
    simp only [bookkeeping]
    split <;> rfl
  | setDecision => rfl

theorem Step.mark?_of_lifecycle (before : AccessState) {c : Command} (lifecycle : c.isLifecycle) :
    mark? t uid name ⟨before, c⟩ =
      if c.resetsUser uid.user before.system ∨ .appIdRemoved uid.app ∈ c.events before.system then some .reset
      else none := by
  have told := c.mem_events_appIdRemoved before.system uid.app
  cases c with
  | addUser u => simp [mark?, told, Command.resetsUser]
  | removeUser u =>
    by_cases e : u = uid.user
    · subst e
      simp [mark?, told, Command.resetsUser]
    · simp [mark?, told, Command.resetsUser, e]
  | addPackage p => simp [mark?, told, Command.resetsUser]
  | removePackage p => simp [mark?, told, Command.resetsUser]
  | setDecision => cases lifecycle

theorem Session.perform_lookup {s : Session} (h : s.state.Recorded) (c : Command) :
    t.lookup uid name (s.perform .builtin c).state =
      t.after (t.lookup uid name s.state) (Step.mark? t uid name ⟨s.state, c⟩) := by
  by_cases lifecycle : c.isLifecycle
  · have booked : t.lookup uid name (s.edit c.bookkeeping).state =
        if c.resetsUser uid.user s.state.system then t.unset else t.lookup uid name s.state :=
      c.bookkeeping_lookup t uid name s.draft
    rw [perform_eq_announce .builtin lifecycle h.system.toIndexed, announce_lookup, booked,
      Step.mark?_of_lifecycle t uid name s.state lifecycle]
    change (if .appIdRemoved uid.app ∈ c.events s.state.system then _ else _) = _
    by_cases gone : .appIdRemoved uid.app ∈ c.events s.state.system
    · simp [gone, UidTable.after]
    · cases user : c.resetsUser uid.user s.state.system <;> simp [gone, UidTable.after]
  · cases c with
    | setDecision subject object d =>
      refine (s.setDecision_lookup t uid name subject object d).trans ?_
      rw [h.users]
      simp only [Step.mark?]
      split <;> rfl
    | _ => simp [Command.isLifecycle] at lifecycle

end Lookup

theorem PolicySet.run_lookup (t : UidTable) (uid : Uid) (name : String) (batches : List (List Command)) :
    t.lookup uid name (builtin.run .empty batches) =
      t.after t.unset (((builtin.history .empty batches).filterMap (Step.mark? t uid name)).getLast?) := by
  -- That the records agree goes along: a mark asks for known users, a decision is kept in a user's part.
  refine (PolicySet.run_induct (fun state steps _ => state.Recorded ∧ t.lookup uid name state =
      t.after t.unset ((steps.filterMap (Step.mark? t uid name)).getLast?))
    (fun _ => True) (fun _ _ _ h => ⟨h.1.begin, h.2⟩) ?_ batches (fun _ _ _ _ => trivial) .empty
    ⟨AccessState.empty_recorded, rfl⟩).2
  intro s c steps earlier allowed before
  obtain ⟨recorded, decided⟩ := before
  refine ⟨Session.perform_recorded builtin_keepsRecords c recorded, ?_⟩
  rw [Session.perform_lookup t uid name recorded, decided, List.filterMap_append, List.getLast?_append]
  cases mark : Step.mark? t uid name ⟨s.state, c⟩ with
  | none => simp [mark, UidTable.after]
  | some m => cases m <;> simp [mark, UidTable.after]

/-- With the built-in policies a permission is decided as it was last set while its user was known, unless the user was
    added or removed since, or the last package of its application identifier was; it is denied then, and when it was
    never set. Which users were known by then, and which packages there were, the commands before tell alone. -/
theorem PolicySet.run_decide_permission (uid : Uid) (name : String) (batches : List (List Command)) :
    (builtin.decide (.uid uid) (.permission name) (builtin.run .empty batches) =
      match ((builtin.history .empty batches).filterMap (Step.mark? .permission uid name)).getLast? with
      | some (.set d) => d
      | some .reset => .denied
      | none => .denied) ∧
    (∀ i : Nat, ((builtin.history .empty batches)[i]?).map (fun step => (step.command, step.before.system)) =
      (batches.flatten[i]?).map fun c => (c, Command.book {} (batches.flatten.take i))) ∧
    ∀ (commands : List Command) (u : UserId), (Command.book {} commands).userIds.contains u ↔
      (commands.filter (Command.concernsUser u)).getLast? = some (.addUser u) := by
  refine ⟨?_, history_records builtin_keepsRecords batches, Command.book_known_iff⟩
  have decided := run_lookup .permission uid name batches
  rw [← builtin_decide] at decided
  refine decided.trans ?_
  cases ((builtin.history .empty batches).filterMap (Step.mark? .permission uid name)).getLast? with
  | none => rfl
  | some m => cases m <;> rfl

end Gatekeeper
