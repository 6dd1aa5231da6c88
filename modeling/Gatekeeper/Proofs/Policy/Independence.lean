import Mathlib.Data.List.Nodup
import Gatekeeper.Proofs.Policy.Effects

set_option autoImplicit false

namespace Gatekeeper
namespace Session

variable {p q : Package} (sys : SystemState)

theorem mayInstall_install (other : p.name ≠ q.name) : mayInstall p (install q sys) = mayInstall p sys := by
  unfold mayInstall install
  rw [SortedMap.get?_insert_ne _ _ other]

theorem install_install_comm (other : p.name ≠ q.name) : install p (install q sys) = install q (install p sys) := by
  unfold install
  rw [SortedMap.insert_insert_comm _ _ _ other, SetMap.relate_relate_comm]

end Session

namespace Command

inductive Target where
  | package (name : PackageName)
  | decision (subject object : AccessUri)
  deriving DecidableEq, Repr

def target? : Command → Option Target
  | .addPackage p => some (.package p.name)
  | .setDecision subject object _ => some (.decision subject object)
  | .addUser _ | .removeUser _ | .removePackage _ => none

/-- All the commands add packages or set decisions, and no two of them are about the same. -/
structure Independent (commands : List Command) : Prop where
  targeted : ∀ c ∈ commands, c.target?.isSome
  apart : (commands.map target?).Nodup

theorem addPackage_records_comm {p q : Package} (other : p.name ≠ q.name) (sys : SystemState) :
    (addPackage q).records ((addPackage p).records sys) = (addPackage p).records ((addPackage q).records sys) := by
  simp only [records]
  by_cases mayP : Session.mayInstall p sys <;> by_cases mayQ : Session.mayInstall q sys <;>
    simp [mayP, mayQ, Session.mayInstall_install sys other, Session.mayInstall_install sys other.symm,
      Session.install_install_comm sys other]

theorem setDecision_userParts_comm {subject object subject' object' : AccessUri}
    (other : (subject', object') ≠ (subject, object)) (d d' : Decision) (sys : SystemState)
    (users : SortedMap UserId UserState) :
    (setDecision subject' object' d').userParts sys ((setDecision subject object d).userParts sys users) =
      (setDecision subject object d).userParts sys ((setDecision subject' object' d').userParts sys users) := by
  cases place : UidTable.place? subject object with
  | none => simp only [userParts, place]
  | some found =>
    cases place' : UidTable.place? subject' object' with
    | none => simp only [userParts, place']
    | some found' =>
      obtain ⟨t, uid, name⟩ := found
      obtain ⟨t', uid', name'⟩ := found'
      simp only [userParts, place, place']
      obtain ⟨rfl, rfl⟩ := (UidTable.place?_eq_some_iff ..).1 place
      obtain ⟨rfl, rfl⟩ := (UidTable.place?_eq_some_iff ..).1 place'
      -- The two places are in different users' parts, in different tables, or at different spots of one table.
      refine SortedMap.adjust_adjust_comm users fun user part => UidTable.update_update_comm (fun table => ?_) part
      subst table
      refine t'.write_write_comm (fun same => other ?_) d d'
      obtain ⟨app, rfl⟩ := Prod.mk.inj same
      rw [Uid.ext_parts user app]

theorem effect_comm {c c' : Command} (targeted : c.target?.isSome) (targeted' : c'.target?.isSome)
    (other : c'.target? ≠ c.target?) (s : AccessState) : c'.effect (c.effect s) = c.effect (c'.effect s) := by
  cases c with
  | addUser | removeUser | removePackage => cases targeted
  | addPackage p =>
    cases c' with
    | addUser | removeUser | removePackage => cases targeted'
    | addPackage q =>
      have names : p.name ≠ q.name := fun same => other (by simp [target?, same])
      exact congrArg (fun system => ({ s with system } : AccessState)) (addPackage_records_comm names s.system)
    | setDecision => rfl
  | setDecision subject object d =>
    cases c' with
    | addUser | removeUser | removePackage => cases targeted'
    | addPackage q => rfl
    | setDecision subject' object' d' =>
      have pairs : (subject', object') ≠ (subject, object) := by
        intro same
        obtain ⟨rfl, rfl⟩ := Prod.mk.inj same
        exact other rfl
      exact congrArg (fun users => ({ s with users } : AccessState))
        (setDecision_userParts_comm pairs d d' s.system s.users)

theorem Independent.effects_perm {commands commands' : List Command} (h : Independent commands)
    (order : commands.Perm commands') (s : AccessState) : effects commands s = effects commands' s := by
  refine order.foldl_eq' (fun c mem c' mem' s => ?_) s
  by_cases same : c'.target? = c.target?
  · rw [List.inj_on_of_nodup_map h.apart mem' mem same]
  · exact effect_comm (h.targeted c mem) (h.targeted c' mem') same s

end Command

/-- On any state that a run under the built-in policies leads to, in a session in which any commands may have been given
    before, commands that add packages under different names and set decisions for different pairs come to the same in
    whichever order they are given: to the same records, and the same part of every user. -/
theorem PolicySet.run_reordered (batches : List (List Command)) (before : List Command) {commands commands' : List Command}
    (independent : Command.Independent commands) (order : commands.Perm commands') :
    let s := (Session.begin (builtin.run .empty batches)).run .builtin before
    (s.run .builtin commands).state.system = (s.run .builtin commands').state.system ∧
      ∀ u, (s.run .builtin commands).state.users.get? u = (s.run .builtin commands').state.users.get? u := by
  intro s
  have recorded : s.state.Recorded :=
    Session.run_recorded builtin_keepsRecords (run_recorded builtin_keepsRecords batches).begin before
  have same : (s.run .builtin commands).state = (s.run .builtin commands').state := by
    rw [Session.run_effects recorded, Session.run_effects recorded, independent.effects_perm order]
  rw [same]
  exact ⟨rfl, fun u => rfl⟩

/-- Two packages come to one application identifier, a third is ignored; of one row of permissions the only decision is
    taken away and another is set; one mode is set to the default, and a decision for an unknown user is dropped. -/
theorem PolicySet.run_reordered_row :
    let uid : AccessUri := .uid ⟨700010⟩
    let batches : List (List Command) := [[.addUser ⟨7⟩], [.setDecision uid (.permission "CAMERA") .granted]]
    let commands : List Command := [.addPackage ⟨⟨"camera"⟩, ⟨10⟩, []⟩, .addPackage ⟨⟨"gallery"⟩, ⟨10⟩, []⟩,
      .addPackage ⟨⟨"mail"⟩, ⟨100000⟩, []⟩, .setDecision uid (.permission "CAMERA") .denied,
      .setDecision uid (.permission "MIC") .granted, .setDecision uid (.appOp "MIC") (.custom 3),
      .setDecision (.uid ⟨800010⟩) (.permission "MIC") .granted]
    let s := (Session.begin (builtin.run .empty batches)).run .builtin [.setDecision uid (.appOp "MIC") .granted]
    Command.Independent commands ∧ commands.Perm commands.reverse ∧ s.state ≠ (s.run .builtin commands).state ∧
      (s.run .builtin commands).state.system = (s.run .builtin commands.reverse).state.system ∧
      ∀ u, (s.run .builtin commands).state.users.get? u = (s.run .builtin commands.reverse).state.users.get? u := by
  intro uid batches commands s
  have independent : Command.Independent commands := ⟨by decide, by decide⟩
  have order : commands.Perm commands.reverse := (List.reverse_perm commands).symm
  exact ⟨independent, order, by decide, run_reordered batches [.setDecision uid (.appOp "MIC") .granted] independent order⟩

end Gatekeeper
