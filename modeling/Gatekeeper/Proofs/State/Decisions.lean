import Gatekeeper.State.Basic
import Gatekeeper.Proofs.SortedMap

set_option autoImplicit false

namespace Gatekeeper.DecisionTable

variable (t : DecisionTable) (app : AppId) (name : String)

theorem find?_eq_bind : find? t app name = (t.get? app).bind (·.get? name) := by
  unfold find?
  cases t.get? app <;> rfl

theorem find?_of_get?_eq {t t' : DecisionTable} (h : t.get? app = t'.get? app) :
    find? t app name = find? t' app name := by
  rw [find?_eq_bind, find?_eq_bind, h]

theorem store_find? (d : Decision) (app' : AppId) (name' : String) :
    find? (store t app name d) app' name' = if app' = app ∧ name' = name then some d else find? t app' name' := by
  by_cases row : app' = app
  · subst row
    rw [find?_eq_bind, store, SortedMap.get?_insert_self, Option.bind_some]
    by_cases column : name' = name
    · subst column
      simp
    · rw [SortedMap.get?_insert_ne _ _ column, if_neg fun e => column e.2, find?_eq_bind]
      cases t.get? app' <;> rfl
  · rw [if_neg fun e => row e.1]
    exact find?_of_get?_eq app' name' (SortedMap.get?_insert_ne t _ row)

theorem erase_find? (app' : AppId) (name' : String) :
    find? (SortedMap.erase t app) app' name' = if app' = app then none else find? t app' name' := by
  by_cases row : app' = app
  · subst row
    rw [find?_eq_bind, SortedMap.get?_erase_self, if_pos rfl, Option.bind_none]
  · rw [if_neg row]
    exact find?_of_get?_eq app' name' (SortedMap.get?_erase_ne t row)

theorem discard_get?_self : SortedMap.get? (discard t app name) app =
    (t.get? app).bind fun row => if (row.erase name).isEmpty then none else some (row.erase name) := by
  unfold discard
  cases stored : t.get? app with
  | none => simp [stored]
  | some row => by_cases empty : (row.erase name).isEmpty <;> simp [empty]

theorem discard_get?_ne {app app' : AppId} (h : app' ≠ app) :
    SortedMap.get? (discard t app name) app' = t.get? app' := by
  unfold discard
  cases t.get? app with
  | none => rfl
  | some row =>
    by_cases empty : (row.erase name).isEmpty
    · simp [empty, SortedMap.get?_erase_ne t h]
    · simp [empty, SortedMap.get?_insert_ne t _ h]

theorem discard_find? (app' : AppId) (name' : String) :
    find? (discard t app name) app' name' = if app' = app ∧ name' = name then none else find? t app' name' := by
  by_cases same : app' = app
  · subst same
    simp only [find?_eq_bind, discard_get?_self, true_and]
    cases t.get? app' with
    | none => simp
    | some row =>
      have rest : (row.erase name).get? name' = if name' = name then none else row.get? name' := by
        by_cases column : name' = name
        · simp [column]
        · rw [if_neg column, SortedMap.get?_erase_ne row column]
      rw [Option.bind_some, Option.bind_some, ← rest]
      -- A row dropped for holding no other decision has none to be found in it either.
      by_cases empty : (row.erase name).isEmpty
      · have gone := (SortedMap.not_contains_iff _ _).1 ((SortedMap.isEmpty_iff _).1 empty name')
        rw [if_pos empty, gone, Option.bind_none]
      · rw [if_neg empty, Option.bind_some]
  · rw [if_neg fun e => same e.1]
    exact find?_of_get?_eq app' name' (discard_get?_ne t name same)

/-- The row of an application identifier, if there is one, holds a decision. -/
def FullAt (t : DecisionTable) (app : AppId) : Prop := ∀ row, t.get? app = some row → row.isEmpty = false

def NoneEmpty (t : DecisionTable) : Prop := t.All fun _ row => row.isEmpty = false

variable {t t' : DecisionTable} {app : AppId}

theorem FullAt.get?_eq_none (h : FullAt t app) (nothing : ∀ name, find? t app name = none) : t.get? app = none := by
  cases stored : t.get? app with
  | none => rfl
  | some row =>
    obtain ⟨name, mem⟩ := (SortedMap.isEmpty_eq_false_iff row).1 (h row stored)
    obtain ⟨d, found⟩ := (SortedMap.contains_iff row name).1 mem
    have lost := nothing name
    rw [find?_eq_bind, stored, Option.bind_some, found] at lost
    cases lost

theorem FullAt.get?_eq (h : FullAt t app) (h' : FullAt t' app) (same : ∀ name, find? t app name = find? t' app name) :
    t.get? app = t'.get? app := by
  cases stored : t.get? app with
  | none =>
    refine (h'.get?_eq_none fun name => ?_).symm
    rw [← same, find?_eq_bind, stored, Option.bind_none]
  | some row =>
    cases stored' : t'.get? app with
    | none =>
      have gone : t.get? app = none := h.get?_eq_none fun name => by
        rw [same, find?_eq_bind, stored', Option.bind_none]
      rw [stored] at gone
      cases gone
    | some row' =>
      have rows : row = row' := SortedMap.ext_get? fun name => by
        simpa [find?_eq_bind, stored, stored'] using same name
      rw [rows]

theorem NoneEmpty.ext (h : NoneEmpty t) (h' : NoneEmpty t')
    (same : ∀ app name, find? t app name = find? t' app name) : t = t' :=
  SortedMap.ext_get? fun app => FullAt.get?_eq (h app) (h' app) (same app)

theorem FullAt.store {app' : AppId} (h : app' ≠ app → FullAt t app') (name : String) (d : Decision) :
    FullAt (store t app name d) app' := by
  intro row stored
  by_cases same : app' = app
  · subst app'
    rw [DecisionTable.store, SortedMap.get?_insert_self, Option.some.injEq] at stored
    subst row
    exact (SortedMap.isEmpty_eq_false_iff _).2 ⟨name, SortedMap.contains_insert_self _ _ _⟩
  · rw [DecisionTable.store, SortedMap.get?_insert_ne _ _ same] at stored
    exact h same row stored

theorem FullAt.discard {app' : AppId} (h : app' ≠ app → FullAt t app') (name : String) :
    FullAt (discard t app name) app' := by
  intro row stored
  by_cases same : app' = app
  · subst app'
    rw [discard_get?_self] at stored
    obtain ⟨before, -, rest⟩ := Option.bind_eq_some_iff.1 stored
    split at rest
    · cases rest
    · next full =>
      cases rest
      exact Bool.eq_false_iff.2 full
  · rw [discard_get?_ne t name same] at stored
    exact h same row stored

end Gatekeeper.DecisionTable
