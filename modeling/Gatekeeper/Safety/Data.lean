set_option autoImplicit false

namespace Gatekeeper.Safety

/-- From least to most severe. -/
inductive Severity where
  | unknown
  | ok
  | recommendation
  | criticalWarning
  deriving DecidableEq, Repr, Inhabited

inductive RefreshStatus where
  | none
  | dataFetchInProgress
  | fullRescanInProgress
  deriving DecidableEq, Repr, Inhabited

structure Status where
  title : String
  summary : String := ""
  severity : Severity := .unknown
  refresh : RefreshStatus := .none
  deriving DecidableEq, Repr, Inhabited

structure Issue where
  id : String
  title : String
  summary : String := ""
  severity : Severity := .unknown
  deriving DecidableEq, Repr, Inhabited

structure Entry where
  id : String
  title : String
  summary : Option String := none
  severity : Severity := .unknown
  deriving DecidableEq, Repr, Inhabited

structure EntryGroup where
  id : String
  title : String
  entries : List Entry := []
  deriving DecidableEq, Repr, Inhabited

inductive EntryOrGroup where
  | entry (entry : Entry)
  | group (group : EntryGroup)
  deriving DecidableEq, Repr, Inhabited

structure StaticEntry where
  title : String
  summary : Option String := none
  deriving DecidableEq, Repr, Inhabited

structure StaticEntryGroup where
  title : String
  entries : List StaticEntry := []
  deriving DecidableEq, Repr, Inhabited

structure Data where
  status : Status
  issues : List Issue := []
  entriesOrGroups : List EntryOrGroup := []
  staticEntryGroups : List StaticEntryGroup := []
  dismissedIssues : List Issue := []
  deriving DecidableEq, Repr, Inhabited

namespace Severity

def rank : Severity → Nat
  | unknown => 0
  | ok => 1
  | recommendation => 2
  | criticalWarning => 3

def max (a b : Severity) : Severity := if a.rank ≤ b.rank then b else a

theorem rank_max (a b : Severity) : (a.max b).rank = Nat.max a.rank b.rank := by
  cases a <;> cases b <;> rfl

end Severity

/-- The most severe level of the status and the issues that are not dismissed. -/
def Data.highestSeverity (data : Data) : Severity :=
  data.issues.foldl (fun level issue => level.max issue.severity) data.status.severity

def Severity.IsMaximum (level : Severity) (levels : List Severity) : Prop :=
  level ∈ levels ∧ ∀ other ∈ levels, other.rank ≤ level.rank

theorem Severity.foldl_isMaximum (issues : List Issue) (start : Severity) :
    IsMaximum (issues.foldl (fun level issue => level.max issue.severity) start)
      (start :: issues.map Issue.severity) := by
  induction issues generalizing start with
  | nil => exact ⟨List.mem_cons_self, fun other mem => by rw [List.mem_singleton.1 mem]; exact Nat.le_refl _⟩
  | cons issue rest ih =>
    obtain ⟨mem, highest⟩ := ih (start.max issue.severity)
    have bound := highest _ List.mem_cons_self
    rw [rank_max] at bound
    refine ⟨?_, fun other listed => ?_⟩
    · obtain same | later := List.mem_cons.1 mem
      · rw [List.foldl_cons, same, List.map_cons, max]
        split
        · exact List.mem_cons_of_mem _ List.mem_cons_self
        · exact List.mem_cons_self
      · exact List.mem_cons_of_mem _ (List.mem_cons_of_mem _ later)
    · obtain rfl | listed := List.mem_cons.1 listed
      · exact Nat.le_trans (Nat.le_max_left _ _) bound
      · obtain rfl | listed := List.mem_cons.1 listed
        · exact Nat.le_trans (Nat.le_max_right _ _) bound
        · exact highest other (List.mem_cons_of_mem _ listed)

theorem Data.highestSeverity_isMaximum (data : Data) :
    data.highestSeverity.IsMaximum (data.status.severity :: data.issues.map Issue.severity) :=
  Severity.foldl_isMaximum data.issues data.status.severity

end Gatekeeper.Safety
