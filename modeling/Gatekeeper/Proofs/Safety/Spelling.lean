import Gatekeeper.Safety.Encoding
import Gatekeeper.Proofs.Json.Record

set_option autoImplicit false

namespace Gatekeeper.Safety

open Json (Slot IsRecord Exactly Each Maybe Chosen Reads Fields Decoder ok_bind text_reads record_isRepresentable)

variable {extra : Json → Prop}

def Severity.Spelled (s : Severity) : Json → Prop := Chosen s.name

def RefreshStatus.Spelled (s : RefreshStatus) : Json → Prop := Chosen s.name

def Status.slots (s : Status) : List Slot := [
  .needed "title" (Exactly .text) s.title,
  .defaulted "summary" (Exactly .text) s.summary "",
  .defaulted "severity_level" Severity.Spelled s.severity .unknown,
  .defaulted "refresh_status" RefreshStatus.Spelled s.refresh .none]

def Status.Spelled (extra : Json → Prop) (s : Status) : Json → Prop := IsRecord extra s.slots

def Issue.slots (i : Issue) : List Slot := [
  .needed "id" (Exactly .text) i.id,
  .needed "title" (Exactly .text) i.title,
  .defaulted "summary" (Exactly .text) i.summary "",
  .defaulted "severity_level" Severity.Spelled i.severity .unknown]

def Issue.Spelled (extra : Json → Prop) (i : Issue) : Json → Prop := IsRecord extra i.slots

def Entry.slots (e : Entry) : List Slot := [
  .needed "id" (Exactly .text) e.id,
  .needed "title" (Exactly .text) e.title,
  .defaulted "summary" (Maybe (Exactly .text)) e.summary none,
  .defaulted "severity_level" Severity.Spelled e.severity .unknown]

def Entry.Spelled (extra : Json → Prop) (e : Entry) : Json → Prop := IsRecord extra e.slots

def EntryGroup.slots (extra : Json → Prop) (g : EntryGroup) : List Slot := [
  .needed "id" (Exactly .text) g.id,
  .needed "title" (Exactly .text) g.title,
  .defaulted "entries" (Each (Entry.Spelled extra)) g.entries []]

def EntryGroup.Spelled (extra : Json → Prop) (g : EntryGroup) : Json → Prop := IsRecord extra (g.slots extra)

inductive EntryOrGroup.Spelled (extra : Json → Prop) : EntryOrGroup → Json → Prop where
  | entry {e : Entry} {j : Json} (spelled : e.Spelled extra j) : Spelled extra (.entry e) (.record [("entry", j)])
  | group {g : EntryGroup} {j : Json} (spelled : g.Spelled extra j) : Spelled extra (.group g) (.record [("group", j)])

def StaticEntry.slots (e : StaticEntry) : List Slot := [
  .needed "title" (Exactly .text) e.title,
  .defaulted "summary" (Maybe (Exactly .text)) e.summary none]

def StaticEntry.Spelled (extra : Json → Prop) (e : StaticEntry) : Json → Prop := IsRecord extra e.slots

def StaticEntryGroup.slots (extra : Json → Prop) (g : StaticEntryGroup) : List Slot := [
  .needed "title" (Exactly .text) g.title,
  .defaulted "entries" (Each (StaticEntry.Spelled extra)) g.entries []]

def StaticEntryGroup.Spelled (extra : Json → Prop) (g : StaticEntryGroup) : Json → Prop := IsRecord extra (g.slots extra)

def Data.slots (extra : Json → Prop) (d : Data) : List Slot := [
  .needed "status" (Status.Spelled extra) d.status,
  .defaulted "issues" (Each (Issue.Spelled extra)) d.issues [],
  .defaulted "entries_or_groups" (Each (EntryOrGroup.Spelled extra)) d.entriesOrGroups [],
  .defaulted "static_entry_groups" (Each (StaticEntryGroup.Spelled extra)) d.staticEntryGroups [],
  .defaulted "dismissed_issues" (Each (Issue.Spelled extra)) d.dismissedIssues []]

def Data.Spelled (extra : Json → Prop) (d : Data) : Json → Prop := IsRecord extra (d.slots extra)

theorem summary_spelled (summary : Option String) : Maybe (Exactly .text) summary (summaryJson summary) := by
  cases summary with
  | none => exact .none
  | some s => exact .some rfl

theorem Status.spelled_toJson (s : Status) : s.Spelled extra s.toJson :=
  .plain (.field rfl (.field rfl (.field .alone (.field .alone .nil))))

theorem Issue.spelled_toJson (i : Issue) : i.Spelled extra i.toJson :=
  .plain (.field rfl (.field rfl (.field rfl (.field .alone .nil))))

theorem Entry.spelled_toJson (e : Entry) : e.Spelled extra e.toJson :=
  .plain (.field rfl (.field rfl (.field (summary_spelled e.summary) (.field .alone .nil))))

theorem EntryGroup.spelled_toJson (g : EntryGroup) : g.Spelled extra g.toJson :=
  .plain (.field rfl (.field rfl (.field (.map Entry.spelled_toJson g.entries) .nil)))

theorem EntryOrGroup.spelled_toJson (e : EntryOrGroup) : e.Spelled extra e.toJson := by
  cases e with
  | entry e => exact .entry e.spelled_toJson
  | group g => exact .group g.spelled_toJson

theorem StaticEntry.spelled_toJson (e : StaticEntry) : e.Spelled extra e.toJson :=
  .plain (.field rfl (.field (summary_spelled e.summary) .nil))

theorem StaticEntryGroup.spelled_toJson (g : StaticEntryGroup) : g.Spelled extra g.toJson :=
  .plain (.field rfl (.field (.map StaticEntry.spelled_toJson g.entries) .nil))

theorem Data.spelled_toJson (d : Data) : d.Spelled extra d.toJson :=
  .plain (.field d.status.spelled_toJson (.field (.map Issue.spelled_toJson d.issues)
    (.field (.map EntryOrGroup.spelled_toJson d.entriesOrGroups)
      (.field (.map StaticEntryGroup.spelled_toJson d.staticEntryGroups)
        (.field (.map Issue.spelled_toJson d.dismissedIssues) .nil)))))

theorem Severity.reads : Reads (Severity.decode true) Severity.Spelled 1 := .choice fun s => by cases s <;> rfl

theorem RefreshStatus.reads : Reads (RefreshStatus.decode true) RefreshStatus.Spelled 1 :=
  .choice fun s => by cases s <;> rfl

theorem summary_reads : Reads (Decoder.optional Decoder.string) (Maybe (Exactly .text)) 0 := .optional text_reads rfl

variable (scalars : ∀ x, extra x → x.isRepresentable 0 = true)

include scalars

theorem Status.reads : Reads (Status.decode true) (Status.Spelled extra) 2 := by
  refine .record (fun _ => rfl) (by decide) scalars (fun s => ?_) fun s fields found => ?_
  · simp only [slots, List.forall_mem_cons]
    exact ⟨Slot.needed_fits text_reads (by decide), Slot.defaulted_fits text_reads (by decide),
      Slot.defaulted_fits Severity.reads (by decide), Slot.defaulted_fits RefreshStatus.reads (by decide), by simp⟩
  · simp only [slots, List.forall_mem_cons] at found
    obtain ⟨title, summary, severity, refresh, -⟩ := found
    rw [Fields.required_reads title text_reads, ok_bind, Fields.defaulting_reads summary text_reads, ok_bind,
      Fields.defaulting_reads severity Severity.reads, ok_bind, Fields.defaulting_reads refresh RefreshStatus.reads]
    rfl

theorem Issue.reads : Reads (Issue.decode true) (Issue.Spelled extra) 2 := by
  refine .record (fun _ => rfl) (by decide) scalars (fun i => ?_) fun i fields found => ?_
  · simp only [slots, List.forall_mem_cons]
    exact ⟨Slot.needed_fits text_reads (by decide), Slot.needed_fits text_reads (by decide),
      Slot.defaulted_fits text_reads (by decide), Slot.defaulted_fits Severity.reads (by decide), by simp⟩
  · simp only [slots, List.forall_mem_cons] at found
    obtain ⟨id, title, summary, severity, -⟩ := found
    rw [Fields.required_reads id text_reads, ok_bind, Fields.required_reads title text_reads, ok_bind,
      Fields.defaulting_reads summary text_reads, ok_bind, Fields.defaulting_reads severity Severity.reads]
    rfl

theorem Entry.reads : Reads (Entry.decode true) (Entry.Spelled extra) 2 := by
  refine .record (fun _ => rfl) (by decide) scalars (fun e => ?_) fun e fields found => ?_
  · simp only [slots, List.forall_mem_cons]
    exact ⟨Slot.needed_fits text_reads (by decide), Slot.needed_fits text_reads (by decide),
      Slot.defaulted_fits summary_reads (by decide), Slot.defaulted_fits Severity.reads (by decide), by simp⟩
  · simp only [slots, List.forall_mem_cons] at found
    obtain ⟨id, title, summary, severity, -⟩ := found
    rw [Fields.required_reads id text_reads, ok_bind, Fields.required_reads title text_reads, ok_bind,
      Fields.defaulting_reads summary summary_reads, ok_bind, Fields.defaulting_reads severity Severity.reads]
    rfl

theorem EntryGroup.reads : Reads (EntryGroup.decode true) (EntryGroup.Spelled extra) 4 := by
  have list := (Entry.reads scalars).list
  refine .record (fun _ => rfl) (by decide) scalars (fun g => ?_) fun g fields found => ?_
  · simp only [slots, List.forall_mem_cons]
    exact ⟨Slot.needed_fits text_reads (by decide), Slot.needed_fits text_reads (by decide),
      Slot.defaulted_fits list (by decide), by simp⟩
  · simp only [slots, List.forall_mem_cons] at found
    obtain ⟨id, title, entries, -⟩ := found
    rw [Fields.required_reads id text_reads, ok_bind, Fields.required_reads title text_reads, ok_bind,
      Fields.defaulting_reads entries list]
    rfl

theorem EntryOrGroup.reads : Reads (EntryOrGroup.decode true) (EntryOrGroup.Spelled extra) 5 where
  decoded := by
    rintro a j (@⟨e, j, spelled⟩ | @⟨g, j, spelled⟩)
    · have read := (Entry.reads scalars).decoded spelled
      show (do return EntryOrGroup.entry (← Entry.decode true j)) = Except.ok (EntryOrGroup.entry e)
      rw [read]
      rfl
    · have read := (EntryGroup.reads scalars).decoded spelled
      show (do return EntryOrGroup.group (← EntryGroup.decode true j)) = Except.ok (EntryOrGroup.group g)
      rw [read]
      rfl
  held := by
    rintro a j (@⟨e, j, spelled⟩ | @⟨g, j, spelled⟩)
    · have held := ((Entry.reads scalars).mono (by decide : 2 ≤ 4)).held spelled
      simpa [record_isRepresentable] using held
    · have held := (EntryGroup.reads scalars).held spelled
      simpa [record_isRepresentable] using held

theorem StaticEntry.reads : Reads StaticEntry.decode (StaticEntry.Spelled extra) 1 := by
  refine .record (fun _ => rfl) (by decide) scalars (fun e => ?_) fun e fields found => ?_
  · simp only [slots, List.forall_mem_cons]
    exact ⟨Slot.needed_fits text_reads (by decide), Slot.defaulted_fits summary_reads (by decide), by simp⟩
  · simp only [slots, List.forall_mem_cons] at found
    obtain ⟨title, summary, -⟩ := found
    rw [Fields.required_reads title text_reads, ok_bind, Fields.defaulting_reads summary summary_reads]
    rfl

theorem StaticEntryGroup.reads : Reads StaticEntryGroup.decode (StaticEntryGroup.Spelled extra) 3 := by
  have list := (StaticEntry.reads scalars).list
  refine .record (fun _ => rfl) (by decide) scalars (fun g => ?_) fun g fields found => ?_
  · simp only [slots, List.forall_mem_cons]
    exact ⟨Slot.needed_fits text_reads (by decide), Slot.defaulted_fits list (by decide), by simp⟩
  · simp only [slots, List.forall_mem_cons] at found
    obtain ⟨title, entries, -⟩ := found
    rw [Fields.required_reads title text_reads, ok_bind, Fields.defaulting_reads entries list]
    rfl

theorem Data.reads : Reads (Data.decode true) (Data.Spelled extra) 7 := by
  have status := Status.reads scalars
  have issues := (Issue.reads scalars).list
  have entries := (EntryOrGroup.reads scalars).list
  have groups := (StaticEntryGroup.reads scalars).list
  refine .record (fun _ => rfl) (by decide) scalars (fun d => ?_) fun d fields found => ?_
  · simp only [slots, List.forall_mem_cons]
    exact ⟨Slot.needed_fits status (by decide), Slot.defaulted_fits issues (by decide),
      Slot.defaulted_fits entries (by decide), Slot.defaulted_fits groups (by decide),
      Slot.defaulted_fits issues (by decide), by simp⟩
  · simp only [slots, List.forall_mem_cons] at found
    obtain ⟨status', issues', entries', groups', dismissed, -⟩ := found
    rw [Fields.required_reads status' status, ok_bind, Fields.defaulting_reads issues' issues, ok_bind,
      Fields.defaulting_reads entries' entries, ok_bind, Fields.defaulting_reads groups' groups, ok_bind,
      Fields.defaulting_reads dismissed issues]
    rfl

end Gatekeeper.Safety
