import Gatekeeper.Safety.Encoding
import Gatekeeper.Proofs.Json.Decoder

set_option autoImplicit false

namespace Gatekeeper.Safety

open Json (Inverts Fields Decoder)

theorem Severity.decode_inverts (held : Bool) : Inverts (Severity.decode held) Severity.toJson := by
  intro s
  cases s <;> rfl

theorem RefreshStatus.decode_inverts (held : Bool) : Inverts (RefreshStatus.decode held) RefreshStatus.toJson := by
  intro s
  cases s <;> rfl

theorem summary_inverts : Inverts (Decoder.optional Decoder.string) summaryJson := by
  intro s
  cases s <;> rfl

theorem Status.decode_inverts (held : Bool) : Inverts (Status.decode held) Status.toJson := by
  intro s
  have severity := Severity.decode_inverts held s.severity
  have refresh := RefreshStatus.decode_inverts held s.refresh
  rw [Status.decode, Status.toJson, Fields.of_record (by rfl) (by decide)]
  show (do
    let severity ← Severity.decode held s.severity.toJson
    let refresh ← RefreshStatus.decode held s.refresh.toJson
    return Status.mk s.title s.summary severity refresh) = Except.ok s
  rw [severity, refresh]
  rfl

theorem Issue.decode_inverts (held : Bool) : Inverts (Issue.decode held) Issue.toJson := by
  intro i
  have severity := Severity.decode_inverts held i.severity
  rw [Issue.decode, Issue.toJson, Fields.of_record (by rfl) (by decide)]
  show (do
    let severity ← Severity.decode held i.severity.toJson
    return Issue.mk i.id i.title i.summary severity) = Except.ok i
  rw [severity]
  rfl

theorem Entry.decode_inverts (held : Bool) : Inverts (Entry.decode held) Entry.toJson := by
  intro e
  have summary := summary_inverts e.summary
  have severity := Severity.decode_inverts held e.severity
  rw [Entry.decode, Entry.toJson, Fields.of_record (by rfl) (by decide)]
  show (do
    let summary ← Decoder.optional Decoder.string (summaryJson e.summary)
    let severity ← Severity.decode held e.severity.toJson
    return Entry.mk e.id e.title summary severity) = Except.ok e
  rw [summary, severity]
  rfl

theorem EntryGroup.decode_inverts (held : Bool) : Inverts (EntryGroup.decode held) EntryGroup.toJson := by
  intro g
  have entries := Decoder.list_inverts (Entry.decode_inverts held) g.entries
  rw [EntryGroup.decode, EntryGroup.toJson, Fields.of_record (by rfl) (by decide)]
  show (do
    let entries ← Decoder.list (Entry.decode held) (.array (g.entries.map Entry.toJson))
    return EntryGroup.mk g.id g.title entries) = Except.ok g
  rw [entries]
  rfl

theorem EntryOrGroup.decode_inverts (held : Bool) : Inverts (EntryOrGroup.decode held) EntryOrGroup.toJson := by
  intro e
  cases e with
  | entry e =>
    have entry := Entry.decode_inverts held e
    show (do return EntryOrGroup.entry (← Entry.decode held e.toJson)) = Except.ok (EntryOrGroup.entry e)
    rw [entry]
    rfl
  | group g =>
    have group := EntryGroup.decode_inverts held g
    show (do return EntryOrGroup.group (← EntryGroup.decode held g.toJson)) = Except.ok (EntryOrGroup.group g)
    rw [group]
    rfl

theorem StaticEntry.decode_inverts : Inverts StaticEntry.decode StaticEntry.toJson := by
  intro e
  have summary := summary_inverts e.summary
  rw [StaticEntry.decode, StaticEntry.toJson, Fields.of_record (by rfl) (by decide)]
  show (do
    let summary ← Decoder.optional Decoder.string (summaryJson e.summary)
    return StaticEntry.mk e.title summary) = Except.ok e
  rw [summary]
  rfl

theorem StaticEntryGroup.decode_inverts : Inverts StaticEntryGroup.decode StaticEntryGroup.toJson := by
  intro g
  have entries := Decoder.list_inverts StaticEntry.decode_inverts g.entries
  rw [StaticEntryGroup.decode, StaticEntryGroup.toJson, Fields.of_record (by rfl) (by decide)]
  show (do
    let entries ← Decoder.list StaticEntry.decode (.array (g.entries.map StaticEntry.toJson))
    return StaticEntryGroup.mk g.title entries) = Except.ok g
  rw [entries]
  rfl

theorem Data.decode_inverts (held : Bool) : Inverts (Data.decode held) Data.toJson := by
  intro d
  have status := Status.decode_inverts held d.status
  have issues := Decoder.list_inverts (Issue.decode_inverts held) d.issues
  have entriesOrGroups := Decoder.list_inverts (EntryOrGroup.decode_inverts held) d.entriesOrGroups
  have staticGroups := Decoder.list_inverts StaticEntryGroup.decode_inverts d.staticEntryGroups
  have dismissed := Decoder.list_inverts (Issue.decode_inverts held) d.dismissedIssues
  rw [Data.decode, Data.toJson, Fields.of_record (by rfl) (by decide)]
  show (do
    let status ← Status.decode held d.status.toJson
    let issues ← Decoder.list (Issue.decode held) (.array (d.issues.map Issue.toJson))
    let entriesOrGroups ←
      Decoder.list (EntryOrGroup.decode held) (.array (d.entriesOrGroups.map EntryOrGroup.toJson))
    let staticGroups ←
      Decoder.list StaticEntryGroup.decode (.array (d.staticEntryGroups.map StaticEntryGroup.toJson))
    let dismissed ← Decoder.list (Issue.decode held) (.array (d.dismissedIssues.map Issue.toJson))
    return Data.mk status issues entriesOrGroups staticGroups dismissed) = Except.ok d
  rw [status, issues, entriesOrGroups, staticGroups, dismissed]
  rfl

end Gatekeeper.Safety
