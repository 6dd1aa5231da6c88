import Gatekeeper.Safety.Data
import Gatekeeper.Json.Decoder

set_option autoImplicit false

namespace Gatekeeper.Safety

open Json (Decoder Fields)

namespace Severity

def name : Severity → String
  | unknown => "unknown"
  | ok => "ok"
  | recommendation => "recommendation"
  | criticalWarning => "critical_warning"

def choices : List (String × Severity) :=
  [unknown, ok, recommendation, criticalWarning].map fun s => (s.name, s)

def toJson (s : Severity) : Json := .text s.name

def decode (held : Bool) : Decoder Severity := Decoder.choice held choices

end Severity

namespace RefreshStatus

def name : RefreshStatus → String
  | none => "none"
  | dataFetchInProgress => "data_fetch_in_progress"
  | fullRescanInProgress => "full_rescan_in_progress"

def choices : List (String × RefreshStatus) :=
  [none, dataFetchInProgress, fullRescanInProgress].map fun s => (s.name, s)

def toJson (s : RefreshStatus) : Json := .text s.name

def decode (held : Bool) : Decoder RefreshStatus := Decoder.choice held choices

end RefreshStatus

def summaryJson : Option String → Json
  | some s => .text s
  | none => .null

namespace Status

def toJson (s : Status) : Json := .record [
  ("title", .text s.title), ("summary", .text s.summary),
  ("severity_level", s.severity.toJson), ("refresh_status", s.refresh.toJson)]

def decode (held : Bool) : Decoder Status := fun j => do
  let f ← Fields.of ["title", "summary", "severity_level", "refresh_status"] j
  return {
    title := ← f.required "title" Decoder.string
    summary := ← f.defaulting "summary" Decoder.string ""
    severity := ← f.defaulting "severity_level" (Severity.decode held) .unknown
    refresh := ← f.defaulting "refresh_status" (RefreshStatus.decode held) .none }

end Status

namespace Issue

def toJson (i : Issue) : Json := .record [
  ("id", .text i.id), ("title", .text i.title), ("summary", .text i.summary),
  ("severity_level", i.severity.toJson)]

def decode (held : Bool) : Decoder Issue := fun j => do
  let f ← Fields.of ["id", "title", "summary", "severity_level"] j
  return {
    id := ← f.required "id" Decoder.string
    title := ← f.required "title" Decoder.string
    summary := ← f.defaulting "summary" Decoder.string ""
    severity := ← f.defaulting "severity_level" (Severity.decode held) .unknown }

end Issue

namespace Entry

def toJson (e : Entry) : Json := .record [
  ("id", .text e.id), ("title", .text e.title), ("summary", summaryJson e.summary),
  ("severity_level", e.severity.toJson)]

def decode (held : Bool) : Decoder Entry := fun j => do
  let f ← Fields.of ["id", "title", "summary", "severity_level"] j
  return {
    id := ← f.required "id" Decoder.string
    title := ← f.required "title" Decoder.string
    summary := ← f.defaulting "summary" (Decoder.optional Decoder.string) none
    severity := ← f.defaulting "severity_level" (Severity.decode held) .unknown }

end Entry

namespace EntryGroup

def toJson (g : EntryGroup) : Json := .record [
  ("id", .text g.id), ("title", .text g.title), ("entries", .array (g.entries.map Entry.toJson))]

def decode (held : Bool) : Decoder EntryGroup := fun j => do
  let f ← Fields.of ["id", "title", "entries"] j
  return {
    id := ← f.required "id" Decoder.string
    title := ← f.required "title" Decoder.string
    entries := ← f.defaulting "entries" (Decoder.list (Entry.decode held)) [] }

end EntryGroup

namespace EntryOrGroup

def toJson : EntryOrGroup → Json
  | .entry e => .record [("entry", e.toJson)]
  | .group g => .record [("group", g.toJson)]

def decode (held : Bool) : Decoder EntryOrGroup := fun j => do
  let (kind, x) ← Decoder.single j
  if kind = "entry" then return .entry (← Entry.decode held x)
  else if kind = "group" then return .group (← EntryGroup.decode held x)
  else throw .malformed

end EntryOrGroup

namespace StaticEntry

def toJson (e : StaticEntry) : Json := .record [
  ("title", .text e.title), ("summary", summaryJson e.summary)]

def decode : Decoder StaticEntry := fun j => do
  let f ← Fields.of ["title", "summary"] j
  return {
    title := ← f.required "title" Decoder.string
    summary := ← f.defaulting "summary" (Decoder.optional Decoder.string) none }

end StaticEntry

namespace StaticEntryGroup

def toJson (g : StaticEntryGroup) : Json := .record [
  ("title", .text g.title), ("entries", .array (g.entries.map StaticEntry.toJson))]

def decode : Decoder StaticEntryGroup := fun j => do
  let f ← Fields.of ["title", "entries"] j
  return {
    title := ← f.required "title" Decoder.string
    entries := ← f.defaulting "entries" (Decoder.list StaticEntry.decode) [] }

end StaticEntryGroup

namespace Data

def toJson (d : Data) : Json := .record [
  ("status", d.status.toJson),
  ("issues", .array (d.issues.map Issue.toJson)),
  ("entries_or_groups", .array (d.entriesOrGroups.map EntryOrGroup.toJson)),
  ("static_entry_groups", .array (d.staticEntryGroups.map StaticEntryGroup.toJson)),
  ("dismissed_issues", .array (d.dismissedIssues.map Issue.toJson))]

def decode (held : Bool) : Decoder Data := fun j => do
  let f ← Fields.of
    ["status", "issues", "entries_or_groups", "static_entry_groups", "dismissed_issues"] j
  return {
    status := ← f.required "status" (Status.decode held)
    issues := ← f.defaulting "issues" (Decoder.list (Issue.decode held)) []
    entriesOrGroups := ← f.defaulting "entries_or_groups" (Decoder.list (EntryOrGroup.decode held)) []
    staticEntryGroups := ← f.defaulting "static_entry_groups" (Decoder.list StaticEntryGroup.decode) []
    dismissedIssues := ← f.defaulting "dismissed_issues" (Decoder.list (Issue.decode held)) [] }

end Data
end Gatekeeper.Safety
