import Gatekeeper.Scenario.Decoding
import Gatekeeper.Proofs.Encoding
import Gatekeeper.Proofs.Safety.Spelling

set_option autoImplicit false

namespace Gatekeeper

open Json (Slot Written Sequence IsRecord Exactly Each Maybe Reads Fields Decoder ok_bind exists_of_bind text_reads)

/-- Written as any text that denotes the URI. -/
def AccessUri.Spelled (uri : AccessUri) (j : Json) : Prop := ∃ text, j = .text text ∧ Denotes text uri

def Decision.Spelled (d : Decision) (j : Json) : Prop := ∃ code : Int32, d = .ofCode code ∧ j = .int code.toInt

def Package.slots (p : Package) : List Slot := [
  .needed "package_name" (Exactly PackageName.toJson) p.name,
  .needed "app_id" (Exactly AppId.toJson) p.appId,
  .defaulted "requested_permissions" (Each (Exactly .text)) p.requestedPermissions []]

namespace Event

variable {extra : Json → Prop}

/-- The fields of an event, without its tag. -/
def slots (extra : Json → Prop) : Event → List Slot
  | addUser user => [.needed "user_id" (Exactly UserId.toJson) user]
  | removeUser user => [.needed "user_id" (Exactly UserId.toJson) user]
  | addPackage p => p.slots
  | removePackage name => [.needed "package_name" (Exactly PackageName.toJson) name]
  | setDecision subject object decision => [
    .needed "subject" AccessUri.Spelled subject,
    .needed "object" AccessUri.Spelled object,
    .needed "decision" Decision.Spelled decision]
  | check subject object expect => [
    .needed "subject" AccessUri.Spelled subject,
    .needed "object" AccessUri.Spelled object,
    .defaulted "expect" (Maybe Decision.Spelled) expect none]
  | subscribe listener user => [
    .needed "listener" (Exactly .text) listener,
    .needed "user_id" (Exactly UserId.toJson) user]
  | unsubscribe listener user => [
    .needed "listener" (Exactly .text) listener,
    .needed "user_id" (Exactly UserId.toJson) user]
  | publish user data => [
    .needed "user_id" (Exactly UserId.toJson) user,
    .needed "data" (Safety.Data.Spelled extra) data]

def taggedSlots (extra : Json → Prop) (e : Event) : List Slot :=
  .needed tag (Exactly .text) e.kind.name :: e.slots extra

/-- A record of the tag and the fields of the event. -/
def Spelled (extra : Json → Prop) (e : Event) : Json → Prop := IsRecord extra (e.taggedSlots extra)

/-- Its URIs are read back from their written forms, and its decisions are those of a code. -/
def Writable : Event → Prop
  | setDecision subject object decision =>
    AccessUri.read subject.text = .ok subject ∧ AccessUri.read object.text = .ok object ∧
      ∃ code, decision = .ofCode code
  | check subject object expect =>
    AccessUri.read subject.text = .ok subject ∧ AccessUri.read object.text = .ok object ∧
      ∀ decision ∈ expect, ∃ code, decision = .ofCode code
  | _ => True

theorem Writable.exists_spelled {e : Event} (writable : e.Writable) : ∃ j, e.Spelled extra j := by
  have spelled {uri : AccessUri} (back : AccessUri.read uri.text = .ok uri) : uri.Spelled uri.toJson :=
    ⟨_, rfl, AccessUri.read_eq_ok_iff.1 back⟩
  cases e with
  | addUser user | removeUser user => exact ⟨_, .plain (.field rfl (.field rfl .nil))⟩
  | addPackage p =>
    have permission (s : String) : Exactly Json.text s (.text s) := rfl
    have permissions := Each.map permission p.requestedPermissions
    exact ⟨_, .plain (.field rfl (.field rfl (.field rfl (.field permissions .nil))))⟩
  | removePackage name => exact ⟨_, .plain (.field rfl (.field rfl .nil))⟩
  | setDecision subject object decision =>
    obtain ⟨first, second, code, rfl⟩ := writable
    exact ⟨_, .plain (.field rfl (.field (spelled first) (.field (spelled second) (.field ⟨code, rfl, rfl⟩ .nil))))⟩
  | check subject object expect =>
    obtain ⟨first, second, proper⟩ := writable
    have third : ∃ j, Maybe Decision.Spelled expect j := by
      cases expect with
      | none => exact ⟨_, .none⟩
      | some d =>
        obtain ⟨code, same⟩ := proper d rfl
        exact ⟨_, .some ⟨code, same, rfl⟩⟩
    obtain ⟨x, third⟩ := third
    exact ⟨_, .plain (.field rfl (.field (spelled first) (.field (spelled second) (.field third .nil))))⟩
  | subscribe listener user | unsubscribe listener user => exact ⟨_, .plain (.field rfl (.field rfl (.field rfl .nil)))⟩
  | publish user data => exact ⟨_, .plain (.field rfl (.field rfl (.field data.spelled_toJson .nil)))⟩

theorem slots_names (e : Event) : (e.slots extra).map Slot.name = e.kind.fieldNames := by
  cases e <;> rfl

theorem fieldNames_nodup (kind : Kind) : kind.fieldNames.Nodup := by
  cases kind <;> decide

theorem tag_not_field (kind : Kind) : tag ∉ kind.fieldNames := by
  cases kind <;> decide

theorem decodeKind_eq_ok_iff {j : Json} {kind : Kind} : decodeKind j = .ok kind ↔ j = .text kind.name := by
  constructor
  · intro decoded
    obtain ⟨name, read, found⟩ := exists_of_bind decoded
    have known : Kind.ofName? name = some kind := by
      cases known : Kind.ofName? name with
      | none => rw [known] at found; cases found
      | some k => rw [known] at found; cases found; rfl
    have named : kind.name = name := by simpa using List.find?_some known
    rw [named]
    unfold Decoder.string at read
    split at read
    · cases read; rfl
    · cases read
  · rintro rfl
    have name : Decoder.string (.text kind.name) = .ok kind.name := rfl
    simp only [decodeKind, name, ok_bind, Kind.ofName?_name]
    rfl

theorem split_record {members : Fields} {kind : Kind}
    (tagged : members.filter (fun m => m.1 = tag) = [(tag, .text kind.name)]) :
    split (.record members) = .ok (kind, .record (members.filter fun m => m.1 ≠ tag)) := by
  have front : (members.map fun m => (some m.1, m.2)).filter (fun m => m.1 = some tag) =
      [(some tag, Json.text kind.name)] := by
    rw [List.filter_map]
    simpa [Function.comp_def] using congrArg (List.map fun m => (some m.1, m.2)) tagged
  have rest : (members.map fun m => (some m.1, m.2)).filter (not ∘ fun m => m.1 = some tag) =
      (members.filter fun m => m.1 ≠ tag).map fun m => (some m.1, m.2) := by
    rw [List.filter_map]
    simp [Function.comp_def]
  rw [Json.record, split, List.partition_eq_filter_filter, front, rest]
  show (do return (← decodeKind (.text kind.name), _)) = _
  rw [decodeKind_eq_ok_iff.2 rfl]
  rfl

theorem split_items (kind : Kind) (rest : List Json) :
    split (.array (.text kind.name :: rest)) = .ok (kind, .array rest) := by
  rw [split, decodeKind_eq_ok_iff.2 rfl]
  rfl

theorem split_spelled {e : Event} {j : Json} (spelled : e.Spelled extra j) :
    ∃ body, split j = .ok (e.kind, body) ∧ IsRecord extra (e.slots extra) body := by
  cases spelled with
  | @object fields others members written unknown allowed anyOrder =>
    cases written with
    | left optional _ => exact optional.elim
    | @field _ _ x fields named written =>
      obtain rfl : x = .text e.kind.name := named
      rw [taggedSlots, List.map_cons, slots_names] at unknown
      -- no field has the name of the tag, and no other member may
      have tagFree : ∀ m ∈ fields ++ others, m.1 ≠ tag := by
        intro m mem
        obtain mine | other := List.mem_append.1 mem
        · have field := written.names.subset (List.mem_map_of_mem mine)
          rw [slots_names] at field
          exact fun same => tag_not_field e.kind (same ▸ field)
        · exact fun same => unknown m other (same ▸ List.mem_cons_self)
      have tagged : (members.filter fun m => m.1 = tag).Perm [(tag, .text e.kind.name)] := by
        have none : (fields ++ others).filter (fun m => m.1 = tag) = [] :=
          List.filter_eq_nil_iff.2 (by simpa using tagFree)
        have filtered := anyOrder.filter fun m => m.1 = tag
        rwa [List.cons_append, List.filter_cons_of_pos (by simp [Slot.needed]), none] at filtered
      have kept : (members.filter fun m => m.1 ≠ tag).Perm (fields ++ others) := by
        have all : (fields ++ others).filter (fun m => m.1 ≠ tag) = fields ++ others :=
          List.filter_eq_self.2 (by simpa using tagFree)
        have filtered := anyOrder.filter fun m => m.1 ≠ tag
        rwa [List.cons_append, List.filter_cons_of_neg (by simp [Slot.needed]), all] at filtered
      refine ⟨_, split_record (List.perm_singleton.1 tagged), .object written (fun m mem => ?_) allowed kept⟩
      rw [slots_names]
      exact fun field => unknown m mem (List.mem_cons_of_mem _ field)
  | array sequence =>
    cases sequence with
    | nil optional => exact (optional _ List.mem_cons_self).elim
    | @cons _ _ x items named rest =>
      obtain rfl : x = .text e.kind.name := named
      exact ⟨_, split_items e.kind items, .array rest⟩

end Event

theorem UserId.reads : Reads UserId.decode (Exactly UserId.toJson) 0 := .of_inverts decode_inverts fun u =>
  Numeral.isInRange_ofInt (Nat.lt_trans u.value.toNat_lt (by decide))

theorem AppId.reads : Reads AppId.decode (Exactly AppId.toJson) 0 := .of_inverts decode_inverts fun a =>
  Numeral.isInRange_ofInt (Nat.lt_trans a.value.toNat_lt (by decide))

theorem PackageName.reads : Reads PackageName.decode (Exactly PackageName.toJson) 0 :=
  .of_inverts decode_inverts fun _ => rfl

theorem AccessUri.reads : Reads AccessUri.decode Spelled 0 where
  decoded := by
    rintro uri j ⟨text, rfl, denotes⟩
    rw [decode, uri_text, parse_eq_ok_iff.2 denotes]
  held := by
    rintro uri j ⟨text, rfl, -⟩
    rfl

theorem Decision.reads : Reads Decision.decode Spelled 0 where
  decoded := by
    rintro d j ⟨code, rfl, rfl⟩
    rw [decode, Json.int32_inverts]
    rfl
  held := by
    rintro d j ⟨code, rfl, rfl⟩
    have low := code.le_toInt
    have high := code.toInt_lt
    have small : code.toInt.natAbs ≤ 2 ^ 31 := by omega
    exact Numeral.isInRange_ofInt (Nat.lt_of_le_of_lt small (by decide))

theorem expect_reads : Reads (Decoder.optional Decision.decode) (Maybe Decision.Spelled) 0 :=
  Decision.reads.optional rfl

theorem permissions_reads : Reads (Decoder.list Decoder.string) (Each (Exactly .text)) 1 := text_reads.list

namespace Event

variable {extra : Json → Prop} (scalars : ∀ x, extra x → x.isRepresentable 0 = true)

include scalars

/-- The fields that the slots describe are enough to build the event. -/
theorem ofFields_found (e : Event) (fields : Fields) (found : ∀ slot ∈ e.slots extra, slot.FoundIn fields) :
    ofFields fields e.kind = .ok e := by
  cases e with
  | addUser user | removeUser user =>
    simp only [slots, List.forall_mem_cons] at found
    rw [kind, ofFields, Fields.required_reads found.1 UserId.reads]
    rfl
  | addPackage p =>
    simp only [slots, Package.slots, List.forall_mem_cons] at found
    obtain ⟨name, app, permissions, -⟩ := found
    rw [kind, ofFields, Package.ofFields, Fields.required_reads name PackageName.reads, ok_bind,
      Fields.required_reads app AppId.reads, ok_bind, Fields.defaulting_reads permissions permissions_reads]
    rfl
  | removePackage name =>
    simp only [slots, List.forall_mem_cons] at found
    rw [kind, ofFields, Fields.required_reads found.1 PackageName.reads]
    rfl
  | setDecision subject object decision =>
    simp only [slots, List.forall_mem_cons] at found
    obtain ⟨first, second, third, -⟩ := found
    rw [kind, ofFields, Fields.required_reads first AccessUri.reads, ok_bind,
      Fields.required_reads second AccessUri.reads, ok_bind, Fields.required_reads third Decision.reads]
    rfl
  | check subject object expect =>
    simp only [slots, List.forall_mem_cons] at found
    obtain ⟨first, second, third, -⟩ := found
    rw [kind, ofFields, Fields.required_reads first AccessUri.reads, ok_bind,
      Fields.required_reads second AccessUri.reads, ok_bind, Fields.defaulting_reads third expect_reads]
    rfl
  | subscribe listener user | unsubscribe listener user =>
    simp only [slots, List.forall_mem_cons] at found
    obtain ⟨first, second, -⟩ := found
    rw [kind, ofFields, Fields.required_reads first text_reads, ok_bind, Fields.required_reads second UserId.reads]
    rfl
  | publish user data =>
    simp only [slots, List.forall_mem_cons] at found
    obtain ⟨first, second, -⟩ := found
    rw [kind, ofFields, Fields.required_reads first UserId.reads, ok_bind,
      Fields.required_reads second (Safety.Data.reads scalars)]
    rfl

theorem slots_fit (e : Event) : ∀ slot ∈ e.slots extra, slot.Fits 7 := by
  cases e with
  | addUser user | removeUser user =>
    simp only [slots, List.forall_mem_cons]
    exact ⟨Slot.needed_fits UserId.reads (by decide), by simp⟩
  | addPackage p =>
    simp only [slots, Package.slots, List.forall_mem_cons]
    exact ⟨Slot.needed_fits PackageName.reads (by decide), Slot.needed_fits AppId.reads (by decide),
      Slot.defaulted_fits permissions_reads (by decide), by simp⟩
  | removePackage name =>
    simp only [slots, List.forall_mem_cons]
    exact ⟨Slot.needed_fits PackageName.reads (by decide), by simp⟩
  | setDecision subject object decision =>
    simp only [slots, List.forall_mem_cons]
    exact ⟨Slot.needed_fits AccessUri.reads (by decide), Slot.needed_fits AccessUri.reads (by decide),
      Slot.needed_fits Decision.reads (by decide), by simp⟩
  | check subject object expect =>
    simp only [slots, List.forall_mem_cons]
    exact ⟨Slot.needed_fits AccessUri.reads (by decide), Slot.needed_fits AccessUri.reads (by decide),
      Slot.defaulted_fits expect_reads (by decide), by simp⟩
  | subscribe listener user | unsubscribe listener user =>
    simp only [slots, List.forall_mem_cons]
    exact ⟨Slot.needed_fits text_reads (by decide), Slot.needed_fits UserId.reads (by decide), by simp⟩
  | publish user data =>
    simp only [slots, List.forall_mem_cons]
    exact ⟨Slot.needed_fits UserId.reads (by decide), Slot.needed_fits (Safety.Data.reads scalars) (by decide), by simp⟩

theorem reads : Reads decode (Spelled extra) 8 where
  decoded := by
    intro e j spelled
    obtain ⟨body, parted, isRecord⟩ := split_spelled spelled
    rw [decode, parted, ok_bind]
    exact isRecord.build (slots_names e) (fieldNames_nodup e.kind) (ofFields_found scalars e)
  held := by
    intro e j spelled
    have tagFits : (Slot.needed tag (Exactly .text) e.kind.name).Fits 7 := Slot.needed_fits text_reads (by decide)
    exact IsRecord.held spelled scalars (List.forall_mem_cons.2 ⟨tagFits, slots_fit scalars e⟩)

end Event
end Gatekeeper
