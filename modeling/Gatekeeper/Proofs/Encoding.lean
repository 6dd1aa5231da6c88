import Gatekeeper.Encoding
import Gatekeeper.Proofs.Json.RoundTrip
import Gatekeeper.Proofs.Safety.Encoding
import Gatekeeper.Proofs.Uri

set_option autoImplicit false

namespace Gatekeeper

namespace Json

variable {α : Type} {encode : α → Json} {decode : Decoder α} {legible : α → Prop}

def read (decode : Decoder α) (text : String) : Except Mismatch α :=
  match parse text with
  | some j => decode j
  | none => .error .malformed

/-- The values that are read back from their texts are the legible ones, and all that is read is legible. -/
structure Reversible (encode : α → Json) (decode : Decoder α) (legible : α → Prop) : Prop where
  back : ∀ a, read decode (encode a).compact = .ok a ↔ legible a
  injective : ∀ a b, legible a → legible b → (encode a).compact = (encode b).compact → a = b
  again : ∀ text a, read decode text = .ok a → legible a ∧ read decode (encode a).compact = .ok a

theorem read_compact (decode : Decoder α) (j : Json) : read decode j.compact = decode j := by
  rw [read, parse_compact]

theorem decoded_of_read {text : String} {a : α} (result : read decode text = .ok a) : ∃ j, decode j = .ok a := by
  unfold read at result
  split at result
  · next j _ => exact ⟨j, result⟩
  · cases result

theorem Reversible.of_decode (back : ∀ a, decode (encode a) = .ok a ↔ legible a)
    (found : ∀ j a, decode j = .ok a → legible a) : Reversible encode decode legible where
  back a := by rw [read_compact, back]
  injective a b first second same := by
    have both := (back b).2 second
    rw [← read_compact decode, ← same, read_compact, (back a).2 first] at both
    exact Except.ok.inj both
  again text a result := by
    obtain ⟨j, decoded⟩ := decoded_of_read result
    have fine := found j a decoded
    exact ⟨fine, by rw [read_compact, (back a).2 fine]⟩

theorem Reversible.of_inverts (inverts : Inverts decode encode) : Reversible encode decode fun _ => True :=
  .of_decode (fun a => iff_of_true (inverts a) trivial) fun _ _ _ => trivial

theorem integer_int (n : Int) : Decoder.integer (.int n) = .ok n := by
  rw [int, Decoder.integer]
  simp only [Numeral.toInt?_ofInt]

theorem uint32_inverts : Inverts Decoder.uint32 fun n => .nat n.toNat := by
  intro n
  have within : 0 ≤ (n.toNat : Int) ∧ (n.toNat : Int) < UInt32.size :=
    ⟨Int.natCast_nonneg _, Int.ofNat_lt.2 n.toNat_lt⟩
  show Decoder.uint32 (.int n.toNat) = .ok n
  rw [Decoder.uint32, integer_int, ok_bind, if_pos within, Int.toNat_natCast, UInt32.ofNat_toNat]
  rfl

theorem int32_inverts : Inverts Decoder.int32 fun n => .int n.toInt := by
  intro n
  have within : Int32.minValue.toInt ≤ n.toInt ∧ n.toInt ≤ Int32.maxValue.toInt :=
    ⟨n.minValue_le_toInt, Int32.toInt_le n⟩
  show Decoder.int32 (.int n.toInt) = .ok n
  rw [Decoder.int32, integer_int, ok_bind, if_pos within, Int32.ofInt_toInt]
  rfl

theorem string_inverts : Inverts Decoder.string Json.text := fun _ => rfl

end Json

open Json (Inverts Reversible Fields Decoder)

theorem UserId.decode_inverts : Inverts UserId.decode UserId.toJson := by
  intro u
  rw [UserId.decode, UserId.toJson, Json.uint32_inverts]
  rfl

theorem AppId.decode_inverts : Inverts AppId.decode AppId.toJson := by
  intro a
  rw [AppId.decode, AppId.toJson, Json.uint32_inverts]
  rfl

theorem Uid.decode_inverts : Inverts Uid.decode Uid.toJson := by
  intro u
  rw [Uid.decode, Uid.toJson, Json.uint32_inverts]
  rfl

theorem PackageName.decode_inverts : Inverts PackageName.decode PackageName.toJson := fun _ => rfl

theorem Package.decode_inverts : Inverts Package.decode Package.toJson := by
  intro p
  have appId := AppId.decode_inverts p.appId
  have permissions := Json.Decoder.list_inverts Json.string_inverts p.requestedPermissions
  rw [Package.decode, Package.toJson, Fields.of_record (by rfl) (by decide)]
  rw [Json.ok_bind, Package.ofFields, Fields.required_of_lookup rfl, PackageName.decode_inverts,
    Fields.required_of_lookup rfl, appId, Fields.defaulting_of_lookup rfl, permissions]
  rfl

namespace Decision

/-- A decision that holds no shared code under `custom`. -/
def Proper (d : Decision) : Prop := d ≠ .custom 0 ∧ d ≠ .custom 1

theorem ofCode_proper (c : Int32) : (ofCode c).Proper := by
  unfold ofCode
  split
  · exact ⟨nofun, nofun⟩
  · next notDenied =>
    split
    · exact ⟨nofun, nofun⟩
    · next notGranted => exact ⟨fun same => notDenied (custom.inj same), fun same => notGranted (custom.inj same)⟩

theorem ofCode_code_iff (d : Decision) : ofCode d.code = d ↔ d.Proper :=
  ⟨fun same => same ▸ ofCode_proper d.code, ofCode_code⟩

theorem decode_toJson (d : Decision) : decode d.toJson = .ok (ofCode d.code) := by
  rw [decode, toJson, Json.int32_inverts]
  rfl

theorem decode_proper {j : Json} {d : Decision} (decoded : decode j = .ok d) : d.Proper := by
  unfold decode at decoded
  cases read : Decoder.int32 j with
  | error m => rw [read] at decoded; cases decoded
  | ok c => rw [read] at decoded; cases decoded; exact ofCode_proper c

theorem reversible : Reversible toJson decode Proper :=
  .of_decode (fun d => by rw [decode_toJson, Except.ok.injEq, ofCode_code_iff]) fun _ _ => decode_proper

end Decision

namespace AccessUri

theorem uri_text (text : String) :
    Decoder.uri (.text text) =
      match parse text with
      | .ok uri => .ok uri
      | .error fault => .error (.uri text fault) := rfl

theorem decode_toJson_iff (uri : AccessUri) : decode uri.toJson = .ok uri ↔ Denotes uri.text uri := by
  rw [decode, toJson, uri_text, ← parse_eq_ok_iff]
  cases parse uri.text <;> simp

theorem decode_denotes {j : Json} {uri : AccessUri} (decoded : decode j = .ok uri) : Denotes uri.text uri := by
  unfold decode Decoder.uri at decoded
  cases read : Decoder.string j with
  | error m => rw [read] at decoded; cases decoded
  | ok text =>
    rw [read] at decoded
    replace decoded : Decoder.uri (.text text) = .ok uri := decoded
    rw [uri_text] at decoded
    cases parsed : parse text with
    | error fault => rw [parsed] at decoded; cases decoded
    | ok found =>
      rw [parsed] at decoded
      cases decoded
      exact (parse_eq_ok_iff.1 parsed).legible.denotes

theorem reversible : Reversible toJson decode fun uri => read uri.text = .ok uri :=
  .of_decode (fun uri => (decode_toJson_iff uri).trans read_eq_ok_iff.symm)
    fun _ _ decoded => read_eq_ok_iff.2 (decode_denotes decoded)

end AccessUri

/-- Each kind of value is read back from the text it is written as: identifiers, names, packages and safety data
    whatever they hold, a decision unless it holds a shared code under `custom`, and a URI if its written form denotes
    it. So one text is written for one value only; and what any text is read as is such a value, which reading its own
    text gives again. -/
theorem reversible_encodings :
    Reversible UserId.toJson UserId.decode (fun _ => True) ∧
    Reversible Uid.toJson Uid.decode (fun _ => True) ∧
    Reversible PackageName.toJson PackageName.decode (fun _ => True) ∧
    Reversible Package.toJson Package.decode (fun _ => True) ∧
    Reversible Safety.Data.toJson (Safety.Data.decode false) (fun _ => True) ∧
    Reversible Decision.toJson Decision.decode (fun d => d ≠ .custom 0 ∧ d ≠ .custom 1) ∧
    Reversible AccessUri.toJson AccessUri.decode fun uri => AccessUri.read uri.text = .ok uri :=
  ⟨.of_inverts UserId.decode_inverts, .of_inverts Uid.decode_inverts, .of_inverts PackageName.decode_inverts,
    .of_inverts Package.decode_inverts, .of_inverts (Safety.Data.decode_inverts false), Decision.reversible,
    AccessUri.reversible⟩

end Gatekeeper
