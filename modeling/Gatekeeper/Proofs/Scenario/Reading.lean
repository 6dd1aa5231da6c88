import Gatekeeper.Proofs.Scenario.Spelling

set_option autoImplicit false

namespace Gatekeeper

open Json (Fields Decoder Each Slot Written Spaced IsScalar IsHeldScalar exists_of_bind)

namespace Event

def Kind.uriNames : Kind → List String
  | setDecision | check => ["subject", "object"]
  | _ => []

/-- A tree of an event that repeats its tag or a field of its kind, or that has a text for a URI that is not read as
    one. Nothing is said about the rest of the tree. -/
inductive Faulty : Json → Prop where
  | tag {members : List (Option String × Json)} (repeated : 1 < members.countP fun m => m.1 = some tag) :
    Faulty (.object members)
  | field {members : List (Option String × Json)} {kind : Kind} {name : String}
    (tagged : (some Event.tag, .text kind.name) ∈ members) (known : name ∈ kind.fieldNames)
    (repeated : 1 < members.countP fun m => m.1 = some name) : Faulty (.object members)
  | uri {members : List (Option String × Json)} {kind : Kind} {name text : String} {e : Error}
    (tagged : (some Event.tag, .text kind.name) ∈ members) (isUri : name ∈ kind.uriNames)
    (written : (some name, .text text) ∈ members) (refused : AccessUri.read text = .error e) : Faulty (.object members)
  | uriItem {items : List Json} {kind : Kind} {name text : String} {e : Error} (isUri : name ∈ kind.uriNames)
    (written : (name, .text text) ∈ kind.fieldNames.zip items) (refused : AccessUri.read text = .error e) :
    Faulty (.array (.text kind.name :: items))

theorem kind_name_inj {kind kind' : Kind} (same : kind.name = kind'.name) : kind = kind' := by
  have found := Kind.ofName?_name kind
  rw [same, Kind.ofName?_name] at found
  exact (Option.some.inj found).symm

theorem split_object {members : List (Option String × Json)} {kind : Kind} {body : Json}
    (parted : split (.object members) = .ok (kind, body)) :
    (members.filter fun m => m.1 = some tag) = [(some tag, .text kind.name)] ∧
      body = .object (members.filter fun m => m.1 ≠ some tag) := by
  rw [split, List.partition_eq_filter_filter] at parted
  split at parted
  · next key name rest single =>
    obtain ⟨tagged, rfl⟩ := Prod.mk.inj single
    obtain ⟨kind', read, same⟩ := exists_of_bind parted
    cases same
    have isTag : key = some tag := by
      have mem : (key, name) ∈ members.filter fun m => m.1 = some tag := tagged ▸ List.mem_cons_self
      simpa using (List.mem_filter.1 mem).2
    rw [tagged, isTag, decodeKind_eq_ok_iff.1 read]
    exact ⟨rfl, by simp [Function.comp_def]⟩
  · cases parted

theorem field_values {members : List (Option String × Json)} {kind kind' : Kind} {body : Json} {fields : Fields}
    (parted : split (.object members) = .ok (kind, body)) (collected : Fields.of kind.fieldNames body = .ok fields)
    (tagged : (some tag, .text kind'.name) ∈ members) {name : String} (known : name ∈ kind'.fieldNames) :
    kind = kind' ∧ (members.filter fun m => m.1 = some name).map Prod.snd = (fields.lookup name).toList := by
  obtain ⟨single, rfl⟩ := split_object parted
  have mem : (some tag, Json.text kind'.name) ∈ members.filter fun m => m.1 = some tag :=
    List.mem_filter.2 ⟨tagged, by simp⟩
  rw [single, List.mem_singleton] at mem
  obtain rfl : kind = kind' := kind_name_inj (by simpa [Json.text] using mem.symm)
  have other : name ≠ tag := fun same => tag_not_field kind (same ▸ known)
  have untouched : ((members.filter fun m => m.1 ≠ some tag).filter fun m => m.1 = some name) =
      members.filter fun m => m.1 = some name := by
    rw [List.filter_filter]
    refine List.filter_congr fun m _ => ?_
    by_cases same : m.1 = some name <;> simp [same, other]
  rw [← untouched]
  exact ⟨rfl, Fields.ofMembers_values collected known⟩

theorem ofFields_uri {fields : Fields} {kind : Kind} {e : Event} (built : ofFields fields kind = .ok e) {name : String}
    (isUri : name ∈ kind.uriNames) {text : String} (written : fields.lookup name = some (.text text)) (error : Error) :
    AccessUri.read text ≠ .error error := by
  have required : ∃ uri, fields.required name AccessUri.decode = .ok uri := by
    cases kind with
    | setDecision | check =>
      rw [ofFields] at built
      obtain ⟨subject, first, built⟩ := exists_of_bind built
      obtain ⟨object, second, -⟩ := exists_of_bind built
      simp only [Kind.uriNames, List.mem_cons, List.not_mem_nil, or_false] at isUri
      obtain rfl | rfl := isUri
      · exact ⟨subject, first⟩
      · exact ⟨object, second⟩
    | _ => simp [Kind.uriNames] at isUri
  obtain ⟨uri, decoded⟩ := required
  rw [Fields.required_of_lookup written, AccessUri.decode, AccessUri.uri_text] at decoded
  intro refused
  rw [AccessUri.read] at refused
  cases parsed : AccessUri.parse text with
  | error fault => rw [parsed] at decoded; cases decoded
  | ok found => rw [parsed] at refused; cases refused

theorem uriNames_subset (kind : Kind) : kind.uriNames ⊆ kind.fieldNames := by
  cases kind <;> decide

theorem not_faulty_of_decode {j : Json} {e : Event} (decoded : decode j = .ok e) : ¬Faulty j := by
  obtain ⟨⟨kind, body⟩, parted, decoded⟩ := exists_of_bind decoded
  obtain ⟨fields, collected, built⟩ := exists_of_bind decoded
  intro faulty
  cases faulty with
  | tag repeated =>
    rw [List.countP_eq_length_filter, (split_object parted).1] at repeated
    exact Nat.lt_irrefl 1 repeated
  | @field members kind' name tagged known repeated =>
    obtain ⟨-, values⟩ := field_values parted collected tagged known
    have least := congrArg List.length values
    rw [List.length_map, ← List.countP_eq_length_filter] at least
    have most := (fields.lookup name).length_toList_le
    omega
  | @uri members kind' name text error tagged isUri written refused =>
    obtain ⟨rfl, values⟩ := field_values parted collected tagged (uriNames_subset kind' isUri)
    have found : Json.text text ∈ (fields.lookup name).toList :=
      values ▸ List.mem_map.2 ⟨_, List.mem_filter.2 ⟨written, by simp⟩, rfl⟩
    exact ofFields_uri built isUri (Option.mem_toList.1 found) error refused
  | @uriItem items kind' name text error isUri written refused =>
    rw [split_items] at parted
    cases parted
    have fields_eq : kind.fieldNames.zip items = fields := by
      replace collected : Fields.ofItems kind.fieldNames items = .ok fields := collected
      rw [Fields.ofItems] at collected
      split at collected
      · exact Except.ok.inj collected
      · cases collected
    have found := Fields.lookup_zip (fieldNames_nodup kind) written
    rw [fields_eq] at found
    exact ofFields_uri built isUri found error refused

end Event

namespace Scenario

/-- A text whose tree spells the events one by one. What members of other names may hold is up to `extra`. -/
def Renders (extra : Json → Prop) (events : List Event) (text : String) : Prop :=
  ∃ j, Each (Event.Spelled extra) events j ∧ Spaced j text.toList

/-- A text of an array that has a faulty event somewhere. -/
def Flawed (text : String) : Prop := ∃ items, Spaced (.array items) text.toList ∧ ∃ item ∈ items, Event.Faulty item

theorem parse_refused {text : String} {e : Error} (refused : parse text = .error e) :
    ∃ detail, e = .invalidInput detail := by
  unfold parse at refused
  split at refused
  · split at refused
    · split at refused
      · cases refused
      · next m _ =>
        cases refused
        cases m with
        | malformed => exact ⟨_, rfl⟩
        | uri text fault => exact ⟨_, rfl⟩
    · cases refused; exact ⟨_, rfl⟩
  · cases refused; exact ⟨_, rfl⟩

theorem decoded_of_parse {text : String} {j : Json} {events : List Event} (spaced : Spaced j text.toList)
    (result : parse text = .ok events) : Decoder.list Event.decode j = .ok events := by
  rw [parse, Json.parse_spaced spaced] at result
  simp only at result
  split at result
  · cases decoded : Decoder.list Event.decode j with
    | error m => rw [decoded] at result; cases result
    | ok found => rw [decoded] at result; exact congrArg Except.ok (Except.ok.inj result)
  · cases result

theorem parse_renders {events : List Event} {text : String} (renders : Renders IsHeldScalar events text) :
    parse text = .ok events := by
  obtain ⟨j, spelled, spaced⟩ := renders
  have list := (Event.reads fun _ => IsHeldScalar.representable).list
  have held := (list.mono (by decide : 8 + 1 ≤ Json.nestingLimit)).held spelled
  rw [parse, Json.parse_spaced spaced]
  simp only [held, if_true, list.decoded spelled]

theorem parse_flawed {text : String} (flawed : Flawed text) : ∃ detail, parse text = .error (.invalidInput detail) := by
  obtain ⟨items, spaced, item, mem, faulty⟩ := flawed
  cases result : parse text with
  | error e =>
    obtain ⟨detail, rfl⟩ := parse_refused result
    exact ⟨detail, rfl⟩
  | ok events =>
    obtain ⟨e, decoded⟩ := Decoder.item_of_list (decoded_of_parse spaced result) item mem
    exact absurd faulty (Event.not_faulty_of_decode decoded)

theorem exists_renders {extra : Json → Prop} {events : List Event} (writable : ∀ e ∈ events, e.Writable) :
    ∃ text, Renders extra events text := by
  have spelled : ∃ xs, List.Forall₂ (Event.Spelled extra) events xs := by
    induction events with
    | nil => exact ⟨[], .nil⟩
    | cons e events ih =>
      obtain ⟨first, rest⟩ := List.forall_mem_cons.1 writable
      obtain ⟨x, spelled⟩ := first.exists_spelled
      obtain ⟨xs, each⟩ := ih rest
      exact ⟨x :: xs, .cons spelled each⟩
  obtain ⟨xs, each⟩ := spelled
  exact ⟨_, .array xs, ⟨xs, rfl, each⟩, Json.compact_spaced _⟩

/-- Every text that renders some events is read as these events, if what members of other names hold are scalars that can
    be held: each event may be an object in any order or an array, a field that holds its default may be left out, the
    safety data may be written in as many ways, and blanks and escapes are free. Such a text exists if the URIs are read
    back from their written forms and the decisions come from codes. A text in which the tag or a field of an event is
    repeated, or a URI is no URI, is refused as invalid input. -/
theorem parse_rendering :
    (∀ events text, Renders IsHeldScalar events text → parse text = .ok events) ∧
    (∀ events, (∀ e ∈ events, Event.Writable e) → ∃ text, Renders IsHeldScalar events text) ∧
    ∀ text, Flawed text → ∃ detail, parse text = .error (.invalidInput detail) :=
  ⟨fun _ _ => parse_renders, fun _ => exists_renders, fun _ => parse_flawed⟩

/-- A check with its fields in reverse and its tag last, behind members of another name that is repeated, and without what
    it expects; and a package and a status as arrays. -/
def unorderly : Json := .array [
  .record [("x", .null), ("x", .bool true), ("object", .text "permission:p"), ("subject", .text "uid:+007"),
    ("event", .text "check")],
  .array [.text "add_package", .text "pkg.a", .nat 7],
  .record [("data", .record [("status", .array [.text "v"])]), ("event", .text "publish"), ("user_id", .nat 0)]]

def stray : Json := .array [.array [.text "set_decision", .text "uid", .text "permission:p", .nat 1]]

theorem parse_rendering_unorderly :
    parse unorderly.compact = .ok [
      .check (.uid ⟨7⟩) (.permission "p") none,
      .addPackage { name := ⟨"pkg.a"⟩, appId := ⟨7⟩ },
      .publish ⟨0⟩ { status := { title := "v" } }] ∧
    (∃ text, Renders IsHeldScalar [.setDecision (.uid ⟨7⟩) (.permission "p") (.custom 5)] text) ∧
    ∃ detail, parse stray.compact = .error (.invalidInput detail) := by
  have check : (Event.check (.uid ⟨7⟩) (.permission "p") none).Spelled IsHeldScalar (.record [
      ("x", .null), ("x", .bool true), ("object", .text "permission:p"), ("subject", .text "uid:+007"),
      ("event", .text "check")]) := by
    have fields : Written (Event.taggedSlots IsHeldScalar (.check (.uid ⟨7⟩) (.permission "p") none))
        [("event", .text "check"), ("subject", .text "uid:+007"), ("object", .text "permission:p")] :=
      .field rfl (.field ⟨_, rfl, AccessUri.read_eq_ok_iff.1 rfl⟩
        (.field ⟨_, rfl, AccessUri.read_eq_ok_iff.1 rfl⟩ (.left rfl .nil)))
    have scalars : ∀ m ∈ [("x", .bool true), ("x", Json.null)], IsHeldScalar m.2 := by
      simpa using ⟨.bool true, .null⟩
    exact .object fields (by decide) scalars (List.reverse_perm [_, _, _, _, _])
  have package : (Event.addPackage { name := ⟨"pkg.a"⟩, appId := ⟨7⟩ }).Spelled IsHeldScalar
      (.array [.text "add_package", .text "pkg.a", .nat 7]) :=
    .array (.cons rfl (.cons rfl (.cons rfl (.nil (by simp [Slot.defaulted])))))
  have publish : (Event.publish ⟨0⟩ { status := { title := "v" } }).Spelled IsHeldScalar (.record [
      ("data", .record [("status", .array [.text "v"])]), ("event", .text "publish"), ("user_id", .nat 0)]) := by
    have status : Safety.Status.Spelled IsHeldScalar { title := "v" } (.array [.text "v"]) :=
      .array (.cons rfl (.nil (by simp [Slot.defaulted])))
    have inner : Written (Safety.Data.slots IsHeldScalar { status := { title := "v" } })
        [("status", .array [.text "v"])] := .field status (.left rfl (.left rfl (.left rfl (.left rfl .nil))))
    have data : Safety.Data.Spelled IsHeldScalar { status := { title := "v" } }
        (.record [("status", .array [.text "v"])]) := .object inner (by simp) (by simp) (.refl _)
    have fields : Written (Event.taggedSlots IsHeldScalar (.publish ⟨0⟩ { status := { title := "v" } }))
        [("event", .text "publish"), ("user_id", .nat 0), ("data", .record [("status", .array [.text "v"])])] :=
      .field rfl (.field rfl (.field data .nil))
    exact .object fields (by simp) (by simp) (List.perm_append_singleton _ [_, _]).symm
  have fault : Event.Faulty (.array [.text "set_decision", .text "uid", .text "permission:p", .nat 1]) := by
    have written : ("subject", Json.text "uid") ∈ Event.Kind.setDecision.fieldNames.zip
        [.text "uid", .text "permission:p", .nat 1] := List.mem_cons_self
    exact .uriItem (by decide) written rfl
  have renders : Renders IsHeldScalar _ unorderly.compact :=
    ⟨_, ⟨_, rfl, .cons check (.cons package (.cons publish .nil))⟩, Json.compact_spaced unorderly⟩
  have flawed : Flawed stray.compact := ⟨_, Json.compact_spaced stray, _, List.mem_singleton_self _, fault⟩
  have writable : Event.Writable (.setDecision (.uid ⟨7⟩) (.permission "p") (.custom 5)) := ⟨rfl, rfl, 5, rfl⟩
  obtain ⟨read, written, refused⟩ := parse_rendering
  exact ⟨read _ _ renders, written _ (List.forall_mem_singleton.2 writable), refused _ flawed⟩

def burdened (x : Json) : Json := .array [.record [("event", .text "add_user"), ("user_id", .nat 0), ("x", x)]]

theorem burdened_renders {x : Json} (scalar : IsScalar x) : Renders IsScalar [.addUser ⟨0⟩] (burdened x).compact := by
  have fields : Written (Event.taggedSlots IsScalar (.addUser ⟨0⟩)) [("event", .text "add_user"), ("user_id", .nat 0)] :=
    .field rfl (.field rfl .nil)
  have other : "x" ∉ (Event.taggedSlots IsScalar (.addUser ⟨0⟩)).map Slot.name := by decide
  have spelled : (Event.addUser ⟨0⟩).Spelled IsScalar
      (.record [("event", .text "add_user"), ("user_id", .nat 0), ("x", x)]) :=
    .object fields (List.forall_mem_singleton.2 other) (List.forall_mem_singleton.2 scalar) (.refl _)
  exact ⟨_, ⟨_, rfl, .cons spelled .nil⟩, Json.compact_spaced _⟩

theorem parse_unrepresentable {j : Json} (unheld : j.isRepresentable Json.nestingLimit = false) :
    parse j.compact = .error (.invalidInput malformed) := by
  rw [parse, Json.parse_compact]
  simp only [unheld, Bool.false_eq_true, if_false]

/-- A number just below the largest finite one, written so that its significand rounds up. -/
def roundedUp : Numeral := ⟨false, 1797693134862315700, [], some 290⟩

/-- A number that is too large, or too large once it is rounded, and a string that spells no text are scalars, but no
    part of a text that is read, although nothing depends on them; nor is a name that spells no text. -/
theorem parse_burdened :
    Renders IsScalar [.addUser ⟨0⟩] (burdened (.number ⟨false, 1, [], some 999⟩)).compact ∧
    parse (burdened (.number ⟨false, 1, [], some 999⟩)).compact = .error (.invalidInput malformed) ∧
    Renders IsScalar [.addUser ⟨0⟩] (burdened (.number roundedUp)).compact ∧
    parse (burdened (.number roundedUp)).compact = .error (.invalidInput malformed) ∧
    Renders IsScalar [.addUser ⟨0⟩] (burdened (.string none)).compact ∧
    parse (burdened (.string none)).compact = .error (.invalidInput malformed) ∧
    parse (Json.array [.object [(some "event", .text "add_user"), (some "user_id", .nat 0), (none, .nat 1)]]).compact =
      .error (.invalidInput malformed) :=
  ⟨burdened_renders (.number _), parse_unrepresentable (by decide +kernel),
    burdened_renders (.number _), parse_unrepresentable (by decide +kernel),
    burdened_renders (.string _), parse_unrepresentable (by decide +kernel),
    parse_unrepresentable (by decide +kernel)⟩

end Scenario
end Gatekeeper
