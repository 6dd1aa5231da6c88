import Mathlib.Data.List.Forall2
import Gatekeeper.Proofs.Json.Decoder
import Gatekeeper.Proofs.Json.Range

/-!
# Trees of a record

A record may be written in many ways: as an object that has its fields in any order, among members of other names, or as
the array of its fields in order; and a field that holds its default may be left out. These trees are described by the
slots of the record, and a decoder finds in each of them what the slots ask for. So a decoder of records reads all of
their trees once it does for each field.
-/

set_option autoImplicit false

namespace Gatekeeper.Json

/-- A field that a record is to have: its name, the trees its value may be written as, and whether it may be left out. -/
structure Slot where
  name : String
  spells : Json → Prop
  optional : Prop

namespace Slot

variable {α : Type}

def needed (name : String) (spells : α → Json → Prop) (a : α) : Slot := ⟨name, spells a, False⟩

def defaulted (name : String) (spells : α → Json → Prop) (a default : α) : Slot := ⟨name, spells a, default = a⟩

/-- What some fields say about a slot is right. -/
def FoundIn (slot : Slot) (fields : Fields) : Prop :=
  match fields.lookup slot.name with
  | some x => slot.spells x
  | none => slot.optional

end Slot

inductive Written : List Slot → Fields → Prop where
  | nil : Written [] []
  | field {slot : Slot} {slots : List Slot} {x : Json} {fields : Fields} (spelled : slot.spells x)
    (rest : Written slots fields) : Written (slot :: slots) ((slot.name, x) :: fields)
  | left {slot : Slot} {slots : List Slot} {fields : Fields} (optional : slot.optional) (rest : Written slots fields) :
    Written (slot :: slots) fields

/-- The values of some slots in order. Only trailing ones may be left out. -/
inductive Sequence : List Slot → List Json → Prop where
  | nil {slots : List Slot} (optional : ∀ slot ∈ slots, slot.optional) : Sequence slots []
  | cons {slot : Slot} {slots : List Slot} {x : Json} {items : List Json} (spelled : slot.spells x)
    (rest : Sequence slots items) : Sequence (slot :: slots) (x :: items)

/-- The trees of a record with the given slots. Members of other names may hold whatever `extra` allows. -/
inductive IsRecord (extra : Json → Prop) (slots : List Slot) : Json → Prop where
  | object {fields others members : Fields} (written : Written slots fields)
    (unknown : ∀ m ∈ others, m.1 ∉ slots.map Slot.name) (allowed : ∀ m ∈ others, extra m.2)
    (anyOrder : members.Perm (fields ++ others)) : IsRecord extra slots (.record members)
  | array {items : List Json} (sequence : Sequence slots items) : IsRecord extra slots (.array items)

theorem IsRecord.plain {extra : Json → Prop} {slots : List Slot} {fields : Fields} (written : Written slots fields) :
    IsRecord extra slots (.record fields) :=
  .object written (fun _ mem => absurd mem List.not_mem_nil) (fun _ mem => absurd mem List.not_mem_nil)
    (by rw [List.append_nil])

theorem Written.names {slots : List Slot} {fields : Fields} (written : Written slots fields) :
    (fields.map Prod.fst).Sublist (slots.map Slot.name) := by
  induction written with
  | nil => exact .slnil
  | field _ _ ih => exact ih.cons_cons _
  | left _ _ ih => exact ih.cons _

theorem lookup_eq_some_iff {fields : Fields} (distinct : (fields.map Prod.fst).Nodup) {name : String} {x : Json} :
    fields.lookup name = some x ↔ (name, x) ∈ fields := by
  induction fields with
  | nil => simp
  | cons field fields ih =>
    obtain ⟨key, y⟩ := field
    rw [List.map_cons, List.nodup_cons] at distinct
    rw [List.lookup_cons, List.mem_cons]
    by_cases same : name = key
    · subst same
      have absent : (name, x) ∉ fields := fun mem => distinct.1 (List.mem_map.2 ⟨_, mem, rfl⟩)
      simp [absent, eq_comm]
    · have differs : (name == key) = false := beq_eq_false_iff_ne.2 same
      simp [differs, same, ih distinct.2]

theorem lookup_perm {fields fields' : Fields} (distinct : (fields'.map Prod.fst).Nodup) (perm : fields.Perm fields')
    (name : String) : fields.lookup name = fields'.lookup name := by
  have distinct' : (fields.map Prod.fst).Nodup := (perm.map Prod.fst).nodup_iff.2 distinct
  refine Option.ext fun x => ?_
  rw [lookup_eq_some_iff distinct', lookup_eq_some_iff distinct, perm.mem_iff]

theorem Written.found {slots : List Slot} {fields : Fields} (written : Written slots fields)
    (distinct : (slots.map Slot.name).Nodup) : ∀ slot ∈ slots, slot.FoundIn fields := by
  induction written with
  | nil => exact fun _ mem => absurd mem List.not_mem_nil
  | @field slot slots x fields spelled rest ih =>
    rw [List.map_cons, List.nodup_cons] at distinct
    rw [List.forall_mem_cons]
    constructor
    · simpa [Slot.FoundIn] using spelled
    · intro other mem
      have differs : other.name ≠ slot.name := fun same => distinct.1 (same ▸ List.mem_map_of_mem mem)
      have found := ih distinct.2 other mem
      rwa [Slot.FoundIn, List.lookup_cons, beq_eq_false_iff_ne.2 differs]
  | @left slot slots fields optional rest ih =>
    rw [List.map_cons, List.nodup_cons] at distinct
    rw [List.forall_mem_cons]
    refine ⟨?_, ih distinct.2⟩
    have absent : fields.lookup slot.name = none := by
      rw [List.lookup_eq_none_iff]
      intro m mem
      have differs : slot.name ≠ m.1 := fun same =>
        distinct.1 (same ▸ rest.names.subset (List.mem_map_of_mem mem))
      simpa using differs
    simpa [Slot.FoundIn, absent] using optional

theorem Sequence.written {slots : List Slot} {items : List Json} (sequence : Sequence slots items) :
    items.length ≤ slots.length ∧ Written slots ((slots.map Slot.name).zip items) := by
  induction sequence with
  | @nil slots optional =>
    refine ⟨Nat.zero_le _, ?_⟩
    rw [List.zip_nil_right]
    induction slots with
    | nil => exact .nil
    | cons slot slots ih =>
      rw [List.forall_mem_cons] at optional
      exact .left optional.1 (ih optional.2)
  | cons spelled _ ih => exact ⟨Nat.succ_le_succ ih.1, .field spelled ih.2⟩

theorem IsRecord.fields {extra : Json → Prop} {slots : List Slot} {j : Json} (isRecord : IsRecord extra slots j)
    (distinct : (slots.map Slot.name).Nodup) :
    ∃ fields, Fields.of (slots.map Slot.name) j = .ok fields ∧ ∀ slot ∈ slots, slot.FoundIn fields := by
  cases isRecord with
  | @object fields others members written unknown allowed anyOrder =>
    have mine : fields.filter (fun m => (slots.map Slot.name).contains m.1) = fields := by
      rw [List.filter_eq_self]
      intro m mem
      simpa using written.names.subset (List.mem_map_of_mem mem)
    have notMine : others.filter (fun m => (slots.map Slot.name).contains m.1) = [] := by
      rw [List.filter_eq_nil_iff]
      intro m mem
      simpa using unknown m mem
    -- the known names pick out the written fields, in whatever order they stand
    have kept : (Fields.among (slots.map Slot.name) members).Perm fields := by
      have filtered := anyOrder.filter fun m => (slots.map Slot.name).contains m.1
      rwa [List.filter_append, mine, notMine, List.append_nil] at filtered
    have once : (fields.map Prod.fst).Nodup := written.names.nodup distinct
    refine ⟨_, Fields.ofMembers_among ((kept.map Prod.fst).nodup_iff.2 once), fun slot mem => ?_⟩
    have found := written.found distinct slot mem
    rwa [Slot.FoundIn, lookup_perm once kept]
  | @array items sequence =>
    obtain ⟨short, written⟩ := sequence.written
    have fits : items.length ≤ (slots.map Slot.name).length := by rwa [List.length_map]
    exact ⟨_, if_pos fits, written.found distinct⟩

variable {α : Type} {decode : Decoder α} {spells : α → Json → Prop} {depth : Nat}

/-- A decoder reads every tree that a value may be written as, and these trees have a limited depth. -/
structure Reads (decode : Decoder α) (spells : α → Json → Prop) (depth : Nat) : Prop where
  decoded : ∀ {a : α} {j : Json}, spells a j → decode j = .ok a
  held : ∀ {a : α} {j : Json}, spells a j → j.isRepresentable depth = true

theorem Reads.mono (reads : Reads decode spells depth) {depth' : Nat} (less : depth ≤ depth') :
    Reads decode spells depth' where
  decoded := reads.decoded
  held spelled := isRepresentable_mono less (reads.held spelled)

def Exactly (encode : α → Json) (a : α) (j : Json) : Prop := j = encode a

theorem Reads.of_inverts {encode : α → Json} (inverts : Inverts decode encode)
    (held : ∀ a, (encode a).isRepresentable depth = true) : Reads decode (Exactly encode) depth where
  decoded := by
    rintro a j rfl
    exact inverts a
  held := by
    rintro a j rfl
    exact held a

theorem text_reads : Reads Decoder.string (Exactly Json.text) 0 := .of_inverts (fun _ => rfl) fun _ => rfl

def Each (spells : α → Json → Prop) (items : List α) (j : Json) : Prop :=
  ∃ xs, j = .array xs ∧ List.Forall₂ spells items xs

theorem Each.map {encode : α → Json} (spelled : ∀ a, spells a (encode a)) (items : List α) :
    Each spells items (.array (items.map encode)) := by
  refine ⟨_, rfl, ?_⟩
  rw [List.forall₂_map_right_iff, List.forall₂_same]
  exact fun a _ => spelled a

theorem Reads.list (item : Reads decode spells depth) : Reads (Decoder.list decode) (Each spells) (depth + 1) where
  decoded := by
    rintro items j ⟨xs, rfl, each⟩
    show xs.mapM decode = _
    induction each with
    | nil => rfl
    | cons spelled _ ih =>
      rw [List.mapM_cons, item.decoded spelled, ih]
      rfl
  held := by
    rintro items j ⟨xs, rfl, each⟩
    rw [array_isRepresentable]
    induction each with
    | nil => simp
    | cons spelled _ ih => exact List.forall_mem_cons.2 ⟨item.held spelled, ih⟩

inductive Maybe (spells : α → Json → Prop) : Option α → Json → Prop where
  | none : Maybe spells none .null
  | some {a : α} {j : Json} (spelled : spells a j) : Maybe spells (some a) j

theorem Reads.optional (item : Reads decode spells depth) (refused : decode .null = .error .malformed) :
    Reads (Decoder.optional decode) (Maybe spells) depth where
  decoded := by
    rintro a j (_ | spelled)
    · rfl
    · have decoded := item.decoded spelled
      cases j with
      | null => simp [refused] at decoded
      | _ => simp [Decoder.optional, decoded, Except.map]
  held := by
    rintro a j (_ | spelled)
    · exact isRepresentable_mono (Nat.zero_le depth) rfl
    · exact item.held spelled

/-- Written as a name, or as an object where null has that name. -/
inductive Chosen (name : String) : Json → Prop where
  | alone : Chosen name (.text name)
  | key : Chosen name (.record [(name, .null)])

theorem Reads.choice {held : Bool} {choices : List (String × α)} {name : α → String}
    (listed : ∀ a, choices.lookup (name a) = some a) :
    Reads (Decoder.choice held choices) (fun a => Chosen (name a)) 1 where
  decoded := by
    rintro a j (_ | _)
    · have alone : Decoder.string (.string (some (name a))) = .ok (name a) := rfl
      simp only [Decoder.choice, text, alone, ok_bind, listed]
      rfl
    · simp only [Decoder.choice, record, List.map_cons, List.map_nil, pure_bind, listed]
      rfl
  held := by
    rintro a j (_ | _)
    · rfl
    · rfl

section Field

variable {name : String} {a default : α} {fields : Fields}

theorem Fields.required_reads (found : (Slot.needed name spells a).FoundIn fields) (reads : Reads decode spells depth) :
    fields.required name decode = .ok a := by
  rw [Slot.needed, Slot.FoundIn] at found
  rw [required]
  cases present : fields.lookup name with
  | none => simp [present] at found
  | some x => exact reads.decoded (by simpa [present] using found)

theorem Fields.defaulting_reads (found : (Slot.defaulted name spells a default).FoundIn fields)
    (reads : Reads decode spells depth) : fields.defaulting name decode default = .ok a := by
  rw [Slot.defaulted, Slot.FoundIn] at found
  rw [defaulting]
  cases present : fields.lookup name with
  | none => exact congrArg Except.ok (by simpa [present] using found)
  | some x => exact reads.decoded (by simpa [present] using found)

def Slot.Fits (slot : Slot) (room : Nat) : Prop := ∀ x, slot.spells x → x.isRepresentable room = true

theorem Slot.needed_fits (reads : Reads decode spells depth) {room : Nat} (less : depth ≤ room) :
    (needed name spells a).Fits room := fun _ => (reads.mono less).held

theorem Slot.defaulted_fits (reads : Reads decode spells depth) {room : Nat} (less : depth ≤ room) :
    (defaulted name spells a default).Fits room := fun _ => (reads.mono less).held

end Field

theorem Written.held {slots : List Slot} {fields : Fields} (written : Written slots fields)
    (fit : ∀ slot ∈ slots, slot.Fits depth) : ∀ m ∈ fields, m.2.isRepresentable depth = true := by
  induction written with
  | nil => simp
  | field spelled _ ih =>
    rw [List.forall_mem_cons] at fit ⊢
    exact ⟨fit.1 _ spelled, ih fit.2⟩
  | left _ _ ih => exact ih (List.forall_mem_cons.1 fit).2

theorem Sequence.held {slots : List Slot} {items : List Json} (sequence : Sequence slots items)
    (fit : ∀ slot ∈ slots, slot.Fits depth) : ∀ x ∈ items, x.isRepresentable depth = true := by
  induction sequence with
  | nil => simp
  | cons spelled _ ih =>
    rw [List.forall_mem_cons] at fit ⊢
    exact ⟨fit.1 _ spelled, ih fit.2⟩

theorem IsRecord.held {extra : Json → Prop} {slots : List Slot} {j : Json} (isRecord : IsRecord extra slots j)
    (scalars : ∀ x, extra x → x.isRepresentable 0 = true) (fit : ∀ slot ∈ slots, slot.Fits depth) :
    j.isRepresentable (depth + 1) = true := by
  cases isRecord with
  | object written unknown allowed anyOrder =>
    rw [record_isRepresentable]
    intro m mem
    obtain mine | other := List.mem_append.1 (anyOrder.mem_iff.1 mem)
    · exact written.held fit m mine
    · exact isRepresentable_mono (Nat.zero_le depth) (scalars _ (allowed m other))
  | array sequence =>
    rw [array_isRepresentable]
    exact sequence.held fit

/-- A decoder that builds a value from the fields it finds reads all trees of the record, if the fields that the slots
    describe are enough to build the value. -/
theorem IsRecord.build {extra : Json → Prop} {slots : List Slot} {j : Json} (isRecord : IsRecord extra slots j)
    {names : List String} (named : slots.map Slot.name = names) (distinct : names.Nodup)
    {build : Fields → Except Mismatch α} {a : α}
    (built : ∀ fields, (∀ slot ∈ slots, slot.FoundIn fields) → build fields = .ok a) :
    (Fields.of names j >>= build) = .ok a := by
  subst named
  obtain ⟨fields, collected, found⟩ := isRecord.fields distinct
  rw [collected, ok_bind, built fields found]

theorem Reads.record {extra : Json → Prop} {names : List String} {build : Fields → Except Mismatch α}
    {slots : α → List Slot} (named : ∀ a, (slots a).map Slot.name = names) (distinct : names.Nodup)
    (scalars : ∀ x, extra x → x.isRepresentable 0 = true) (fit : ∀ a, ∀ slot ∈ slots a, slot.Fits depth)
    (built : ∀ a fields, (∀ slot ∈ slots a, slot.FoundIn fields) → build fields = .ok a) :
    Reads (fun j => Fields.of names j >>= build) (fun a => IsRecord extra (slots a)) (depth + 1) where
  decoded isRecord := isRecord.build (named _) distinct (built _)
  held isRecord := isRecord.held scalars (fit _)

end Gatekeeper.Json
