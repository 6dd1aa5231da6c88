import Gatekeeper.Json.Decoder

set_option autoImplicit false

namespace Gatekeeper.Json

theorem ok_bind {α β : Type} (a : α) (next : α → Except Mismatch β) : (Except.ok a >>= next) = next a := rfl

theorem exists_of_bind {α β : Type} {x : Except Mismatch α} {next : α → Except Mismatch β} {b : β}
    (result : (x >>= next) = .ok b) : ∃ a, x = .ok a ∧ next a = .ok b := by
  cases x with
  | error m => cases result
  | ok a => exact ⟨a, rfl, result⟩

def Inverts {α : Type} (decode : Decoder α) (encode : α → Json) : Prop := ∀ a, decode (encode a) = .ok a

def Fields.among (names : List String) (fields : Fields) : Fields := fields.filter fun m => names.contains m.1

theorem Fields.ofMembers_among {names : List String} {members : Fields}
    (distinct : ((Fields.among names members).map Prod.fst).Nodup) :
    Fields.ofMembers names (members.map fun m => (some m.1, m.2)) = .ok (Fields.among names members) := by
  induction members with
  | nil => rfl
  | cons m members ih =>
    obtain ⟨key, x⟩ := m
    rw [List.map_cons, Fields.ofMembers]
    cases known : names.contains key with
    | true =>
      have front : Fields.among names ((key, x) :: members) = (key, x) :: Fields.among names members :=
        List.filter_cons_of_pos known
      rw [front, List.map_cons, List.nodup_cons] at distinct
      have new : (Fields.among names members).lookup key = none := by
        rw [List.lookup_eq_none_iff]
        intro m mem
        have differs : key ≠ m.1 := fun same => distinct.1 (List.mem_map.2 ⟨m, mem, same.symm⟩)
        simpa using differs
      rw [front, ih distinct.2, ok_bind, if_pos rfl, new]
      rfl
    | false =>
      have front : Fields.among names ((key, x) :: members) = Fields.among names members :=
        List.filter_cons_of_neg (Bool.eq_false_iff.1 known)
      rw [front] at distinct
      rw [front, ih distinct, ok_bind, if_neg Bool.false_ne_true]
      rfl

theorem Fields.ofMembers_values {names : List String} {members : List (Option String × Json)} {fields : Fields}
    (collected : Fields.ofMembers names members = .ok fields) {name : String} (known : name ∈ names) :
    (members.filter fun m => m.1 = some name).map Prod.snd = (fields.lookup name).toList := by
  induction members generalizing fields with
  | nil =>
    obtain rfl : [] = fields := Except.ok.inj collected
    rfl
  | cons m members ih =>
    obtain ⟨_ | key, x⟩ := m
    · cases collected
    rw [ofMembers] at collected
    obtain ⟨later, rest, added⟩ := exists_of_bind collected
    specialize ih rest
    by_cases same : key = name
    · subst same
      have single : later.lookup key = none ∧ fields = (key, x) :: later := by
        rw [if_pos (List.contains_iff_mem.2 known)] at added
        cases repeated : later.lookup key with
        | some y => rw [repeated] at added; cases added
        | none => rw [repeated] at added; cases added; exact ⟨rfl, rfl⟩
      rw [single.1] at ih
      rw [single.2, List.filter_cons_of_pos (by simp), List.map_cons, ih]
      simp
    · have others : fields.lookup name = later.lookup name := by
        split at added
        · split at added
          · cases added
          · obtain rfl : (key, x) :: later = fields := Except.ok.inj added
            rw [List.lookup_cons, beq_eq_false_iff_ne.2 (Ne.symm same)]
        · obtain rfl : later = fields := Except.ok.inj added
          rfl
      rw [others, List.filter_cons_of_neg (by simpa using same), ih]

theorem Fields.lookup_zip {names : List String} (distinct : names.Nodup) {items : List Json} {name : String} {x : Json}
    (written : (name, x) ∈ names.zip items) : (names.zip items).lookup name = some x := by
  induction names generalizing items with
  | nil => simp at written
  | cons key names ih =>
    cases items with
    | nil => simp at written
    | cons y items =>
      rw [List.nodup_cons] at distinct
      rw [List.zip_cons_cons, List.mem_cons, Prod.mk.injEq] at written
      rw [List.zip_cons_cons, List.lookup_cons]
      obtain ⟨rfl, rfl⟩ | later := written
      · rw [beq_self_eq_true]
      · have differs : name ≠ key := fun same => distinct.1 (same ▸ (List.of_mem_zip later).1)
        rw [beq_eq_false_iff_ne.2 differs]
        exact ih distinct.2 later

/-- A record that has the known names, each once, is taken as it stands. -/
theorem Fields.of_record {names : List String} {members : List (String × Json)} (same : members.map Prod.fst = names)
    (distinct : names.Nodup) : Fields.of names (.record members) = .ok members := by
  have all : Fields.among names members = members := List.filter_eq_self.2 fun m mem => by
    simpa using same ▸ List.mem_map_of_mem mem
  have collected := Fields.ofMembers_among (all.symm ▸ same.symm ▸ distinct)
  rwa [all] at collected

section Fields

variable {α : Type} {fields : Fields} {name : String} {j : Json} {decode : Decoder α}

theorem Fields.required_of_lookup (found : fields.lookup name = some j) : fields.required name decode = decode j := by
  rw [required, found]

theorem Fields.defaulting_of_lookup {default : α} (found : fields.lookup name = some j) :
    fields.defaulting name decode default = decode j := by
  rw [defaulting, found]

end Fields

theorem Decoder.list_inverts {α : Type} {decode : Decoder α} {encode : α → Json} (item : Inverts decode encode) :
    Inverts (Decoder.list decode) fun items => .array (items.map encode) := by
  intro items
  show (items.map encode).mapM decode = _
  induction items with
  | nil => rfl
  | cons a items ih =>
    rw [List.map_cons, List.mapM_cons, item a, ih]
    rfl

theorem Decoder.item_of_list {α : Type} {decode : Decoder α} {items : List Json} {as : List α}
    (decoded : Decoder.list decode (.array items) = .ok as) : ∀ x ∈ items, ∃ a, decode x = .ok a := by
  replace decoded : items.mapM decode = .ok as := decoded
  induction items generalizing as with
  | nil => simp
  | cons x items ih =>
    rw [List.mapM_cons] at decoded
    obtain ⟨a, first, decoded⟩ := exists_of_bind decoded
    obtain ⟨_, rest, -⟩ := exists_of_bind decoded
    exact List.forall_mem_cons.2 ⟨⟨a, first⟩, ih rest⟩

end Gatekeeper.Json
