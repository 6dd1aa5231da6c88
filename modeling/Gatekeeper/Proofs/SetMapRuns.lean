import Mathlib.Data.List.Induction
import Gatekeeper.Ident
import Gatekeeper.Proofs.SetMap

set_option autoImplicit false

namespace Gatekeeper.SetMap

inductive Change (κ ν : Type) where
  | relate (k : κ) (v : ν)
  | unrelate (k : κ) (v : ν)
  deriving DecidableEq, Repr

variable {κ ν : Type}

def Change.key : Change κ ν → κ
  | relate k _ | unrelate k _ => k

/-- A key was related to a value and has not been unrelated from it since. -/
def Related (changes : List (Change κ ν)) (k : κ) (v : ν) : Prop :=
  ∃ before after, changes = before ++ .relate k v :: after ∧ .unrelate k v ∉ after

theorem related_concat (changes : List (Change κ ν)) (c : Change κ ν) (k : κ) (v : ν) :
    Related (changes ++ [c]) k v ↔ c = .relate k v ∨ Related changes k v ∧ c ≠ .unrelate k v := by
  constructor
  · rintro ⟨before, after, history, kept⟩
    -- The pair was related by the last change or before it.
    rcases List.eq_nil_or_concat after with rfl | ⟨earlier, last, rfl⟩
    · obtain ⟨-, same⟩ := List.append_inj' history rfl
      exact .inl (List.singleton_inj.1 same)
    · rw [List.concat_eq_append, ← List.cons_append, ← List.append_assoc] at history
      obtain ⟨rfl, same⟩ := List.append_inj' history rfl
      obtain rfl := List.singleton_inj.1 same
      rw [List.concat_eq_append, List.mem_append, List.mem_singleton, not_or] at kept
      exact .inr ⟨⟨before, earlier, rfl, kept.1⟩, Ne.symm kept.2⟩
  · rintro (rfl | ⟨⟨before, after, rfl, kept⟩, other⟩)
    · exact ⟨changes, [], rfl, List.not_mem_nil⟩
    · refine ⟨before, after ++ [c], by simp, ?_⟩
      rw [List.mem_append, List.mem_singleton, not_or]
      exact ⟨kept, Ne.symm other⟩

variable [Ord κ] [Ord ν] [Std.TransOrd κ] [Std.TransOrd ν]

def Change.apply (m : SetMap κ ν) : Change κ ν → SetMap κ ν
  | relate k v => m.relate k v
  | unrelate k v => m.unrelate k v

def run (changes : List (Change κ ν)) : SetMap κ ν := changes.foldl Change.apply ∅

theorem run_concat (changes : List (Change κ ν)) (c : Change κ ν) : run (changes ++ [c]) = c.apply (run changes) := by
  rw [run, List.foldl_append]
  rfl

variable [Std.LawfulEqOrd κ]

theorem Change.apply_get?_ne (c : Change κ ν) (m : SetMap κ ν) {j : κ} (other : j ≠ c.key) :
    (c.apply m).get? j = m.get? j := by
  cases c with
  | relate k v => exact SortedMap.get?_insert_ne m _ other
  | unrelate k v => exact unrelate_get?_ne m v other

variable [Std.LawfulEqOrd ν]

theorem Change.apply_noneEmpty (c : Change κ ν) {m : SetMap κ ν} (h : NoneEmpty m) : NoneEmpty (c.apply m) := by
  cases c with
  | relate k v => exact relate_noneEmpty h k v
  | unrelate k v => exact unrelate_noneEmpty h k v

theorem Change.apply_holds (c : Change κ ν) (m : SetMap κ ν) (k : κ) (v : ν) :
    holds (c.apply m) k v ↔ c = .relate k v ∨ holds m k v ∧ c ≠ .unrelate k v := by
  cases c with
  | relate j w =>
    simp only [apply, relate_holds, relate.injEq, ne_eq, reduceCtorEq, not_false_eq_true, and_true,
      eq_comm (a := j), eq_comm (a := w)]
  | unrelate j w =>
    simp only [apply, unrelate_holds, unrelate.injEq, ne_eq, reduceCtorEq, false_or, eq_comm (a := j), eq_comm (a := w)]

theorem run_noneEmpty (changes : List (Change κ ν)) : NoneEmpty (run changes) := by
  induction changes using List.reverseRecOn with
  | nil => exact noneEmpty_empty
  | append_singleton changes c ih =>
    rw [run_concat]
    exact c.apply_noneEmpty ih

theorem run_holds (changes : List (Change κ ν)) (k : κ) (v : ν) : holds (run changes) k v ↔ Related changes k v := by
  induction changes using List.reverseRecOn with
  | nil => simp [run, holds, Related]
  | append_singleton changes c ih => rw [run_concat, c.apply_holds, related_concat, ih]

/-- After any changes of an empty map, its contents are exactly the pairs that were related and have not been unrelated
    since, `holds` decides which these are, and no key is left without values. The next pair creates its key exactly if
    nothing was related to the key. The next removal takes its pair out exactly if the pair was related, and empties the
    key exactly if that was the only pair of the key. No change touches the values of another key. -/
theorem run_relation (changes : List (Change κ ν)) :
    let m := run changes
    (∀ k v, (k, v) ∈ m.cells.map (·.1) ↔ Related changes k v) ∧
    (∀ k v, holds m k v = true ↔ Related changes k v) ∧
    (∀ k values, m.get? k = some values → values.isEmpty = false) ∧
    (∀ k, creates m k = true ↔ ∀ v, ¬Related changes k v) ∧
    (∀ k v, ((removal m k v).removed = true ↔ Related changes k v) ∧
      ((removal m k v).emptied = true ↔ Related changes k v ∧ ∀ w, Related changes k w → w = v) ∧
      ((removal m k v).emptied = true → (removal m k v).removed = true)) ∧
    ∀ (c : Change κ ν) (j : κ), j ≠ c.key → (c.apply m).get? j = m.get? j := by
  intro m
  have nonempty : NoneEmpty m := run_noneEmpty changes
  simp only [← run_holds]
  refine ⟨mem_places_iff m, fun _ _ => .rfl, nonempty, nonempty.creates_iff, fun k v => ?_, ?_⟩
  · rw [removal_removed, nonempty.emptied_iff]
    exact ⟨.rfl, .rfl, And.left⟩
  · exact fun c j => c.apply_get?_ne m

/-- One of two packages of an application identifier is taken out, and a third in vain: the one that is left is the last
    of the identifier, and its removal leaves the other identifier alone. -/
theorem run_relation_last :
    let changes : List (Change AppId PackageName) :=
      [.relate ⟨10⟩ ⟨"camera"⟩, .relate ⟨10⟩ ⟨"gallery"⟩, .relate ⟨20⟩ ⟨"mail"⟩, .unrelate ⟨10⟩ ⟨"camera"⟩,
        .unrelate ⟨10⟩ ⟨"mail"⟩]
    let m := run changes
    let left : SortedSet PackageName := SortedMap.add ∅ ⟨"gallery"⟩
    let gone : Change AppId PackageName := .unrelate ⟨10⟩ ⟨"gallery"⟩
    (⟨10⟩, ⟨"gallery"⟩) ∈ m.cells.map (·.1) ∧ ¬Related changes ⟨10⟩ ⟨"camera"⟩ ∧
      (m.get? ⟨10⟩ = some left ∧ left.isEmpty = false) ∧
      (∀ name, ¬Related changes ⟨30⟩ name) ∧
      ((removal m ⟨10⟩ ⟨"gallery"⟩).emptied = true ∧ (removal m ⟨10⟩ ⟨"gallery"⟩).removed = true ∧
        ∀ name, Related changes ⟨10⟩ name → name = ⟨"gallery"⟩) ∧
      ⟨20⟩ ≠ gone.key ∧ (gone.apply m).get? ⟨20⟩ = m.get? ⟨20⟩ := by
  intro changes m left gone
  obtain ⟨contents, queries, filled, creation, removals, frame⟩ := run_relation changes
  obtain ⟨-, emptied, removed⟩ := removals ⟨10⟩ ⟨"gallery"⟩
  have gallery : Related changes ⟨10⟩ ⟨"gallery"⟩ := (queries _ _).1 (by decide)
  have camera : ¬Related changes ⟨10⟩ ⟨"camera"⟩ := mt (queries _ _).2 (by decide)
  have stays : m.get? ⟨10⟩ = some left := by decide
  have last : (removal m ⟨10⟩ ⟨"gallery"⟩).emptied = true := by decide
  have apart : ⟨20⟩ ≠ gone.key := by decide
  exact ⟨(contents _ _).2 gallery, camera, ⟨stays, filled _ _ stays⟩, (creation ⟨30⟩).1 (by decide),
    ⟨last, removed last, (emptied.1 last).2⟩, apart, frame gone ⟨20⟩ apart⟩

end Gatekeeper.SetMap
