import Mathlib.Data.List.Induction
import Gatekeeper.Scenario.Event

set_option autoImplicit false

namespace Gatekeeper

namespace Event

def concerns (name : String) (u : UserId) : Event → Bool
  | .subscribe name' v | .unsubscribe name' v => name' = name && v = u
  | .removeUser v => v = u
  | .addUser _ | .addPackage _ | .removePackage _ | .setDecision .. | .check .. | .publish .. => false

def isSubscribe : Event → Bool
  | .subscribe .. => true
  | _ => false

def attend (u : UserId) (names : List String) : Event → List String
  | .subscribe name v => if v = u ∧ name ∉ names then names ++ [name] else names
  | .unsubscribe name v => if v = u then names.erase name else names
  | .removeUser v => if v = u then [] else names
  | .addUser _ | .addPackage _ | .removePackage _ | .setDecision .. | .check .. | .publish .. => names

/-- What the event tells to whom, the latest to join first. -/
def tells (audience : UserId → List String) : Event → List (String × Safety.Data)
  | .publish u data => (audience u).reverse.map fun name => (name, data)
  | _ => []

variable {name : String} {names : List String} {u : UserId}

theorem attend_shape (e : Event) (u : UserId) (names : List String) :
    (e.attend u names).Sublist names ∨ ∃ name, name ∉ names ∧ e.attend u names = names ++ [name] := by
  cases e with
  | subscribe name v =>
    by_cases joins : v = u ∧ name ∉ names
    · exact .inr ⟨name, joins.2, if_pos joins⟩
    · rw [attend, if_neg joins]
      exact .inl (.refl _)
  | unsubscribe name v =>
    rw [attend]
    split
    · exact .inl List.erase_sublist
    · exact .inl (.refl _)
  | removeUser v =>
    rw [attend]
    split
    · exact .inl (List.nil_sublist _)
    · exact .inl (.refl _)
  | _ => exact .inl (.refl _)

theorem attend_nodup (e : Event) (distinct : names.Nodup) : (e.attend u names).Nodup := by
  rcases e.attend_shape u names with fewer | ⟨name, new, joined⟩
  · exact distinct.sublist fewer
  · rw [joined]
    exact List.nodup_append.2 ⟨distinct, List.pairwise_singleton _ _, fun a mem b last same =>
      new (List.mem_singleton.1 last ▸ same ▸ mem)⟩

theorem mem_attend_iff (e : Event) (distinct : names.Nodup) :
    name ∈ e.attend u names ↔ if e.concerns name u then e = .subscribe name u else name ∈ names := by
  cases e with
  | subscribe name' v =>
    simp only [attend, concerns]
    grind
  | unsubscribe name' v =>
    have erased := distinct.mem_erase_iff (a := name) (b := name')
    simp only [attend, concerns]
    grind
  | removeUser v => by_cases here : v = u <;> simp [attend, concerns, here]
  | _ => simp [attend, concerns]

end Event

/-- Of the events that concern a name and a user, the last is the subscription. -/
def Subscribed (events : List Event) (name : String) (u : UserId) : Prop :=
  (events.filter (Event.concerns name u)).getLast? = some (.subscribe name u)

theorem subscribed_concat (events : List Event) (e : Event) (name : String) (u : UserId) :
    Subscribed (events ++ [e]) name u ↔
      if e.concerns name u then e = .subscribe name u else Subscribed events name u := by
  rw [Subscribed, List.filter_append]
  cases concerns : e.concerns name u with
  | false => simp [concerns, Subscribed]
  | true => simp [concerns]

/-- The names subscribed for a user after some events, in the order in which they joined. -/
def audience (events : List Event) (u : UserId) : List String := events.foldl (Event.attend u) []

theorem audience_concat (events : List Event) (e : Event) (u : UserId) :
    audience (events ++ [e]) u = e.attend u (audience events u) := by
  rw [audience, List.foldl_append]
  rfl

theorem audience_nodup (events : List Event) (u : UserId) : (audience events u).Nodup := by
  induction events using List.reverseRecOn with
  | nil => exact List.nodup_nil
  | append_singleton events e ih =>
    rw [audience_concat]
    exact e.attend_nodup ih

theorem mem_audience_iff (events : List Event) (name : String) (u : UserId) :
    name ∈ audience events u ↔ Subscribed events name u := by
  induction events using List.reverseRecOn with
  | nil => simp [audience, Subscribed]
  | append_singleton events e ih =>
    rw [audience_concat, subscribed_concat, e.mem_attend_iff (audience_nodup events u), ih]

/-- The event at this place subscribed the name, which was not subscribed before and has been ever since. -/
structure JoinedAt (events : List Event) (name : String) (u : UserId) (n : Nat) : Prop where
  inside : n < events.length
  before : ¬Subscribed (events.take n) name u
  since : ∀ m, n < m → m ≤ events.length → Subscribed (events.take m) name u

/-- Of two names subscribed for a user, the first has been so for longer. -/
def JoinedEarlier (events : List Event) (u : UserId) (name name' : String) : Prop :=
  ∃ m n, m < n ∧ JoinedAt events name u m ∧ JoinedAt events name' u n

variable {events : List Event} {name : String} {u : UserId}

theorem JoinedAt.stay {n : Nat} (joined : JoinedAt events name u n) {e : Event}
    (stays : Subscribed (events ++ [e]) name u) : JoinedAt (events ++ [e]) name u n := by
  have inside := joined.inside
  refine ⟨?_, ?_, fun m later bound => ?_⟩
  · rw [List.length_append]
    omega
  · rw [List.take_append_of_le_length (Nat.le_of_lt inside)]
    exact joined.before
  · rw [List.length_append, List.length_singleton] at bound
    rcases Nat.lt_or_eq_of_le bound with earlier | last
    · have old : m ≤ events.length := Nat.le_of_lt_succ earlier
      rw [List.take_append_of_le_length old]
      exact joined.since m later old
    · rw [last, List.take_of_length_le (Nat.le_of_eq (by simp))]
      exact stays

theorem joinedAt_concat {e : Event} (new : ¬Subscribed events name u) (joins : Subscribed (events ++ [e]) name u) :
    JoinedAt (events ++ [e]) name u events.length := by
  refine ⟨?_, ?_, fun m later bound => ?_⟩
  · rw [List.length_append]
    exact Nat.lt_succ_self _
  · rwa [List.take_left]
  · rw [List.take_of_length_le]
    · exact joins
    · rw [List.length_append, List.length_singleton]
      omega

theorem exists_joinedAt (subscribed : Subscribed events name u) : ∃ n, JoinedAt events name u n := by
  induction events using List.reverseRecOn with
  | nil => cases subscribed
  | append_singleton events e ih =>
    by_cases before : Subscribed events name u
    · obtain ⟨n, joined⟩ := ih before
      exact ⟨n, joined.stay subscribed⟩
    · exact ⟨events.length, joinedAt_concat before subscribed⟩

theorem JoinedEarlier.stay {name' : String} (earlier : JoinedEarlier events u name name') {e : Event}
    (stays : Subscribed (events ++ [e]) name u) (stays' : Subscribed (events ++ [e]) name' u) :
    JoinedEarlier (events ++ [e]) u name name' := by
  obtain ⟨m, n, order, first, second⟩ := earlier
  exact ⟨m, n, order, first.stay stays, second.stay stays'⟩

theorem joinedEarlier_concat {name' : String} {e : Event} (old : Subscribed events name u)
    (stays : Subscribed (events ++ [e]) name u) (new : ¬Subscribed events name' u)
    (joins : Subscribed (events ++ [e]) name' u) : JoinedEarlier (events ++ [e]) u name name' := by
  obtain ⟨n, joined⟩ := exists_joinedAt old
  exact ⟨n, events.length, joined.inside, joined.stay stays, joinedAt_concat new joins⟩

theorem audience_sorted (events : List Event) (u : UserId) :
    (audience events u).Pairwise (JoinedEarlier events u) := by
  induction events using List.reverseRecOn with
  | nil => exact List.Pairwise.nil
  | append_singleton events e ih =>
    have listed (name : String) : name ∈ e.attend u (audience events u) ↔ Subscribed (events ++ [e]) name u := by
      rw [← audience_concat, mem_audience_iff]
    rw [audience_concat]
    rcases e.attend_shape u (audience events u) with fewer | ⟨name, new, joined⟩
    · exact (ih.sublist fewer).imp_of_mem fun mem mem' earlier =>
        earlier.stay ((listed _).1 mem) ((listed _).1 mem')
    · have stays (name' : String) (mem : name' ∈ audience events u) : Subscribed (events ++ [e]) name' u :=
        (listed name').1 (joined ▸ List.mem_append_left _ mem)
      have joins : Subscribed (events ++ [e]) name u :=
        (listed name).1 (joined ▸ List.mem_append_right _ List.mem_cons_self)
      rw [mem_audience_iff] at new
      rw [joined]
      refine List.pairwise_append.2 ⟨?_, List.pairwise_singleton _ _, fun name' mem name'' last => ?_⟩
      · exact ih.imp_of_mem fun mem mem' earlier => earlier.stay (stays _ mem) (stays _ mem')
      · obtain rfl := List.mem_singleton.1 last
        exact joinedEarlier_concat ((mem_audience_iff events name' u).1 mem) (stays name' mem) new joins

/-- A name that subscribes again keeps its place; one that comes back is the last. -/
example :
    audience [.subscribe "a" ⟨0⟩, .subscribe "b" ⟨0⟩, .subscribe "a" ⟨0⟩, .unsubscribe "b" ⟨0⟩, .subscribe "c" ⟨0⟩,
      .subscribe "b" ⟨0⟩] ⟨0⟩ = ["a", "c", "b"] := by decide

def toldAt (events : List Event) (i : Nat) : List (String × Safety.Data) :=
  ((events[i]?).map (Event.tells (audience (events.take i)))).getD []

def told (events : List Event) : List (String × Safety.Data) := (List.range events.length).flatMap (toldAt events)

theorem told_concat (events : List Event) (e : Event) :
    told (events ++ [e]) = told events ++ e.tells (audience events) := by
  have last : toldAt (events ++ [e]) events.length = e.tells (audience events) := by
    rw [toldAt, List.getElem?_concat_length, List.take_left]
    rfl
  have before : ∀ i ∈ List.range events.length, toldAt (events ++ [e]) i = toldAt events i := by
    intro i mem
    have inside := List.mem_range.1 mem
    rw [toldAt, List.getElem?_append_left inside, List.take_append_of_le_length (Nat.le_of_lt inside), toldAt]
  rw [told, List.length_append, List.length_singleton, List.range_succ, List.flatMap_append, List.flatMap_singleton,
    last, List.flatMap_def, List.map_congr_left before]
  rfl

end Gatekeeper
