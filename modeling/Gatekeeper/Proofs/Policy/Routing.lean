import Gatekeeper.Proofs.Policy.Registry
import Gatekeeper.Policy.Session

set_option autoImplicit false

namespace Gatekeeper
namespace PolicySet

def offerAll (ps : PolicySet) (offered : List SchemePolicy) : PolicySet :=
  offered.foldl (fun ps p => (ps.register p).2) ps

/-- Of policies offered in turn, those for a pair that is not taken by then. -/
def accepted (taken : List SchemePair) : List SchemePolicy → List SchemePolicy
  | [] => []
  | p :: rest => if p.pair ∈ taken then accepted taken rest else p :: accepted (taken ++ [p.pair]) rest

variable {ps : PolicySet}

namespace Located

variable (h : ps.Located) {p : SchemePolicy}

include h

theorem register_eq_error_iff :
    (ps.register p).1 = .error (.duplicateSchemePolicy p.pair.subject p.pair.object) ↔ p.pair ∈ ps.pairs := by
  refine ⟨fun refused => ?_, fun taken => congrArg Prod.fst (h.register_taken taken)⟩
  by_cases taken : p.pair ∈ ps.pairs
  · exact taken
  · rw [h.register_free taken] at refused
    cases refused

theorem offerAll_located (offered : List SchemePolicy) : (ps.offerAll offered).Located := by
  induction offered generalizing ps with
  | nil => exact h
  | cons p rest ih => exact ih (h.register_located p)

theorem offerAll_policies (offered : List SchemePolicy) :
    (ps.offerAll offered).policies = ps.policies ++ accepted ps.pairs offered := by
  -- The set stays open in the induction: what is taken for the rest depends on the first offer.
  induction offered generalizing ps with
  | nil => exact (List.append_nil _).symm
  | cons p rest ih =>
    refine (ih (h.register_located p)).trans ?_
    by_cases taken : p.pair ∈ ps.pairs
    · rw [h.register_taken taken, accepted, if_pos taken]
    · rw [h.register_free taken, accepted, if_neg taken, append_pairs]
      exact List.append_assoc ps.policies [p] _

theorem route?_eq_none {subject object : AccessUri} (absent : SchemePair.of subject object ∉ ps.pairs) :
    ps.route? subject object = none := by
  rw [Option.eq_none_iff_forall_ne_some]
  intro p route
  obtain ⟨mem, same⟩ := (h.route?_eq_some_iff subject object p).1 route
  exact absent (List.mem_map.2 ⟨p, mem, same⟩)

end Located

section Routed

variable {p : SchemePolicy} {subject object : AccessUri}

theorem decide_routed (route : ps.route? subject object = some p) (s : AccessState) :
    ps.decide subject object s = p.decide subject object s := by
  rw [decide, route]

theorem decide_unrouted (route : ps.route? subject object = none) (s : AccessState) :
    ps.decide subject object s = .denied := by
  rw [decide, route]

theorem setDecision_routed (route : ps.route? subject object = some p) (d : Decision) (s : Session) :
    (s.setDecision ps subject object d).draft = p.store subject object d s.old s.draft := by
  rw [Session.setDecision, route]
  rfl

theorem setDecision_unrouted (route : ps.route? subject object = none) (d : Decision) (s : Session) :
    (s.setDecision ps subject object d).draft = s.draft := by
  rw [Session.setDecision, route]

end Routed

/-- However policies are offered to a set that starts with none or with the built-in ones, it has those that were the
    first for their pair, in the order they came, and no pair twice. A policy is refused exactly if its pair is there,
    and the set is as before. Two URIs are answered for by the one policy for their schemes, and decisions about them
    are stored by it; where there is no such policy all is denied and nothing stored. Of a URI of another kind only its
    tag counts. -/
theorem offerAll_routing {start : PolicySet} (fresh : start = .empty ∨ start = .builtin)
    (offered : List SchemePolicy) :
    let ps := start.offerAll offered
    ps.policies = start.policies ++ accepted start.pairs offered ∧
    ps.pairs.Nodup ∧
    (∀ pair i, ps.index.get? pair = some i ↔ ∃ p, ps.policies[i]? = some p ∧ p.pair = pair) ∧
    (∀ p : SchemePolicy,
      ((ps.register p).1 = .error (.duplicateSchemePolicy p.pair.subject p.pair.object) ↔ p.pair ∈ ps.pairs) ∧
      (p.pair ∈ ps.pairs → (ps.register p).2 = ps) ∧
      (p.pair ∉ ps.pairs → (ps.register p).1 = .ok () ∧ (ps.register p).2.policies = ps.policies ++ [p])) ∧
    ∀ subject object : AccessUri,
      (∀ p ∈ ps.policies, p.pair = ⟨subject.scheme, object.scheme⟩ →
        (∀ s, ps.decide subject object s = p.decide subject object s) ∧
        ∀ d (s : Session), (s.setDecision ps subject object d).draft = p.store subject object d s.old s.draft) ∧
      (⟨subject.scheme, object.scheme⟩ ∉ ps.pairs →
        (∀ s, ps.decide subject object s = .denied) ∧
        ∀ d (s : Session), (s.setDecision ps subject object d).draft = s.draft) ∧
      ∀ value, ps.route? (.other subject.scheme value) object = ps.route? subject object ∧
        ps.route? subject (.other object.scheme value) = ps.route? subject object := by
  intro ps
  have located : start.Located := by
    rcases fresh with rfl | rfl
    · exact empty_located
    · exact builtin_registered.located
  have kept : ps.Located := located.offerAll_located offered
  refine ⟨located.offerAll_policies offered, kept.pairs_nodup, kept, fun p => ?_, fun subject object => ?_⟩
  · refine ⟨kept.register_eq_error_iff, fun taken => congrArg Prod.snd (kept.register_taken taken), fun free => ?_⟩
    rw [kept.register_free free]
    exact ⟨rfl, rfl⟩
  · refine ⟨fun p mem same => ?_, fun absent => ?_, fun value => ⟨rfl, rfl⟩⟩
    · have route := (kept.route?_eq_some_iff subject object p).2 ⟨mem, same⟩
      exact ⟨decide_routed route, setDecision_routed route⟩
    · have route := kept.route?_eq_none absent
      exact ⟨decide_unrouted route, setDecision_unrouted route⟩

/-- A policy for doors is taken beside the built-in ones and answers for any badge and any door; a rival of the policy
    for permissions is refused, and a door has no say about a badge. -/
theorem offerAll_routing_rival :
    let door : SchemePolicy :=
      { pair := ⟨"badge", "door"⟩, decide := fun _ _ _ => .granted, store := fun _ _ _ _ draft => draft }
    let rival : SchemePolicy := { door with pair := UidTable.permission.policy.pair }
    let guest : SchemePolicy := { door with pair := ⟨"door", "badge"⟩ }
    let ps := builtin.offerAll [door, rival]
    let badge := AccessUri.other "badge" "7"
    let front := AccessUri.other "door" "front"
    door ∈ ps.policies ∧ door.pair = ⟨badge.scheme, front.scheme⟩ ∧ (∀ s, ps.decide badge front s = .granted) ∧
      rival.pair ∈ ps.pairs ∧ (ps.register rival).1 = .error (.duplicateSchemePolicy Scheme.uid Scheme.permission) ∧
      (ps.register rival).2 = ps ∧ guest.pair ∉ ps.pairs ∧
      (ps.register guest).2.policies = ps.policies ++ [guest] ∧
      ⟨front.scheme, badge.scheme⟩ ∉ ps.pairs ∧ ∀ s, ps.decide front badge s = .denied := by
  intro door rival guest ps badge front
  obtain ⟨policies, -, -, offers, routes⟩ := offerAll_routing (.inr rfl) [door, rival]
  have mem : door ∈ ps.policies := by
    rw [policies]
    exact List.mem_append_right _ List.mem_cons_self
  have taken : rival.pair ∈ ps.pairs := by decide
  have free : guest.pair ∉ ps.pairs := by decide
  have nobody : ⟨front.scheme, badge.scheme⟩ ∉ ps.pairs := by decide
  exact ⟨mem, rfl, ((routes badge front).1 door mem rfl).1, taken, (offers rival).1.2 taken, (offers rival).2.1 taken,
    free, ((offers guest).2.2 free).2, nobody, ((routes front badge).2.1 nobody).1⟩

end PolicySet
end Gatekeeper
