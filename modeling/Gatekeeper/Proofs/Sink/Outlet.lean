import Gatekeeper.Sink.Outlet

set_option autoImplicit false

namespace Gatekeeper

namespace Device

def bytes (d : Device) : List UInt8 := d.received.toList

theorem accept_bytes (d : Device) (part : List UInt8) : (d.accept part).bytes = d.bytes ++ part := by
  simp [bytes, accept]

theorem nextWrite_bytes (d : Device) : d.nextWrite.2.bytes = d.bytes := by
  unfold nextWrite
  split <;> rfl

theorem doFlush_bytes (d : Device) : d.doFlush.2.bytes = d.bytes := by
  unfold doFlush
  split <;> rfl

theorem offer_bytes (d : Device) (part : List UInt8) :
    (d.offer part).2.bytes = d.bytes ++ match (d.offer part).1 with
      | .ok n => part.take n
      | .error _ => [] := by
  have kept := d.nextWrite_bytes
  unfold offer
  cases answer : d.nextWrite with
  | mk a next =>
    rw [answer] at kept
    cases a with
    | all => simp [accept_bytes, ← kept]
    | atMost n => simp [accept_bytes, ← kept]
    | fails reason => simp [← kept]

/-- A drain takes what it is given from the front; the bytes left over follow those taken. -/
theorem drain_split (stalled : String) (bound : Nat) (part : List UInt8) (d : Device) :
    ∃ front, (drain stalled bound part d).2.bytes = d.bytes ++ front ∧
      part = front ++ (drain stalled bound part d).1.2 := by
  induction bound generalizing part d with
  | zero => cases part <;> exact ⟨[], by simp [drain], rfl⟩
  | succ bound ih =>
    cases part with
    | nil => exact ⟨[], by simp [drain], rfl⟩
    | cons b rest =>
      have offered := d.offer_bytes (b :: rest)
      simp only [drain]
      cases answer : d.offer (b :: rest) with
      | mk result next =>
        rw [answer] at offered
        match result with
        | .error reason => exact ⟨[], offered, rfl⟩
        | .ok 0 => exact ⟨[], offered, rfl⟩
        | .ok (n + 1) =>
          obtain ⟨front, later, left⟩ := ih ((b :: rest).drop (n + 1)) next
          refine ⟨(b :: rest).take (n + 1) ++ front, ?_, ?_⟩
          · rw [← List.append_assoc, ← offered]
            exact later
          · calc b :: rest
                = (b :: rest).take (n + 1) ++ (b :: rest).drop (n + 1) := (List.take_append_drop ..).symm
              _ = (b :: rest).take (n + 1) ++ (front ++ _) := congrArg _ left
              _ = _ := (List.append_assoc ..).symm

theorem drain_rest (stalled : String) (bound : Nat) (part : List UInt8) (d : Device)
    (done : (drain stalled bound part d).1.1 = none) : (drain stalled bound part d).1.2 = [] := by
  induction bound generalizing part d with
  | zero =>
    cases part with
    | nil => rfl
    | cons b rest => cases done
  | succ bound ih =>
    cases part with
    | nil => rfl
    | cons b rest =>
      simp only [drain] at done ⊢
      cases answer : d.offer (b :: rest) with
      | mk result next =>
        rw [answer] at done
        match result with
        | .error reason => cases done
        | .ok 0 => cases done
        | .ok (n + 1) => exact ih _ next done

end Device

namespace Outlet

open Device

def waiting (o : Outlet) : List UInt8 := o.buffer.toList

/-- The bytes an outlet has taken, received or waiting. -/
def taken (o : Outlet) : List UInt8 := o.device.bytes ++ o.waiting

theorem taken_unused (device : Device) : taken { device } = device.bytes := List.append_nil _

/-- One outlet comes from another by taking some bytes: all that was taken before is still there, and in front, and
    what the device has received it keeps. -/
structure Takes (o : Outlet) (part : List UInt8) (o' : Outlet) : Prop where
  taken_eq : o'.taken = o.taken ++ part
  grows : o.device.bytes <+: o'.device.bytes

theorem Takes.refl (o : Outlet) : o.Takes [] o := ⟨(List.append_nil _).symm, List.prefix_rfl⟩

theorem Takes.trans {o o' o'' : Outlet} {part more : List UInt8} (first : o.Takes part o')
    (second : o'.Takes more o'') : o.Takes (part ++ more) o'' where
  taken_eq := by rw [second.taken_eq, first.taken_eq, List.append_assoc]
  grows := first.grows.trans second.grows

theorem Takes.unique {o o' : Outlet} {part part' : List UInt8} (h : o.Takes part o') (h' : o.Takes part' o') :
    part = part' :=
  List.append_cancel_left (h.taken_eq.symm.trans h'.taken_eq)

theorem hold_takes (o : Outlet) (piece : Array UInt8) : o.Takes piece.toList (o.hold piece) where
  taken_eq := by simp [taken, waiting, hold]
  grows := List.prefix_rfl

theorem empty_takes (o : Outlet) : o.Takes [] o.empty.2 := by
  obtain ⟨front, received, left⟩ :=
    drain_split "failed to write the buffered data" o.buffer.size o.buffer.toList o.device
  have kept : o.empty.2.waiting =
      (drain "failed to write the buffered data" o.buffer.size o.buffer.toList o.device).1.2 := by
    simp [empty, waiting]
  constructor
  · calc o.empty.2.taken
        = o.device.bytes ++ front ++ o.empty.2.waiting := by rw [← received]; rfl
      _ = o.device.bytes ++ o.waiting := by rw [kept, List.append_assoc, ← left]; rfl
      _ = o.taken ++ [] := (List.append_nil _).symm
  · exact ⟨front, received.symm⟩

theorem empty_waiting (o : Outlet) (done : o.empty.1 = none) : o.empty.2.waiting = [] := by
  have left := drain_rest "failed to write the buffered data" o.buffer.size o.buffer.toList o.device done
  simpa [empty, waiting] using left

theorem flush_takes (o : Outlet) : o.Takes [] o.flush.2 := by
  have emptied := o.empty_takes
  unfold flush
  cases answer : o.empty with
  | mk fault next =>
    rw [answer] at emptied
    cases fault with
    | some reason => exact emptied
    | none =>
      have same := next.device.doFlush_bytes
      constructor
      · rw [← emptied.taken_eq]
        show next.device.doFlush.2.bytes ++ _ = _
        rw [same]
        rfl
      · show _ <+: next.device.doFlush.2.bytes
        rw [same]
        exact emptied.grows

theorem flush_waiting (o : Outlet) (done : o.flush.1 = none) : o.flush.2.waiting = [] := by
  have left := o.empty_waiting
  unfold flush at done ⊢
  cases emptied : o.empty with
  | mk fault next =>
    rw [emptied] at done left
    cases fault with
    | some reason => cases done
    | none => exact left rfl

/-- The outlet as `put` leaves it before it looks where the piece goes: emptied, if the piece is larger than the spare
    room. -/
def makeRoom (o : Outlet) (size : Nat) : Option String × Outlet :=
  if size > capacity - o.buffer.size then o.empty else (none, o)

def place (o : Outlet) (piece : Array UInt8) : Option String × Outlet :=
  if piece.size < capacity then (none, o.hold piece)
  else
    let sent := drain "failed to write whole buffer" piece.size piece.toList o.device
    (sent.1.1, { o with device := sent.2 })

theorem put_eq (o : Outlet) (piece : Array UInt8) :
    o.put piece =
      if piece.size < capacity - o.buffer.size then (none, o.hold piece)
      else match o.makeRoom piece.size with
        | (some fault, o) => (some fault, o)
        | (none, o) => o.place piece := rfl

theorem makeRoom_takes (o : Outlet) (size : Nat) : o.Takes [] (o.makeRoom size).2 := by
  unfold makeRoom
  split
  · exact o.empty_takes
  · exact Takes.refl o

theorem makeRoom_waiting (o : Outlet) {size : Nat} (large : capacity ≤ size) (done : (o.makeRoom size).1 = none) :
    (o.makeRoom size).2.waiting = [] := by
  unfold makeRoom at done ⊢
  split
  · next more =>
    rw [if_pos more] at done
    exact o.empty_waiting done
  · have unused : o.buffer.size = 0 := by
      have room : 0 < capacity := by decide
      omega
    exact Array.toList_eq_nil_iff.2 (Array.eq_empty_of_size_eq_zero unused)

/-- A piece that is placed is taken, or a first part of it if the device fails. -/
theorem place_takes (o : Outlet) (piece : Array UInt8) (room : capacity ≤ piece.size → o.waiting = []) :
    ∃ part, o.Takes part (o.place piece).2 ∧ part <+: piece.toList ∧
      ((o.place piece).1 = none → part = piece.toList) := by
  unfold place
  by_cases fits : piece.size < capacity
  · rw [if_pos fits]
    exact ⟨piece.toList, o.hold_takes piece, List.prefix_rfl, fun _ => rfl⟩
  · have unused := room (Nat.le_of_not_lt fits)
    obtain ⟨front, received, left⟩ :=
      drain_split "failed to write whole buffer" piece.size piece.toList o.device
    have whole := drain_rest "failed to write whole buffer" piece.size piece.toList o.device
    rw [if_neg fits]
    refine ⟨front, ⟨?_, ⟨front, received.symm⟩⟩, ⟨_, left.symm⟩, fun done => ?_⟩
    · have before : o.taken = o.device.bytes := by rw [taken, unused, List.append_nil]
      show Device.bytes _ ++ o.waiting = _
      rw [unused, received, before, List.append_nil]
    · rw [whole done, List.append_nil] at left
      exact left.symm

theorem put_takes (o : Outlet) (piece : Array UInt8) :
    ∃ part, o.Takes part (o.put piece).2 ∧ part <+: piece.toList ∧
      ((o.put piece).1 = none → part = piece.toList) := by
  rw [put_eq]
  by_cases small : piece.size < capacity - o.buffer.size
  · rw [if_pos small]
    exact ⟨piece.toList, o.hold_takes piece, List.prefix_rfl, fun _ => rfl⟩
  · rw [if_neg small]
    have made := o.makeRoom_takes piece.size
    have room := @makeRoom_waiting o piece.size
    cases answer : o.makeRoom piece.size with
    | mk fault next =>
      rw [answer] at made room
      cases fault with
      | some reason => exact ⟨[], made, List.nil_prefix, fun done => nomatch done⟩
      | none =>
        obtain ⟨part, placed, front, whole⟩ := next.place_takes piece fun large => room large rfl
        exact ⟨part, made.trans placed, front, whole⟩

theorem putAll_takes (pieces : List (Array UInt8)) (o : Outlet) :
    ∃ part, o.Takes part (putAll pieces o).2 ∧ part <+: pieces.flatMap Array.toList ∧
      ((putAll pieces o).1 = none → part = pieces.flatMap Array.toList) := by
  induction pieces generalizing o with
  | nil => exact ⟨[], Takes.refl o, List.prefix_rfl, fun _ => rfl⟩
  | cons piece rest ih =>
    obtain ⟨first, took, front, whole⟩ := o.put_takes piece
    rw [putAll, List.flatMap_cons]
    cases answer : o.put piece with
    | mk fault next =>
      rw [answer] at took whole
      cases fault with
      | some reason => exact ⟨first, took, front.trans (List.prefix_append ..), fun done => nomatch done⟩
      | none =>
        obtain ⟨later, more, frontLater, wholeLater⟩ := ih next
        have all := whole rfl
        refine ⟨first ++ later, took.trans more, ?_, fun done => ?_⟩
        · rw [all]
          exact (List.prefix_append_right_inj _).2 frontLater
        · rw [all, wholeLater done]

theorem put_unused (o : Outlet) (piece : Array UInt8) (unused : o.waiting = []) (small : piece.size < capacity) :
    o.put piece = (none, o.hold piece) := by
  have spare : o.buffer.size = 0 := by
    rw [← Array.length_toList]
    exact congrArg List.length unused
  rw [put_eq, spare]
  exact if_pos small

/-- What is put into an unused buffer leaves something there, or with the device, even if the device fails. -/
theorem putAll_starts (piece : Array UInt8) (rest : List (Array UInt8)) (o : Outlet) (unused : o.waiting = [])
    (small : piece.size < capacity) :
    ∃ part, o.Takes (piece.toList ++ part) (putAll (piece :: rest) o).2 := by
  rw [putAll, o.put_unused piece unused small]
  obtain ⟨part, took, -⟩ := putAll_takes rest (o.hold piece)
  exact ⟨part, (o.hold_takes piece).trans took⟩

theorem putAll_fits (pieces : List (Array UInt8)) (o : Outlet)
    (fits : o.waiting.length + (pieces.flatMap Array.toList).length < capacity) :
    putAll pieces o = (none, o.hold (pieces.flatMap Array.toList).toArray) := by
  induction pieces generalizing o with
  | nil => simp [putAll, hold]
  | cons piece rest ih =>
    rw [List.flatMap_cons, List.length_append] at fits
    have size : o.waiting.length = o.buffer.size := Array.length_toList
    have pieceSize : piece.toList.length = piece.size := Array.length_toList
    have small : piece.size < capacity - o.buffer.size := by omega
    have put : o.put piece = (none, o.hold piece) := if_pos small
    have held : (o.hold piece).waiting = o.waiting ++ piece.toList := Array.toList_append
    have later : (o.hold piece).waiting.length + (rest.flatMap Array.toList).length < capacity := by
      rw [held, List.length_append]
      omega
    have joined : piece ++ (rest.flatMap Array.toList).toArray = (piece.toList ++ rest.flatMap Array.toList).toArray := by
      rw [← List.append_toArray, Array.toArray_toList]
    rw [putAll, put]
    show putAll rest (o.hold piece) = _
    rw [ih _ later, List.flatMap_cons, ← joined]
    simp only [hold, Array.append_assoc]

end Outlet
end Gatekeeper
