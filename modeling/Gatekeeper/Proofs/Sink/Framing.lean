import Gatekeeper.Proofs.Sink.Rows
import Gatekeeper.Proofs.Safety.Encoding

set_option autoImplicit false

namespace Gatekeeper

/-- A write that takes at least one byte of those it is offered. -/
def WriteAnswer.Accepts : WriteAnswer → Prop
  | .all => True
  | .atMost n => 0 < n
  | .fails _ => False

namespace Device

/-- No write fails or comes to nothing, and no flush fails. -/
structure Healthy (d : Device) : Prop where
  writes : ∀ a ∈ d.writes, a.Accepts
  write : d.write.Accepts
  flushes : ∀ a ∈ d.flushes, a = none
  flush : d.flush = none

theorem healthy_always : Healthy {} := ⟨(fun _ mem => nomatch mem), trivial, (fun _ mem => nomatch mem), rfl⟩

theorem Healthy.accept {d : Device} (h : d.Healthy) (part : List UInt8) : (d.accept part).Healthy :=
  ⟨h.writes, h.write, h.flushes, h.flush⟩

theorem Healthy.nextWrite {d : Device} (h : d.Healthy) : d.nextWrite.1.Accepts ∧ d.nextWrite.2.Healthy := by
  unfold Device.nextWrite
  split
  · next a rest writes =>
    have accepts := h.writes
    rw [writes] at accepts
    exact ⟨accepts a List.mem_cons_self,
      ⟨fun b mem => accepts b (List.mem_cons_of_mem a mem), h.write, h.flushes, h.flush⟩⟩
  · exact ⟨h.write, h⟩

theorem Healthy.offer {d : Device} (h : d.Healthy) (b : UInt8) (rest : List UInt8) :
    ∃ n next, d.offer (b :: rest) = (.ok (n + 1), next) ∧ next.Healthy := by
  have healthy := h.nextWrite
  unfold Device.offer
  cases answer : d.nextWrite with
  | mk a next =>
    rw [answer] at healthy
    obtain ⟨accepts, healthy⟩ := healthy
    cases a with
    | all => exact ⟨rest.length, _, rfl, healthy.accept _⟩
    | fails reason => exact accepts.elim
    | atMost n =>
      cases n with
      | zero => exact absurd accepts (Nat.lt_irrefl 0)
      | succ n => exact ⟨(rest.take n).length, _, rfl, healthy.accept _⟩

theorem Healthy.drain {d : Device} (h : d.Healthy) (stalled : String) {bound : Nat} {part : List UInt8}
    (room : part.length ≤ bound) :
    (drain stalled bound part d).1.1 = none ∧ (drain stalled bound part d).2.Healthy := by
  induction bound generalizing part d with
  | zero =>
    cases part with
    | nil => exact ⟨rfl, h⟩
    | cons b rest => cases room
  | succ bound ih =>
    cases part with
    | nil => exact ⟨rfl, h⟩
    | cons b rest =>
      obtain ⟨n, next, answer, healthy⟩ := h.offer b rest
      simp only [Device.drain, answer]
      have shorter : ((b :: rest).drop (n + 1)).length ≤ bound := by
        rw [List.length_drop, List.length_cons] at *
        omega
      exact ih healthy shorter

theorem Healthy.doFlush {d : Device} (h : d.Healthy) : ∃ next, d.doFlush = (none, next) ∧ next.Healthy := by
  unfold Device.doFlush
  split
  · next a rest flushes =>
    have fine := h.flushes
    rw [flushes] at fine
    exact ⟨{ d with flushes := rest }, by rw [fine a List.mem_cons_self],
      ⟨h.writes, h.write, fun b mem => fine b (List.mem_cons_of_mem a mem), h.flush⟩⟩
  · exact ⟨d, by rw [h.flush], h⟩

end Device

namespace Outlet

/-- An operation has succeeded, and the device is as good as before. -/
def Fine (result : Option String × Outlet) : Prop := ∃ o, result = (none, o) ∧ o.device.Healthy

theorem empty_fine {o : Outlet} (h : o.device.Healthy) : Fine o.empty := by
  obtain ⟨done, healthy⟩ := h.drain "failed to write the buffered data" (Nat.le_of_eq Array.length_toList)
  exact ⟨o.empty.2, Prod.ext done rfl, healthy⟩

theorem flush_fine {o : Outlet} (h : o.device.Healthy) : Fine o.flush := by
  obtain ⟨next, emptied, healthy⟩ := empty_fine h
  obtain ⟨device, flushed, fine⟩ := healthy.doFlush
  rw [flush, emptied]
  simp only [flushed]
  exact ⟨_, rfl, fine⟩

theorem makeRoom_fine {o : Outlet} (h : o.device.Healthy) (size : Nat) : Fine (o.makeRoom size) := by
  unfold makeRoom
  split
  · exact empty_fine h
  · exact ⟨o, rfl, h⟩

theorem place_fine {o : Outlet} (h : o.device.Healthy) (piece : Array UInt8) : Fine (o.place piece) := by
  unfold place
  split
  · exact ⟨_, rfl, h⟩
  · obtain ⟨done, healthy⟩ := h.drain "failed to write whole buffer" (Nat.le_of_eq (@Array.length_toList _ piece))
    exact ⟨_, Prod.ext done rfl, healthy⟩

theorem put_fine {o : Outlet} (h : o.device.Healthy) (piece : Array UInt8) : Fine (o.put piece) := by
  rw [put_eq]
  split
  · exact ⟨_, rfl, h⟩
  · obtain ⟨next, made, healthy⟩ := makeRoom_fine h piece.size
    rw [made]
    exact place_fine healthy piece

theorem putAll_fine {o : Outlet} (h : o.device.Healthy) (pieces : List (Array UInt8)) : Fine (putAll pieces o) := by
  induction pieces generalizing o with
  | nil => exact ⟨o, rfl, h⟩
  | cons piece rest ih =>
    obtain ⟨next, put, healthy⟩ := put_fine h piece
    rw [putAll, put]
    exact ih healthy

end Outlet

namespace RowStream

theorem deliver_fine (s : RowStream) (data : Safety.Data) {device : Device} (h : device.Healthy) :
    (s.deliver data device).1 = .ok () ∧ (s.deliver data device).2.2.Healthy := by
  have fine : Outlet.Fine (Outlet.putAll (s.pieces data) { buffer := s.buffer, device }) := Outlet.putAll_fine h _
  obtain ⟨next, put, healthy⟩ := fine
  obtain ⟨last, flushed, fine⟩ := Outlet.flush_fine healthy
  simp only [deliver, put, flushed]
  exact ⟨trivial, fine⟩

theorem deliver_healthy (s : RowStream) (data : Safety.Data) {device : Device} (h : device.Healthy)
    (unused : s.buffer = #[]) :
    ∃ device', s.deliver data device = (.ok (), s.counted, device') ∧ device'.Healthy ∧
      device'.bytes = device.bytes ++ endLine (s.rowText data) := by
  have delivery := s.deliver_delivery data device
  obtain ⟨ok, healthy⟩ := s.deliver_fine data h
  generalize s.deliver data device = next at delivery ok healthy
  cases delivery with
  | failed => cases ok
  | done device' takes => exact ⟨device', rfl, healthy, bytes_of_takes unused takes⟩

theorem map_mapIdx {α β γ : Type} (f : Nat → α → β) (g : β → γ) (l : List α) :
    (l.mapIdx f).map g = l.mapIdx fun i a => g (f i a) := by
  rw [List.mapIdx_eq_zipIdx_map, List.mapIdx_eq_zipIdx_map, List.map_map]
  rfl

/-- A device that never fails gets the lines of all updates, in order and numbered from the stream's count on. -/
theorem run_fine (updates : List Safety.Data) (s : RowStream) {device : Device} (h : device.Healthy)
    (unused : s.buffer = #[]) :
    (run updates s device).1.map Turn.answer = List.replicate updates.length (.ok ()) ∧
    (run updates s device).2.1.rows = s.rows + updates.length ∧
    (run updates s device).2.2.bytes = device.bytes ++
      (updates.mapIdx fun i data => rowText { name := s.name, rows := s.rows + i } data).flatMap endLine := by
  induction updates generalizing s device with
  | nil => exact ⟨rfl, rfl, (List.append_nil _).symm⟩
  | cons data rest ih =>
    obtain ⟨device', delivered, healthy, line⟩ := s.deliver_healthy data h unused
    obtain ⟨answers, rows, received⟩ := ih s.counted healthy rfl
    have shifted (i : Nat) : s.counted.rows + i = s.rows + (i + 1) := by
      show s.rows + 1 + i = _
      omega
    simp only [run, delivered]
    refine ⟨?_, ?_, ?_⟩
    · rw [List.map_cons, answers]
      rfl
    · rw [rows, List.length_cons, shifted]
    · rw [received, line, List.mapIdx_cons, List.flatMap_cons, List.append_assoc]
      simp only [shifted]
      rfl

end RowStream

structure Row where
  listener : String
  seq : Nat
  highestSeverity : Safety.Severity
  data : Safety.Data
  deriving DecidableEq

namespace Row

open Json (Decoder Fields)

def count : Decoder Nat := fun j => do
  let i ← Decoder.integer j
  if 0 ≤ i then return i.toNat else throw .malformed

def decode (held : Bool) : Decoder Row := fun j => do
  let f ← Fields.of ["listener", "seq", "highest_severity", "data"] j
  return {
    listener := ← f.required "listener" Decoder.string
    seq := ← f.required "seq" count
    highestSeverity := ← f.required "highest_severity" (Safety.Severity.decode held)
    data := ← f.required "data" (Safety.Data.decode held) }

theorem count_nat (n : Nat) : count (.nat n) = .ok n := by
  show (if 0 ≤ (n : Int) then Except.ok (n : Int).toNat else .error .malformed) = Except.ok n
  rw [if_pos (Int.natCast_nonneg n), Int.toNat_natCast]

def of (s : RowStream) (data : Safety.Data) : Row :=
  { listener := s.name, seq := s.rows, highestSeverity := data.highestSeverity, data }

theorem decode_row (held : Bool) (s : RowStream) (data : Safety.Data) :
    decode held (s.row data) = .ok (of s data) := by
  have severity := Safety.Severity.decode_inverts held data.highestSeverity
  have update := Safety.Data.decode_inverts held data
  have seq := count_nat s.rows
  rw [decode, RowStream.row, Fields.of_record (by rfl) (by decide)]
  show (do
    let seq ← count (.nat s.rows)
    let highestSeverity ← Safety.Severity.decode held data.highestSeverity.toJson
    let data ← Safety.Data.decode held data.toJson
    return Row.mk s.name seq highestSeverity data) = Except.ok (of s data)
  rw [seq, severity, update]
  rfl

def read (held : Bool) (text : String) : Option (Except Json.Mismatch Row) := (Json.parse text).map (decode held)

theorem read_compact (held : Bool) (s : RowStream) (data : Safety.Data) :
    read held (s.row data).compact = some (.ok (of s data)) := by
  rw [read, Json.parse_compact, Option.map_some, decode_row]

end Row

namespace RowStream

/-- On a device that never fails, each of a stream's deliveries succeeds and is counted, and what the device receives is
    one line for each update, ended by a line feed and with none inside, whose text is read as the row of that update
    under its number. The severity in a row is the highest of the status and the issues. -/
theorem run_framed (held : Bool) (name : String) (device : Device) (healthy : device.Healthy)
    (updates : List Safety.Data) :
    let history := run updates { name } device
    ∃ texts : List String,
      history.1.map Turn.answer = List.replicate updates.length (.ok ()) ∧
      history.2.1.rows = updates.length ∧
      history.2.2.bytes = device.bytes ++ texts.flatMap (fun text => endLine (bytes text).toList) ∧
      completeLines (texts.flatMap fun text => endLine (bytes text).toList) = texts.map (fun text => (bytes text).toList) ∧
      (∀ text ∈ texts, lineFeed ∉ (bytes text).toList) ∧
      texts.map (Row.read held) = updates.mapIdx (fun i data =>
        some (.ok { listener := name, seq := i, highestSeverity := data.highestSeverity, data })) ∧
      ∀ data ∈ updates,
        data.highestSeverity.IsMaximum (data.status.severity :: data.issues.map Safety.Issue.severity) := by
  intro history
  obtain ⟨answers, rows, received⟩ := run_fine updates { name } healthy rfl
  have texts : (updates.mapIdx fun i data => rowText { name, rows := 0 + i } data) =
      (updates.mapIdx fun i data => (row { name, rows := i } data).compact).map fun text => (bytes text).toList := by
    rw [map_mapIdx]
    simp only [Nat.zero_add]
    rfl
  have whole : ∀ text ∈ updates.mapIdx fun i data => (row { name, rows := i } data).compact,
      lineFeed ∉ (bytes text).toList := by
    intro text mem
    obtain ⟨i, data, -, rfl⟩ := List.mem_mapIdx.1 mem
    exact rowText_whole _ _
  refine ⟨updates.mapIdx fun i data => (row { name, rows := i } data).compact, answers, ?_, ?_, ?_, whole, ?_,
    fun data _ => data.highestSeverity_isMaximum⟩
  · exact rows.trans (Nat.zero_add _)
  · rw [← List.flatMap_map, ← texts]
    exact received
  · rw [← List.flatMap_map]
    apply completeLines_flatMap
    intro line mem
    obtain ⟨text, listed, rfl⟩ := List.mem_map.1 mem
    exact whole text listed
  · rw [map_mapIdx]
    simp only [Row.read_compact]
    rfl

theorem run_framed_portions :
    Device.Healthy { writes := [.atMost 1], write := .atMost 1000 } ∧
    ∃ texts : List String,
      (run [{ status := { title := "a\n\"b\\" } }, { status := { title := "" } }] { name := "x\ny" }
          { writes := [.atMost 1], write := .atMost 1000 }).2.2.bytes =
        texts.flatMap (fun text => endLine (bytes text).toList) ∧
      (∀ text ∈ texts, lineFeed ∉ (bytes text).toList) ∧
      texts.map (Row.read true) = [
        some (.ok ⟨"x\ny", 0, .unknown, { status := { title := "a\n\"b\\" } }⟩),
        some (.ok ⟨"x\ny", 1, .unknown, { status := { title := "" } }⟩)] := by
  have healthy : Device.Healthy { writes := [.atMost 1], write := .atMost 1000 } :=
    ⟨List.forall_mem_singleton.2 Nat.one_pos, Nat.succ_pos 999, (fun _ mem => nomatch mem), rfl⟩
  obtain ⟨texts, -, -, received, -, whole, rows, -⟩ := run_framed true "x\ny" _ healthy
    [{ status := { title := "a\n\"b\\" } }, { status := { title := "" } }]
  exact ⟨healthy, texts, received, whole, rows⟩

end RowStream
end Gatekeeper
