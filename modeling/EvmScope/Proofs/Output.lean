import EvmScope.Session
import EvmScope.Text.Utf8.Lemmas

/-!
# Output in pieces

A session writes one text in many pieces. A sink takes the same bytes of it however the text is cut.
The cut only decides what is said when the room of the sink is used up: the error is that of the
piece that holds the first byte without room. In a trace in JSON this tells the objects of the steps
from all else, and so it is known byte by byte which error there is.
-/

namespace EvmScope

set_option autoImplicit false

open Text

namespace Sink

theorem append_append (taken : Array UInt8) (a b : Bytes) :
    taken ++ (a ++ b) = taken ++ a ++ b :=
  Array.toList_inj.1 (by simp)

/-- Two writes leave a sink as one write of both does, even if the first one fails. -/
theorem write_append (s : Sink) (a b : Bytes) :
    (s.write (a ++ b)).2 = ((s.write a).2.write b).2 := by
  obtain ⟨taken, room, flushFails, flushes⟩ := s
  cases room with
  | none => simp [write, append_append]
  | some room => simp [write, append_append, List.take_append, Nat.sub_sub]

@[simp] theorem write_flushFails (s : Sink) (bytes : Bytes) :
    (s.write bytes).2.flushFails = s.flushFails := by
  obtain ⟨taken, room, flushFails, flushes⟩ := s
  cases room <;> rfl

@[simp] theorem write_flushes (s : Sink) (bytes : Bytes) :
    (s.write bytes).2.flushes = s.flushes := by
  obtain ⟨taken, room, flushFails, flushes⟩ := s
  cases room <;> rfl

@[simp] theorem write_nil (s : Sink) : s.write [] = (none, s) := by
  obtain ⟨taken, room, flushFails, flushes⟩ := s
  cases room <;> simp [write]

/-- A sink has room for some bytes. -/
def HasRoom (s : Sink) (bytes : Bytes) : Prop :=
  ∀ room, s.room = some room → bytes.length ≤ room

/-- A sink with no end takes everything. -/
theorem write_unlimited {s : Sink} (h : s.room = none) (bytes : Bytes) :
    s.write bytes = (none, { s with taken := s.taken ++ bytes }) := by
  rw [write, h]

/-- A sink takes what it has room for, and has so much less of it. -/
theorem write_fitting {s : Sink} {room : Nat} {bytes : Bytes} (h : s.room = some room)
    (hle : bytes.length ≤ room) :
    s.write bytes =
      (none, { s with taken := s.taken ++ bytes, room := some (room - bytes.length) }) := by
  simp only [write, h, if_pos hle, List.take_of_length_le hle]

/-- A sink that runs out of room has taken the part that fitted, and says that it is full. -/
theorem write_short {s : Sink} {room : Nat} {bytes : Bytes} (h : s.room = some room)
    (hlt : room < bytes.length) :
    s.write bytes =
      (some .full, { s with taken := s.taken ++ bytes.take room, room := some 0 }) := by
  simp only [write, h, if_neg (Nat.not_le.2 hlt), Nat.sub_eq_zero_of_le (Nat.le_of_lt hlt)]

theorem taken_write_of_hasRoom {s : Sink} {bytes : Bytes} (h : s.HasRoom bytes) :
    (s.write bytes).2.taken = s.taken ++ bytes := by
  cases hroom : s.room with
  | none => rw [write_unlimited hroom]
  | some room => rw [write_fitting hroom (h room hroom)]

/-- What a sink holds in the end does not depend on whether the bytes fitted. -/
theorem write_snd_limited {s : Sink} {room : Nat} (h : s.room = some room) (bytes : Bytes) :
    (s.write bytes).2 =
      { s with taken := s.taken ++ bytes.take room, room := some (room - bytes.length) } := by
  rw [write, h]

/-- Once its room is used up, a sink stays as it is. -/
theorem write_full {s : Sink} (h : s.room = some 0) (bytes : Bytes) : (s.write bytes).2 = s := by
  obtain ⟨taken, room, flushFails, flushes⟩ := s
  obtain rfl : room = some 0 := h
  simp [write]

end Sink

namespace Piece

/-- The text that some pieces make up. -/
def joined (ps : List Piece) : List Char :=
  ps.flatMap Piece.text

def size (p : Piece) : Nat :=
  (utf8 p.text).length

/-- The piece that holds the byte at a place. -/
def holding? : (place : Nat) → List Piece → Option Piece
  | _, [] => none
  | n, p :: ps => if n < p.size then some p else holding? (n - p.size) ps

/-- The piece in which the room of a sink is used up. -/
def cutOff? (sink : Sink) (ps : List Piece) : Option Piece :=
  sink.room.bind fun room => holding? room ps

theorem utf8_joined_cons (p : Piece) (ps : List Piece) :
    utf8 (joined (p :: ps)) = utf8 p.text ++ utf8 (joined ps) := by
  rw [joined, List.flatMap_cons, utf8_append]
  rfl

/-- No piece holds a byte behind the end of the text. -/
theorem holding?_eq_none_iff {n : Nat} {ps : List Piece} :
    holding? n ps = none ↔ (utf8 (joined ps)).length ≤ n := by
  induction ps generalizing n with
  | nil => simp [holding?, joined]
  | cons p ps ih =>
    rw [utf8_joined_cons, List.length_append, ← size]
    by_cases hn : n < p.size
    · simp [holding?, hn]
      omega
    · simp [holding?, hn, ih]
      omega

/-- Nothing is cut off just when a sink has room for the whole text. -/
theorem cutOff?_eq_none_iff {sink : Sink} {ps : List Piece} :
    cutOff? sink ps = none ↔ sink.HasRoom (utf8 (joined ps)) := by
  rw [cutOff?, Option.bind_eq_none_iff]
  simp only [holding?_eq_none_iff, Sink.HasRoom]

/-- The error says whether an object of the trace was lost or a part of the output. -/
theorem lost_eq_object_iff {p : Piece} {cause : SinkError} :
    p.lost cause = .object cause ↔ p.isObject = true := by
  rw [lost]
  split <;> simp_all

theorem lost_eq_output_iff {p : Piece} {cause : SinkError} :
    p.lost cause = .output cause ↔ ¬p.isObject = true := by
  rw [lost]
  split <;> simp_all

theorem mem_of_holding? {n : Nat} {ps : List Piece} {p : Piece} (h : holding? n ps = some p) :
    p ∈ ps := by
  induction ps generalizing n with
  | nil => cases h
  | cons q ps ih =>
    rw [holding?] at h
    split at h
    · obtain rfl := Option.some.inj h
      exact List.mem_cons_self
    · exact List.mem_cons_of_mem _ (ih h)

/-- Writing pieces is writing their text; it fails in the piece that holds the first byte for which
there is no room. -/
theorem writeAll_eq (sink : Sink) (ps : List Piece) :
    writeAll sink ps =
      ((cutOff? sink ps).map (·.lost .full), (sink.write (utf8 (joined ps))).2) := by
  induction ps generalizing sink with
  | nil =>
    rw [joined, List.flatMap_nil, utf8_nil, Sink.write_nil, cutOff?]
    cases sink.room <;> rfl
  | cons p ps ih =>
    rw [utf8_joined_cons, Sink.write_append, writeAll]
    cases hroom : sink.room with
    | none =>
      rw [Sink.write_unlimited hroom, cutOff?, hroom]
      exact ih _
    | some room =>
      by_cases hlt : room < p.size
      · -- the room is used up in this piece, and nothing of the later ones is taken
        rw [Sink.write_short hroom hlt, cutOff?, hroom]
        simp only [holding?, if_pos hlt, Option.bind_some, Option.map_some]
        rw [Sink.write_full rfl]
      · rw [Sink.write_fitting hroom (Nat.not_lt.1 hlt), cutOff?, hroom]
        simp only [ih, cutOff?, holding?, if_neg hlt, Option.bind_some]
        rfl

/-- How finely output of one kind is cut does not matter. -/
theorem writeAll_cut (sink : Sink) (s t : List Char) (isObject : Bool) (ps : List Piece) :
    writeAll sink (⟨s ++ t, isObject⟩ :: ps) =
      writeAll sink (⟨s, isObject⟩ :: ⟨t, isObject⟩ :: ps) := by
  have hjoined : joined (⟨s ++ t, isObject⟩ :: ps) =
      joined (⟨s, isObject⟩ :: ⟨t, isObject⟩ :: ps) := by
    simp [joined]
  have hsize : size ⟨s ++ t, isObject⟩ = size ⟨s, isObject⟩ + size ⟨t, isObject⟩ := by
    simp [size]
  have hheld : ∀ n, (holding? n (⟨s ++ t, isObject⟩ :: ps)).map (·.lost .full) =
      (holding? n (⟨s, isObject⟩ :: ⟨t, isObject⟩ :: ps)).map (·.lost .full) := by
    intro n
    rw [holding?, holding?, holding?, hsize, ← Nat.sub_sub]
    by_cases hs : n < size ⟨s, isObject⟩
    · rw [if_pos hs, if_pos (by omega)]
      rfl
    · rw [if_neg hs]
      by_cases ht : n - size ⟨s, isObject⟩ < size ⟨t, isObject⟩
      · rw [if_pos ht, if_pos (by omega)]
        rfl
      · rw [if_neg ht, if_neg (by omega)]
  rw [writeAll_eq, writeAll_eq, hjoined, cutOff?, cutOff?, Option.map_bind, Option.map_bind]
  exact congrArg (fun held => (sink.room.bind held, _)) (funext hheld)

/-- A byte is held by the pieces in front, or by those behind at a place nearer by their length. -/
theorem holding?_append (n : Nat) (ps qs : List Piece) :
    holding? n (ps ++ qs) =
      (holding? n ps).or (holding? (n - (utf8 (joined ps)).length) qs) := by
  induction ps generalizing n with
  | nil => rfl
  | cons p ps ih =>
    rw [List.cons_append, holding?, holding?]
    split
    · rfl
    · rw [ih, utf8_joined_cons, List.length_append, ← Nat.sub_sub]
      rfl

end Piece

/-- What a session shows of a call: its trace, and behind it its output. -/
def Execution.shown (json : Bool) (e : Execution) : List Char :=
  (if json then Trace.jsonText e.logs else Trace.text e.logs) ++ Trace.trailer e.returnData

/-- The pieces in which a session shows a call. -/
def Execution.pieces (json : Bool) (e : Execution) : List Piece :=
  Piece.ofTrace json e.logs ++ Piece.ofOutput e.returnData

/-- The pieces of a session make up what it shows. -/
theorem Execution.joined_pieces (json : Bool) (e : Execution) :
    Piece.joined (e.pieces json) = e.shown json := by
  have houtput : Piece.joined (Piece.ofOutput e.returnData) = Trace.trailer e.returnData := by
    simp [Piece.joined, Piece.ofOutput, Trace.trailer]
  have htrace : Piece.joined (Piece.ofTrace json e.logs) =
      if json then Trace.jsonText e.logs else Trace.text e.logs := by
    cases json with
    | false =>
      rw [Piece.joined, Piece.ofTrace, if_neg (by decide), List.flatMap_map]
      rfl
    | true =>
      rw [Piece.joined, Piece.ofTrace, if_pos rfl, List.flatMap_assoc]
      simp [Trace.jsonText]
  rw [pieces, shown, ← htrace, ← houtput, Piece.joined, List.flatMap_append]
  rfl

namespace Trace

/-- The line of a step in a trace in JSON begins at a place. -/
def LineAt (logs : List StepLog) (start : Nat) (log : StepLog) : Prop :=
  ∃ earlier later, logs = earlier ++ log :: later ∧ start = (utf8 (jsonText earlier)).length

/-- The byte at a place of a trace in JSON belongs to the object of a step. -/
def InObject (logs : List StepLog) (n : Nat) : Prop :=
  ∃ start log, LineAt logs start log ∧ start ≤ n ∧ n < start + (utf8 (object log)).length

/-- The byte at a place of a trace in JSON is the newline behind the object of a step. -/
def AtLineEnd (logs : List StepLog) (n : Nat) : Prop :=
  ∃ start log, LineAt logs start log ∧ n = start + (utf8 (object log)).length

theorem length_utf8_jsonText_cons (log : StepLog) (logs : List StepLog) :
    (utf8 (jsonText (log :: logs))).length =
      (utf8 (object log)).length + 1 + (utf8 (jsonText logs)).length := by
  rw [jsonText, List.flatMap_cons, utf8_append, utf8_append, List.length_append,
    List.length_append]
  rfl

theorem not_lineAt_nil (start : Nat) (log : StepLog) : ¬LineAt [] start log := by
  rintro ⟨earlier, later, h, -⟩
  simp at h

/-- The line of a step is the first one, or stands behind it. -/
theorem lineAt_cons_iff {first log : StepLog} {logs : List StepLog} {start : Nat} :
    LineAt (first :: logs) start log ↔
      (start = 0 ∧ log = first) ∨
        ∃ k, start = (utf8 (object first)).length + 1 + k ∧ LineAt logs k log := by
  constructor
  · rintro ⟨earlier, later, h, rfl⟩
    cases earlier with
    | nil => exact .inl ⟨rfl, (List.cons.inj h).1.symm⟩
    | cons first' earlier =>
      obtain ⟨rfl, rfl⟩ := List.cons.inj h
      exact .inr ⟨_, length_utf8_jsonText_cons first earlier, earlier, later, rfl, rfl⟩
  · rintro (⟨rfl, rfl⟩ | ⟨k, rfl, earlier, later, rfl, rfl⟩)
    · exact ⟨[], logs, rfl, rfl⟩
    · exact ⟨first :: earlier, later, rfl, (length_utf8_jsonText_cons first earlier).symm⟩

theorem inObject_cons_iff {log : StepLog} {logs : List StepLog} {n : Nat} :
    InObject (log :: logs) n ↔
      n < (utf8 (object log)).length ∨
        ∃ k, n = (utf8 (object log)).length + 1 + k ∧ InObject logs k := by
  simp only [InObject, lineAt_cons_iff]
  constructor
  · rintro ⟨start, log', ⟨rfl, rfl⟩ | ⟨k, rfl, hline⟩, hle, hlt⟩
    · exact .inl (by omega)
    · exact .inr ⟨n - ((utf8 (object log)).length + 1), by omega, k, log', hline, by omega,
        by omega⟩
  · rintro (hlt | ⟨k, rfl, start, log', hline, hle, hlt⟩)
    · exact ⟨0, log, .inl ⟨rfl, rfl⟩, by omega, by omega⟩
    · exact ⟨_, log', .inr ⟨start, rfl, hline⟩, by omega, by omega⟩

theorem atLineEnd_cons_iff {log : StepLog} {logs : List StepLog} {n : Nat} :
    AtLineEnd (log :: logs) n ↔
      n = (utf8 (object log)).length ∨
        ∃ k, n = (utf8 (object log)).length + 1 + k ∧ AtLineEnd logs k := by
  simp only [AtLineEnd, lineAt_cons_iff]
  constructor
  · rintro ⟨start, log', ⟨rfl, rfl⟩ | ⟨k, rfl, hline⟩, rfl⟩
    · exact .inl (by omega)
    · exact .inr ⟨k + (utf8 (object log')).length, by omega, k, log', hline, rfl⟩
  · rintro (rfl | ⟨k, rfl, start, log', hline, rfl⟩)
    · exact ⟨0, log, .inl ⟨rfl, rfl⟩, by omega⟩
    · exact ⟨_, log', .inr ⟨start, rfl, hline⟩, by omega⟩

/-- Each byte of a trace in JSON belongs to an object or ends a line, and none does both. -/
theorem inObject_iff {logs : List StepLog} {n : Nat} :
    InObject logs n ↔ n < (utf8 (jsonText logs)).length ∧ ¬AtLineEnd logs n := by
  induction logs generalizing n with
  | nil => simp [InObject, not_lineAt_nil, jsonText]
  | cons log logs ih =>
    rw [inObject_cons_iff, atLineEnd_cons_iff, length_utf8_jsonText_cons]
    constructor
    · rintro (hlt | ⟨k, rfl, hk⟩)
      · refine ⟨by omega, ?_⟩
        rintro (heq | ⟨k, heq, -⟩)
        all_goals omega
      · obtain ⟨hlt, hend⟩ := ih.1 hk
        refine ⟨by omega, ?_⟩
        rintro (heq | ⟨k', heq, hk'⟩)
        · omega
        · obtain rfl : k = k' := by omega
          exact hend hk'
    · rintro ⟨hlt, hend⟩
      by_cases hn : n < (utf8 (object log)).length
      · exact .inl hn
      · have hne : n ≠ (utf8 (object log)).length := fun h => hend (.inl h)
        refine .inr ⟨n - ((utf8 (object log)).length + 1), by omega, ih.2 ⟨by omega, ?_⟩⟩
        exact fun h => hend (.inr ⟨_, by omega, h⟩)

end Trace

namespace Piece

open Trace

/-- Within a trace, the pieces that are objects hold just the bytes that belong to objects. -/
theorem exists_object_ofTrace_iff {logs : List StepLog} {n : Nat} :
    (∃ p, holding? n (ofTrace true logs) = some p ∧ p.isObject = true) ↔ InObject logs n := by
  induction logs generalizing n with
  | nil => simp [ofTrace, holding?, InObject, not_lineAt_nil]
  | cons log logs ih =>
    have hsplit : ofTrace true (log :: logs) =
        ⟨object log, true⟩ :: ⟨['\n'], false⟩ :: ofTrace true logs := rfl
    have hobject : size ⟨object log, true⟩ = (utf8 (object log)).length := rfl
    have hnewline : size ⟨['\n'], false⟩ = 1 := rfl
    rw [hsplit, holding?, holding?, hobject, hnewline, inObject_cons_iff]
    by_cases hlt : n < (utf8 (object log)).length
    · rw [if_pos hlt]
      exact iff_of_true ⟨_, rfl, rfl⟩ (.inl hlt)
    · rw [if_neg hlt]
      by_cases hend : n - (utf8 (object log)).length < 1
      · -- the newline behind the object
        rw [if_pos hend]
        refine iff_of_false ?_ ?_
        · rintro ⟨p, hp, hobj⟩
          obtain rfl := Option.some.inj hp
          cases hobj
        · rintro (h | ⟨k, hk, -⟩)
          all_goals omega
      · rw [if_neg hend, ih]
        constructor
        · exact fun h => .inr ⟨_, by omega, h⟩
        · rintro (h | ⟨k, rfl, h⟩)
          · omega
          · rwa [show (utf8 (object log)).length + 1 + k - (utf8 (object log)).length - 1 = k by
              omega]

/-- The pieces that hold bytes of objects are the objects of a trace in JSON. -/
theorem exists_object_pieces_iff {json : Bool} {e : Execution} {n : Nat} :
    (∃ p, holding? n (e.pieces json) = some p ∧ p.isObject = true) ↔
      json = true ∧ InObject e.logs n := by
  have hplain : ∀ {ps : List Piece} {n : Nat} {p : Piece}, (∀ q ∈ ps, q.isObject = false) →
      holding? n ps = some p → p.isObject = false := fun hps hp => hps _ (mem_of_holding? hp)
  have houtput : ∀ q ∈ ofOutput e.returnData, q.isObject = false := by simp [ofOutput]
  rw [Execution.pieces]
  cases json with
  | false =>
    have hall : ∀ q ∈ ofTrace false e.logs ++ ofOutput e.returnData, q.isObject = false := by
      intro q hq
      rcases List.mem_append.1 hq with hq | hq
      · obtain ⟨log, -, rfl⟩ := List.mem_map.1 hq
        rfl
      · exact houtput q hq
    refine iff_of_false ?_ (by simp)
    rintro ⟨p, hp, hobj⟩
    rw [hplain hall hp] at hobj
    cases hobj
  | true =>
    rw [holding?_append, ← exists_object_ofTrace_iff]
    constructor
    · rintro ⟨p, hp, hobj⟩
      rcases Option.or_eq_some_iff.1 hp with hp | ⟨-, hp⟩
      · exact ⟨rfl, p, hp, hobj⟩
      · rw [hplain houtput hp] at hobj
        cases hobj
    · rintro ⟨-, p, hp, hobj⟩
      exact ⟨p, by rw [hp, Option.some_or], hobj⟩

end Piece

end EvmScope
