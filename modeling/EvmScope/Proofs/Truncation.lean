import EvmScope.Proofs.Sessions

/-!
# Output cut short

A sink that takes some number of bytes and then no more gets just that much of the output that a
sink without a limit would get. Whether anything is lost, where it is lost and what kind of error
that is depend on this number alone: it is compared with the places of the objects, of the ends of
the lines and of the output of the call in the whole text.
-/

namespace EvmScope.Session

set_option autoImplicit false

open Text Trace

/-- What becomes of a session that has `full` to say about a call, if its sink has room for `n`
bytes. -/
structure Truncated (json : Bool) (e : Execution) (full : Bytes) (n : Nat) (before : Sink)
    (ending : Ending) (after : Sink) : Prop where
  /-- What is taken is the beginning of the output. -/
  taken : after.taken = before.taken ++ full.take n
  /-- If all is taken the sink is flushed, and only that can still fail. -/
  whole : full.length ≤ n → after.flushes = before.flushes + 1 ∧
    ending = if before.flushFails then .failed (.output .flushFailed) else .done e
  /-- If something is lost the session fails, and the sink is not flushed. -/
  cut : n < full.length → after.flushes = before.flushes ∧ ∃ why, ending = .failed why
  /-- The loss of a byte of an object is an error of its own. -/
  object : ending = .failed (.object .full) ↔ json = true ∧ InObject e.logs n
  /-- All other bytes are those of a trace in text, the ends of the lines of a trace in JSON, and
  what stands behind either. -/
  output : n < full.length → (ending = .failed (.output .full) ↔
    json = false ∨ AtLineEnd e.logs n ∨ (utf8 (jsonText e.logs)).length ≤ n)

variable {σ : Type} {engine : Engine σ} {state : σ} {fs : FileSystem} {o : CallOptions} {c : Config}
  {e : Execution} {json : Bool} {sink : Sink} {n : Nat}

/-- A sink with no end takes all that a session shows. -/
theorem conclude_unlimited (hstate : e.stateError = none) (hroom : sink.room = none) :
    (conclude json (.ran e) sink).2.taken = sink.taken ++ utf8 (e.shown json) := by
  have hwhole : Piece.cutOff? sink (e.pieces json) = none := by rw [Piece.cutOff?, hroom]; rfl
  rw [conclude_of_ran hstate, hwhole, Sink.write_unlimited hroom]

/-- The bytes of a trace in JSON come first in what is shown of a call. -/
theorem length_jsonText_le (e : Execution) :
    (utf8 (jsonText e.logs)).length ≤ (utf8 (e.shown true)).length := by
  rw [Execution.shown, if_pos rfl, utf8_append, List.length_append]
  omega

/-- The places outside of objects: all of a trace in text, and in a trace in JSON the ends of the
lines and what stands behind it. -/
theorem not_inObject_iff {logs : List StepLog} :
    ¬(json = true ∧ InObject logs n) ↔
      json = false ∨ AtLineEnd logs n ∨ (utf8 (jsonText logs)).length ≤ n := by
  cases json with
  | false => simp
  | true =>
    simp only [inObject_iff, true_and, Bool.true_eq_false, false_or]
    rw [Classical.not_and_iff_not_or_not, Classical.not_not, Nat.not_lt, or_comm]

/-- What a sink with little room has taken, and how the session ends there. -/
theorem truncated_conclude (hstate : e.stateError = none) (hroom : sink.room = some n) :
    Truncated json e (utf8 (e.shown json)) n sink (conclude json (.ran e) sink).1
      (conclude json (.ran e) sink).2 := by
  have hcut : Piece.cutOff? sink (e.pieces json) = Piece.holding? n (e.pieces json) := by
    rw [Piece.cutOff?, hroom]
    rfl
  have hnone :
      Piece.holding? n (e.pieces json) = none ↔ (utf8 (e.shown json)).length ≤ n := by
    rw [Piece.holding?_eq_none_iff, Execution.joined_pieces]
  have hobject : (∃ p, Piece.holding? n (e.pieces json) = some p ∧ p.isObject = true) ↔
      json = true ∧ InObject e.logs n := Piece.exists_object_pieces_iff
  have htaken : (sink.write (utf8 (e.shown json))).2.taken =
      sink.taken ++ (utf8 (e.shown json)).take n := by
    rw [Sink.write_snd_limited hroom]
  have hflushes := Sink.write_flushes sink (utf8 (e.shown json))
  rw [conclude_of_ran hstate, hcut]
  generalize (sink.write (utf8 (e.shown json))).2 = written at htaken hflushes
  cases hheld : Piece.holding? n (e.pieces json) with
  | none =>
    have hle := hnone.1 hheld
    have hno : ¬(json = true ∧ InObject e.logs n) := by
      rw [← hobject, hheld]
      simp
    refine ⟨htaken, fun _ => ⟨congrArg (· + 1) hflushes, rfl⟩, fun hlt => ?_, ?_, fun hlt => ?_⟩
    · omega
    · refine iff_of_false (fun h => ?_) hno
      cases hflush : sink.flushFails <;> simp [hflush] at h
    · omega
  | some p =>
    have hlt : n < (utf8 (e.shown json)).length := by
      refine Nat.lt_of_not_le fun hle => ?_
      rw [hnone.2 hle] at hheld
      cases hheld
    have hkind : p.isObject = true ↔ json = true ∧ InObject e.logs n := by
      rw [← hobject, hheld]
      simp
    refine ⟨htaken, fun hle => ?_, fun _ => ⟨hflushes, _, rfl⟩, ?_, fun _ => ?_⟩
    · omega
    · rw [← hkind, Ending.failed.injEq]
      exact Piece.lost_eq_object_iff
    · rw [← not_inObject_iff, ← hkind, Ending.failed.injEq]
      exact Piece.lost_eq_output_iff

/-- **A sink that fails cuts the output short and does nothing else.** -/
theorem run_truncated (hmeans : o.Means fs c) (hran : engine.answer state c = .ran e)
    (hstate : e.stateError = none) (before : Sink) (n : Nat) :
    let full := utf8 (e.shown o.json)
    let (_, unlimited, _) := run engine state fs o { before with room := none }
    let (ending, after, _) := run engine state fs o { before with room := some n }
    unlimited.taken = before.taken ++ full ∧
      Truncated o.json e full n before ending after := by
  have hread := Config.ofOptions_eq_ok_iff.2 hmeans
  rw [run_of_ok hread, run_of_ok hread, hran]
  have hcut : Truncated o.json e (utf8 (e.shown o.json)) n { before with room := some n } _ _ :=
    truncated_conclude hstate rfl
  exact ⟨conclude_unlimited hstate rfl, hcut.taken, hcut.whole, hcut.cut, hcut.object, hcut.output⟩

/-- A trace in JSON of one step, cut off at the newline behind its object. -/
theorem newline_cut_off :
    let o : CallOptions :=
      { CallOptions.default with target := ['0', '0'], coinbase := [], origin := [], json := true }
    let c : Config := { context := {}, code := [0], input := [] }
    let e : Execution := { logs := [{}], returnData := [0xca] }
    let engine : Engine Unit := fun _ _ _ state => (.ran e, state)
    let n := (utf8 (object {})).length
    o.Means (fun _ => none) c ∧ engine.answer () c = .ran e ∧ e.stateError = none ∧
      (run engine () (fun _ => none) o { room := some n }).1 = .failed (.output .full) := by
  intro o c e engine n
  have htarget : Target.resolve (fun _ => none) ['0', '0'] = .ok [0] := rfl
  have hmeans : o.Means (fun _ => none) c :=
    ⟨htarget, rfl, rfl, rfl, rfl, rfl, rfl, rfl, rfl, rfl⟩
  have hend : AtLineEnd e.logs n := ⟨0, {}, ⟨[], [], rfl, rfl⟩, (Nat.zero_add n).symm⟩
  have hlt : n < (utf8 (e.shown o.json)).length := by
    have hline : n < (utf8 (jsonText [{}])).length := by
      rw [length_utf8_jsonText_cons]
      omega
    exact Nat.lt_of_lt_of_le hline (length_jsonText_le e)
  have hran : engine.answer () c = .ran e := rfl
  have hcut := (run_truncated hmeans hran rfl {} n).2
  exact ⟨hmeans, hran, rfl, (hcut.output hlt).2 (.inr (.inl hend))⟩

end EvmScope.Session
