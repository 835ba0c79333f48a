import EvmScope.Proofs.InterpreterFrames

/-!
# The output of the interpreter

RETURN pays for a range of the memory and hands it back. The memory grows by zeros until it covers the
range, and an empty range asks for nothing, wherever it begins. The other two ends of a frame hand back
nothing.
-/

namespace EvmScope

set_option autoImplicit false

/-- Words that hold some bytes cover them, unless their number has met the end of the sizes. -/
theorem Gas.le_words {n : Nat} (h : 32 * words n ≤ Exec.memoryLimit) : n ≤ 32 * words n := by
  unfold words capped largest Exec.memoryLimit at *
  omega

namespace Exec

variable {s t : Running}

theorem pop_ok {w : Word} (h : pop s = .ok w t) :
    ∃ rest, s.frame.stack = w :: rest ∧ t = { s with frame := { s.frame with stack := rest } } := by
  rw [pop, bind_apply, get_apply] at h
  cases hstack : s.frame.stack with
  | nil =>
    simp only [hstack] at h
    cases h
  | cons top rest =>
    simp only [hstack] at h
    cases h
    exact ⟨rest, rfl, rfl⟩

theorem asSize_ok {w : Word} {why : Fault} {n : Nat} (h : asSize w why s = .ok n t) :
    n = w.toNat ∧ t = s := by
  unfold asSize at h
  split at h
  · obtain ⟨rfl, rfl⟩ := of_pure_ok h
    exact ⟨rfl, rfl⟩
  · cases h

/-- A memory has grown by zeros, and so far that it covers a range. -/
structure Covers (offset length : Nat) (memory grown : Array UInt8) : Prop where
  zeros : ∃ zeros, grown = memory ++ Array.replicate zeros 0
  covers : offset + length ≤ grown.size

/-- Memory that has grown covers the range it has grown for. -/
theorem covers_of_grow {offset length : Nat} (h : grow offset length s = .ok () t) :
    Covers offset length s.frame.memory t.frame.memory := by
  rw [grow, bind_apply, get_apply] at h
  dsimp only at h
  split at h
  · next hfits =>
    obtain ⟨-, rfl⟩ := of_pure_ok h
    exact ⟨⟨0, Array.append_empty.symm⟩, hfits⟩
  · split at h
    · cases h
    · split at h
      · cases h
      · next hlimit =>
        cases h
        have hwords := Gas.le_words (Nat.not_lt.1 hlimit)
        refine ⟨⟨_, rfl⟩, ?_⟩
        rw [Array.size_append, Array.size_replicate]
        omega

/-- A range that is not empty begins at its offset, and the memory covers it. -/
theorem range_ok {offset : Word} {length n : Nat} (h : range offset length s = .ok n t) :
    (length = 0 ∧ t = s) ∨
      n = offset.toNat ∧ Covers offset.toNat length s.frame.memory t.frame.memory := by
  unfold range at h
  split at h
  · next hempty =>
    obtain ⟨-, rfl⟩ := of_pure_ok h
    exact .inl ⟨hempty, rfl⟩
  · obtain ⟨m, u, hsize, hrest⟩ := of_bind_ok h
    obtain ⟨rfl, rfl⟩ := asSize_ok hsize
    obtain ⟨⟨⟩, v, hgrow, hpure⟩ := of_bind_ok hrest
    obtain ⟨rfl, rfl⟩ := of_pure_ok hpure
    exact .inr ⟨rfl, covers_of_grow hgrow⟩

theorem read_ok {offset length : Nat} {data : Array UInt8} (h : read offset length s = .ok data t) :
    data = Bytes.window s.frame.memory offset length ∧ t = s := by
  rw [read, bind_apply, get_apply] at h
  obtain ⟨rfl, rfl⟩ := of_pure_ok h
  exact ⟨rfl, rfl⟩

end Exec

/-- A window that a string covers is a part of it. -/
theorem Bytes.window_eq_extract {bs : Array UInt8} {start length : Nat}
    (h : length ≠ 0 → start + length ≤ bs.size) :
    window bs start length = bs.extract start (start + length) := by
  have hnone : length - (bs.extract start (start + length)).size = 0 := by
    rw [Array.size_extract]
    omega
  rw [window, hnone, Array.replicate_zero, Array.append_empty]

namespace Operation

open Exec

variable {env : Env} {s t : Running} {signal : Signal}

/-- The output is the range of the memory that the two words on top of the stack name. -/
theorem executeOutput_ok {output : Array UInt8} (h : executeOutput s = .ok output t) :
    ∃ (offset size : Word) (rest : List Word), s.frame.stack = offset :: size :: rest ∧
      HandedBack s.frame.memory offset size output.toList := by
  obtain ⟨offset, s₁, hoffset, h⟩ := of_bind_ok h
  obtain ⟨tail, hstack, rfl⟩ := pop_ok hoffset
  obtain ⟨size, s₂, hlength, h⟩ := of_bind_ok h
  obtain ⟨rest, htail, rfl⟩ := pop_ok hlength
  obtain ⟨length, s₃, hsize, h⟩ := of_bind_ok h
  obtain ⟨rfl, rfl⟩ := asSize_ok hsize
  obtain ⟨start, s₄, hrange, hread⟩ := of_bind_ok h
  obtain ⟨rfl, -⟩ := read_ok hread
  have htail' : tail = size :: rest := htail
  refine ⟨offset, size, rest, by rw [hstack, htail'], ?_⟩
  rcases range_ok hrange with ⟨hempty, rfl⟩ | ⟨rfl, ⟨zeros, hgrown⟩, hcovers⟩
  · have hzero : size = 0 := BitVec.eq_of_toNat_eq hempty
    refine ⟨0, fun hne => absurd hzero hne, ?_⟩
    rw [hempty, Nat.add_zero]
    simp [Bytes.window]
  · have hmemory : s₄.frame.memory = s.frame.memory ++ Array.replicate zeros 0 := hgrown
    refine ⟨zeros, fun _ => hmemory ▸ hcovers, ?_⟩
    rw [Bytes.window_eq_extract fun _ => hcovers, hmemory]

theorem execute_ret_ok (h : ret.execute env s = .ok signal t) :
    ∃ output, signal = .halt (.returned output) ∧
      ∃ (offset size : Word) (rest : List Word), s.frame.stack = offset :: size :: rest ∧
        HandedBack s.frame.memory offset size output.toList := by
  obtain ⟨output, u, houtput, hpure⟩ := of_bind_ok (x := executeOutput) h
  obtain ⟨rfl, -⟩ := of_pure_ok hpure
  exact ⟨output, rfl, executeOutput_ok houtput⟩

theorem execute_selfDestruct_ok (h : selfDestruct.execute env s = .ok signal t) :
    signal = .halt .selfDestructed := by
  obtain ⟨⟨⟩, u, -, hpure⟩ := of_bind_ok (x := executeSelfDestruct env) h
  obtain ⟨rfl, -⟩ := of_pure_ok hpure
  rfl

end Operation

namespace Interpreter

variable {i : Interpreter}

/-- RETURN hands back the range of the memory that the stack in front of it names. -/
theorem output_of_return (hop : i.machine.opcode = 0xf3) (hsound : i.instruction.result.Sound) :
    ∃ (offset size : Word) (rest : List Word), i.machine.frame.stack = offset :: size :: rest ∧
      HandedBack i.machine.frame.memory offset size i.instruction.output := by
  obtain ⟨signal, t, hexec, -, heq⟩ := sound_instruction hsound
  rw [Machine.executed, hop] at hexec
  obtain ⟨output, rfl, hback⟩ := Operation.execute_ret_ok hexec
  rw [heq]
  exact hback

/-- STOP and SELFDESTRUCT hand back nothing. -/
theorem output_of_silent (hop : i.machine.opcode = 0x00 ∨ i.machine.opcode = 0xff)
    (hsound : i.instruction.result.Sound) : i.instruction.output = [] := by
  obtain ⟨signal, t, hexec, -, heq⟩ := sound_instruction hsound
  rw [Machine.executed] at hexec
  rw [heq]
  rcases hop with hop | hop
  · rw [hop] at hexec
    cases hexec
    rfl
  · rw [hop] at hexec
    obtain rfl := Operation.execute_selfDestruct_ok hexec
    rfl

/-- The output of a transaction is what its outermost frame has handed back. -/
theorem output_of_finished {output : Bytes} {gasUsed : Nat}
    (h : i.onward = .ended (.ok (.success output gasUsed))) : output = i.output := by
  obtain ⟨-, how, hlast, -, houtput, -⟩ := onward_eq_success h
  rw [houtput, Interpreter.output, hlast]

/-- A call of an account without code gives no output. -/
theorem output_of_codeless {tx : TransactionEnv Hardfork Bytecode} {output : Bytes} {gasUsed : Nat}
    (h : first tx = .ended (.ok (.success output gasUsed))) : output = [] := by
  obtain ⟨-, -, hresult⟩ := first_eq_ok h
  exact (isSuccess_of_conclude hresult.symm).2.1

end Interpreter

open Interpreter in
/-- The interpreter hands back what the opcode that ends a frame says. -/
theorem interpreter_handsBack : interpreterWorkings.HandsBack where
  returned _ hop hsound := output_of_return hop hsound
  silent _ hop hsound := output_of_silent hop hsound
  finished _ hended := output_of_finished hended
  codeless _ hfirst := output_of_codeless hfirst

end EvmScope
