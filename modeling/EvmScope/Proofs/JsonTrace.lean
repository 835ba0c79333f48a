import Mathlib.Data.List.Forall2
import EvmScope.Proofs.JsonReading
import EvmScope.Trace.Json
import EvmScope.Text.Utf8.Lemmas

/-!
# What a trace in JSON tells

Every step has a line of its own. The line can be read as JSON, and the value tells all of the step:
its numbers, its words from the bottom of the stack up, its bytes, its slots in the order of their
keys, and its error if it has one. So a trace in JSON tells its steps, whatever their errors say.
-/

namespace EvmScope

set_option autoImplicit false

open Text

namespace JsonValue

/-- The word that a string gives as a quantity. -/
def word? : JsonValue → Option Word
  | .string s => Word.ofQuantity? s
  | _ => none

/-- The words of an array. -/
def words? : JsonValue → Option (List Word)
  | .array items => items.mapM word?
  | _ => none

/-- The bytes that a string gives by their digits. -/
def bytes? : JsonValue → Option Bytes
  | .string ('0' :: 'x' :: digits) => Hex.readPairs? digits
  | _ => none

/-- The slot that a member gives by quantities. -/
def slot? (m : List Char × JsonValue) : Option (Word × Word) := do
  let key ← Word.ofQuantity? m.1
  let value ← m.2.word?
  pure (key, value)

/-- The slots of an object, whose keys have to increase. -/
def slots? : JsonValue → Option (List (Word × Word))
  | .object members => do
    let slots ← members.mapM slot?
    if slots.Pairwise (·.1 < ·.1) then pure slots else none
  | _ => none

/-- The value of a step: an object without two members of one key. The error is missing exactly if
the step has none. -/
structure Tells (v : JsonValue) (log : StepLog) : Prop where
  object : ∃ members, v = .object members ∧ (members.map (·.1)).Nodup
  pc : v.member? "pc" = some (.number log.pc)
  op : v.member? "op" = some (.number log.op.toNat)
  gas : v.member? "gas" = some (.number log.gas)
  gasCost : v.member? "gasCost" = some (.number log.gasCost)
  depth : v.member? "depth" = some (.number log.depth)
  error : v.member? "error" = log.error.map fun error => .string error.toList
  stack : (v.member? "stack").bind words? = some log.stack.reverse
  memory : (v.member? "memory").bind bytes? = some log.memory.toList
  storage : (v.member? "storage").bind slots? = some log.storage.entries
  opName : v.member? "opName" = some (.string log.opName.toList)

/-- A value tells one step. -/
theorem Tells.unique {v : JsonValue} {a b : StepLog} (ha : v.Tells a) (hb : v.Tells b) : a = b := by
  have hpc := ha.pc.symm.trans hb.pc
  have hop := ha.op.symm.trans hb.op
  have hgas := ha.gas.symm.trans hb.gas
  have hgasCost := ha.gasCost.symm.trans hb.gasCost
  have hdepth := ha.depth.symm.trans hb.depth
  have herror := ha.error.symm.trans hb.error
  have hstack := ha.stack.symm.trans hb.stack
  have hmemory := ha.memory.symm.trans hb.memory
  have hstorage := ha.storage.symm.trans hb.storage
  simp only [Option.some.injEq, number.injEq, List.reverse_inj, Array.toList_inj] at *
  have hstring : Function.Injective fun error : String => string error.toList := fun _ _ h =>
    String.toList_injective (string.inj h)
  obtain ⟨⟩ := a
  obtain ⟨⟩ := b
  obtain rfl := hpc
  obtain rfl := UInt8.toNat_inj.1 hop
  obtain rfl := hgas
  obtain rfl := hgasCost
  obtain rfl := hdepth
  obtain rfl := Option.map_injective hstring herror
  obtain rfl := hstack
  obtain rfl := hmemory
  obtain rfl := KeyMap.ext hstorage
  rfl

end JsonValue

namespace Trace

open JsonValue

/-- The words of a stack are read back. -/
theorem words?_array (ws : List Word) : words? (.array (ws.map wordValue)) = some ws := by
  have hword : word? ∘ wordValue = fun w => pure w := funext Word.ofQuantity?_quantity
  rw [words?, List.mapM_map, hword, List.mapM_pure]
  simp

/-- The slots of a step are read back, in the order of their keys. -/
theorem slots?_object (slots : Slots) :
    slots? (.object (slots.entries.map fun e => (Word.quantity e.1, wordValue e.2))) =
      some slots.entries := by
  have hslot : (slot? ∘ fun e : Word × Word => (Word.quantity e.1, wordValue e.2)) =
      fun e => pure e := by
    funext e
    simp [slot?, wordValue, word?, Word.ofQuantity?_quantity]
  rw [slots?, List.mapM_map, hslot, List.mapM_pure]
  simp [slots.sorted]

/-- No two fields of a step have the same key. -/
theorem nodup_keys (log : StepLog) :
    ∃ members, value log = .object members ∧ (members.map (·.1)).Nodup := by
  refine ⟨_, rfl, ?_⟩
  cases log.error <;> simp only [List.map_append, List.map_cons, List.map_nil] <;> decide

/-- Every field of a step can be told from its object. -/
theorem tells_value (log : StepLog) : (value log).Tells log := by
  have hkeys := nodup_keys log
  have hstack := words?_array log.stack.reverse
  have hmemory := Hex.readPairs?_encode log.memory.toList
  have hstorage := slots?_object log.storage
  obtain ⟨pc, op, gas, gasCost, depth, error, stack, memory, storage⟩ := log
  cases error with
  | none => exact ⟨hkeys, rfl, rfl, rfl, rfl, rfl, rfl, hstack, hmemory, hstorage, rfl⟩
  | some error => exact ⟨hkeys, rfl, rfl, rfl, rfl, rfl, rfl, hstack, hmemory, hstorage, rfl⟩

/-- The text of an object is JSON, and the reader gives the value it was made from. -/
theorem read?_object (log : StepLog) : JsonValue.read? (object log) = some (value log) :=
  read?_text (value log)

/-- Steps with the same text are equal. -/
theorem object_injective : Function.Injective object := by
  intro a b h
  have hvalue : value a = value b :=
    Option.some.inj (by rw [← read?_object, h, read?_object])
  exact (tells_value a).unique (hvalue ▸ tells_value b)

/-- An object stands on one line. -/
theorem newline_not_mem_object (log : StepLog) : '\n' ∉ object log :=
  newline_not_mem_text (value log)

/-- The value that a line of bytes gives. -/
def valueOfLine? (line : Bytes) : Option JsonValue :=
  (ofUtf8? line).bind JsonValue.read?

/-- A trace is the objects of its steps, each on a line of its own. -/
theorem jsonText_eq (logs : List StepLog) :
    jsonText logs = (logs.map object).flatMap (· ++ ['\n']) := by
  rw [jsonText, List.flatMap_map]

/-- The text of a trace determines its steps. -/
theorem jsonText_injective : Function.Injective jsonText := by
  intro logs logs' h
  have hlines (logs : List StepLog) : ∀ line ∈ logs.map object, '\n' ∉ line :=
    List.forall_mem_map.2 fun log _ => newline_not_mem_object log
  rw [jsonText_eq, jsonText_eq] at h
  exact object_injective.list_map (lines_inj (hlines logs) (hlines logs') h)

/-- **A trace in JSON tells its steps.** It is made of lines, one for each step, which can be read
and tell all of it. So traces of the same bytes are equal. -/
theorem jsonText_determines_steps :
    (∀ logs, ∃ lines : List Bytes, utf8 (jsonText logs) = lines.flatMap (· ++ [10]) ∧
      (∀ line ∈ lines, 10 ∉ line) ∧
      List.Forall₂ (fun line log => ∃ v, valueOfLine? line = some v ∧ v.Tells log) lines logs) ∧
    Function.Injective fun logs => utf8 (jsonText logs) := by
  constructor
  · intro logs
    refine ⟨logs.map fun log => utf8 (object log), ?_, ?_, ?_⟩
    · rw [jsonText, utf8_flatMap, List.flatMap_map]
      simp only [utf8_append]
      rfl
    · refine List.forall_mem_map.2 fun log _ hmem => ?_
      exact newline_not_mem_object log (newline_mem_utf8_iff.1 hmem)
    · rw [List.forall₂_map_left_iff, List.forall₂_same]
      intro log _
      refine ⟨value log, ?_, tells_value log⟩
      rw [valueOfLine?, ofUtf8?_utf8, Option.bind_some, read?_object]
  · exact utf8_injective.comp jsonText_injective

end Trace

end EvmScope
