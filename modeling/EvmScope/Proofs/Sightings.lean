import EvmScope.Proofs.Interpreter

/-!
# Where the slots in a trace come from

A record of SSTORE or SLOAD shows slots of its account with their values. An SSTORE names the value that
it is about to write, and an SLOAD that goes well delivers the value that the slot holds. An SLOAD that
fails delivers nothing, but a logger that takes the top of the stack for the value notes whatever is there,
which is the key if the SLOAD could not pay. These are the three sources of everything that is ever shown,
and the third one shows what no slot has held.
-/

namespace EvmScope

set_option autoImplicit false

/-- What was last seen of a slot was seen at some step of the account. -/
theorem exists_of_lastSeen? {steps : List SeenStep} {a : Address} {key value : Word}
    (h : lastSeen? steps a key = some value) :
    ∃ s ∈ steps, s.before.address = a ∧ s.sighting? = some (key, value) := by
  obtain ⟨later, earlier, hsplit, -⟩ := List.lookup_eq_some_iff.1 h
  have hmem : (key, value) ∈ sightings steps a := by
    rw [← List.mem_reverse, hsplit]
    simp
  obtain ⟨s, hs, hsight⟩ := List.mem_filterMap.1 hmem
  split at hsight
  · next haddress => exact ⟨s, hs, haddress, hsight⟩
  · cases hsight

namespace SeenStep

variable {s : SeenStep} {key value : Word}

/-- The step sees a slot of its account with a value: the value is an operand of SSTORE, or what an SLOAD
delivers that has gone well. -/
inductive Sees (s : SeenStep) (key value : Word) : Prop
  | stored (rest : List Word) (hop : s.before.op = 0x55)
      (hstack : s.before.stack = key :: value :: rest)
  | loaded (rest rest' : List Word) (hop : s.before.op = 0x54) (hstack : s.before.stack = key :: rest)
      (hsound : s.after.result.Sound) (hafter : s.after.stack = value :: rest')

/-- The step is an SLOAD of a key that fails, with some word on top of the stack behind it. -/
structure FailsToLoad (s : SeenStep) (key top : Word) : Prop where
  op : s.before.op = 0x54
  before : s.before.stack.head? = some key
  fails : ¬s.after.result.Sound
  after : s.after.stack.head? = some top

instance (s : SeenStep) (key top : Word) : Decidable (s.FailsToLoad key top) :=
  decidable_of_iff
    (s.before.op = 0x54 ∧ s.before.stack.head? = some key ∧ ¬s.after.result.Sound ∧
      s.after.stack.head? = some top)
    ⟨fun ⟨hop, hbefore, hfails, hafter⟩ => ⟨hop, hbefore, hfails, hafter⟩,
      fun ⟨hop, hbefore, hfails, hafter⟩ => ⟨hop, hbefore, hfails, hafter⟩⟩

/-- What a logger notes of a step is what the step sees, or what is on top of the stack behind an SLOAD
that fails. -/
theorem sighting?_eq_some_iff :
    s.sighting? = some (key, value) ↔ s.Sees key value ∨ s.FailsToLoad key value := by
  constructor
  · intro h
    unfold sighting? at h
    split_ifs at h with hstore hload
    · split at h
      · next k v rest hstack =>
        obtain ⟨rfl, rfl⟩ := Prod.mk.inj (Option.some.inj h)
        exact .inl (.stored rest hstore hstack)
      · cases h
    · split at h
      · next k rest v rest' hstack hafter =>
        obtain ⟨rfl, rfl⟩ := Prod.mk.inj (Option.some.inj h)
        by_cases hsound : s.after.result.Sound
        · exact .inl (.loaded rest rest' hload hstack hsound hafter)
        · exact .inr ⟨hload, by rw [hstack]; rfl, hsound, by rw [hafter]; rfl⟩
      · cases h
  · rintro (hsees | ⟨hop, hbefore, -, hafter⟩)
    · cases hsees with
      | stored rest hop hstack => simp [sighting?, hop, hstack]
      | loaded rest rest' hop hstack hsound hafter => simp [sighting?, hop, hstack, hafter]
    · obtain ⟨rest, hstack⟩ := List.head?_eq_some_iff.1 hbefore
      obtain ⟨rest', hafter⟩ := List.head?_eq_some_iff.1 hafter
      simp [sighting?, hop, hstack, hafter]

end SeenStep

/-- Each slot that a record shows comes with its value from a step of the same account, at this step or
at an earlier one. -/
def ShowsOnly (P : SeenStep → Word → Word → Prop) (steps : List SeenStep) (logs : List StepLog) :
    Prop :=
  ∀ (n : Nat) (log : StepLog) (key value : Word), logs[n]? = some log →
    log.storage.get? key = some value →
    ∃ (i : Nat) (a b : SeenStep), i ≤ n ∧ steps[i]? = some a ∧ steps[n]? = some b ∧
      a.before.address = b.before.address ∧ P a key value

namespace Logger

variable {steps : List SeenStep} {l : Logger} {n : Nat} {s : SeenStep} {log : StepLog}
  {key value : Word}

/-- What the records of some steps show has been seen, or was on top of the stack behind an SLOAD that
failed. -/
theorem Follows.showsOnly (h : Follows steps l) :
    ShowsOnly (fun a key value => a.Sees key value ∨ a.FailsToLoad key value) steps l.logs := by
  intro n log key value hlog hshown
  obtain ⟨b, hb⟩ : ∃ b, steps[n]? = some b := by
    have hn := (List.getElem?_eq_some_iff.1 hlog).1
    rw [logs, List.length_reverse, h.length] at hn
    exact ⟨_, List.getElem?_eq_getElem hn⟩
  have hshows := h.records n b log hb hlog
  -- the record of a step that notes nothing is empty, so this one notes something
  have hsome : b.sighting?.isSome = true := by
    by_contra hnone
    rw [hshows.noStorage (Option.not_isSome_iff_eq_none.1 hnone)] at hshown
    cases hshown
  rw [hshows.storage hsome] at hshown
  obtain ⟨a, ha, haddress, hsight⟩ := exists_of_lastSeen? hshown
  obtain ⟨i, hi⟩ := List.mem_iff_getElem?.1 ha
  rw [List.getElem?_take] at hi
  split_ifs at hi with hle
  exact ⟨i, a, b, Nat.le_of_lt_succ hle, hi, hb, haddress, SeenStep.sighting?_eq_some_iff.1 hsight⟩

/-- The record of an SLOAD that fails shows what was on top of the stack behind it. -/
theorem Follows.storage_of_failsToLoad (h : Follows steps l) (hs : steps[n]? = some s)
    (hlog : l.logs[n]? = some log) (hfails : s.FailsToLoad key value) :
    log.storage.get? key = some value := by
  have hsight : s.sighting? = some (key, value) := SeenStep.sighting?_eq_some_iff.2 (.inr hfails)
  have hshows := h.records n s log hs hlog
  rw [hshows.storage (by rw [hsight]; rfl), List.take_add_one, hs]
  show lastSeen? (_ ++ [s]) s.before.address key = some value
  rw [lastSeen?_snoc_of_some hsight, if_pos ⟨rfl, rfl⟩]

end Logger

/-- **Every slot that is shown has one of three sources**: an SSTORE that named the value, an SLOAD that
delivered it, or an SLOAD that failed with the value on top of the stack, which is always shown. This is so
for the records of every run, whatever it comes to; if it succeeds, they are those that it hands back. -/
theorem shown_slots_have_sources {vm : Vm} {w : vm.Workings} (hsurrounds : w.Surrounds)
    (spec : vm.Spec) {code : Bytes} (input : Bytes) (ctx : Context) {bytecode : vm.Bytecode}
    (hcode : vm.newRaw? code = some bytecode) :
    let steps := vm.steps (vm.transaction spec bytecode input ctx)
    let logs := (vm.executeLogged spec code input ctx).2
    ShowsOnly (fun a key value => a.Sees key value ∨ a.FailsToLoad key value) steps logs ∧
      (ctx.tracing = true → ∀ (n : Nat) (a : SeenStep) (key top : Word), steps[n]? = some a →
        a.FailsToLoad key top →
        ∃ log, logs[n]? = some log ∧ log.storage.get? key = some top) ∧
      ∀ e, vm.execute spec code input ctx = .ran e → e.logs = logs := by
  intro steps logs
  have hexecuted : vm.executeLogged spec code input ctx = _ := Vm.executeLogged_eq hsurrounds hcode
  have hlogs : logs = vm.logs (vm.transaction spec bytecode input ctx) ctx.tracing :=
    congrArg Prod.snd hexecuted
  have hfollows := Logger.Follows.replay steps
  refine ⟨?_, fun htracing n a key top ha hfails => ?_, fun e hran => ?_⟩
  · rw [hlogs, Vm.logs]
    split
    · exact hfollows.showsOnly
    · intro n log key value hlog
      cases hlog
  · have hn := (List.getElem?_eq_some_iff.1 ha).1
    rw [← hfollows.length, ← List.length_reverse] at hn
    rw [hlogs, Vm.logs, if_pos htracing]
    have hlog := List.getElem?_eq_getElem hn
    exact ⟨_, hlog, hfollows.storage_of_failsToLoad ha hlog hfails⟩
  · rw [Vm.execute, hexecuted] at hran
    rw [hlogs]
    rcases Transaction.reply_ran hran with ⟨output, gasUsed, -, rfl⟩ | ⟨text, -, rfl⟩ <;> rfl

/-- Code that calls itself with little gas if it has any input, and then loads slot 1. Without input it
loads slot 5, which the gas does not suffice for. -/
def loadsInVain : Bytes :=
  [0x36, 0x60, 0x08, 0x57, 0x60, 0x05, 0x54, 0x00, 0x5b, 0x5f, 0x5f, 0x5f, 0x5f, 0x5f, 0x30, 0x60,
    0x14, 0xf1, 0x60, 0x01, 0x54, 0x00]

/-- The steps of a call of that code. -/
def stepsInVain : List SeenStep :=
  interpreter.steps (interpreter.transaction .cancun ⟨loadsInVain, none⟩ [0x01] {})

/-- The failed SLOAD has a source for what it shows: its own key. -/
theorem failed_load_has_source :
    ∃ e, interpreter.execute .cancun loadsInVain [0x01] {} = .ran e ∧
      e.logs[16]?.map (fun log => (log.op, log.error, log.storage.get? 5)) =
        some (0x54, some "OutOfGas", some 5) ∧
      (∃ a, stepsInVain[16]? = some a ∧ a.FailsToLoad 5 5) ∧
      ShowsOnly (fun a key value => a.Sees key value ∨ a.FailsToLoad key value) stepsInVain e.logs := by
  have hshown : (interpreter.execute .cancun loadsInVain [0x01] {}).execution?.map
      (fun e => e.logs[16]?.map fun log => (log.op, log.error, log.storage.get? 5)) =
        some (some (0x54, some "OutOfGas", some 5)) := by
    decide +kernel
  have hfails : (stepsInVain[16]?.map fun a => decide (a.FailsToLoad 5 5)) = some true := by
    decide +kernel
  obtain ⟨e, hran, hlogs⟩ := Reply.exists_ran hshown
  obtain ⟨a, ha, hload⟩ := Option.map_eq_some_iff.1 hfails
  have hcode : interpreter.newRaw? loadsInVain = some ⟨loadsInVain, none⟩ := rfl
  obtain ⟨honly, -, hrecords⟩ :=
    shown_slots_have_sources interpreter_surrounds .cancun [0x01] {} hcode
  rw [← hrecords e hran] at honly
  exact ⟨e, hran, hlogs, ⟨a, ha, of_decide_eq_true hload⟩, honly⟩

/-- Slot 5 is shown with the value 5, in the record of the SLOAD that failed and in that of a later one
in the outer frame, although no step has seen it so. -/
theorem shown_slot_never_seen :
    ∃ e, interpreter.execute .cancun loadsInVain [0x01] {} = .ran e ∧
      ¬ShowsOnly SeenStep.Sees stepsInVain e.logs := by
  have hshown : (interpreter.execute .cancun loadsInVain [0x01] {}).execution?.map
      (fun e => e.logs[18]?.map fun log => log.storage.get? 5) = some (some (some 5)) := by
    decide +kernel
  have hunseen : ∀ a ∈ stepsInVain, a.before.op ≠ 0x55 ∧
      ¬(a.before.op = 0x54 ∧ a.before.stack.head? = some 5 ∧ a.after.result.Sound) := by
    decide +kernel
  obtain ⟨e, hran, hlogs⟩ := Reply.exists_ran hshown
  refine ⟨e, hran, fun honly => ?_⟩
  obtain ⟨log, hlog, hstorage⟩ := Option.map_eq_some_iff.1 hlogs
  obtain ⟨i, a, -, -, ha, -, -, hsees⟩ := honly 18 log 5 5 hlog hstorage
  obtain ⟨hstore, hload⟩ := hunseen a (List.mem_of_getElem? ha)
  cases hsees with
  | stored rest hop hstack => exact hstore hop
  | loaded rest rest' hop hstack hsound hafter => exact hload ⟨hop, by rw [hstack]; rfl, hsound⟩

end EvmScope
