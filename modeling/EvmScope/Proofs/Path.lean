import EvmScope.Proofs.Replay
import EvmScope.Vm.Laws

/-!
# The path of a run

A run goes from state to state, and an inspector is told of each step. As long as the inspector leaves
the interpreter alone, the run does not depend on it: there is one path, and whatever watches sees just
this path. So the records of a logger are a replay of it. Properties of records are then properties of
states on the path, and what each step keeps holds of all of them.
-/

namespace EvmScope

set_option autoImplicit false

theorem Inspector.quiet_idle {ι : Type} : (Inspector.idle : Inspector ι Unit).Quiet :=
  ⟨fun _ _ => rfl, fun _ _ => rfl⟩

theorem Vm.quiet_recorder (vm : Vm) : vm.recorder.Quiet :=
  ⟨fun _ _ => rfl, fun _ _ => rfl⟩

/-- A logger reads the interpreter and leaves it alone. -/
theorem Logger.quiet_inspector (vm : Vm) : (inspector vm).Quiet :=
  ⟨fun _ _ => rfl, fun _ _ => rfl⟩

namespace Vm.Workings

variable {vm : Vm} {w : vm.Workings} {σ : Type}

/-- What an inspector makes of a whole step. -/
def watch (w : vm.Workings) (insp : Inspector vm.Interp σ) (s : σ) (i : w.State) : σ :=
  (insp.stepEnd (w.view (w.instruction i)) (insp.step (w.view i) s).2).2

variable {insp : Inspector vm.Interp σ} {o : Sequel w.State} {path : List w.State}
  {outcome : Except TransactionError ExecutionResult}

/-- A run that is watched has a path, and the inspector has seen the steps of the path. -/
theorem Drives.exists_path {s : σ} {out : Except TransactionError ExecutionResult × σ}
    (h : w.Drives insp o s out) :
    ∃ path, w.Runs o path out.1 ∧ out.2 = path.foldl (w.watch insp) s := by
  induction h with
  | ended outcome s => exact ⟨[], .ended outcome, rfl⟩
  | @running i s out _ ih =>
    obtain ⟨path, hruns, hs⟩ := ih
    exact ⟨i :: path, .running hruns, hs⟩

/-- There is only one path, and it comes to one end. -/
theorem Runs.unique {path' : List w.State} {outcome' : Except TransactionError ExecutionResult}
    (h : w.Runs o path outcome) (h' : w.Runs o path' outcome') :
    path = path' ∧ outcome = outcome' := by
  induction h generalizing path' outcome' with
  | ended outcome =>
    cases h'
    exact ⟨rfl, rfl⟩
  | running _ ih =>
    cases h' with
    | running h' =>
      obtain ⟨rfl, rfl⟩ := ih h'
      exact ⟨rfl, rfl⟩

/-- The outcome of a transaction does not depend on what watches it, and all that watches sees the same
path. -/
theorem Surrounds.exists_path (h : w.Surrounds) (tx : TransactionEnv vm.Spec vm.Bytecode) :
    ∃ path, w.Runs (w.first tx) path (vm.outcome tx) ∧
      ∀ {σ : Type} (insp : Inspector vm.Interp σ), insp.Quiet → ∀ s : σ,
        vm.transact insp tx s = (vm.outcome tx, path.foldl (w.watch insp) s) := by
  obtain ⟨path, hpath, -⟩ := (h.drives .idle Inspector.quiet_idle tx ()).exists_path
  refine ⟨path, hpath, fun insp hquiet s => ?_⟩
  obtain ⟨path', hpath', hs⟩ := (h.drives insp hquiet tx s).exists_path
  obtain ⟨rfl, heq⟩ := hpath.unique hpath'
  exact Prod.ext heq.symm hs

/-- The recorder keeps the steps of a path in order, and none is left half told. -/
theorem foldl_recorder (path : List w.State) (steps : List SeenStep) :
    path.foldl (w.watch vm.recorder) (steps, none) = (steps ++ path.map w.seen, none) := by
  induction path generalizing steps with
  | nil => simp
  | cons i path ih =>
    have hstep : w.watch vm.recorder (steps, none) i = (steps ++ [w.seen i], none) := rfl
    rw [List.foldl_cons, hstep, ih, List.map_cons, List.append_assoc]
    rfl

/-- A logger replays the path. -/
theorem foldl_logger (path : List w.State) (l : Logger) :
    path.foldl (w.watch (Logger.inspector vm)) l = l.replay (path.map w.seen) := by
  rw [Logger.replay, List.foldl_map]
  rfl

/-- The steps of a transaction are those of its path. -/
theorem Surrounds.steps_eq (h : w.Surrounds) {tx : TransactionEnv vm.Spec vm.Bytecode}
    (hpath : w.Runs (w.first tx) path outcome) : vm.steps tx = path.map w.seen := by
  obtain ⟨path', hpath', htransact⟩ := h.exists_path tx
  obtain ⟨rfl, -⟩ := hpath.unique hpath'
  rw [steps, htransact _ vm.quiet_recorder, foldl_recorder]
  rfl

end Vm.Workings

namespace Vm

open Transaction

variable {vm : Vm} {w : vm.Workings} {spec : vm.Spec} {bytecode : vm.Bytecode} {code input : Bytes}
  {ctx : Context}

/-- The records of a transaction: those of its steps, or none. -/
def logs (vm : Vm) (tx : TransactionEnv vm.Spec vm.Bytecode) (tracing : Bool) : List StepLog :=
  if tracing then (({ enabled := true } : Logger).replay (vm.steps tx)).logs else []

/-- What the engine makes of code that is taken: a reply to the outcome of the transaction that nothing
watches, with the records of its steps. -/
theorem executeLogged_eq (h : w.Surrounds) (hcode : vm.newRaw? code = some bytecode) :
    vm.executeLogged spec code input ctx =
      let tx := vm.transaction spec bytecode input ctx
      (reply (vm.intrinsicGas spec input) (vm.logs tx ctx.tracing) (vm.outcome tx),
        vm.logs tx ctx.tracing) := by
  obtain ⟨path, hpath, htransact⟩ := h.exists_path (vm.transaction spec bytecode input ctx)
  have hlogs : (({ enabled := ctx.tracing } : Logger).replay (path.map w.seen)).logs =
      vm.logs (vm.transaction spec bytecode input ctx) ctx.tracing := by
    rw [logs, h.steps_eq hpath]
    cases ctx.tracing with
    | true => rfl
    | false =>
      rw [Logger.replay_of_disabled rfl]
      rfl
  have hrun := htransact (Logger.inspector vm) (Logger.quiet_inspector vm) { enabled := ctx.tracing }
  rw [Workings.foldl_logger] at hrun
  simp only [executeLogged, hcode, hrun, hlogs]

/-- What becomes of some code when no step is recorded: the outcome of the transaction alone. -/
theorem execute_eq (h : w.Surrounds) (hcode : vm.newRaw? code = some bytecode) :
    vm.execute spec code input ctx =
      let tx := vm.transaction spec bytecode input ctx
      reply (vm.intrinsicGas spec input) (vm.logs tx ctx.tracing) (vm.outcome tx) := by
  rw [execute, executeLogged_eq h hcode]

/-- Code that is not taken brings the engine down. -/
theorem execute_of_not_taken (hcode : vm.newRaw? code = none) :
    vm.execute spec code input ctx = .crashed := by
  rw [execute, executeLogged, hcode]

/-- A reply that tells of an execution comes from code that is taken. -/
theorem exists_bytecode {e : Execution} (hran : vm.execute spec code input ctx = .ran e) :
    ∃ bytecode, vm.newRaw? code = some bytecode := by
  cases hcode : vm.newRaw? code with
  | some bytecode => exact ⟨bytecode, rfl⟩
  | none =>
    rw [execute_of_not_taken hcode] at hran
    cases hran

end Vm

namespace Reply

/-- What a call has done, if it has succeeded. -/
def execution? : Reply → Option Execution
  | ran e => some e
  | _ => none

/-- Something that has been computed of a call shows that it has succeeded. -/
theorem exists_ran {α : Type} {f : Execution → α} {reply : Reply} {a : α}
    (h : reply.execution?.map f = some a) : ∃ e, reply = .ran e ∧ f e = a := by
  obtain ⟨e, he, hf⟩ := Option.map_eq_some_iff.1 h
  cases reply with
  | ran e' => exact ⟨e, congrArg ran (Option.some.inj he), hf⟩
  | crashed => cases he
  | failed why => cases he

end Reply

/-- The reply to a transaction tells of an execution if it succeeds, or if its state has failed. -/
theorem Transaction.reply_ran {intrinsic : UInt64} {logs : List StepLog} {e : Execution}
    {outcome : Except TransactionError ExecutionResult} (h : reply intrinsic logs outcome = .ran e) :
    (∃ output gasUsed, outcome = .ok (.success output gasUsed) ∧
      e = { returnData := output, logs, gasUsed := gasUsed - intrinsic.toNat }) ∨
    ∃ text, outcome = .error (.database text) ∧ e = { logs, stateError := some text } := by
  unfold reply at h
  split at h
  · exact .inl ⟨_, _, rfl, (Reply.ran.inj h).symm⟩
  · cases h
  · cases h
  · exact .inr ⟨_, rfl, (Reply.ran.inj h).symm⟩
  · cases h
  · cases h

namespace Vm.Workings

variable {vm : Vm} {w : vm.Workings}

/-- The records of the steps of a path. -/
def trace (w : vm.Workings) (path : List w.State) : List StepLog :=
  (({ enabled := true } : Logger).replay (path.map w.seen)).logs

/-- A call of plain code that runs some instructions, from the state `i₀` on, and succeeds. -/
structure Succeeds (w : vm.Workings) (tx : TransactionEnv vm.Spec vm.Bytecode) (code : Bytes)
    (i₀ : w.State) (path : List w.State) (output : Bytes) (gasUsed : Nat) : Prop where
  calls : vm.Calls tx code
  first : w.first tx = .running i₀
  runs : w.Runs (.running i₀) path (.ok (.success output gasUsed))

/-- A call of plain code that succeeds without running an instruction. -/
structure SucceedsAtOnce (w : vm.Workings) (tx : TransactionEnv vm.Spec vm.Bytecode) (code : Bytes)
    (output : Bytes) (gasUsed : Nat) : Prop where
  calls : vm.Calls tx code
  first : w.first tx = .ended (.ok (.success output gasUsed))

/-- What a call of plain code has done that succeeds. -/
theorem Surrounds.exists_success (h : w.Surrounds) (hstate : vm.Infallible) {spec : vm.Spec}
    {code input : Bytes} {ctx : Context} {e : Execution} (hplain : Plain code)
    (hran : vm.execute spec code input ctx = .ran e) :
    ∃ bytecode output gasUsed,
      let tx := vm.transaction spec bytecode input ctx
      (w.SucceedsAtOnce tx code output gasUsed ∧
        e = { returnData := output, gasUsed := gasUsed - (vm.intrinsicGas spec input).toNat }) ∨
      ∃ i₀ path, w.Succeeds tx code i₀ path output gasUsed ∧
        e = { returnData := output, logs := if ctx.tracing then w.trace path else []
              gasUsed := gasUsed - (vm.intrinsicGas spec input).toNat } := by
  obtain ⟨bytecode, hcode⟩ := exists_bytecode hran
  have hcalls : vm.Calls (vm.transaction spec bytecode input ctx) code :=
    ⟨hplain, spec, bytecode, input, ctx, hcode, rfl⟩
  obtain ⟨path, hpath, -⟩ := h.exists_path (vm.transaction spec bytecode input ctx)
  have hlogs : vm.logs (vm.transaction spec bytecode input ctx) ctx.tracing =
      if ctx.tracing then w.trace path else [] := by rw [logs, h.steps_eq hpath, trace]
  rw [execute_eq h hcode] at hran
  dsimp only at hran
  rw [hlogs] at hran
  rcases Transaction.reply_ran hran with ⟨output, gasUsed, houtcome, rfl⟩ | ⟨text, houtcome, -⟩
  · rw [houtcome] at hpath
    refine ⟨bytecode, output, gasUsed, ?_⟩
    cases hfirst : w.first (vm.transaction spec bytecode input ctx) with
    | ended outcome =>
      rw [hfirst] at hpath
      cases hpath
      exact .inl ⟨⟨hcalls, hfirst⟩, by simp [trace, Logger.replay, Logger.logs]⟩
    | running i₀ =>
      rw [hfirst] at hpath
      exact .inr ⟨i₀, path, ⟨hcalls, hfirst, hpath⟩, rfl⟩
  · exact absurd houtcome (hstate.outcome _ _ _ _)

variable {tx : TransactionEnv vm.Spec vm.Bytecode} {code output : Bytes} {gasUsed n : Nat}
  {i₀ i : w.State} {path : List w.State} {outcome : Except TransactionError ExecutionResult}
  {log : StepLog}

/-- Each state of a path goes on to the one behind it, and the last one ends the run. -/
theorem Runs.step {o : Sequel w.State} (h : w.Runs o path outcome) (hi : path[n]? = some i) :
    (∃ j, w.onward (w.instruction i) = .running j ∧ path[n + 1]? = some j) ∨
      (w.onward (w.instruction i) = .ended outcome ∧ n + 1 = path.length) := by
  induction h generalizing n with
  | ended outcome => cases hi
  | @running i' path outcome hruns ih =>
    cases n with
    | succ n =>
      rcases ih hi with ⟨j, hj, hat⟩ | ⟨hended, hlast⟩
      · exact .inl ⟨j, hj, hat⟩
      · exact .inr ⟨hended, congrArg Nat.succ hlast⟩
    | zero =>
      obtain rfl : i' = i := Option.some.inj hi
      cases hnext : w.onward (w.instruction i') with
      | running j =>
        rw [hnext] at hruns
        cases hruns
        exact .inl ⟨j, rfl, rfl⟩
      | ended outcome' =>
        rw [hnext] at hruns
        cases hruns
        exact .inr ⟨rfl, rfl⟩

/-- What holds at first and is kept by every step of a run holds all along its path. -/
theorem Runs.invariant {P : w.State → Prop} {o : Sequel w.State} (h : w.Runs o path outcome)
    (hfirst : ∀ i, o = .running i → P i)
    (hnext : ∀ i j, i ∈ path → P i → w.onward (w.instruction i) = .running j → P j) :
    ∀ i ∈ path, P i := by
  induction h with
  | ended outcome => exact fun i hi => by cases hi
  | @running i' path outcome _ ih =>
    have hi' := hfirst i' rfl
    intro i hi
    rcases List.mem_cons.1 hi with rfl | hi
    · exact hi'
    · refine ih (fun j hj => hnext i' j List.mem_cons_self hi' hj) (fun a b ha => ?_) i hi
      exact hnext a b (List.mem_cons_of_mem i' ha)

/-- The first state of a call comes up in it. -/
theorem Succeeds.start (h : w.Succeeds tx code i₀ path output gasUsed) : w.Visits tx code i₀ i₀ :=
  .first h.calls h.first

/-- All states of the path of a call come up in it. -/
theorem Succeeds.visits (h : w.Succeeds tx code i₀ path output gasUsed) (hi : i ∈ path) :
    w.Visits tx code i₀ i := by
  refine h.runs.invariant (P := w.Visits tx code i₀) (fun j hj => ?_) (fun a b _ ha hb => ?_) i hi
  · obtain rfl := Sequel.running.inj hj
    exact h.start
  · exact .next ha hb

/-- A call that succeeds begins where its transaction does. -/
theorem Succeeds.head? (h : w.Succeeds tx code i₀ path output gasUsed) :
    path.head? = some i₀ := by
  cases h.runs
  rfl

/-- What holds at first and is kept by every step of a call holds all along its path. -/
theorem Succeeds.invariant {P : w.State → Prop} (h : w.Succeeds tx code i₀ path output gasUsed)
    (hfirst : P i₀)
    (hnext : ∀ i j, i ∈ path → P i → w.onward (w.instruction i) = .running j → P j) :
    ∀ i ∈ path, P i :=
  h.runs.invariant (fun _ hj => Sequel.running.inj hj ▸ hfirst) hnext

/-- A record shows the next step of a state. -/
def ShownBy (w : vm.Workings) (i : w.State) (log : StepLog) : Prop :=
  ∃ seen, Shows seen (w.seen i) log

namespace ShownBy

variable (h : w.ShownBy i log)

include h

theorem pc : log.pc = (w.before i).pc := h.elim fun _ h => h.pc

theorem op : log.op = (w.before i).op := h.elim fun _ h => h.op

theorem gas : log.gas = (w.before i).gas := h.elim fun _ h => h.gas

theorem gasCost : log.gasCost = (w.before i).gas - (w.behind i).gas := h.elim fun _ h => h.gasCost

theorem depth : log.depth = (w.before i).depth := h.elim fun _ h => h.depth

theorem stack : log.stack = (w.before i).stack := h.elim fun _ h => h.stack

theorem memory : log.memory = (w.before i).memory := h.elim fun _ h => h.memory

/-- A record shows an error unless all has gone well. -/
theorem error_eq_none_iff : log.error = none ↔ (w.behind i).result.Sound := by
  obtain ⟨seen, hshows⟩ := h
  have hafter : (w.seen i).after = w.behind i := rfl
  rw [hshows.error, hafter, InstructionResult.Sound]
  cases (w.behind i).result.isRevert <;> cases (w.behind i).result.isError <;> simp

end ShownBy

/-- A logger that is shown the steps of a path follows them. -/
theorem follows_trace (path : List w.State) :
    Logger.Follows (path.map w.seen) (({ enabled := true } : Logger).replay (path.map w.seen)) :=
  .replay _

/-- There is a record for each state. -/
theorem length_trace (path : List w.State) : (w.trace path).length = path.length := by
  rw [trace, Logger.logs, List.length_reverse, (follows_trace path).length, List.length_map]

/-- Each record shows the step of a state. -/
theorem exists_state (hlog : (w.trace path)[n]? = some log) :
    ∃ i, path[n]? = some i ∧ w.ShownBy i log := by
  have hn : n < (w.trace path).length := (List.getElem?_eq_some_iff.1 hlog).1
  rw [length_trace] at hn
  have hi : path[n]? = some path[n] := List.getElem?_eq_getElem hn
  exact ⟨_, hi, _, (follows_trace path).records n _ log (by rw [List.getElem?_map, hi]; rfl) hlog⟩

/-- The step of each state is shown by a record. -/
theorem exists_log (hi : path[n]? = some i) : ∃ log, (w.trace path)[n]? = some log ∧ w.ShownBy i log := by
  have hn : n < (w.trace path).length := by
    rw [length_trace]
    exact (List.getElem?_eq_some_iff.1 hi).1
  obtain ⟨i', hi', hshown⟩ := exists_state (w := w) (List.getElem?_eq_getElem hn)
  obtain rfl := Option.some.inj (hi.symm.trans hi')
  exact ⟨_, List.getElem?_eq_getElem hn, hshown⟩

/-- A record on the way shows a step to the state of the record behind it, and the last one shows the
step that ends the run. -/
theorem Succeeds.exists_step (h : w.Succeeds tx code i₀ path output gasUsed)
    (hlog : (w.trace path)[n]? = some log) :
    ∃ i ∈ path, w.Visits tx code i₀ i ∧ w.ShownBy i log ∧
      ((∃ j next, w.onward (w.instruction i) = .running j ∧ w.Visits tx code i₀ j ∧
          (w.trace path)[n + 1]? = some next ∧ w.ShownBy j next) ∨
        (w.onward (w.instruction i) = .ended (.ok (.success output gasUsed)) ∧
          n + 1 = (w.trace path).length)) := by
  obtain ⟨i, hi, hshown⟩ := exists_state hlog
  have hmem := List.mem_of_getElem? hi
  have hvisits := h.visits hmem
  refine ⟨i, hmem, hvisits, hshown, ?_⟩
  rcases h.runs.step hi with ⟨j, hj, hat⟩ | ⟨hended, hlast⟩
  · obtain ⟨next, hnext, hshown'⟩ := exists_log hat
    exact .inl ⟨j, next, hj, .next hvisits hj, hnext, hshown'⟩
  · rw [← length_trace] at hlast
    exact .inr ⟨hended, hlast⟩

/-- Between two records there is a step. -/
theorem Succeeds.exists_step_between {next : StepLog}
    (h : w.Succeeds tx code i₀ path output gasUsed) (hlog : (w.trace path)[n]? = some log)
    (hnext : (w.trace path)[n + 1]? = some next) :
    ∃ i j, w.Visits tx code i₀ i ∧ w.Visits tx code i₀ j ∧ w.ShownBy i log ∧
      w.onward (w.instruction i) = .running j ∧ w.ShownBy j next := by
  obtain ⟨i, -, hvisits, hshown, ⟨j, next', hj, hvisits', hnext', hshown'⟩ | ⟨-, hlast⟩⟩ :=
    h.exists_step hlog
  · obtain rfl := Option.some.inj (hnext.symm.trans hnext')
    exact ⟨i, j, hvisits, hvisits', hshown, hj, hshown'⟩
  · have hlt := (List.getElem?_eq_some_iff.1 hnext).1
    omega

/-- The first record shows the first step. -/
theorem Succeeds.shownBy_of_head? (h : w.Succeeds tx code i₀ path output gasUsed)
    (hlog : (w.trace path).head? = some log) : w.ShownBy i₀ log := by
  rw [List.head?_eq_getElem?] at hlog
  obtain ⟨i, hi, hshown⟩ := exists_state hlog
  rw [← List.head?_eq_getElem?, h.head?] at hi
  obtain rfl := Option.some.inj hi
  exact hshown

/-- The last record shows the step that ends the run. -/
theorem Succeeds.ended_of_getLast? (h : w.Succeeds tx code i₀ path output gasUsed)
    (hlog : (w.trace path).getLast? = some log) :
    ∃ i ∈ path, w.Visits tx code i₀ i ∧ w.ShownBy i log ∧
      w.onward (w.instruction i) = .ended (.ok (.success output gasUsed)) := by
  rw [List.getLast?_eq_getElem?] at hlog
  obtain ⟨i, hi, hvisits, hshown, ⟨j, next, -, -, hnext, -⟩ | ⟨hended, -⟩⟩ := h.exists_step hlog
  · have hlt := (List.getElem?_eq_some_iff.1 hnext).1
    omega
  · exact ⟨i, hi, hvisits, hshown, hended⟩

theorem Succeeds.trace_ne_nil (h : w.Succeeds tx code i₀ path output gasUsed) :
    w.trace path ≠ [] := by
  intro hnil
  have hlength := length_trace path
  rw [hnil] at hlength
  have hhead := h.head?
  rw [List.eq_nil_of_length_eq_zero hlength.symm] at hhead
  cases hhead

/-- What holds at first and is kept from each state to the next holds of all states that come up. -/
theorem Visits.invariant {P : w.State → Prop} (h : w.Visits tx code i₀ i) (hfirst : P i₀)
    (hnext : ∀ i j, w.Visits tx code i₀ i → P i → w.onward (w.instruction i) = .running j → P j) :
    P i := by
  induction h with
  | first _ _ => exact hfirst
  | next hi hj ih => exact hnext _ _ hi ih hj

/-- Where any state comes up, the transaction calls the code and begins to run. -/
theorem Visits.origin (h : w.Visits tx code i₀ i) :
    vm.Calls tx code ∧ w.first tx = .running i₀ := by
  induction h with
  | first hcalls hfirst => exact ⟨hcalls, hfirst⟩
  | next _ _ ih => exact ih

/-- The first state has come up in a run in which any state has. -/
theorem Visits.start (h : w.Visits tx code i₀ i) : w.Visits tx code i₀ i₀ :=
  .first h.origin.1 h.origin.2

theorem Visits.calls (h : w.Visits tx code i₀ i) : vm.Calls tx code :=
  h.origin.1

theorem Visits.begins (h : w.Visits tx code i₀ i) : w.first tx = .running i₀ :=
  h.origin.2

end Vm.Workings

end EvmScope
