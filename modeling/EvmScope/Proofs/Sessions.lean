import EvmScope.Proofs.Output

/-!
# Sessions, all or nothing

A session calls its engine once if all of its options can be read, and else not at all. It writes
nothing unless the engine has succeeded in both of the ways in which it can fail, and then it writes
all there is. The faults of the options are listed in the order in which they are looked for, and
the first of them is the one that is told.
-/

namespace EvmScope

set_option autoImplicit false

open Text

/-- The error of a result, if it is one. -/
def fault? {ε α : Type} : Except ε α → Option ε
  | .error e => some e
  | .ok _ => none

namespace CallOptions

/-- What is wrong with the options of a call: with the target first, then with the input, with the
coinbase and with the origin. -/
def faults (fs : FileSystem) (o : CallOptions) : List SessionError :=
  ((fault? (Target.resolve fs o.target)).map SessionError.target).toList ++
    ((fault? (Hex.decode o.input)).map SessionError.input).toList ++
    ((fault? (Address.decode o.coinbase)).map SessionError.coinbase).toList ++
    ((fault? (Address.decode o.origin)).map SessionError.origin).toList

/-- The options of a call, once read, say what it needs. -/
structure Means (fs : FileSystem) (o : CallOptions) (c : Config) : Prop where
  code : Target.resolve fs o.target = .ok c.code
  input : Hex.decode o.input = .ok c.input
  coinbase : Address.decode o.coinbase = .ok c.context.coinbase
  origin : Address.decode o.origin = .ok c.context.origin
  blockNumber : c.context.blockNumber = o.number
  difficulty : c.context.difficulty = o.difficulty
  gasLimit : c.context.gasLimit = o.gaslimit
  gasPrice : c.context.gasPrice = o.gasprice
  value : c.context.value = o.value
  tracing : c.context.tracing = true

/-- Everything that can be wrong with the options is an error of decoding. -/
theorem kind_of_mem_faults {fs : FileSystem} {o : CallOptions} {why : SessionError}
    (h : why ∈ o.faults fs) : why.kind = .decode := by
  simp only [faults, List.mem_append, Option.mem_toList, Option.map_eq_some_iff] at h
  rcases h with ((⟨cause, -, rfl⟩ | ⟨cause, -, rfl⟩) | ⟨cause, -, rfl⟩) | ⟨cause, -, rfl⟩
  all_goals rfl

end CallOptions

section

variable {ε ε' α β : Type} {x : Except ε α} {f : ε → ε'} {k : α → Except ε' β}

theorem error_mapError_bind (e : ε) : ((Except.error e).mapError f >>= k) = .error (f e) := rfl

theorem ok_mapError_bind (a : α) : ((Except.ok a).mapError f >>= k) = k a := rfl

theorem bind_mapError_eq_ok_iff {b : β} :
    (x.mapError f >>= k) = .ok b ↔ ∃ a, x = .ok a ∧ k a = .ok b := by
  cases x with
  | error e => simp [error_mapError_bind]
  | ok a => simp [ok_mapError_bind]

theorem bind_mapError_eq_error_iff {e' : ε'} :
    (x.mapError f >>= k) = .error e' ↔
      (fault? x).map f = some e' ∨ ∃ a, x = .ok a ∧ k a = .error e' := by
  cases x with
  | error e => simp [error_mapError_bind, fault?]
  | ok a => simp [ok_mapError_bind, fault?]

end

/-- Of several lists of at most one fault each, the first one with a fault decides. -/
theorem head?_toList_append {ε ε' α : Type} {x : Except ε α} {f : ε → ε'} {rest : List ε'}
    {e' : ε'} :
    (((fault? x).map f).toList ++ rest).head? = some e' ↔
      (fault? x).map f = some e' ∨ ∃ a, x = .ok a ∧ rest.head? = some e' := by
  cases x <;> simp [fault?]

namespace Config

/-- The first fault of the options is the one that is told. -/
theorem ofOptions_eq_error_iff {fs : FileSystem} {o : CallOptions} {why : SessionError} :
    ofOptions fs o = .error why ↔ (o.faults fs).head? = some why := by
  rw [CallOptions.faults, ← List.append_nil (_ ++ _)]
  simp only [ofOptions, bind_mapError_eq_error_iff, List.append_assoc, head?_toList_append]
  simp [pure, Except.pure]

/-- Options are read just when they mean something. -/
theorem ofOptions_eq_ok_iff {fs : FileSystem} {o : CallOptions} {c : Config} :
    ofOptions fs o = .ok c ↔ o.Means fs c := by
  simp only [ofOptions, bind_mapError_eq_ok_iff]
  constructor
  · rintro ⟨code, hcode, input, hinput, coinbase, hcoinbase, origin, horigin, h⟩
    obtain rfl := Except.ok.inj h
    exact ⟨hcode, hinput, hcoinbase, horigin, rfl, rfl, rfl, rfl, rfl, rfl⟩
  · intro h
    refine ⟨_, h.code, _, h.input, _, h.coinbase, _, h.origin, ?_⟩
    obtain ⟨⟨blockNumber, coinbase, difficulty, gasLimit, gasPrice, origin, value, tracing⟩, code,
      input⟩ := c
    obtain ⟨-, -, -, -, rfl, rfl, rfl, rfl, rfl, rfl⟩ := h
    rfl

/-- Options are without fault just when they mean something. -/
theorem faults_eq_nil_iff {fs : FileSystem} {o : CallOptions} :
    o.faults fs = [] ↔ ∃ c, o.Means fs c := by
  simp only [← ofOptions_eq_ok_iff]
  cases h : ofOptions fs o with
  | error why =>
    have hhead := ofOptions_eq_error_iff.1 h
    refine iff_of_false (fun hnil => ?_) (by simp)
    rw [hnil] at hhead
    cases hhead
  | ok c =>
    refine iff_of_true ?_ ⟨c, rfl⟩
    cases hfaults : o.faults fs with
    | nil => rfl
    | cons why rest =>
      have herror := ofOptions_eq_error_iff.2 (by rw [hfaults]; rfl : _ = some why)
      rw [h] at herror
      cases herror

end Config

namespace Engine

variable {σ : Type}

/-- How an engine answers a call. -/
def answer (engine : Engine σ) (state : σ) (c : Config) : EngineAnswer :=
  (engine c.code c.input c.context state).1

/-- An engine that keeps a list of the calls it gets, besides what it keeps anyway. -/
def watched (engine : Engine σ) : Engine (σ × List Config) :=
  fun code input context (state, calls) =>
    let (answer, state) := engine code input context state
    (answer, state, calls ++ [⟨context, code, input⟩])

end Engine

namespace Session

variable {σ : Type} {engine : Engine σ} {state : σ} {fs : FileSystem} {o : CallOptions}
  {sink : Sink}

/-- With options that cannot be read, neither the engine nor the sink is touched. -/
theorem run_of_error {why : SessionError} (h : Config.ofOptions fs o = .error why) :
    run engine state fs o sink = (.failed why, sink, state) := by
  rw [run, h]

/-- With options that can be read, the engine is called once. -/
theorem run_of_ok {c : Config} (h : Config.ofOptions fs o = .ok c) :
    run engine state fs o sink =
      let ended := conclude o.json (engine.answer state c) sink
      (ended.1, ended.2, (engine c.code c.input c.context state).2) := by
  rw [run, h]
  rfl

/-- A failed state is an error, and nothing is written. -/
theorem conclude_of_stateError {json : Bool} {e : Execution} {text : String}
    (h : e.stateError = some text) :
    conclude json (.ran e) sink = (.failed (.state text), sink) := by
  rw [conclude, h]

/-- What a session does for a call that has gone well: it writes all the pieces it can, and behind
the last one it flushes the sink. -/
theorem conclude_of_ran {json : Bool} {e : Execution} (h : e.stateError = none) :
    conclude json (.ran e) sink =
      let written := (sink.write (utf8 (e.shown json))).2
      match Piece.cutOff? sink (e.pieces json) with
      | some p => (.failed (p.lost .full), written)
      | none =>
        (if sink.flushFails then .failed (.output .flushFailed) else .done e,
          { written with flushes := written.flushes + 1 }) := by
  have hpieces : Piece.ofTrace json e.logs ++ Piece.ofOutput e.returnData = e.pieces json := rfl
  simp only [conclude, h, writeExecution, hpieces, Piece.writeAll_eq, Execution.joined_pieces]
  cases Piece.cutOff? sink (e.pieces json) with
  | some p => rfl
  | none =>
    simp only [Option.map_none, Sink.flush, Sink.write_flushFails]
    cases sink.flushFails <;> rfl

/-- What a session owes to the one who starts it: `calls` are the calls that its engine gets, and
`after` is what it makes of the sink. -/
structure AllOrNothing (engine : Engine σ) (state : σ) (fs : FileSystem) (o : CallOptions)
    (sink : Sink) (calls : List Config) (ending : Ending) (after : Sink) : Prop where
  /-- All texts can be read exactly if none has a fault. -/
  readable : o.faults fs = [] ↔ ∃ c, o.Means fs c
  /-- The first fault ends the session before the engine is called. -/
  unreadable : ∀ why later, o.faults fs = why :: later →
    why.kind = .decode ∧ calls = [] ∧ ending = .failed why ∧ after = sink
  called : ∀ c, o.Means fs c → calls = [c]
  crashed : ∀ c, o.Means fs c → engine.answer state c = .crashed →
    ending = .crashed ∧ after = sink
  engineFailed : ∀ c text, o.Means fs c → engine.answer state c = .failed text →
    ending = .failed (.engine text) ∧ after = sink
  stateFailed : ∀ c e text, o.Means fs c → engine.answer state c = .ran e →
    e.stateError = some text → ending = .failed (.state text) ∧ after = sink
  /-- A sink that takes all it is given gets the whole output, and the result is that of the
  engine. -/
  done : ∀ c e, o.Means fs c → engine.answer state c = .ran e → e.stateError = none →
    sink.HasRoom (utf8 (e.shown o.json)) → sink.flushFails = false →
    ending = .done e ∧ after.taken = sink.taken ++ utf8 (e.shown o.json) ∧
      after.flushes = sink.flushes + 1

/-- A call whose state has not failed is shown whole, if there is room for it. -/
theorem conclude_done {json : Bool} {e : Execution} (h : e.stateError = none)
    (hroom : sink.HasRoom (utf8 (e.shown json))) (hflush : sink.flushFails = false) :
    ∃ after, conclude json (.ran e) sink = (.done e, after) ∧
      after.taken = sink.taken ++ utf8 (e.shown json) ∧ after.flushes = sink.flushes + 1 := by
  have hwhole : Piece.cutOff? sink (e.pieces json) = none := by
    rwa [Piece.cutOff?_eq_none_iff, Execution.joined_pieces]
  have hended : conclude json (.ran e) sink = _ := conclude_of_ran h
  rw [hwhole, hflush] at hended
  exact ⟨_, hended, Sink.taken_write_of_hasRoom hroom,
    congrArg (· + 1) (Sink.write_flushes sink (utf8 (e.shown json)))⟩

/-- **A session is all or nothing.** It calls its engine once, with what all of its options say, or
not at all, and unless everything has gone well it leaves the sink as it is. To watch the engine
changes nothing. -/
theorem run_all_or_nothing {σ : Type} (engine : Engine σ) (state : σ) (fs : FileSystem)
    (o : CallOptions) (sink : Sink) :
    let (ending, after, _) := run engine state fs o sink
    let (ending', after', state', calls) := run engine.watched (state, []) fs o sink
    (ending', after', state') = run engine state fs o sink ∧
      AllOrNothing engine state fs o sink calls ending after := by
  cases hread : Config.ofOptions fs o with
  | error why =>
    rw [run_of_error hread, run_of_error hread]
    have hfirst := Config.ofOptions_eq_error_iff.1 hread
    have hnone : ∀ c, ¬o.Means fs c := fun c hc => by
      rw [Config.ofOptions_eq_ok_iff.2 hc] at hread
      cases hread
    refine ⟨rfl, Config.faults_eq_nil_iff, ?_, fun c hc => absurd hc (hnone c),
      fun c hc => absurd hc (hnone c), fun c _ hc => absurd hc (hnone c),
      fun c _ _ hc => absurd hc (hnone c), fun c _ hc => absurd hc (hnone c)⟩
    intro why' later h
    rw [h] at hfirst
    obtain rfl := Option.some.inj hfirst
    exact ⟨CallOptions.kind_of_mem_faults (h ▸ List.mem_cons_self), rfl, rfl, rfl⟩
  | ok c =>
    rw [run_of_ok hread, run_of_ok hread]
    have hmeans := Config.ofOptions_eq_ok_iff.1 hread
    have honly : ∀ c', o.Means fs c' → c = c' := fun c' hc' =>
      Except.ok.inj (hread.symm.trans (Config.ofOptions_eq_ok_iff.2 hc'))
    refine ⟨rfl, Config.faults_eq_nil_iff, ?_, ?_, ?_, ?_, ?_, ?_⟩
    · intro why later h
      have hnil := Config.faults_eq_nil_iff.2 ⟨c, hmeans⟩
      rw [h] at hnil
      cases hnil
    · intro c' hc'
      obtain rfl := honly c' hc'
      rfl
    · intro c' hc' h
      obtain rfl := honly c' hc'
      rw [h]
      exact ⟨rfl, rfl⟩
    · intro c' text hc' h
      obtain rfl := honly c' hc'
      rw [h]
      exact ⟨rfl, rfl⟩
    · intro c' e text hc' h hstate
      obtain rfl := honly c' hc'
      rw [h, conclude_of_stateError hstate]
      exact ⟨rfl, rfl⟩
    · intro c' e hc' h hstate hroom hflush
      obtain rfl := honly c' hc'
      obtain ⟨after, hended, htaken, hflushes⟩ := conclude_done hstate hroom hflush
      rw [h, hended]
      exact ⟨rfl, htaken, hflushes⟩

end Session

end EvmScope
