import EvmScope.Program
import EvmScope.Proofs.Sessions
import EvmScope.Text.Utf8.Lemmas

/-!
# What a command line comes to

A run of the program is seen from outside by its exit code, its output, and what stands behind the log
on the error stream. A command line comes to one of four verdicts: something is told, the words are
misused, something fails, or the program crashes. Each has an exit code of its own, and nothing is
written to the output unless something is told. The verdict is found from the arguments, the files and
what the libraries say, stage by stage, whatever libraries these are.
-/

namespace EvmScope

set_option autoImplicit false

open Text

namespace Transaction

/-- Once a transaction has come to an outcome, the engine does not crash any more. -/
theorem reply_ne_crashed (intrinsic : UInt64) (logs : List StepLog)
    (outcome : Except TransactionError ExecutionResult) : reply intrinsic logs outcome ≠ .crashed := by
  rcases outcome with (text | text | text) | (⟨output, gasUsed⟩ | output | reason) <;> nofun

end Transaction

/-- Only bytecode that the virtual machine does not come back from makes a call crash. -/
theorem Vm.execute_eq_crashed_iff {vm : Vm} {spec : vm.Spec} {code input : Bytes} {ctx : Context} :
    vm.execute spec code input ctx = .crashed ↔ vm.newRaw? code = none := by
  rw [Vm.execute, Vm.executeLogged]
  cases vm.newRaw? code with
  | none => exact iff_of_true rfl rfl
  | some bytecode => exact iff_of_false (Transaction.reply_ne_crashed _ _ _) nofun

namespace Log

theorem WholeLines.append {s t : List Char} (hs : WholeLines s) (ht : WholeLines t) :
    WholeLines (s ++ t) := by
  rcases ht with rfl | ht
  · rwa [List.append_nil]
  · exact .inr (by rw [List.getLast?_append, ht, Option.some_or])

/-- Each message of the log is whole lines. -/
theorem wholeLines_line (format : Format) (coloured : Bool) (stamp : Stamp) (m : Message) :
    WholeLines (line format coloured stamp m) := by
  cases format with
  | terminal | json => exact .inr List.getLast?_concat

/-- The log as this library writes it, but that a filter that is more than it can bear is turned down like
any other that has no meaning. -/
def Library.patient : Library :=
  { Library.standard with readFilter := fun default text => some (Filter.readWith default text) }

theorem Library.documented_patient : Library.patient.Documented where
  returns _ _ := rfl
  lines := by
    intro format coloured f stamp m
    change WholeLines (if f.admits m then _ else _)
    split
    · exact wholeLines_line format coloured stamp m
    · exact .inl rfl

end Log

/-- The libraries as this library has them, with a log that is always set up. -/
def Libraries.patient : Libraries :=
  { Libraries.standard with log := .patient }

theorem Libraries.documented_patient : Libraries.patient.Documented :=
  ⟨CommandLine.Reader.documented_standard, Log.Library.documented_patient⟩

namespace Program

open CommandLine

inductive Verdict
  /-- The whole output is a text. -/
  | told (text : List Char)
  /-- The words of the command line are not understood. -/
  | misused (complaint : List Char)
  | failed (error : List Char)
  | crashed

def Verdict.exitCode : Verdict → Nat
  | .told _ => 0
  | .failed _ => 1
  | .misused _ => 2
  | .crashed => 101

/-- A report shows a verdict: by its exit code, and by what is written to either stream, the log
aside. -/
def Report.Shows (r : Report) : Verdict → Prop
  | .told text => r.exitCode = 0 ∧ r.output = utf8 text ∧ r.complaint = []
  | .misused complaint => r.exitCode = 2 ∧ r.output = [] ∧ r.complaint = complaint
  | .failed error => r.exitCode = 1 ∧ r.output = [] ∧ r.complaint = errorLine error
  | .crashed => r.exitCode = 101 ∧ r.output = []

/-- A report shows a verdict by its exit code, too. -/
theorem Report.Shows.exitCode_eq {r : Report} {v : Verdict} (h : r.Shows v) :
    r.exitCode = v.exitCode := by
  cases v <;> exact h.1

theorem Report.shows_told (text : List Char) : Report.Shows { output := utf8 text } (.told text) :=
  ⟨rfl, rfl, rfl⟩

/-- The log has no part in what a report shows. -/
theorem Report.Shows.withLog {r : Report} {v : Verdict} (h : r.Shows v)
    (logged : Log.Stamp → Log.Message → List Char) : Report.Shows { r with logged } v := by
  cases v <;> exact h

/-- What becomes of a target that is to be disassembled. -/
inductive Disassembles (lib : Libraries) (fs : FileSystem) (target : List Char) : Verdict → Prop
  | listed {code : Bytes} (h : Target.resolve fs target = .ok code) :
      Disassembles lib fs target (.told (listing code))
  | unresolved {cause : Target.Error} (h : Target.resolve fs target = .error cause) :
      Disassembles lib fs target (.failed (showDisassemblyError lib ⟨cause⟩))

/-- What becomes of a call that is to be executed. -/
inductive Executes (vm : Vm) (fs : FileSystem) (o : CallOptions) : Verdict → Prop
  /-- The first of the options that cannot be read is told. -/
  | unreadable {why : SessionError} {later : List SessionError} (h : o.faults fs = why :: later) :
      Executes vm fs o (.failed (showSessionError why))
  | engineFailed {c : Config} {why : RuntimeError} (hmeans : o.Means fs c)
      (hrun : vm.execute vm.cancun c.code c.input c.context = .failed why) :
      Executes vm fs o (.failed (showSessionError (.engine why.message)))
  | stateFailed {c : Config} {e : Execution} {text : String} (hmeans : o.Means fs c)
      (hrun : vm.execute vm.cancun c.code c.input c.context = .ran e)
      (hstate : e.stateError = some text) :
      Executes vm fs o (.failed (showSessionError (.state text)))
  | traced {c : Config} {e : Execution} (hmeans : o.Means fs c)
      (hrun : vm.execute vm.cancun c.code c.input c.context = .ran e)
      (hstate : e.stateError = none) : Executes vm fs o (.told (e.shown o.json))
  /-- The virtual machine does not come back from taking the code. -/
  | untaken {c : Config} (hmeans : o.Means fs c) (hcode : vm.newRaw? c.code = none) :
      Executes vm fs o .crashed

/-- A command is called, and this is what the other words, with two dashes to all flags, are read as. -/
def Calls (reader : Reader) (args : List Arg) (c : Command) (x : Except reader.Refusal Job) : Prop :=
  ∃ rest, args = c.name.toList :: rest ∧ reader.job c (canonical rest) = x

/-- What the words behind the name of the program come to. -/
inductive WordsComeTo (lib : Libraries) (fs : FileSystem) (args : List Arg) : Verdict → Prop
  /-- No command is called that there is. -/
  | overview (h : ∀ c : Command, args.head? ≠ some c.name.toList) :
      WordsComeTo lib fs args (.told Help.overview.toList)
  | help {c : Command} {r : lib.reader.Refusal} (h : Calls lib.reader args c (.error r))
      (hhelp : lib.reader.isHelp r = true) : WordsComeTo lib fs args (.told (lib.reader.text r))
  | misused {c : Command} {r : lib.reader.Refusal} (h : Calls lib.reader args c (.error r))
      (hhelp : lib.reader.isHelp r = false) :
      WordsComeTo lib fs args (.misused (lib.reader.text r))
  | disasm {c : Command} {target : List Char} {logs : Log.Options} {v : Verdict}
      (h : Calls lib.reader args c (.ok (.disasm target logs))) (hv : Disassembles lib fs target v) :
      WordsComeTo lib fs args v
  | exec {c : Command} {o : CallOptions} {logs : Log.Options} {v : Verdict}
      (h : Calls lib.reader args c (.ok (.exec o logs))) (hv : Executes lib.vm fs o v) :
      WordsComeTo lib fs args v

/-- What the arguments of the program come to, the first of which is its name. -/
inductive ComesTo (lib : Libraries) (fs : FileSystem) (argv : List Bytes) : Verdict → Prop
  | words {words : List Arg} {v : Verdict} (h : argv = words.map utf8)
      (hv : WordsComeTo lib fs words.tail v) : ComesTo lib fs argv v
  /-- One of the arguments is no text. -/
  | notText {arg : Bytes} (h : arg ∈ argv) (hbad : ∀ word, arg ≠ utf8 word) :
      ComesTo lib fs argv .crashed

section Commands

variable {lib : Libraries} {fs : FileSystem} {target : List Char} {o : CallOptions} {v : Verdict}

/-- A disassembly leaves behind what becomes of its target. -/
theorem disasm_shows (h : Disassembles lib fs target v) : (disasm lib fs target).Shows v := by
  cases h with
  | listed h | unresolved h =>
    rw [disasm, Disassembly.run, h]
    exact ⟨rfl, rfl, rfl⟩

/-- Something becomes of every target. -/
theorem exists_disassembles (lib : Libraries) (fs : FileSystem) (target : List Char) :
    ∃ v, Disassembles lib fs target v := by
  cases h : Target.resolve fs target with
  | ok code => exact ⟨_, .listed h⟩
  | error cause => exact ⟨_, .unresolved h⟩

/-- A virtual machine as an engine answers what the call replies. -/
theorem answer_ofVm (vm : Vm) (spec : vm.Spec) (journal : List Log.Message) (c : Config) :
    (Engine.ofVm vm spec).answer journal c =
      match vm.execute spec c.code c.input c.context with
      | .crashed => .crashed
      | .failed why => .failed why.message
      | .ran e => .ran e := by
  rw [Engine.answer, Engine.ofVm, Vm.execute]
  rcases vm.executeLogged spec c.code c.input c.context with ⟨reply, steps⟩
  cases reply <;> rfl

/-- A session with room for all output, once its engine has answered. -/
theorem exec_eq (lib : Libraries) {c : Config} (hmeans : o.Means fs c) :
    ∃ messages, exec lib fs o =
      let answer := (Engine.ofVm lib.vm lib.vm.cancun).answer [] c
      let ended := Session.conclude o.json answer {}
      match ended.1 with
      | .done _ => { output := ended.2.taken.toList, messages }
      | .failed e =>
        { exitCode := 1, output := ended.2.taken.toList, messages
          complaint := errorLine (showSessionError e) }
      | .crashed => { exitCode := crashCode, output := ended.2.taken.toList, messages } := by
  rw [exec, Session.run_of_ok (Config.ofOptions_eq_ok_iff.2 hmeans)]
  exact ⟨_, rfl⟩

/-- A call leaves behind what becomes of it. -/
theorem exec_shows (h : Executes lib.vm fs o v) : (exec lib fs o).Shows v := by
  cases h with
  | unreadable h =>
    rw [exec, Session.run_of_error (Config.ofOptions_eq_error_iff.2 (by rw [h]; rfl))]
    exact ⟨rfl, rfl, rfl⟩
  | engineFailed hmeans hrun =>
    obtain ⟨messages, hexec⟩ := exec_eq lib hmeans
    rw [hexec, answer_ofVm, hrun]
    exact ⟨rfl, rfl, rfl⟩
  | stateFailed hmeans hrun hstate =>
    obtain ⟨messages, hexec⟩ := exec_eq lib hmeans
    rw [hexec, answer_ofVm, hrun]
    simp only [Session.conclude_of_stateError hstate]
    exact ⟨rfl, rfl, rfl⟩
  | @traced c e hmeans hrun hstate =>
    obtain ⟨messages, hexec⟩ := exec_eq lib hmeans
    have hroom : Sink.HasRoom {} (utf8 (e.shown o.json)) := nofun
    obtain ⟨after, hended, htaken, -⟩ := Session.conclude_done hstate hroom rfl
    rw [hexec, answer_ofVm, hrun]
    simp only [hended, htaken]
    exact ⟨rfl, by simp, rfl⟩
  | untaken hmeans hcode =>
    obtain ⟨messages, hexec⟩ := exec_eq lib hmeans
    rw [hexec, answer_ofVm, Vm.execute_eq_crashed_iff.2 hcode]
    exact ⟨rfl, rfl⟩

/-- Something becomes of every call. -/
theorem exists_executes (vm : Vm) (fs : FileSystem) (o : CallOptions) :
    ∃ v, Executes vm fs o v := by
  cases hfaults : o.faults fs with
  | cons why later => exact ⟨_, .unreadable hfaults⟩
  | nil =>
    obtain ⟨c, hmeans⟩ := Config.faults_eq_nil_iff.1 hfaults
    cases hrun : vm.execute vm.cancun c.code c.input c.context with
    | crashed => exact ⟨_, .untaken hmeans (Vm.execute_eq_crashed_iff.1 hrun)⟩
    | failed why => exact ⟨_, .engineFailed hmeans hrun⟩
    | ran e =>
      cases hstate : e.stateError with
      | none => exact ⟨_, .traced hmeans hrun hstate⟩
      | some text => exact ⟨_, .stateFailed hmeans hrun hstate⟩

end Commands

section Words

variable {lib : Libraries} {fs : FileSystem} {args : List Arg} {v : Verdict}

theorem parse_of_no_command (reader : Reader)
    (h : ∀ c : Command, args.head? ≠ some c.name.toList) : parse reader args = .ok none := by
  cases args with
  | nil => rfl
  | cons word rest =>
    have hnone : Command.ofName? word = none := by
      refine List.find?_eq_none.2 fun c _ hc => h c ?_
      rw [List.head?_cons, of_decide_eq_true hc]
    rw [parse, hnone]

/-- The word of a command stays as it is, and so the others are read as they are called. -/
theorem parse_of_calls {reader : Reader} {c : Command} {x : Except reader.Refusal Job}
    (h : Calls reader args c x) : parse reader args = x.map some := by
  obtain ⟨rest, rfl, rfl⟩ := h
  cases c <;> rfl

/-- The log is set up, and what is done otherwise does not depend on it. -/
theorem exists_setUp (hlog : lib.log.Documented) (logs : Log.Options) :
    ∃ logged, lib.log.setUp logs = some logged ∧
      ∀ stamp m, Log.WholeLines (logged stamp m) := by
  obtain ⟨result, hresult⟩ := Option.isSome_iff_exists.1
    (hlog.returns logs.verbosity.threshold.name.toList logs.filter)
  rw [Log.Library.setUp, hresult, Option.map_some]
  cases result with
  | error e => exact ⟨_, rfl, fun _ _ => .inl rfl⟩
  | ok f => exact ⟨_, rfl, hlog.lines _ _ f⟩

/-- A refusal is told on the output if it is help, and is an error of usage otherwise. -/
theorem refuse_shows {reader : Reader} (hreader : reader.Documented) (r : reader.Refusal) :
    (refuse reader r).Shows
      (if reader.isHelp r then .told (reader.text r) else .misused (reader.text r)) := by
  cases hhelp : reader.isHelp r with
  | true =>
    obtain ⟨hstream, hcode⟩ := hreader.help r hhelp
    rw [refuse, hstream, hcode]
    exact ⟨rfl, rfl, rfl⟩
  | false =>
    obtain ⟨hstream, hcode⟩ := hreader.usage r hhelp
    rw [refuse, hstream, hcode]
    exact ⟨rfl, rfl, rfl⟩

/-- What the words come to is what the program leaves behind. -/
theorem runWith_shows (hlib : lib.Documented) (h : WordsComeTo lib fs args v) :
    (runWith lib fs args).Shows v := by
  cases h with
  | overview h =>
    rw [runWith, parse_of_no_command lib.reader h]
    exact Report.shows_told _
  | @help c r h hhelp | @misused c r h hhelp =>
    have hshows := refuse_shows hlib.reader r
    rw [hhelp] at hshows
    rw [runWith, parse_of_calls h]
    exact hshows
  | @disasm c target logs v h hv =>
    obtain ⟨logged, hlogged, -⟩ := exists_setUp hlib.log logs
    rw [runWith, parse_of_calls h]
    simp only [Except.map, perform, hlogged]
    exact (disasm_shows hv).withLog logged
  | @exec c o logs v h hv =>
    obtain ⟨logged, hlogged, -⟩ := exists_setUp hlib.log logs
    rw [runWith, parse_of_calls h]
    simp only [Except.map, perform, hlogged]
    exact (exec_shows hv).withLog logged

/-- All words come to something. -/
theorem exists_wordsComeTo (lib : Libraries) (fs : FileSystem) (args : List Arg) :
    ∃ v, WordsComeTo lib fs args v := by
  by_cases hword : ∀ c : Command, args.head? ≠ some c.name.toList
  · exact ⟨_, .overview hword⟩
  · obtain ⟨c, hc⟩ := Classical.not_forall.1 hword
    obtain ⟨rest, rfl⟩ := List.head?_eq_some_iff.1 (Classical.not_not.1 hc)
    cases hread : lib.reader.job c (canonical rest) with
    | error r =>
      cases hhelp : lib.reader.isHelp r with
      | true => exact ⟨_, .help ⟨rest, rfl, hread⟩ hhelp⟩
      | false => exact ⟨_, .misused ⟨rest, rfl, hread⟩ hhelp⟩
    | ok job =>
      cases job with
      | disasm target logs =>
        obtain ⟨v, hv⟩ := exists_disassembles lib fs target
        exact ⟨v, .disasm ⟨rest, rfl, hread⟩ hv⟩
      | exec o logs =>
        obtain ⟨v, hv⟩ := exists_executes lib.vm fs o
        exact ⟨v, .exec ⟨rest, rfl, hread⟩ hv⟩

end Words

section Arguments

variable {lib : Libraries} {fs : FileSystem} {argv : List Bytes} {words : List Arg} {v : Verdict}

theorem mapM_ofUtf8?_map_utf8 (words : List Arg) :
    (words.map utf8).mapM ofUtf8? = some words := by
  induction words with
  | nil => rfl
  | cons word words ih =>
    rw [List.map_cons, List.mapM_cons, ofUtf8?_utf8, ih]
    rfl

/-- Arguments are texts, or one of them is none. -/
theorem argv_cases (argv : List Bytes) :
    (∃ words : List Arg, argv = words.map utf8) ∨
      argv.mapM ofUtf8? = none ∧ ∃ arg ∈ argv, ∀ word, arg ≠ utf8 word := by
  induction argv with
  | nil => exact .inl ⟨[], rfl⟩
  | cons arg argv ih =>
    cases harg : ofUtf8? arg with
    | none =>
      refine .inr ⟨by rw [List.mapM_cons, harg]; rfl, arg, List.mem_cons_self, fun word hword => ?_⟩
      rw [hword, ofUtf8?_utf8] at harg
      cases harg
    | some word =>
      rcases ih with ⟨words, rfl⟩ | ⟨hnone, bad, hmem, hbad⟩
      · exact .inl ⟨word :: words, by rw [List.map_cons, utf8_of_ofUtf8? harg]⟩
      · refine .inr ⟨?_, bad, List.mem_cons_of_mem arg hmem, hbad⟩
        rw [List.mapM_cons, harg, hnone]
        rfl

/-- What the arguments come to is what the program leaves behind. -/
theorem launch_shows_of_comesTo (hlib : lib.Documented) (h : ComesTo lib fs argv v) :
    (launch lib fs argv).Shows v := by
  cases h with
  | words h hv =>
    rw [launch, h, mapM_ofUtf8?_map_utf8]
    exact runWith_shows hlib hv
  | notText h hbad =>
    rcases argv_cases argv with ⟨words, rfl⟩ | ⟨hnone, -⟩
    · obtain ⟨word, -, hword⟩ := List.mem_map.1 h
      exact absurd hword.symm (hbad word)
    · rw [launch, hnone]
      exact ⟨rfl, rfl⟩

/-- All arguments come to something. -/
theorem exists_comesTo (lib : Libraries) (fs : FileSystem) (argv : List Bytes) :
    ∃ v, ComesTo lib fs argv v := by
  rcases argv_cases argv with ⟨words, hwords⟩ | ⟨-, arg, hmem, hbad⟩
  · obtain ⟨v, hv⟩ := exists_wordsComeTo lib fs words.tail
    exact ⟨v, .words hwords hv⟩
  · exact ⟨_, .notText hmem hbad⟩

end Arguments

section Streams

variable {lib : Libraries} {fs : FileSystem} {r : Report} {v v' : Verdict}

theorem wholeLines_flatMap {α : Type} {f : α → List Char} (h : ∀ a, Log.WholeLines (f a))
    (as : List α) : Log.WholeLines (as.flatMap f) := by
  induction as with
  | nil => exact .inl rfl
  | cons a as ih =>
    rw [List.flatMap_cons]
    exact (h a).append ih

/-- The log of a run is written in whole lines. -/
theorem wholeLines_logged (hlog : lib.log.Documented) (argv : List Bytes) (stamp : Log.Stamp)
    (m : Log.Message) : Log.WholeLines ((launch lib fs argv).logged stamp m) := by
  rw [launch]
  split
  · rw [runWith]
    split
    · exact .inl rfl
    · next job _ =>
      cases job with
      | disasm target logs | exec o logs =>
        obtain ⟨logged, hlogged, hlines⟩ := exists_setUp hlog logs
        rw [perform, hlogged]
        exact hlines stamp m
    · rw [refuse]
      split <;> exact .inl rfl
  · exact .inl rfl

/-- The last line of a program that ends in an error determines the error. -/
theorem errorLine_injective : Function.Injective errorLine := by
  intro error error' h
  exact List.append_cancel_left (List.append_cancel_right h)

/-- A report shows no more than one verdict. -/
theorem Report.Shows.unique (h : r.Shows v) (h' : r.Shows v') : v = v' := by
  have hcode : v.exitCode = v'.exitCode := h.exitCode_eq.symm.trans h'.exitCode_eq
  -- verdicts of different kinds have different exit codes
  cases v <;> cases v' <;> try cases hcode
  case told.told => rw [utf8_injective (h.2.1.symm.trans h'.2.1)]
  case misused.misused => rw [h.2.2.symm.trans h'.2.2]
  case failed.failed => rw [errorLine_injective (h.2.2.symm.trans h'.2.2)]
  case crashed.crashed => rfl

end Streams

/-- **Every run shows what its arguments come to, and nothing else.** The log stands on the error stream
in whole lines, in front of what is said about the words or of the error. -/
theorem launch_shows (lib : Libraries) (hlib : lib.Documented) (fs : FileSystem)
    (argv : List Bytes) :
    (∃ v, ComesTo lib fs argv v) ∧
    (∀ v, (launch lib fs argv).Shows v ↔ ComesTo lib fs argv v) ∧
    ∀ stamp, ∃ log, Log.WholeLines log ∧
      (launch lib fs argv).errorText stamp = log ++ (launch lib fs argv).complaint := by
  refine ⟨exists_comesTo lib fs argv, fun v => ⟨fun hshows => ?_, launch_shows_of_comesTo hlib⟩,
    fun stamp => ⟨_, wholeLines_flatMap (wholeLines_logged hlib.log argv stamp) _, rfl⟩⟩
  obtain ⟨v', hcomes⟩ := exists_comesTo lib fs argv
  rwa [hshows.unique (launch_shows_of_comesTo hlib hcomes)]

/-- A listing is told, whatever the log is like. -/
theorem listing_shown :
    let argv := ["evm", "disasm", "-vv", "00"].map fun word => utf8 word.toList
    Libraries.patient.Documented ∧
      (launch .patient (fun _ => none) argv).Shows (.told "[0000] STOP\n".toList) := by
  intro argv
  have hcalls : Calls Libraries.patient.reader ["disasm".toList, "-vv".toList, "00".toList] .disasm
      (.ok (.disasm "00".toList { verbosity := { count := 2 } })) :=
    ⟨["-vv".toList, "00".toList], rfl, rfl⟩
  have htext : listing [0] = "[0000] STOP\n".toList := by decide +kernel
  have hlisted : Disassembles .patient (fun _ => none) "00".toList (.told (listing [0])) :=
    .listed rfl
  have hwords : argv = (["evm", "disasm", "-vv", "00"].map String.toList).map utf8 := rfl
  have hcomes := ComesTo.words hwords (.disasm hcalls (htext ▸ hlisted))
  have hshows := launch_shows .patient Libraries.documented_patient (fun _ => none) argv
  exact ⟨Libraries.documented_patient, (hshows.2.1 _).2 hcomes⟩

/-- Code of a reserved prefix alone is a target that there is, under options that are all right, and
still it is not told, nor is there an error. -/
theorem exec_reserved_prefix_crashes :
    let argv := ["evm", "exec", "ef00"].map fun word => utf8 word.toList
    let report := launch .standard (fun _ => none) argv
    report.exitCode = 101 ∧ report.output = [] ∧ report.complaint = [] := by
  have hwords : (["evm", "exec", "ef00"].map fun word => utf8 word.toList).mapM ofUtf8? =
      some (["evm", "exec", "ef00"].map String.toList) :=
    mapM_ofUtf8?_map_utf8 (["evm", "exec", "ef00"].map String.toList)
  simp only [launch, hwords]
  decide +kernel

end Program

end EvmScope
