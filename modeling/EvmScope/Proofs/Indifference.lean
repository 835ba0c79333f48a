import EvmScope.Proofs.Verdicts

/-!
# What the log does not change

Two runs that are asked for the same but for the log leave the same behind but for what is written to
the log. It does not matter if a filter has a meaning, since a log that cannot be set up is done without.
-/

namespace EvmScope

set_option autoImplicit false

open Text

namespace CommandLine.Job

/-- What is to be done, the log aside. -/
def task : Job → Job
  | disasm target _ => disasm target {}
  | exec options _ => exec options {}

/-- How the log is to be written. -/
def logs : Job → Log.Options
  | disasm _ logs => logs
  | exec _ logs => logs

end CommandLine.Job

namespace Program

open CommandLine

/-- The same is done under all options of the log. -/
theorem exists_perform_eq {lib : Libraries} (hlog : lib.log.Documented) (fs : FileSystem) (job : Job) :
    ∃ logged, perform lib fs job = { perform lib fs job.task with logged } := by
  obtain ⟨logged, hlogged, -⟩ := exists_setUp hlog job.logs
  obtain ⟨default, hdefault, -⟩ := exists_setUp hlog {}
  refine ⟨logged, ?_⟩
  cases job with
  | disasm target logs | exec o logs =>
    rw [Job.logs] at hlogged
    rw [perform, hlogged, Job.task, perform, hdefault]

theorem launch_of_parse {lib : Libraries} {fs : FileSystem} {words : List Arg} {job : Job}
    (h : parse lib.reader words.tail = .ok (some job)) :
    launch lib fs (words.map utf8) = perform lib fs job := by
  rw [launch, mapM_ofUtf8?_map_utf8]
  simp only [runWith, h]

/-- **The log does not change what is done.** Two command lines that ask for the same but for the log have
the same exit code, the same output and the same complaint, and the same messages are offered to the
log. -/
theorem launch_indifferent (lib : Libraries) (hlog : lib.log.Documented) (fs : FileSystem)
    {words words' : List Arg} {job job' : Job} (h : parse lib.reader words.tail = .ok (some job))
    (h' : parse lib.reader words'.tail = .ok (some job')) (hsame : job.task = job'.task) :
    let report := launch lib fs (words.map utf8)
    let report' := launch lib fs (words'.map utf8)
    report' = { report with logged := report'.logged } := by
  obtain ⟨logged, hjob⟩ := exists_perform_eq hlog fs job
  obtain ⟨logged', hjob'⟩ := exists_perform_eq hlog fs job'
  dsimp only
  rw [launch_of_parse h, launch_of_parse h', hjob, hjob', hsame]

/-- The same listing with a log of warnings, and with a filter that has no meaning and a plea for
silence. -/
theorem meaningless_filter_ignored :
    let report := launch .patient (fun _ => none)
      (["evm", "disasm", "00"].map fun word => utf8 word.toList)
    let report' := launch .patient (fun _ => none)
      (["evm", "disasm", "-q", "--log.stderr.filter=evm_exec=notalevel", "00"].map fun word =>
        utf8 word.toList)
    report' = { report with logged := report'.logged } := by
  have h : parse Libraries.patient.reader (["evm", "disasm", "00"].map String.toList).tail =
      .ok (some (.disasm "00".toList {})) := rfl
  have h' : parse Libraries.patient.reader
      (["evm", "disasm", "-q", "--log.stderr.filter=evm_exec=notalevel", "00"].map
        String.toList).tail =
      .ok (some (.disasm "00".toList
        { filter := "evm_exec=notalevel".toList, verbosity := { quiet := true } })) := rfl
  exact launch_indifferent .patient Log.Library.documented_patient (fun _ => none) h h' rfl

end Program

end EvmScope
