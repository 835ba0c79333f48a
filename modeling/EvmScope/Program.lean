import EvmScope.CommandLine
import EvmScope.Disassembly
import EvmScope.Log.Library
import EvmScope.Session
import EvmScope.Text.Quoted

/-!
# The program

What the program does with its command line: what it writes to either stream, and the code with
which it exits. Listings, traces and help go to the output, and all else to the error stream: the
log, and behind it the error with which the program ends.
-/

namespace EvmScope

set_option autoImplicit false

/-- The libraries that the program is built on. -/
structure Libraries where
  vm : Vm
  reader : CommandLine.Reader
  log : Log.Library
  /-- What is told about a file that cannot be read, in full: its cause and where it was found. -/
  report : FileSystem.ReadError → List Char

/-- The libraries keep to their documentation. -/
structure Libraries.Documented (lib : Libraries) : Prop where
  reader : lib.reader.Documented
  log : lib.log.Documented

namespace Program

open CommandLine

/-- What the program leaves behind. -/
structure Report where
  exitCode : Nat := 0
  output : Bytes := []
  messages : List Log.Message := []
  /-- What is written to the log about a message. -/
  logged : Log.Stamp → Log.Message → List Char := fun _ _ => []
  /-- What stands behind the log on the error stream. -/
  complaint : List Char := []

/-- The text on the error stream. -/
def Report.errorText (stamp : Log.Stamp) (r : Report) : List Char :=
  r.messages.flatMap (r.logged stamp) ++ r.complaint

/-- A text in parentheses behind a label. -/
def labelled (label : String) (s : List Char) : List Char :=
  label.toList ++ '(' :: s ++ [')']

/-- The error of a target, in full. -/
def showTargetError (lib : Libraries) : Target.Error → List Char
  | .hex cause => labelled "DecodeError" (Text.quoted cause.message.toList)
  | .unreadable cause => labelled "Eyre" (lib.report cause)

/-- The error of a disassembly, in full. -/
def showDisassemblyError (lib : Libraries) (e : Disassembly.Error) : List Char :=
  labelled "DisassembleError" (labelled "DecodeError" (showTargetError lib e.cause))

/-- The error of a session, in full. -/
def showSessionError (e : SessionError) : List Char :=
  labelled "ExecError" (labelled e.kind.name (Text.quoted e.detail.toList))

/-- The last line of a program that ends in an error. -/
def errorLine (error : List Char) : List Char :=
  "Error: ".toList ++ error ++ ['\n']

/-- The exit code of a program that has crashed. -/
def crashCode : Nat := 101

/-- What a program leaves behind that crashes before it has done anything. -/
def crashed : Report :=
  { exitCode := crashCode }

/-- Disassembles a target. -/
def disasm (lib : Libraries) (fs : FileSystem) (target : List Char) : Report :=
  let messages := Disassembly.messages fs target
  match Disassembly.run fs target with
  | .ok listing => { output := Text.utf8 listing, messages }
  | .error e =>
    { exitCode := 1, messages, complaint := errorLine (showDisassemblyError lib e) }

/-- Executes a call under the rules that an engine has from the start. -/
def exec (lib : Libraries) (fs : FileSystem) (o : CallOptions) : Report :=
  let (ending, sink, journal) := Session.run (Engine.ofVm lib.vm lib.vm.cancun) [] fs o {}
  let messages := Session.messages fs o journal ending
  let output := sink.taken.toList
  match ending with
  | .done _ => { output, messages }
  | .failed e => { exitCode := 1, output, messages, complaint := errorLine (showSessionError e) }
  | .crashed => { exitCode := crashCode, output, messages }

/-- Does what is asked for, once the log has been set up. -/
def perform (lib : Libraries) (fs : FileSystem) : Job → Report
  | .disasm target logs =>
    match lib.log.setUp logs with
    | some logged => { disasm lib fs target with logged }
    | none => crashed
  | .exec o logs =>
    match lib.log.setUp logs with
    | some logged => { exec lib fs o with logged }
    | none => crashed

/-- What a refusal of the words comes to. -/
def refuse (reader : Reader) (r : reader.Refusal) : Report :=
  if reader.usesErrorStream r then { exitCode := reader.exitCode r, complaint := reader.text r }
  else { exitCode := reader.exitCode r, output := Text.utf8 (reader.text r) }

/-- Runs the program, on some libraries, on the words behind its name. -/
def runWith (lib : Libraries) (fs : FileSystem) (args : List Arg) : Report :=
  match parse lib.reader args with
  | .ok none => { output := Text.utf8 Help.overview.toList }
  | .ok (some job) => perform lib fs job
  | .error r => refuse lib.reader r

/-- Runs the program on its arguments as the system hands them over, the name of the program first.
They have to be texts. -/
def launch (lib : Libraries) (fs : FileSystem) (argv : List Bytes) : Report :=
  match argv.mapM Text.ofUtf8? with
  | some words => runWith lib fs words.tail
  | none => crashed

/-- A file that cannot be read, with its cause in the words of the system. -/
def readReport (e : FileSystem.ReadError) : List Char :=
  let cause := match e.cause with
    | .noFile => "No such file or directory (os error 2)"
    | .failed why => why.text
    | .notUtf8 => "stream did not contain valid UTF-8"
  (e.message ++ "\n\nCaused by:\n    " ++ cause).toList

end Program

/-- The libraries as this library has them. -/
def Libraries.standard : Libraries where
  vm := interpreter
  reader := .standard
  log := .standard
  report := Program.readReport

namespace Program

open CommandLine

/-- Runs the program on the words behind its name. -/
def run (fs : FileSystem) (args : List Arg) : Report :=
  runWith .standard fs args

/-- The files that the program may read. -/
def paths (args : List Arg) : List (List Char) :=
  match parse .standard args with
  | .ok (some (.disasm target _)) => [Text.trim target]
  | .ok (some (.exec o _)) => [Text.trim o.target]
  | _ => []

end Program

end EvmScope
