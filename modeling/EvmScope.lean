import EvmScope.Main
import EvmScope.Interpreter
import EvmScope.Vm.Workings
import EvmScope.Vm.Laws
import EvmScope.Word.Lemmas
import EvmScope.Text.Utf8.Lemmas
import EvmScope.Proofs.Framing
import EvmScope.Proofs.Fields
import EvmScope.Proofs.Mnemonic
import EvmScope.Proofs.Boundaries
import EvmScope.Proofs.Listing
import EvmScope.Proofs.Replay
import EvmScope.Proofs.Path
import EvmScope.Proofs.Keeping
import EvmScope.Proofs.Counter
import EvmScope.Proofs.Step
import EvmScope.Proofs.Manner
import EvmScope.Proofs.Holdings
import EvmScope.Proofs.Termination
import EvmScope.Proofs.Interpreter
import EvmScope.Proofs.InterpreterFrames
import EvmScope.Proofs.InterpreterGas
import EvmScope.Proofs.InterpreterOutput
import EvmScope.Proofs.Agreement
import EvmScope.Proofs.Nesting
import EvmScope.Proofs.Reconciliation
import EvmScope.Proofs.Observer
import EvmScope.Proofs.Sightings
import EvmScope.Proofs.ReturnData
import EvmScope.Proofs.GasLimit
import EvmScope.Proofs.Quantities
import EvmScope.Proofs.Dump
import EvmScope.Proofs.JsonReading
import EvmScope.Proofs.JsonTrace
import EvmScope.Proofs.TextTrace
import EvmScope.Proofs.Output
import EvmScope.Proofs.Sessions
import EvmScope.Proofs.Truncation
import EvmScope.Proofs.Presentation
import EvmScope.Proofs.HexGrammar
import EvmScope.Proofs.Addresses
import EvmScope.Proofs.Targets
import EvmScope.Proofs.WrittenOptions
import EvmScope.Proofs.Verdicts
import EvmScope.Proofs.Indifference
import EvmScope.Proofs.Extension
import EvmScope.Proofs.DumpLayout
import EvmScope.Proofs.FlagSpelling
import EvmScope.Proofs.SizeHint
import EvmScope.Proofs.ShownWords
import EvmScope.Proofs.LogFlags
import EvmScope.Proofs.MarkedLines
import EvmScope.Proofs.ReadingAlike
import EvmScope.Proofs.Verbosity
