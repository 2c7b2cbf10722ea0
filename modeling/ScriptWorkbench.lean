import ScriptWorkbench.Main
import ScriptWorkbench.Json.Printer
import ScriptWorkbench.Json.Reader
import ScriptWorkbench.Proofs.Words
import ScriptWorkbench.Proofs.HexDigits
import ScriptWorkbench.Proofs.PushReading
import ScriptWorkbench.Proofs.Scanning
import ScriptWorkbench.Proofs.PushSizes
import ScriptWorkbench.Proofs.CanonicalWords
import ScriptWorkbench.Proofs.Encodings
import ScriptWorkbench.Proofs.EncodableTokens
import ScriptWorkbench.Proofs.Sources
import ScriptWorkbench.Proofs.CanonicalForm
import ScriptWorkbench.Proofs.TokenReading
import ScriptWorkbench.Proofs.Minimality
import ScriptWorkbench.Proofs.Refusals
import ScriptWorkbench.Proofs.Concatenation
import ScriptWorkbench.Proofs.Tiling
import ScriptWorkbench.Proofs.ShortestPushes
import ScriptWorkbench.Proofs.WordRuns
import ScriptWorkbench.Proofs.AcceptedWords
import ScriptWorkbench.Proofs.OffsetTables
import ScriptWorkbench.Proofs.LineCodes
import ScriptWorkbench.Proofs.TokenPositions
import ScriptWorkbench.Proofs.Diagnostics
import ScriptWorkbench.Proofs.StackedSources
import ScriptWorkbench.Proofs.Programs
import ScriptWorkbench.Proofs.Refreshing
import ScriptWorkbench.Proofs.Operations
import ScriptWorkbench.Proofs.Soundness
import ScriptWorkbench.Proofs.Alignment
import ScriptWorkbench.Proofs.Coherence
import ScriptWorkbench.Proofs.LastRequest
import ScriptWorkbench.Proofs.WordTables
import ScriptWorkbench.Proofs.Layouts
import ScriptWorkbench.Proofs.LoadedTraces
import ScriptWorkbench.Proofs.OneProgram
import ScriptWorkbench.Proofs.AllOrNothing
import ScriptWorkbench.Proofs.WholeRuns
import ScriptWorkbench.Proofs.TokenOffsets
import ScriptWorkbench.Proofs.NextTokens
import ScriptWorkbench.Proofs.PlaybackSteps
import ScriptWorkbench.Proofs.ResponseContract
import ScriptWorkbench.Proofs.EngineAnswers
import ScriptWorkbench.Proofs.EditorSwitches
import ScriptWorkbench.Proofs.StackDisplay
import ScriptWorkbench.Proofs.Highlights
import ScriptWorkbench.Proofs.HexText
import ScriptWorkbench.Proofs.SeenReports
import ScriptWorkbench.Proofs.CommandAgreement
import ScriptWorkbench.Proofs.TraceReports
import ScriptWorkbench.Proofs.TableConstruction
import ScriptWorkbench.Proofs.TableIndex
import ScriptWorkbench.Proofs.ExportIdentity
import ScriptWorkbench.Proofs.EditDistance
import ScriptWorkbench.Proofs.Suggestions
