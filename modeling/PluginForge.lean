import PluginForge.Compiler.Recorded
import PluginForge.Compiler.Scripted
import PluginForge.Engine.Callers
import PluginForge.Engine.FileRuns
import PluginForge.Main
import PluginForge.Store.Faults
import PluginForge.Store.Memory
import PluginForge.Proofs.Exchange
import PluginForge.Proofs.Numerals
import PluginForge.Proofs.JsonTexts
import PluginForge.Proofs.Lines
import PluginForge.Proofs.Directives
import PluginForge.Proofs.Prune
import PluginForge.Proofs.Attempts
import PluginForge.Proofs.Retry
import PluginForge.Proofs.Grouping
import PluginForge.Proofs.Intake
import PluginForge.Proofs.Simulation
import PluginForge.Proofs.Stages
import PluginForge.Proofs.Accounting
import PluginForge.Proofs.Discovery
import PluginForge.Proofs.Exhaustion
import PluginForge.Proofs.References
import PluginForge.Proofs.Failures
import PluginForge.Proofs.Paths
import PluginForge.Proofs.FileNames
import PluginForge.Proofs.MemoryStore
import PluginForge.Proofs.Places
import PluginForge.Proofs.OutputDir
import PluginForge.Proofs.Artifacts
import PluginForge.Proofs.Lookup
import PluginForge.Proofs.Shelf
import PluginForge.Proofs.ScriptExchange
import PluginForge.Proofs.ScriptHistory
import PluginForge.Proofs.Callers
import PluginForge.Proofs.LoneCaller
import PluginForge.Proofs.CallerSteps
import PluginForge.Proofs.CompiledOnce
import PluginForge.Proofs.Stripping
import PluginForge.Proofs.Withholding
import PluginForge.Proofs.Traffic
import PluginForge.Proofs.Cycles
import PluginForge.Proofs.Edits
import PluginForge.Proofs.Tallies
import PluginForge.Proofs.Probing
import PluginForge.Proofs.Unreadable
import PluginForge.Proofs.Recompiling
import PluginForge.Proofs.FileRuns
import PluginForge.Proofs.LoneFileRun
import PluginForge.Proofs.ShelfOrigins
import PluginForge.Proofs.Leftovers
import PluginForge.Proofs.Abandoned
import PluginForge.Proofs.Collisions
import PluginForge.Proofs.Confinement
import PluginForge.Proofs.PhaseOrder
import PluginForge.Proofs.Determinism
import PluginForge.Proofs.Recording
import PluginForge.Proofs.Deliveries
import PluginForge.Proofs.Interference
import PluginForge.Proofs.Agreement
import PluginForge.Proofs.Repeatability
import PluginForge.Proofs.Overlaps
import PluginForge.Proofs.HashInput
import PluginForge.Proofs.ScriptBatches
import PluginForge.Proofs.Layout
import PluginForge.Proofs.DiskStore
import PluginForge.Proofs.FailureLogs
import PluginForge.Proofs.JsonRecords
import PluginForge.Proofs.SettingsDocument
import PluginForge.Proofs.WireForms
import PluginForge.Proofs.OutlineForms
import PluginForge.Proofs.DefaultImports
import PluginForge.Proofs.PathOrder
import PluginForge.Proofs.DiskTree
import PluginForge.Proofs.ListingOrder
import PluginForge.Proofs.LineDeletion
import PluginForge.Proofs.Spellings
import PluginForge.Proofs.ReferenceSets
import PluginForge.Proofs.FirstOccurrences
import PluginForge.Proofs.OffendingNames
import PluginForge.Proofs.Gathering
import PluginForge.Proofs.OutlineWalk
import PluginForge.Proofs.ErrorReports
import PluginForge.Proofs.Limits
import PluginForge.Proofs.FileLabels
import PluginForge.Proofs.LogEntries
import PluginForge.Proofs.Utf8
import PluginForge.Proofs.TwoByteRows
import PluginForge.Proofs.Decoding
import PluginForge.Proofs.MemoryListings
import PluginForge.Proofs.SourceRemoval
import PluginForge.Proofs.GroupFiles
import PluginForge.Proofs.HelperAnswers
