import EngineTrials.CommandLine.Run
import EngineTrials.Discovery
import EngineTrials.Engine.Responders
import EngineTrials.Main
import EngineTrials.Proofs.BenchmarkRun
import EngineTrials.Proofs.CsvSheet
import EngineTrials.Proofs.DiscoveredFiles
import EngineTrials.Proofs.EchoedQuery
import EngineTrials.Proofs.PayloadBytes
import EngineTrials.Proofs.SettingLayers
import EngineTrials.Proofs.TimedReplies
import EngineTrials.Proofs.Verdict
import EngineTrials.Shell.Launch
import EngineTrials.Proofs.ScriptedHistory
import EngineTrials.Proofs.Supervision
import EngineTrials.Proofs.SupervisionEnds
import EngineTrials.Proofs.AcceptedLimits
import EngineTrials.Proofs.TreePlaces
import EngineTrials.Proofs.WalkPlaces
import EngineTrials.Proofs.NamedDirectory
import EngineTrials.Proofs.SuiteFiles
import EngineTrials.Proofs.BenchmarkFileSchema
import EngineTrials.Proofs.EscapedQuery
import EngineTrials.Proofs.FailureRecipes
import EngineTrials.Proofs.MatchedNames
import EngineTrials.Proofs.ReadPattern
import EngineTrials.Proofs.ListedFiles
import EngineTrials.Proofs.SuiteSelection
import EngineTrials.Proofs.NormalizedQuery
import EngineTrials.Proofs.ReportedEntries
import EngineTrials.Proofs.CaseAnswers
import EngineTrials.Proofs.SelfDelimiting
import EngineTrials.Proofs.MismatchMessage
import EngineTrials.Proofs.StyledText
import EngineTrials.Proofs.SummaryForms
import EngineTrials.Proofs.ResolvedPaths
import EngineTrials.Proofs.MissingFiles
import EngineTrials.Proofs.GivenLimits
import EngineTrials.Proofs.WordCounters
