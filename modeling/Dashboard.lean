import Dashboard.Main
import Dashboard.Proofs.CommandLine.Run
import Dashboard.Proofs.CommandLine.Settings
import Dashboard.Proofs.Content.Building
import Dashboard.Proofs.Record.Count
import Dashboard.Proofs.Report
import Dashboard.Proofs.Request.File
import Dashboard.Proofs.Request.Selection
import Dashboard.Proofs.Statistics.Comparison
import Dashboard.Proofs.Statistics.Defects
import Dashboard.Proofs.Statistics.Flakiness
import Dashboard.Proofs.Statistics.Telescope
import Dashboard.Proofs.Widget.Agreement
import Dashboard.Proofs.Widget.Cases
import Dashboard.Proofs.Widget.Chronology
import Dashboard.Proofs.Widget.Comparison
import Dashboard.Proofs.Widget.Cumulative
import Dashboard.Proofs.Widget.Flaky
import Dashboard.Proofs.Widget.Health
import Dashboard.Proofs.Widget.Outcome
import Dashboard.Proofs.Widget.Permutation
import Dashboard.Proofs.Widget.Ranking
import Dashboard.Proofs.Widget.Renaming
import Dashboard.Proofs.Widget.Validation
import Dashboard.Sample.Check
import Dashboard.Sample.Source
import Dashboard.Proofs.Calendar.Correspondence
import Dashboard.Proofs.Statistics.ByName
import Dashboard.Proofs.Record.Grammar
import Dashboard.Proofs.Widget.FieldNames
