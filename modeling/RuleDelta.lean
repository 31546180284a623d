import RuleDelta.Text.Blank
import RuleDelta.Text.Line
import RuleDelta.Text.Utf8
import RuleDelta.Text.Split
import RuleDelta.Text.Numeral
import RuleDelta.LineSet
import RuleDelta.Diff.FileStatus
import RuleDelta.Diff.AddedLine
import RuleDelta.RuleFile.Parse
import RuleDelta.Unicode.Category
import RuleDelta.Unicode.Script
import RuleDelta.Unicode.Property
import RuleDelta.Unicode.Case
import RuleDelta.Unicode.Lookup
import RuleDelta.Pattern.Escape
import RuleDelta.Pattern.Parse
import RuleDelta.Config.Read
import RuleDelta.Config.YamlSettings
import RuleDelta.Event.Sink
import RuleDelta.Git.Change
import RuleDelta.Report.Text
import RuleDelta.Report.Json
import RuleDelta.Discovery.Finder
import RuleDelta.CommandLine.Parse
import RuleDelta.FileTree.Content
import RuleDelta.Discovery.TreeLink
import RuleDelta.CommandLine.Discover
import RuleDelta.Main
import RuleDelta.Proofs.Change.Pairing
import RuleDelta.Proofs.RuleFile.Range
import RuleDelta.Proofs.RuleFile.Salvage
import RuleDelta.Proofs.Discovery.Finder
import RuleDelta.Proofs.Discovery.Failure
import RuleDelta.Proofs.Discovery.Mirror
import RuleDelta.Proofs.Diff.AddedLine
import RuleDelta.Proofs.Diff.Listing
import RuleDelta.Proofs.RuleFile.StrictReading
import RuleDelta.Proofs.Discovery.Settled
import RuleDelta.Proofs.Discovery.Relaxed
import RuleDelta.Proofs.Git.Reading
import RuleDelta.Proofs.Git.OwnLines
import RuleDelta.Proofs.Git.TwoRunners
import RuleDelta.Proofs.Discovery.Rejected
import RuleDelta.Proofs.Discovery.Alias
import RuleDelta.Proofs.Git.ListedNames
import RuleDelta.Proofs.Change.Key
import RuleDelta.Proofs.Change.Priority
import RuleDelta.Proofs.Discovery.Unpaired
import RuleDelta.Proofs.Change.Independence
import RuleDelta.Proofs.Change.InPlace
import RuleDelta.Proofs.Diff.FileHeader
import RuleDelta.Proofs.RuleFile.WrittenList
import RuleDelta.Proofs.RuleFile.Insertion
import RuleDelta.Proofs.Discovery.Messages
import RuleDelta.Proofs.Git.LinkWalk
import RuleDelta.Proofs.Git.TouchingCommits
import RuleDelta.Proofs.Diff.ListingLine
import RuleDelta.Proofs.Report.Lines
import RuleDelta.Proofs.Event.Record
import RuleDelta.Proofs.Config.Override
import RuleDelta.Proofs.Config.Written
import RuleDelta.Proofs.Diff.QuotedBytes
import RuleDelta.Proofs.LineSet.Written
