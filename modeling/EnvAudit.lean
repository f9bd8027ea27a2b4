import EnvAudit.Calendar
import EnvAudit.Command.Arguments
import EnvAudit.Command.Run
import EnvAudit.Config
import EnvAudit.Env.Difference
import EnvAudit.Env.Duplicate
import EnvAudit.Env.Expiry
import EnvAudit.Env.Filter
import EnvAudit.Env.Line
import EnvAudit.Env.Map
import EnvAudit.Env.Name
import EnvAudit.Failure
import EnvAudit.Files.Access
import EnvAudit.Files.Name
import EnvAudit.Files.Path
import EnvAudit.Files.Search
import EnvAudit.Files.Settings
import EnvAudit.Files.Tree
import EnvAudit.Json.Basic
import EnvAudit.Json.Reader
import EnvAudit.Json.Writer
import EnvAudit.Main
import EnvAudit.Pattern.Basic
import EnvAudit.Pattern.Class
import EnvAudit.Pattern.Reader
import EnvAudit.Pattern.Size
import EnvAudit.Project.Files
import EnvAudit.Project.Framework
import EnvAudit.Project.Manifest
import EnvAudit.Project.Schema
import EnvAudit.Proofs.Calendar.DaysLeft
import EnvAudit.Proofs.Calendar.NextDay
import EnvAudit.Proofs.Calendar.Quotient
import EnvAudit.Proofs.Command.DefaultExample
import EnvAudit.Proofs.Command.Outcome
import EnvAudit.Proofs.Command.Precedence
import EnvAudit.Proofs.Command.Presentation
import EnvAudit.Proofs.Command.Reading
import EnvAudit.Proofs.Config.Places
import EnvAudit.Proofs.Config.Settings
import EnvAudit.Proofs.Config.Values
import EnvAudit.Proofs.Env.AnnotationText
import EnvAudit.Proofs.Env.Appending
import EnvAudit.Proofs.Env.Assignment
import EnvAudit.Proofs.Env.DatedPairs
import EnvAudit.Proofs.Env.Difference
import EnvAudit.Proofs.Env.History
import EnvAudit.Proofs.Env.LookAlikePairs
import EnvAudit.Proofs.Env.Lookup
import EnvAudit.Proofs.Env.Occurrences
import EnvAudit.Proofs.Env.PendingDate
import EnvAudit.Proofs.Env.Respelling
import EnvAudit.Proofs.Env.RoundTrip
import EnvAudit.Proofs.Env.SecondRespelling
import EnvAudit.Proofs.Env.SettledUpper
import EnvAudit.Proofs.Env.SharedSuggestion
import EnvAudit.Proofs.Env.Suggestion
import EnvAudit.Proofs.Files.Collect
import EnvAudit.Proofs.Files.Components
import EnvAudit.Proofs.Files.Entry
import EnvAudit.Proofs.Files.Name
import EnvAudit.Proofs.Files.ReportedPaths
import EnvAudit.Proofs.Files.Resolve
import EnvAudit.Proofs.Files.Steps
import EnvAudit.Proofs.Files.Walk
import EnvAudit.Proofs.Filter.Checks
import EnvAudit.Proofs.Filter.Compare
import EnvAudit.Proofs.Filter.Scan
import EnvAudit.Proofs.Filter.SecretKey
import EnvAudit.Proofs.Json.Documents
import EnvAudit.Proofs.Json.Tokens
import EnvAudit.Proofs.Lists
import EnvAudit.Proofs.Project.BlockScan
import EnvAudit.Proofs.Project.Brackets
import EnvAudit.Proofs.Project.ClientDirective
import EnvAudit.Proofs.Project.ClientDirectories
import EnvAudit.Proofs.Project.DeclaredKeys
import EnvAudit.Proofs.Project.ExposedSecret
import EnvAudit.Proofs.Project.FirstSection
import EnvAudit.Proofs.Project.SchemaProblems
import EnvAudit.Proofs.Report.FileOrder
import EnvAudit.Proofs.Report.LineEnds
import EnvAudit.Proofs.Report.MinSeverity
import EnvAudit.Proofs.Report.Repair
import EnvAudit.Proofs.Report.RepeatedKeys
import EnvAudit.Proofs.Report.Score
import EnvAudit.Proofs.Report.TemplatedKeys
import EnvAudit.Proofs.Report.UsedNames
import EnvAudit.Proofs.Report.Verdict
import EnvAudit.Proofs.Source.ExampleSecrets
import EnvAudit.Proofs.Source.IgnoreComment
import EnvAudit.Proofs.Source.LeakedLiteral
import EnvAudit.Proofs.Source.LengthLimits
import EnvAudit.Proofs.Source.LineEnds
import EnvAudit.Proofs.Source.LiteralAssignment
import EnvAudit.Proofs.Source.MarkerForms
import EnvAudit.Proofs.Source.NumberedLines
import EnvAudit.Proofs.Source.Occurrence
import EnvAudit.Proofs.Source.Placeholder
import EnvAudit.Proofs.Source.QuotedCredential
import EnvAudit.Proofs.Source.QuotedPieces
import EnvAudit.Proofs.Source.Reference
import EnvAudit.Proofs.Source.SecretOnLine
import EnvAudit.Proofs.Source.SensitiveNames
import EnvAudit.Proofs.Source.SharedLines
import EnvAudit.Proofs.Source.Trigger
import EnvAudit.Proofs.Text.ByteTable
import EnvAudit.Proofs.Text.Firsts
import EnvAudit.Proofs.Text.Matches
import EnvAudit.Proofs.Text.Passing
import EnvAudit.Proofs.Text.Pieces
import EnvAudit.Proofs.Text.Places
import EnvAudit.Proofs.Text.Returns
import EnvAudit.Proofs.Text.Rows
import EnvAudit.Proofs.Text.Trim
import EnvAudit.Proofs.Text.Utf8
import EnvAudit.Proofs.Text.WordEdges
import EnvAudit.Report.Compare
import EnvAudit.Report.Document
import EnvAudit.Report.Health
import EnvAudit.Report.Scan
import EnvAudit.Report.Summary
import EnvAudit.Source.Credential
import EnvAudit.Source.Entropy
import EnvAudit.Source.Secret
import EnvAudit.Source.SensitiveName
import EnvAudit.Source.Suppression
import EnvAudit.Source.Usage
import EnvAudit.Text.Basic
import EnvAudit.Text.Case
import EnvAudit.Text.Lines
import EnvAudit.Text.Scan
import EnvAudit.Text.Utf8
import EnvAudit.Text.Word
import EnvAudit.Unicode.Age
import EnvAudit.Unicode.Casing
import EnvAudit.Unicode.Category
import EnvAudit.Unicode.CharSet
import EnvAudit.Unicode.Derived
import EnvAudit.Unicode.Folding
import EnvAudit.Unicode.Letters
import EnvAudit.Unicode.Property
import EnvAudit.Unicode.Script
import EnvAudit.Unicode.Segmentation
