import RemoteNotebook.CommandLine
import RemoteNotebook.CommandLine.Grammar
import RemoteNotebook.Console
import RemoteNotebook.Decimal.Binary64
import RemoteNotebook.Decimal.Integer
import RemoteNotebook.Decimal.Shortest
import RemoteNotebook.Dialogue
import RemoteNotebook.Endpoint.Address
import RemoteNotebook.Endpoint.Domain
import RemoteNotebook.Endpoint.Host
import RemoteNotebook.Endpoint.Mapping
import RemoteNotebook.Endpoint.Parser
import RemoteNotebook.Endpoint.Percent
import RemoteNotebook.Endpoint.Properties
import RemoteNotebook.Endpoint.Punycode
import RemoteNotebook.Endpoint.Reference
import RemoteNotebook.Exchange
import RemoteNotebook.Exchange.Message
import RemoteNotebook.Exchange.Request
import RemoteNotebook.Failure
import RemoteNotebook.Json.Reader
import RemoteNotebook.Json.Record
import RemoteNotebook.Json.Value
import RemoteNotebook.Json.Writer
import RemoteNotebook.Listing
import RemoteNotebook.Main
import RemoteNotebook.Note
import RemoteNotebook.Page
import RemoteNotebook.Page.Markup
import RemoteNotebook.Program
import RemoteNotebook.Reply
import RemoteNotebook.Session
import RemoteNotebook.Settings
import RemoteNotebook.Shell
import RemoteNotebook.Shell.Command
import RemoteNotebook.Shell.Turn
import RemoteNotebook.Sql.Literal
import RemoteNotebook.Sql.Statement
import RemoteNotebook.Storage
import RemoteNotebook.Surface
import RemoteNotebook.Terminal
import RemoteNotebook.Terminal.Text
import RemoteNotebook.Text.Base64
import RemoteNotebook.Text.Blank
import RemoteNotebook.Text.CaseTable
import RemoteNotebook.Text.Casing
import RemoteNotebook.Text.CharSet
import RemoteNotebook.Text.Composition
import RemoteNotebook.Text.CompositionTable
import RemoteNotebook.Text.Lines
import RemoteNotebook.Text.Utf8
import RemoteNotebook.Wire
import RemoteNotebook.Proofs.Quoting
import RemoteNotebook.Proofs.Numerals
import RemoteNotebook.Proofs.Runs
import RemoteNotebook.Proofs.StatementText
import RemoteNotebook.Proofs.StoredNotes
import RemoteNotebook.Proofs.FailedReplies
import RemoteNotebook.Proofs.Stopping
import RemoteNotebook.Proofs.Forms
import RemoteNotebook.Proofs.History
import RemoteNotebook.Proofs.KeptText
import RemoteNotebook.Proofs.Completion
import RemoteNotebook.Proofs.FreshListing
import RemoteNotebook.Proofs.ShellRuns
import RemoteNotebook.Proofs.StatusLine
import RemoteNotebook.Proofs.SameAnswers
import RemoteNotebook.Proofs.TypedLines
import RemoteNotebook.Proofs.ShellSimulation
import RemoteNotebook.Proofs.SameTraffic
import RemoteNotebook.Proofs.PageOfRun
import RemoteNotebook.Proofs.Tags
import RemoteNotebook.Proofs.PageTags
import RemoteNotebook.Proofs.InputLines
import RemoteNotebook.Proofs.ShellTurns
import RemoteNotebook.Proofs.TurnLines
import RemoteNotebook.Proofs.ShellEnds
import RemoteNotebook.Proofs.DistinctStatements
import RemoteNotebook.Proofs.SentQueries
import RemoteNotebook.Proofs.Submissions
import RemoteNotebook.Proofs.ProgramRuns
import RemoteNotebook.Proofs.TableNames
import RemoteNotebook.Proofs.ReadableInput
import RemoteNotebook.Proofs.ExitStatus
import RemoteNotebook.Proofs.AsciiWords
import RemoteNotebook.Proofs.IntegerTexts
import RemoteNotebook.Proofs.LineParts
import RemoteNotebook.Proofs.CommandGrammar
import RemoteNotebook.Proofs.Consent
import RemoteNotebook.Proofs.Retries
import RemoteNotebook.Proofs.Legible
import RemoteNotebook.Proofs.PageReading
import RemoteNotebook.Proofs.PageCards
import RemoteNotebook.Proofs.NoteRows
import RemoteNotebook.Proofs.OverrideFaults
import RemoteNotebook.Proofs.DeletionArguments
import RemoteNotebook.Proofs.JsonStrings
import RemoteNotebook.Proofs.JsonBrackets
import RemoteNotebook.Proofs.JsonValues
import RemoteNotebook.Proofs.SettingsFiles
import RemoteNotebook.Proofs.SettingsSources
import RemoteNotebook.Proofs.JsonObjects
import RemoteNotebook.Proofs.WrittenReplies
import RemoteNotebook.Proofs.WireTexts
import RemoteNotebook.Proofs.ErrorStream
import RemoteNotebook.Proofs.ListingReading
import RemoteNotebook.Proofs.PromptedLines
import RemoteNotebook.Proofs.StoredTexts
import RemoteNotebook.Proofs.References
