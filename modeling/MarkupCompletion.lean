import MarkupCompletion.Text.Basic
import MarkupCompletion.Text.Size
import MarkupCompletion.Text.Blank
import MarkupCompletion.Text.Ranges
import MarkupCompletion.Text.Alphabetic
import MarkupCompletion.Text.Cased
import MarkupCompletion.Text.Lowercase
import MarkupCompletion.Text.Digits
import MarkupCompletion.Markup.Quote
import MarkupCompletion.Markup.Doctype
import MarkupCompletion.Markup.Place
import MarkupCompletion.Markup.Scan
import MarkupCompletion.Markup.Cursor
import MarkupCompletion.Document
import MarkupCompletion.Failure
import MarkupCompletion.Files
import MarkupCompletion.Completion.Candidate
import MarkupCompletion.Schema.Definition
import MarkupCompletion.Schema.Html
import MarkupCompletion.Toml.Value
import MarkupCompletion.Toml.Gap
import MarkupCompletion.Toml.Quoted
import MarkupCompletion.Toml.Number
import MarkupCompletion.Toml.Moment
import MarkupCompletion.Toml.Scalar
import MarkupCompletion.Toml.Assembly
import MarkupCompletion.Toml.Statement
import MarkupCompletion.Toml.Decode
import MarkupCompletion.Json
import MarkupCompletion.Completion.Exchange
import MarkupCompletion.Schema.Decode
import MarkupCompletion.Settings.Basic
import MarkupCompletion.Settings.Decode
import MarkupCompletion.Toml.Written
import MarkupCompletion.Settings.Written
import MarkupCompletion.Settings.Store
import MarkupCompletion.Text.Display
import MarkupCompletion.Schema.Library
import MarkupCompletion.Schema.Registry
import MarkupCompletion.Schema.Catalog
import MarkupCompletion.Completion.Proposal
import MarkupCompletion.Session
import MarkupCompletion.Text.Similarity
import MarkupCompletion.CommandLine.Arguments
import MarkupCompletion.CommandLine.Report
import MarkupCompletion.CommandLine.Program
import MarkupCompletion.Main
import MarkupCompletion.Proofs.Text.Prefix
import MarkupCompletion.Proofs.Text.Suffix
import MarkupCompletion.Proofs.Document.Checkpoints
import MarkupCompletion.Proofs.Document.History
import MarkupCompletion.Proofs.Schema.Tables
import MarkupCompletion.Proofs.Session.Opened
import MarkupCompletion.Proofs.Markup.Characters
import MarkupCompletion.Proofs.Markup.Fields
import MarkupCompletion.Proofs.Markup.Outcome
import MarkupCompletion.Proofs.Markup.Sound
import MarkupCompletion.Proofs.Markup.Coherent
import MarkupCompletion.Proofs.Markup.Leads
import MarkupCompletion.Proofs.Markup.StartTag
import MarkupCompletion.Proofs.Markup.Nesting
import MarkupCompletion.Proofs.Markup.Stack
import MarkupCompletion.Proofs.Markup.Restart
import MarkupCompletion.Proofs.Document.Ended
import MarkupCompletion.Proofs.Session.Lookup
import MarkupCompletion.Proofs.Markup.SectionEnd
import MarkupCompletion.Proofs.Markup.Attributes
import MarkupCompletion.Proofs.Document.Report
import MarkupCompletion.Proofs.Markup.Doctype
import MarkupCompletion.Proofs.Markup.Declaration
import MarkupCompletion.Proofs.Schema.Build
import MarkupCompletion.Proofs.Schema.Distinct
import MarkupCompletion.Proofs.Session.Accepted
import MarkupCompletion.Proofs.Markup.WrittenKeys
import MarkupCompletion.Proofs.Session.Unrepeated
import MarkupCompletion.Proofs.Text.Lowercase
import MarkupCompletion.Proofs.Completion.Spellings
import MarkupCompletion.Proofs.Schema.Attributes
import MarkupCompletion.Proofs.Completion.OwnName
import MarkupCompletion.Proofs.Completion.Closing
import MarkupCompletion.Proofs.Schema.ReadOnce
import MarkupCompletion.Proofs.Completion.LetterCase
import MarkupCompletion.Proofs.Session.Requests
import MarkupCompletion.Proofs.Session.BeginTags
import MarkupCompletion.Proofs.Schema.Directory
import MarkupCompletion.Proofs.Schema.Catalog
import MarkupCompletion.Proofs.Text.Boundary
import MarkupCompletion.Proofs.Document.Range
import MarkupCompletion.Proofs.Schema.Texts
import MarkupCompletion.Proofs.CommandLine.Report
import MarkupCompletion.Proofs.Text.Digits
import MarkupCompletion.Proofs.Toml.Escape
import MarkupCompletion.Proofs.Toml.Quoted
import MarkupCompletion.Proofs.Toml.Scalar
import MarkupCompletion.Proofs.Toml.Value
import MarkupCompletion.Proofs.Toml.Statement
import MarkupCompletion.Proofs.Toml.Assembly
import MarkupCompletion.Proofs.Settings.Entries
import MarkupCompletion.Proofs.Files
import MarkupCompletion.Proofs.Settings.Saved
