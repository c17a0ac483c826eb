import Postprocessor.Main
import Postprocessor.Program.PostProcessing
import Postprocessor.Program.Script
import Postprocessor.Proofs.Command.Dump
import Postprocessor.Proofs.Command.Outcome
import Postprocessor.Proofs.Command.Writing
import Postprocessor.Proofs.Config.Acceptance
import Postprocessor.Proofs.Config.Refusal
import Postprocessor.Proofs.Control.Absolute
import Postprocessor.Proofs.Control.Comments
import Postprocessor.Proofs.Control.Lines
import Postprocessor.Proofs.Control.Modal
import Postprocessor.Proofs.Control.Reading
import Postprocessor.Proofs.Control.Repetition
import Postprocessor.Proofs.Control.Suppression
import Postprocessor.Proofs.Control.Travel
import Postprocessor.Proofs.Decimal.Canonical
import Postprocessor.Proofs.Decimal.Equality
import Postprocessor.Proofs.Decimal.Fixed
import Postprocessor.Proofs.Decimal.Plain
import Postprocessor.Proofs.Decimal.Rounding
import Postprocessor.Proofs.Decimal.Scanning
import Postprocessor.Proofs.Decimal.Shown
import Postprocessor.Proofs.Decimal.Windows
import Postprocessor.Proofs.Disk.Frames
import Postprocessor.Proofs.Disk.Identities
import Postprocessor.Proofs.Disk.Operations
import Postprocessor.Proofs.Disk.Places
import Postprocessor.Proofs.Disk.Storing
import Postprocessor.Proofs.Fields
import Postprocessor.Proofs.Json
import Postprocessor.Proofs.Log.Context
import Postprocessor.Proofs.Log.Lines
import Postprocessor.Proofs.Machine.Codes
import Postprocessor.Proofs.Machine.Letters
import Postprocessor.Proofs.Machine.Spellings
import Postprocessor.Proofs.Machine.Stopping
import Postprocessor.Proofs.Machine.Unbroken
import Postprocessor.Proofs.Machine.Values
import Postprocessor.Proofs.Machine.Words
import Postprocessor.Proofs.Machine.Writings
import Postprocessor.Proofs.Output.Calls
import Postprocessor.Proofs.Output.Emission
import Postprocessor.Proofs.Output.Failing
import Postprocessor.Proofs.Output.Files
import Postprocessor.Proofs.Output.Grouping
import Postprocessor.Proofs.Output.Growth
import Postprocessor.Proofs.Output.Ledger
import Postprocessor.Proofs.Output.Sharing
import Postprocessor.Proofs.Output.Subprograms
import Postprocessor.Proofs.Output.Unnumbered
import Postprocessor.Proofs.Program.Changes
import Postprocessor.Proofs.Program.Continuation
import Postprocessor.Proofs.Program.Dispatch
import Postprocessor.Proofs.Program.Effects
import Postprocessor.Proofs.Program.Generation
import Postprocessor.Proofs.Program.Grouping
import Postprocessor.Proofs.Program.Injection
import Postprocessor.Proofs.Program.Listening
import Postprocessor.Proofs.Program.Numbering
import Postprocessor.Proofs.Program.Numbers
import Postprocessor.Proofs.Program.Parameters
import Postprocessor.Proofs.Program.PostProcessing
import Postprocessor.Proofs.Program.Processing
import Postprocessor.Proofs.Program.Rejection
import Postprocessor.Proofs.Program.Relevance
import Postprocessor.Proofs.Program.Searching
import Postprocessor.Proofs.Program.Tools
import Postprocessor.Proofs.Program.Translation
import Postprocessor.Proofs.Running
import Postprocessor.Proofs.Session
import Postprocessor.Proofs.Session.Calls
import Postprocessor.Proofs.Session.Delivery
import Postprocessor.Proofs.Session.Failing
import Postprocessor.Proofs.Session.Keeping
import Postprocessor.Proofs.Text.Lines
import Postprocessor.Proofs.Text.Pattern
import Postprocessor.Proofs.Text.Trimming
import Postprocessor.Proofs.Text.Unbroken
import Postprocessor.Proofs.Trace.Blocks
import Postprocessor.Proofs.Trace.Continuation
import Postprocessor.Proofs.Trace.Groups
import Postprocessor.Proofs.Trace.Matches
import Postprocessor.Proofs.Trace.Names
import Postprocessor.Proofs.Trace.Scanning
import Postprocessor.Proofs.Trace.Tokens
import Postprocessor.Proofs.Trace.Told
import Postprocessor.Proofs.Trace.Values
import Postprocessor.Proofs.Views
