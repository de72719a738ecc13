import Rehearsal.Audit
import Rehearsal.Bytes.Base64
import Rehearsal.Bytes.Hex
import Rehearsal.Bytes.Utf8
import Rehearsal.Calendar
import Rehearsal.Callback
import Rehearsal.Collaborator
import Rehearsal.Command.Arguments
import Rehearsal.Command.Execute
import Rehearsal.Command.Screens
import Rehearsal.Command.Words
import Rehearsal.Config
import Rehearsal.Config.Assignments
import Rehearsal.Contract
import Rehearsal.Datum
import Rehearsal.Decimal.Binary
import Rehearsal.Decimal.Numeral
import Rehearsal.Decimal.Shortest
import Rehearsal.Dispatch
import Rehearsal.Display.Action
import Rehearsal.Display.Cells
import Rehearsal.Display.Colour
import Rehearsal.Display.Emoji
import Rehearsal.Display.Markup
import Rehearsal.Display.Panel
import Rehearsal.Display.Style
import Rehearsal.Display.Styled
import Rehearsal.Display.Wrap
import Rehearsal.Draws
import Rehearsal.Event
import Rehearsal.Failure
import Rehearsal.Files
import Rehearsal.Identifier
import Rehearsal.Interpreter.Registry
import Rehearsal.Interpreter.Script
import Rehearsal.Json.Reader
import Rehearsal.Json.Writer
import Rehearsal.Key.Ed25519
import Rehearsal.Key.Ring
import Rehearsal.Key.Sha512
import Rehearsal.Ledger
import Rehearsal.Load
import Rehearsal.Main
import Rehearsal.Plan
import Rehearsal.Proofs.Bytes.Base64RoundTrip
import Rehearsal.Proofs.Bytes.HexRoundTrip
import Rehearsal.Proofs.Bytes.HexText
import Rehearsal.Proofs.Bytes.PlainText
import Rehearsal.Proofs.Bytes.TextRoundTrip
import Rehearsal.Proofs.Command.Conversation
import Rehearsal.Proofs.Command.EmittedLines
import Rehearsal.Proofs.Command.Escapes
import Rehearsal.Proofs.Command.ExitCodes
import Rehearsal.Proofs.Command.FrontEnds
import Rehearsal.Proofs.Command.Panels
import Rehearsal.Proofs.Command.QuotedWords
import Rehearsal.Proofs.Command.StepLines
import Rehearsal.Proofs.Contract.FirstParameter
import Rehearsal.Proofs.Dispatch.Filling
import Rehearsal.Proofs.Dispatch.FreshResponse
import Rehearsal.Proofs.Display.MarkupText
import Rehearsal.Proofs.Display.Opening
import Rehearsal.Proofs.Display.Untagged
import Rehearsal.Proofs.Draws.FirstFree
import Rehearsal.Proofs.Draws.FreshBlocks
import Rehearsal.Proofs.Files
import Rehearsal.Proofs.Json.Course
import Rehearsal.Proofs.Json.Leaves
import Rehearsal.Proofs.Json.OneLine
import Rehearsal.Proofs.Json.ReadBack
import Rehearsal.Proofs.Json.Records
import Rehearsal.Proofs.Json.Surrogates
import Rehearsal.Proofs.Json.TextReadBack
import Rehearsal.Proofs.Ledger.WriteOnce
import Rehearsal.Proofs.Loading.CheckedSteps
import Rehearsal.Proofs.Loading.LoadErrors
import Rehearsal.Proofs.Loading.PlanReadBack
import Rehearsal.Proofs.Loading.ResponseReadBack
import Rehearsal.Proofs.Loading.StepReadBack
import Rehearsal.Proofs.Loading.UnknownEndpoints
import Rehearsal.Proofs.Outcome
import Rehearsal.Proofs.PlanAssembly
import Rehearsal.Proofs.Reference.Grammar
import Rehearsal.Proofs.Resolve.Alone
import Rehearsal.Proofs.Resolve.Derailment
import Rehearsal.Proofs.Resolve.Identifiers
import Rehearsal.Proofs.Resolve.Pointwise
import Rehearsal.Proofs.Resolve.ReadIdentifiers
import Rehearsal.Proofs.Resolve.References
import Rehearsal.Proofs.Resolve.Yields
import Rehearsal.Proofs.Run.Attempts
import Rehearsal.Proofs.Run.AuditLog
import Rehearsal.Proofs.Run.Bindings
import Rehearsal.Proofs.Run.CallTrace
import Rehearsal.Proofs.Run.Callbacks
import Rehearsal.Proofs.Run.Calls
import Rehearsal.Proofs.Run.CreatedPrograms
import Rehearsal.Proofs.Run.Deeds
import Rehearsal.Proofs.Run.Effects
import Rehearsal.Proofs.Run.History
import Rehearsal.Proofs.Run.Indifference
import Rehearsal.Proofs.Run.KeyIdentity
import Rehearsal.Proofs.Run.KnownFailures
import Rehearsal.Proofs.Run.Lasting
import Rehearsal.Proofs.Run.LaterPlans
import Rehearsal.Proofs.Run.LedgerEntries
import Rehearsal.Proofs.Run.LedgerProjection
import Rehearsal.Proofs.Run.LoadedPrograms
import Rehearsal.Proofs.Run.NamedKeys
import Rehearsal.Proofs.Run.PassedBack
import Rehearsal.Proofs.Run.PlanReferences
import Rehearsal.Proofs.Run.PlanSequence
import Rehearsal.Proofs.Run.Preparation
import Rehearsal.Proofs.Run.Records
import Rehearsal.Proofs.Run.Rejections
import Rehearsal.Proofs.Run.ResponseForm
import Rehearsal.Proofs.Run.StepOutcome
import Rehearsal.Proofs.Run.StepReferences
import Rehearsal.Proofs.Run.StoreFootprint
import Rehearsal.Proofs.Run.Told
import Rehearsal.Proofs.Run.TracelessFailure
import Rehearsal.Proofs.Store.Bindings
import Rehearsal.Proofs.Store.Gains
import Rehearsal.Proofs.Store.Namespaces
import Rehearsal.Proofs.Text.Split
import Rehearsal.Proofs.Text.Whole
import Rehearsal.Proofs.Yaml.Characters
import Rehearsal.Proofs.Yaml.Nodes
import Rehearsal.Proofs.Yaml.Tokens
import Rehearsal.Proofs.Yaml.Values
import Rehearsal.Reference
import Rehearsal.Rejection
import Rehearsal.Resolve
import Rehearsal.Response
import Rehearsal.Run
import Rehearsal.Schema
import Rehearsal.Step
import Rehearsal.Store
import Rehearsal.Text
import Rehearsal.Text.Capital
import Rehearsal.Text.Class
import Rehearsal.Text.Printable
import Rehearsal.Text.Quoted
import Rehearsal.Text.Small
import Rehearsal.Yaml.Cursor
import Rehearsal.Yaml.Merge
import Rehearsal.Yaml.Node
import Rehearsal.Yaml.Reader
import Rehearsal.Yaml.ScalarText
import Rehearsal.Yaml.Slots
import Rehearsal.Yaml.Tag
import Rehearsal.Yaml.Token
import Rehearsal.Yaml.Value
