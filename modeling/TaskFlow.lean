import TaskFlow.CommandLine.Program
import TaskFlow.Flow.Record
import TaskFlow.Main
import TaskFlow.Proofs.Flow.Loading
import TaskFlow.Proofs.Flow.Rules
import TaskFlow.Proofs.Mapping.Lines
import TaskFlow.Proofs.Mapping.Redirection
import TaskFlow.Proofs.Mapping.Grammar
import TaskFlow.Proofs.Mapping.Arguments
import TaskFlow.Proofs.Mapping.RoundTrip
import TaskFlow.Proofs.Mapping.Turns
import TaskFlow.Proofs.Text.Numeral
import TaskFlow.Proofs.Overrides.LastWord
import TaskFlow.Proofs.Engine.Actions
import TaskFlow.Proofs.Engine.Phases
import TaskFlow.Proofs.Engine.Handover
import TaskFlow.Proofs.Engine.Visits
import TaskFlow.Proofs.Engine.Walk
import TaskFlow.Proofs.Engine.Calls
import TaskFlow.Proofs.Engine.Slots
import TaskFlow.Proofs.Engine.Order
import TaskFlow.Proofs.Engine.Soundness
import TaskFlow.Proofs.Engine.Bare
import TaskFlow.Proofs.Engine.Monitors
import TaskFlow.Proofs.Engine.Cancellation
import TaskFlow.Proofs.Engine.Lifetime
import TaskFlow.Proofs.Engine.Overrun
import TaskFlow.Proofs.Instance.Moves
import TaskFlow.Proofs.Engine.Routes
import TaskFlow.Proofs.Store.Frame
import TaskFlow.Proofs.Store.Order
import TaskFlow.Proofs.Store.Obstacles
import TaskFlow.Proofs.Document.Durations
import TaskFlow.Proofs.Document.Rules
import TaskFlow.Proofs.Document.Amounts
import TaskFlow.Proofs.Document.Folders
import TaskFlow.Proofs.Plugin.Integers
import TaskFlow.Proofs.Plugin.Numerals
import TaskFlow.Proofs.Plugin.Rows
import TaskFlow.Proofs.Plugin.Search
import TaskFlow.Proofs.Plugin.Transposition
import TaskFlow.Proofs.Plugin.Exchange
import TaskFlow.Proofs.Plugin.Order
import TaskFlow.Proofs.Binary.Nearest
import TaskFlow.Proofs.Binary.Read
import TaskFlow.Proofs.Mapping.WholeNumbers
import TaskFlow.Proofs.Mapping.TextForms
import TaskFlow.Proofs.Mapping.Order
import TaskFlow.Proofs.Store.Halves
import TaskFlow.Proofs.Store.Replacement
import TaskFlow.Proofs.Store.Removal
import TaskFlow.Proofs.Store.Union
import TaskFlow.Proofs.Store.Independence
import TaskFlow.Proofs.Store.Succession
import TaskFlow.Proofs.Store.Spelling
import TaskFlow.Proofs.Store.Scanner
import TaskFlow.Proofs.Template.Scan
import TaskFlow.Proofs.Template.Pieces
import TaskFlow.Proofs.Route.Language
import TaskFlow.Proofs.Route.Tokens
import TaskFlow.Proofs.CommandLine.Order
