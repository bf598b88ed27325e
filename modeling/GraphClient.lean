import GraphClient.Answer
import GraphClient.Attempt
import GraphClient.Failure
import GraphClient.Fields
import GraphClient.Number.Binary
import GraphClient.Number.Decimal
import GraphClient.Number.Layout
import GraphClient.Number.Rounding
import GraphClient.Number.Shortest
import GraphClient.Query.Literal
import GraphClient.Query.Text
import GraphClient.Reply.Basic
import GraphClient.Reply.Shape
import GraphClient.Schema.Cache
import GraphClient.Schema.Kind
import GraphClient.Schema.Lookup
import GraphClient.Schema.Names
import GraphClient.Schema.Run
import GraphClient.Schema.Server
import GraphClient.Session.Basic
import GraphClient.Session.Command
import GraphClient.Session.Handle
import GraphClient.Session.Options
import GraphClient.Session.Run
import GraphClient.Session.Script
import GraphClient.Table.Basic
import GraphClient.Table.Columns
import GraphClient.Table.Decode
import GraphClient.Table.Statistics
import GraphClient.Text.Blank
import GraphClient.Text.Combining
import GraphClient.Text.LetterCase
import GraphClient.Text.Listing
import GraphClient.Text.Lossy
import GraphClient.Text.Quoted
import GraphClient.Text.Unprintable
import GraphClient.Value.Basic
import GraphClient.Value.Decode
import GraphClient.Value.Display
import GraphClient.Value.Entity
import GraphClient.Value.Equality
import GraphClient.Value.Tag
import GraphClient.Value.Tree
import GraphClient.Proofs.Schema.Transparency
import GraphClient.Proofs.Schema.Soundness
import GraphClient.Proofs.Fields
import GraphClient.Proofs.Wire.Form
import GraphClient.Proofs.Wire.RoundTrip
import GraphClient.Proofs.Session.Lists
import GraphClient.Proofs.Session.History
import GraphClient.Proofs.Schema.AppendOnly
import GraphClient.Proofs.Session.Isolation
import GraphClient.Proofs.Query.Parameters
import GraphClient.Proofs.Schema.Reading
import GraphClient.Proofs.Table.WellFormed
import GraphClient.Proofs.Schema.Growth
import GraphClient.Proofs.Schema.Fetches
import GraphClient.Proofs.Table.Reach
import GraphClient.Proofs.Table.Asking
import GraphClient.Proofs.Table.Failure
import GraphClient.Proofs.Session.Logged
import GraphClient.Proofs.Session.Commands
import GraphClient.Proofs.Session.Charted
import GraphClient.Proofs.Session.ServerErrors
import GraphClient.Proofs.Query.Sendable
import GraphClient.Proofs.Schema.Economy
import GraphClient.Proofs.Schema.Journal
import GraphClient.Proofs.Schema.Accounts
import GraphClient.Proofs.Session.Accounts
import GraphClient.Proofs.Session.Mirror
import GraphClient.Proofs.Query.Quotation
import GraphClient.Proofs.Query.Calls
import GraphClient.Proofs.Table.Labels
import GraphClient.Proofs.Table.Export
import GraphClient.Proofs.Traversal
import GraphClient.Proofs.Reply.Shapes
import GraphClient.Proofs.Value.Edits
import GraphClient.Proofs.Value.Equivalence
import GraphClient.Proofs.Schema.NameRows
import GraphClient.Proofs.Table.Lines
import GraphClient.Proofs.Table.Rendering
import GraphClient.Proofs.Table.LastReport
import GraphClient.Proofs.Schema.Demand
import GraphClient.Proofs.Value.Items
import GraphClient.Proofs.Value.LastWrite
import GraphClient.Proofs.Value.Reordering
import GraphClient.Proofs.Table.Batches
import GraphClient.Proofs.Table.Unread
import GraphClient.Proofs.Value.Alternation
import GraphClient.Proofs.Table.Headers
import GraphClient.Proofs.Session.Warming
import GraphClient.Proofs.Table.StrayErrors
import GraphClient.Proofs.Text.Lossy
import GraphClient.Proofs.Session.Conservation
