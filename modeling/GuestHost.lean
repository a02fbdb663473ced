import GuestHost.Value.Display
import GuestHost.Json.Read
import GuestHost.Schema.Decode
import GuestHost.Schema.Description
import GuestHost.Route.Table
import GuestHost.Serve.Response
import GuestHost.Store.Database
import GuestHost.Config.Basic
import GuestHost.Collect.Policy
import GuestHost.Bridge.HandleTable
import GuestHost.Bridge.NodeHeap
import GuestHost.Host.Perform
import GuestHost.Program.Run
import GuestHost.Proofs.Host.Action
import GuestHost.Proofs.Host.Footprint
import GuestHost.Proofs.Outcome
import GuestHost.Proofs.Value.Listing
import GuestHost.Proofs.Value.WellFormed
import GuestHost.Proofs.Bridge.SharedHeap
import GuestHost.Proofs.Bridge.Simulation
import GuestHost.Proofs.Host.Matching
import GuestHost.Proofs.Bridge.NodeRefinement
import GuestHost.Proofs.Bridge.TableWorld
import GuestHost.Proofs.Bridge.TableCopying
import GuestHost.Proofs.Bridge.TableRefinement
import GuestHost.Proofs.Bridge.Transcript
import GuestHost.Proofs.Bridge.Indistinguishable
import GuestHost.Proofs.Store.Transaction
import GuestHost.Proofs.Program.Performed
import GuestHost.Proofs.Program.Turning
import GuestHost.Proofs.Program.Atomicity
import GuestHost.Proofs.Program.Shelter
import GuestHost.Proofs.Text.ByteOrder
import GuestHost.Proofs.Json.StringText
import GuestHost.Proofs.Json.IntegerText
import GuestHost.Proofs.Json.Rendering
import GuestHost.Proofs.Json.DocumentText
import GuestHost.Proofs.Json.Normal
import GuestHost.Proofs.Json.Nesting
import GuestHost.Proofs.Json.RoundTrip
import GuestHost.Proofs.Bridge.Reading
import GuestHost.Proofs.Bridge.Exchange
import GuestHost.Proofs.Bridge.TableClosed
import GuestHost.Proofs.Bridge.TableFaithful
import GuestHost.Proofs.Bridge.TableRun
import GuestHost.Proofs.Bridge.HeapFaithful
import GuestHost.Proofs.Bridge.HeapRun
import GuestHost.Proofs.Bridge.ComingBack
import GuestHost.Proofs.Store.Creating
import GuestHost.Proofs.Store.Declaring
import GuestHost.Proofs.Serve.Listening
import GuestHost.Proofs.Program.Listening
import GuestHost.Proofs.Route.Fitting
import GuestHost.Proofs.Route.Resolution
import GuestHost.Proofs.Schema.Conforming
import GuestHost.Proofs.Schema.Fitting
import GuestHost.Proofs.Schema.Decoding
import GuestHost.Proofs.Program.Interleaving
import GuestHost.Proofs.Store.Shape
import GuestHost.Proofs.Store.Reconciling
import GuestHost.Proofs.Program.Declared
import GuestHost.Proofs.Serve.Tokens
import GuestHost.Proofs.Host.Memory
import GuestHost.Proofs.Host.Channels
import GuestHost.Proofs.Host.FileWrite
import GuestHost.Proofs.Json.Ascending
import GuestHost.Proofs.Schema.Depth
import GuestHost.Proofs.Host.Crossing
import GuestHost.Proofs.Schema.Rejecting
import GuestHost.Proofs.Schema.ErrorPaths
import GuestHost.Proofs.Bridge.Graph
import GuestHost.Proofs.Host.Chunks
import GuestHost.Proofs.Decimal.Doubles
import GuestHost.Proofs.Value.ContainerText
import GuestHost.Proofs.Value.Equality
import GuestHost.Proofs.Route.Filling
import GuestHost.Proofs.Schema.Flattening
import GuestHost.Proofs.Collect.History
import GuestHost.Proofs.Text.Boundary
import GuestHost.Proofs.Host.CopyingOut
import GuestHost.Proofs.Json.NumberText
import GuestHost.Proofs.Json.IntegerLiteral
import GuestHost.Proofs.Json.SingleDocument
import GuestHost.Proofs.Json.Unambiguous
import GuestHost.Proofs.Store.ColumnNames
import GuestHost.Proofs.Store.Repeating
import GuestHost.Proofs.Store.TokenText
import GuestHost.Proofs.Store.PlainTypes
import GuestHost.Proofs.Schema.Refitting
import GuestHost.Proofs.Serve.Requests
import GuestHost.Proofs.Schema.Describing
import GuestHost.Proofs.Schema.ReadingBack
import GuestHost.Proofs.Value.Range
import GuestHost.Proofs.Schema.Missing
import GuestHost.Proofs.Store.Accepting
import GuestHost.Proofs.Store.QuotedNames
