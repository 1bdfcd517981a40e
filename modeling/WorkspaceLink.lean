import WorkspaceLink.Bench
import WorkspaceLink.Channel
import WorkspaceLink.Connections
import WorkspaceLink.Decimal.Shortest
import WorkspaceLink.Decode
import WorkspaceLink.Duration
import WorkspaceLink.Event.Basic
import WorkspaceLink.Event.Identity
import WorkspaceLink.Event.Line
import WorkspaceLink.Fleet
import WorkspaceLink.Id
import WorkspaceLink.Json.Basic
import WorkspaceLink.Json.Printer
import WorkspaceLink.Json.Reader
import WorkspaceLink.Link.Basic
import WorkspaceLink.Link.Calls
import WorkspaceLink.Link.Poll
import WorkspaceLink.Link.Task
import WorkspaceLink.Link.Upkeep
import WorkspaceLink.Log
import WorkspaceLink.Main
import WorkspaceLink.Rpc.Client
import WorkspaceLink.Rpc.Deferred
import WorkspaceLink.Rpc.ErrorPayload
import WorkspaceLink.Rpc.HandlerProgram
import WorkspaceLink.Rpc.Message
import WorkspaceLink.Rpc.Registry
import WorkspaceLink.Session.Audience
import WorkspaceLink.Session.Core
import WorkspaceLink.Session.Liveness
import WorkspaceLink.Session.Phase
import WorkspaceLink.Session.StatusWaiter
import WorkspaceLink.Session.Table
import WorkspaceLink.Settings.Basic
import WorkspaceLink.Settings.Environment
import WorkspaceLink.Settings.Load
import WorkspaceLink.Settings.Merge
import WorkspaceLink.Status
import WorkspaceLink.Text.Blank
import WorkspaceLink.Text.Invisible
import WorkspaceLink.Text.Percent
import WorkspaceLink.Text.Quoted
import WorkspaceLink.Transport.Address
import WorkspaceLink.Transport.Event
import WorkspaceLink.Transport.Scripted
import WorkspaceLink.Transport.Socket
import WorkspaceLink.Url
import WorkspaceLink.Watch.Arguments
import WorkspaceLink.Watch.Command
import WorkspaceLink.Watch.Failure
import WorkspaceLink.Watch.Rehearsal
import WorkspaceLink.Proofs.Rpc.Reception
import WorkspaceLink.Proofs.Rpc.Fate
import WorkspaceLink.Proofs.Transport.Installed
import WorkspaceLink.Proofs.Link.Turns
import WorkspaceLink.Proofs.Session.Reaction
import WorkspaceLink.Proofs.Session.Resources
import WorkspaceLink.Proofs.Session.Attempts
import WorkspaceLink.Proofs.Session.Generations
import WorkspaceLink.Proofs.Session.Publication
import WorkspaceLink.Proofs.Grouped
import WorkspaceLink.Proofs.Link.Beats
import WorkspaceLink.Proofs.Link.Listing
import WorkspaceLink.Proofs.Link.Asking
import WorkspaceLink.Proofs.Link.Overtaking
import WorkspaceLink.Proofs.Link.Provenance
import WorkspaceLink.Proofs.Link.BeatFrame
import WorkspaceLink.Proofs.Link.ConnectWakeups
import WorkspaceLink.Proofs.Link.Presenting
import WorkspaceLink.Proofs.Rpc.Notices
import WorkspaceLink.Proofs.Link.Hearing
import WorkspaceLink.Proofs.Link.Scopes
import WorkspaceLink.Proofs.Link.Tracking
import WorkspaceLink.Proofs.Link.Replaying
import WorkspaceLink.Proofs.Link.Awaiting
import WorkspaceLink.Proofs.Watch.Goal
import WorkspaceLink.Proofs.Rpc.Batches
import WorkspaceLink.Proofs.Json.Canonical
import WorkspaceLink.Proofs.Settings.Merging
import WorkspaceLink.Proofs.Settings.Layers
import WorkspaceLink.Proofs.Link.HandlerPlaces
import WorkspaceLink.Proofs.Link.Unsubscribing
import WorkspaceLink.Proofs.Link.Mirroring
import WorkspaceLink.Proofs.Link.Lockstep
import WorkspaceLink.Proofs.Link.Recalling
import WorkspaceLink.Proofs.Link.RegisteredHandlers
import WorkspaceLink.Proofs.Link.RegisteringCalls
import WorkspaceLink.Proofs.Link.Traceless
import WorkspaceLink.Proofs.Rpc.Registrations
import WorkspaceLink.Proofs.Rpc.Snapshots
import WorkspaceLink.Proofs.Link.Waits
import WorkspaceLink.Proofs.Session.ProbeTimes
import WorkspaceLink.Proofs.Text.Percent
import WorkspaceLink.Proofs.Url.Parameters
import WorkspaceLink.Proofs.Link.Dialling
import WorkspaceLink.Proofs.Rpc.Bodies
import WorkspaceLink.Proofs.Event.Rewriting
