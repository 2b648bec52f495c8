import BoundedScene.Agenda
import BoundedScene.Event.Basic
import BoundedScene.Event.Bus
import BoundedScene.Event.Exchange
import BoundedScene.Event.Listing
import BoundedScene.Event.LogLine
import BoundedScene.Panic
import BoundedScene.Phase
import BoundedScene.Scene.Call
import BoundedScene.Scene.Calling
import BoundedScene.Scene.Cleanup
import BoundedScene.Scene.Command
import BoundedScene.Scene.Journal
import BoundedScene.Scene.Lineup
import BoundedScene.Scene.Mailbox
import BoundedScene.Scene.Observation
import BoundedScene.Scene.PropTable
import BoundedScene.Scene.Run
import BoundedScene.Scene.Serving
import BoundedScene.Scene.Session
import BoundedScene.Scene.Subscriptions
import BoundedScene.SceneError
import BoundedScene.Settings
import BoundedScene.Subscriber.Delivery
import BoundedScene.Subscriber.Fanout
import BoundedScene.Subscriber.Lane
import BoundedScene.Subscriber.Profile
import BoundedScene.Subscriber.Tracker
import BoundedScene.Supervision.Control
import BoundedScene.Supervision.LoopScript
import BoundedScene.Supervision.Session
import BoundedScene.Text.Combining
import BoundedScene.Text.Quoted
import BoundedScene.Text.Unprintable
import BoundedScene.Time.Clock
import BoundedScene.Time.Span
import BoundedScene.Proofs.Delivery
import BoundedScene.Proofs.Lanes
import BoundedScene.Proofs.Carriage
import BoundedScene.Proofs.Accounting
import BoundedScene.Proofs.Growth.Basic
import BoundedScene.Proofs.Growth.Serving
import BoundedScene.Proofs.Growth.Calling
import BoundedScene.Proofs.Moves
import BoundedScene.Proofs.Ending
import BoundedScene.Proofs.Cleanups
import BoundedScene.Proofs.Verdict
import BoundedScene.Proofs.Story
import BoundedScene.Proofs.Chronicle
import BoundedScene.Proofs.Waiters
import BoundedScene.Proofs.Registry
import BoundedScene.Proofs.Reference
import BoundedScene.Proofs.Refinement
import BoundedScene.Proofs.Account
import BoundedScene.Proofs.Places
import BoundedScene.Proofs.Linearizability
import BoundedScene.Proofs.Attention
import BoundedScene.Proofs.Classification
import BoundedScene.Proofs.Absorption
import BoundedScene.Proofs.Loss
import BoundedScene.Proofs.EventStream
import BoundedScene.Proofs.SceneEvents
import BoundedScene.Proofs.AbortRequests
import BoundedScene.Proofs.Phases
import BoundedScene.Proofs.Views
import BoundedScene.Proofs.Legibility
import BoundedScene.Proofs.LogLines
import BoundedScene.Proofs.LineContents
import BoundedScene.Proofs.SpanText
import BoundedScene.Proofs.Messages
import BoundedScene.Proofs.Waiting
import BoundedScene.Proofs.Signals
import BoundedScene.Proofs.Deadlines
import BoundedScene.Proofs.Handles
import BoundedScene.Proofs.Punctual
import BoundedScene.Proofs.Timekeeping
import BoundedScene.Proofs.Audience
import BoundedScene.Proofs.Tracking
import BoundedScene.Proofs.ByteOrder
import BoundedScene.Proofs.TrackerFamily
import BoundedScene.Proofs.Exchange.Reading
import BoundedScene.Proofs.Exchange.Ring
import BoundedScene.Proofs.Exchange.Receipts
import BoundedScene.Proofs.Supervision.Result
import BoundedScene.Proofs.Supervision.Observers
import BoundedScene.Proofs.Quiescence
import BoundedScene.Proofs.Bare
import BoundedScene.Proofs.Noninterference
import BoundedScene.Proofs.TurnsAhead
import BoundedScene.Proofs.Settling
import BoundedScene.Proofs.Isolation.Neighbours
import BoundedScene.Proofs.Overflow.Publishing
import BoundedScene.Proofs.Overflow.Incidents
import BoundedScene.Proofs.Overflow.Exactness
import BoundedScene.Proofs.Overflow.Draining
import BoundedScene.Proofs.Limits.Outcome
import BoundedScene.Proofs.Feeding
import BoundedScene.Proofs.WholeLife
import BoundedScene.Proofs.Receivers
import BoundedScene.Proofs.LastHandle
import BoundedScene.Proofs.Capacity.Docility
import BoundedScene.Proofs.Capacity.Kindred
import BoundedScene.Proofs.Capacity.Lockstep
import BoundedScene.Proofs.Capacity.Prospects
import BoundedScene.Proofs.Capacity.Serving
import BoundedScene.Proofs.Capacity.Line
import BoundedScene.Proofs.Capacity.Waking
import BoundedScene.Proofs.Capacity.Going
import BoundedScene.Proofs.Capacity.Journey
import BoundedScene.Proofs.Capacity.Arrival
import BoundedScene.Proofs.Capacity.Assembly
import BoundedScene.Proofs.Capacity.Repose
import BoundedScene.Proofs.Capacity.Invisibility
