import Narrative.Branch
import Narrative.Bundle
import Narrative.CommandLine
import Narrative.Config
import Narrative.Conversation
import Narrative.Dialog.Graph
import Narrative.Dialog.Walk
import Narrative.Digest
import Narrative.Disk
import Narrative.Duration
import Narrative.Flags
import Narrative.Format.Basic
import Narrative.Format.Document
import Narrative.Format.Record
import Narrative.Format.Union
import Narrative.Game
import Narrative.Game.Basic
import Narrative.Game.Reaction
import Narrative.Graph
import Narrative.Graph.Reachable
import Narrative.Host
import Narrative.Host.Recorder
import Narrative.Interpreter
import Narrative.Json.Basic
import Narrative.Json.Magnitude
import Narrative.Json.Reader
import Narrative.Json.Writer
import Narrative.Kind
import Narrative.Lint
import Narrative.Lint.Flow
import Narrative.Lint.Issue
import Narrative.Lint.Quality
import Narrative.Lint.References
import Narrative.Lint.Settings
import Narrative.Lint.Wiring
import Narrative.Log
import Narrative.Machine
import Narrative.Machine.Notice
import Narrative.Machine.SubMachine
import Narrative.Main
import Narrative.Offer.Graph
import Narrative.Player
import Narrative.Proofs.Branch
import Narrative.Proofs.Branch.Choice
import Narrative.Proofs.Bundle.Keeping
import Narrative.Proofs.Bundle.RoundTrip
import Narrative.Proofs.Conversation.Ambience
import Narrative.Proofs.Conversation.Effects
import Narrative.Proofs.Conversation.Highlight
import Narrative.Proofs.Conversation.Integrity
import Narrative.Proofs.Conversation.Ledger
import Narrative.Proofs.Conversation.Pace
import Narrative.Proofs.Conversation.Performance
import Narrative.Proofs.Conversation.Portraits
import Narrative.Proofs.Conversation.Press
import Narrative.Proofs.Conversation.Resolved
import Narrative.Proofs.Conversation.Route
import Narrative.Proofs.Conversation.Tale
import Narrative.Proofs.Conversation.Timing
import Narrative.Proofs.Conversation.Unstalled
import Narrative.Proofs.Dialog.Arrival
import Narrative.Proofs.Dialog.Passage
import Narrative.Proofs.Dialog.Portraits
import Narrative.Proofs.Dialog.Reveal
import Narrative.Proofs.Dialog.Rounds
import Narrative.Proofs.Dialog.Route
import Narrative.Proofs.Dialog.Staging
import Narrative.Proofs.Digest
import Narrative.Proofs.Disk
import Narrative.Proofs.Flags
import Narrative.Proofs.Flags.Agreement
import Narrative.Proofs.Format.Keeping
import Narrative.Proofs.Format.Record
import Narrative.Proofs.Format.Union
import Narrative.Proofs.Game.Ambience
import Narrative.Proofs.Game.Attendance
import Narrative.Proofs.Game.Deed
import Narrative.Proofs.Game.Delivery
import Narrative.Proofs.Game.Driving
import Narrative.Proofs.Game.Handover
import Narrative.Proofs.Game.Happening
import Narrative.Proofs.Game.Honours
import Narrative.Proofs.Game.Loading
import Narrative.Proofs.Game.Menu
import Narrative.Proofs.Game.Operation
import Narrative.Proofs.Game.Outcome
import Narrative.Proofs.Game.Ownership
import Narrative.Proofs.Game.Pace
import Narrative.Proofs.Game.Plays
import Narrative.Proofs.Game.Quiet
import Narrative.Proofs.Game.Readiness
import Narrative.Proofs.Game.Reset
import Narrative.Proofs.Game.Resolved
import Narrative.Proofs.Game.Settling
import Narrative.Proofs.Game.Stepping
import Narrative.Proofs.Game.Story
import Narrative.Proofs.Game.SubStates
import Narrative.Proofs.Game.Talking
import Narrative.Proofs.Game.Teardown
import Narrative.Proofs.Game.Telling
import Narrative.Proofs.Game.Trace
import Narrative.Proofs.Graph.Cycle
import Narrative.Proofs.Graph.Rounds
import Narrative.Proofs.Graph.Search
import Narrative.Proofs.Graph.Wiring
import Narrative.Proofs.History
import Narrative.Proofs.Host.Record
import Narrative.Proofs.Interpreter.Agreement
import Narrative.Proofs.Interpreter.Integrity
import Narrative.Proofs.Json.Parsing
import Narrative.Proofs.Json.Plain
import Narrative.Proofs.Json.Spelling
import Narrative.Proofs.Json.Token
import Narrative.Proofs.Lint.Fallback
import Narrative.Proofs.Lint.Reachability
import Narrative.Proofs.Lint.References
import Narrative.Proofs.Lint.Toggles
import Narrative.Proofs.Lint.Walkable
import Narrative.Proofs.Log
import Narrative.Proofs.Machine.Course
import Narrative.Proofs.Machine.Deferral
import Narrative.Proofs.Machine.Integrity
import Narrative.Proofs.Machine.Makeup
import Narrative.Proofs.Machine.Requests
import Narrative.Proofs.Machine.Resolved
import Narrative.Proofs.Machine.Standing
import Narrative.Proofs.Machine.Stride
import Narrative.Proofs.Machine.Telling
import Narrative.Proofs.Machine.Transition
import Narrative.Proofs.Machine.View
import Narrative.Proofs.Repertoire.Asking
import Narrative.Proofs.Repertoire.Independence
import Narrative.Proofs.Repertoire.Provenance
import Narrative.Proofs.Repertoire.Resolved
import Narrative.Proofs.Repertoire.Walks
import Narrative.Proofs.Repository.Agreement
import Narrative.Proofs.Repository.Mirror
import Narrative.Proofs.SortedMap
import Narrative.Proofs.Storyline.Journey
import Narrative.Proofs.Storyline.Resolved
import Narrative.Proofs.Storyline.Rounds
import Narrative.Proofs.Storyline.Unstalled
import Narrative.Proofs.Unresolved
import Narrative.Repertoire
import Narrative.Repository
import Narrative.Repository.Folder
import Narrative.Repository.Memory
import Narrative.Scenario.Graph
import Narrative.Scene
import Narrative.Scene.Loader
import Narrative.SortedMap
import Narrative.Storyline
import Narrative.Terminal
import Narrative.Text.Blank
import Narrative.Text.Quoted
import Narrative.Text.Shapeless
import Narrative.Tick
