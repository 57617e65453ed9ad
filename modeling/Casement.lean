import Casement.Main
import Casement.Probe.Run
import Casement.Script.Session
import Casement.Proofs.Registry.Ownership
import Casement.Proofs.Registry.Runs
import Casement.Proofs.Registry.Records
import Casement.Proofs.Registry.Lifetimes
import Casement.Proofs.Registry.Handles
import Casement.Proofs.World.Basic
import Casement.Proofs.World.Evolution
import Casement.Proofs.World.Outline
import Casement.Proofs.World.Places
import Casement.Proofs.World.Indices
import Casement.Proofs.World.Frames
import Casement.Proofs.World.FrameProtocol
import Casement.Proofs.World.Watchdog
import Casement.Proofs.Window.Events
import Casement.Proofs.World.Solo
import Casement.Proofs.World.Departures
import Casement.Proofs.World.Arrivals
import Casement.Proofs.World.History
import Casement.Proofs.World.FrameInput
import Casement.Proofs.World.Passes
import Casement.Proofs.World.Ticks
import Casement.Proofs.World.Seats
import Casement.Proofs.Window.Effects
import Casement.Proofs.World.Lots
import Casement.Proofs.World.Independence
import Casement.Proofs.World.Atlas
import Casement.Proofs.World.Sharing
import Casement.Proofs.World.Natives
import Casement.Proofs.World.Access
import Casement.Proofs.World.Hosts
import Casement.Proofs.World.TypedText
import Casement.Proofs.World.Views
import Casement.Proofs.World.Accelerators
import Casement.Proofs.World.Openings
import Casement.Proofs.World.Endings
import Casement.Proofs.World.Grip
import Casement.Proofs.World.Capture
import Casement.Proofs.World.Ancestors
import Casement.Proofs.World.Removal
import Casement.Proofs.Number.Magnitude
import Casement.Proofs.World.Pointer
import Casement.Proofs.Color
import Casement.Proofs.World.Errors
import Casement.Proofs.Config.Files
import Casement.Proofs.Registry.Kinds
import Casement.Proofs.Geometry
import Casement.Proofs.Draw
import Casement.Proofs.Demo.Room
