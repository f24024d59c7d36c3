import TankArena.Main
import TankArena.Host.Client
import TankArena.Host.Server
import TankArena.Match.Fields
import TankArena.Proofs.Machine.Transition
import TankArena.Proofs.Machine.Evaluation
import TankArena.Proofs.Machine.Linkage
import TankArena.Proofs.Text.Decimal
import TankArena.Proofs.Text.Search
import TankArena.Proofs.Script.Shape
import TankArena.Proofs.Script.Conditional
import TankArena.Proofs.Script.Printing
import TankArena.Proofs.Script.Misspelling
import TankArena.Proofs.Script.Room
import TankArena.Proofs.Script.Failure
import TankArena.Proofs.Script.RoundTrip
import TankArena.Proofs.Arena.Board
import TankArena.Proofs.Machine.Safety
import TankArena.Proofs.Playground.Atomicity
import TankArena.Proofs.Match.Play
import TankArena.Proofs.Match.Waiting
import TankArena.Proofs.Match.Origin
import TankArena.Proofs.Match.Bounds
import TankArena.Proofs.Match.Outcome
import TankArena.Proofs.Match.Iteration
import TankArena.Proofs.Arena.Pursuit
import TankArena.Proofs.Match.Standstill
import TankArena.Proofs.Match.Trace
import TankArena.Proofs.Match.Finish
import TankArena.Proofs.Script.Joining
import TankArena.Proofs.Script.Declarations
import TankArena.Proofs.Playground.Refinement
import TankArena.Proofs.Match.Ranking
import TankArena.Proofs.Script.Layout
import TankArena.Proofs.Script.Spacing
import TankArena.Proofs.Script.Surface
import TankArena.Proofs.Machine.Driving
import TankArena.Proofs.Script.CallGraph
import TankArena.Proofs.Machine.Nesting
import TankArena.Proofs.Machine.Duration
import TankArena.Proofs.Script.Segments
import TankArena.Proofs.Arena.Hits
import TankArena.Proofs.Arena.Approach
import TankArena.Proofs.Match.Damage
import TankArena.Proofs.Chart.Measure
import TankArena.Proofs.Chart.Drawing
import TankArena.Proofs.Chart.Ending
import TankArena.Proofs.Script.Expression
import TankArena.Proofs.Settings.Precedence
import TankArena.Proofs.Console.Gauntlet
import TankArena.Proofs.Disk
import TankArena.Proofs.Chart.Frames
import TankArena.Proofs.Chart.Replay
import TankArena.Proofs.Console.HealthPath
import TankArena.Proofs.Script.Recursion
import TankArena.Proofs.Script.FirstCut
