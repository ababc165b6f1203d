import RobotGrid.Board
import RobotGrid.Cell
import RobotGrid.Cell.Set
import RobotGrid.Cell.Displacement
import RobotGrid.Complaint
import RobotGrid.Dashboard
import RobotGrid.Fault
import RobotGrid.Heading
import RobotGrid.Heading.Turn
import RobotGrid.Instruction
import RobotGrid.Json
import RobotGrid.Log
import RobotGrid.Number.Binary64
import RobotGrid.Number.Nearest
import RobotGrid.Number.RealText
import RobotGrid.Number.Shortest
import RobotGrid.Reading
import RobotGrid.Robot
import RobotGrid.Scalar
import RobotGrid.Service
import RobotGrid.Session
import RobotGrid.Session.Trace
import RobotGrid.Settings
import RobotGrid.Shelf
import RobotGrid.Simulation
import RobotGrid.Text.Blank
import RobotGrid.Text.CaseRun
import RobotGrid.Text.CaseTable
import RobotGrid.Text.HiddenTable
import RobotGrid.Text.Lines
import RobotGrid.Text.Lower
import RobotGrid.Text.LowerTable
import RobotGrid.Text.Numeral
import RobotGrid.Text.Pieces
import RobotGrid.Text.Quoted
import RobotGrid.Text.Upper
import RobotGrid.Validation
import RobotGrid.Validation.IntegerText
import RobotGrid.Workbench
import RobotGrid.Proofs.Layout
import RobotGrid.Proofs.Coordinate
import RobotGrid.Proofs.Grammar
import RobotGrid.Proofs.Writing
import RobotGrid.Proofs.Furnishing
import RobotGrid.Proofs.Stock
import RobotGrid.Proofs.Footing
import RobotGrid.Proofs.Isolation
import RobotGrid.Proofs.Evaluation
import RobotGrid.Proofs.Conduct
import RobotGrid.Proofs.SetupPhase
import RobotGrid.Proofs.Answers
import RobotGrid.Proofs.Pruning
import RobotGrid.Proofs.Verdict
import RobotGrid.Proofs.Rendering
import RobotGrid.Proofs.Recall
import RobotGrid.Proofs.Companion
import RobotGrid.Proofs.Declaration
import RobotGrid.Proofs.Summary
import RobotGrid.Proofs.Symmetry
import RobotGrid.Proofs.Received
import RobotGrid.Proofs.Posting
import RobotGrid.Proofs.Status
import RobotGrid.Proofs.Endpoints
import RobotGrid.Proofs.Replay
import RobotGrid.Proofs.Rounding
import RobotGrid.Proofs.Picture
import RobotGrid.Proofs.Undrawn
import RobotGrid.Proofs.Logbook
import RobotGrid.Proofs.Reasons
import RobotGrid.Proofs.Spelling
import RobotGrid.Proofs.Canonical
import RobotGrid.Proofs.Drive
import RobotGrid.Proofs.Homeward
import RobotGrid.Proofs.Straight
import RobotGrid.Proofs.Room
import RobotGrid.Proofs.Takeover
import RobotGrid.Proofs.Pointer
import RobotGrid.Proofs.LastClick
import RobotGrid.Proofs.TypedText
import RobotGrid.Proofs.StatusBox
import RobotGrid.Proofs.Inventory
import RobotGrid.Proofs.Action
