import RobotGrid.Cell
import RobotGrid.Complaint
import RobotGrid.Scalar
import RobotGrid.Text.Quoted
/-!
# Faults

Everything that the engine refuses, as a cause with its data. The kind, the category and the text
that a caller is shown are those of the complaint that the fault makes. A fault of one field is the
cause of a fault of the whole command; a refused cell is the reason of a refused placement. A fault
has a text, and so there is none about an integer with too many digits to be written: where one
would be raised, the failure is that the integer is oversized.
-/

set_option autoImplicit false

namespace RobotGrid

inductive FieldFault where
  | notInteger (text : String)
  | outOfRange (text : String)
  | unknownHeading (text : String)
  deriving DecidableEq

def FieldFault.complaint : FieldFault → Complaint
  | .notInteger text => .general .parse s!"Expected an integer, got {Text.quoted text}."
  | .outOfRange text => .general .parse s!"Coordinate {text} is out of range."
  | .unknownHeading text => .unknownHeading text

inductive Fault where
  | invalidDimensions (width height : Scalar)
      (written : width.isWritten = true ∧ height.isWritten = true)
  | obstacleOutOfBounds (cell : Cell) (written : cell.Written)
  | malformedCommand (line : String)
  | unrecognizedCommand (token : String)
  | incompleteArguments (command : String)
  | invalidArguments (command : String) (cause : FieldFault)
  | field (fault : FieldFault)
  | outOfBounds (cell : Cell) (written : cell.Written)
  | blocked (cell : Cell) (written : cell.Written)
  | placementRejected (reason : Fault)
  | notPlaced (command : String)
  | unsupportedInContext (command : String)
  deriving DecidableEq

namespace Fault

def complaint : Fault → Complaint
  | .invalidDimensions width height written =>
    .invalidDimensions (width.shown written.1) (height.shown written.2)
  | .obstacleOutOfBounds cell written => cell.framed written .obstacleOutOfBounds
  | .malformedCommand _ => .malformedCommand
  | .unrecognizedCommand token => .unrecognizedCommand token
  | .incompleteArguments command => .incompleteArguments command
  | .invalidArguments command _ => .invalidArguments command
  | .field fault => fault.complaint
  | .outOfBounds cell written => cell.framed written .outOfBounds
  | .blocked cell written => cell.framed written .blocked
  | .placementRejected reason => .placementRejected reason.complaint.message
  | .notPlaced command => .notPlaced command
  | .unsupportedInContext command => .unsupportedInContext command

def kind (f : Fault) : String := f.complaint.kind

def category (f : Fault) : Category := f.complaint.category

def message (f : Fault) : String := f.complaint.message

def belongs (f : Fault) (c : Category) : Bool := f.complaint.belongs c

def cause : Fault → Option Fault
  | .invalidArguments _ cause => some (.field cause)
  | .placementRejected reason => some reason
  | _ => none

end Fault

/-- Why something ends without a result: a fault, or an integer with too many digits. -/
inductive Failure where
  | fault (f : Fault)
  | oversized (o : Oversized)
  deriving DecidableEq

namespace Failure

def message : Failure → String
  | .fault f => f.message
  | .oversized o => o.message

def kind : Failure → String
  | .fault f => f.kind
  | .oversized _ => "ValueError"

/-- Raises a fault, if its text can be written. -/
def raise (Writable : Prop) [Decidable Writable] (fault : Writable → Fault) : Failure :=
  if h : Writable then .fault (fault h) else .oversized .written

def invalidDimensions (width height : Scalar) : Failure :=
  raise (width.isWritten = true ∧ height.isWritten = true) (Fault.invalidDimensions width height)

def obstacleOutOfBounds (c : Cell) : Failure := raise c.Written (Fault.obstacleOutOfBounds c)

def outOfBounds (c : Cell) : Failure := raise c.Written (Fault.outOfBounds c)

def blocked (c : Cell) : Failure := raise c.Written (Fault.blocked c)

/-- Passes a failure on; a fault becomes the cause of another. -/
def chain (fault : Fault → Fault) : Failure → Failure
  | .fault f => .fault (fault f)
  | .oversized o => .oversized o

section
variable {Writable : Prop} [Decidable Writable] {fault : Writable → Fault}

theorem raise_of_writable (h : Writable) : raise Writable fault = .fault (fault h) := dif_pos h

theorem raise_of_not_writable (h : ¬Writable) : raise Writable fault = .oversized .written :=
  dif_neg h

theorem raise_eq_fault {f : Fault} (e : raise Writable fault = .fault f) :
    ∃ h, f = fault h := by
  by_cases h : Writable
  · rw [raise_of_writable h] at e
    exact ⟨h, (Failure.fault.inj e).symm⟩
  · rw [raise_of_not_writable h] at e
    cases e

end

end Failure
end RobotGrid
