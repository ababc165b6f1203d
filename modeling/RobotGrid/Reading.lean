import RobotGrid.Fault
import RobotGrid.Instruction
import RobotGrid.Text.Numeral
/-!
# Reading command lines

A line is cut into words. The first word is the keyword; the others are joined without spaces and
cut at commas, so that spacing never matters among the arguments. Arguments beyond the required
ones are ignored. The fields are read from the left, and the first that does not read decides the
fault. A numeral with too many digits is no fault but ends the reading.
-/

set_option autoImplicit false

namespace RobotGrid

inductive FieldFailure where
  | fault (f : FieldFault)
  | oversized (o : Oversized)
  deriving DecidableEq

def FieldFailure.within (k : Keyword) : FieldFailure → Failure
  | .fault f => .fault (.invalidArguments k.name f)
  | .oversized o => .oversized o

def coordinateMin : Int := -0x80000000

def coordinateMax : Int := 0x7FFFFFFF

/-- Reads a coordinate; the number of digits is looked at before the value. -/
def readCoordinate (text : List Char) : Except FieldFailure Int :=
  match Text.Numeral.ofChars? text with
  | none => .error (.fault (.notInteger (String.ofList text)))
  | some n =>
    if Text.Numeral.digitLimit < n.digits.length then .error (.oversized (.read n.digits.length))
    else if coordinateMin ≤ n.value ∧ n.value ≤ coordinateMax then .ok n.value
    else .error (.fault (.outOfRange (String.ofList text)))

def readCell (x y : List Char) : Except FieldFailure Cell :=
  (readCoordinate x).bind fun x => (readCoordinate y).map fun y => ⟨x, y⟩

def readHeading (text : List Char) : Except FieldFault Heading :=
  match Heading.ofChars? text with
  | some h => .ok h
  | none => .error (.unknownHeading (String.ofList text))

def readPlacement (x y heading : List Char) : Except FieldFailure Instruction :=
  (readCell x y).bind fun cell =>
    ((readHeading heading).mapError .fault).map fun heading => .place cell heading

/-- The fields of the arguments, whose spacing does not count. -/
def fields (args : List (List Char)) : List (List Char) := Text.pieces (· == ',') args.flatten

namespace Instruction

def ofFields : Keyword → List (List Char) → Except Failure Instruction
  | .place, x :: y :: heading :: _ =>
    (readPlacement x y heading).mapError (FieldFailure.within .place)
  | .obstacle, x :: y :: _ =>
    ((readCell x y).map .obstacle).mapError (FieldFailure.within .obstacle)
  | .move, _ => .ok .move
  | .left, _ => .ok .left
  | .right, _ => .ok .right
  | .report, _ => .ok .report
  | k, _ => .error (.fault (.incompleteArguments k.name))

def read (line : String) : Except Failure Instruction :=
  match Text.words line.toList with
  | [] => .error (.fault (.malformedCommand line))
  | word :: args =>
    match Keyword.ofChars? word with
    | none => .error (.fault (.unrecognizedCommand (String.ofList word)))
    | some k => ofFields k (fields args)

end Instruction

def Heading.read (text : String) : Except Fault Heading :=
  (readHeading text.toList).mapError .field

end RobotGrid
