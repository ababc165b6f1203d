/-!
# Complaints

What a refusal says: its kind, its family and its wording, around the texts of the values that it is
about. So the wording is said once, for the faults of the engine and for whatever a caller complains
about with the same kinds. A bare family has no wording of its own.
-/

set_option autoImplicit false

namespace RobotGrid

/-- The families of complaints; `engine` is the family of them all. -/
inductive Category where
  | engine
  | config
  | parse
  | placement
  | sequencing
  deriving DecidableEq

namespace Category

def name : Category → String
  | .engine => "engine"
  | .config => "config"
  | .parse => "parse"
  | .placement => "placement"
  | .sequencing => "sequencing"

def generalKind : Category → String
  | .engine => "RulesEngineError"
  | .config => "ConfigError"
  | .parse => "ParseError"
  | .placement => "PlacementError"
  | .sequencing => "SequencingError"

end Category

/-- A complaint with the texts of the values that it is about. -/
inductive Complaint where
  | general (category : Category) (text : String)
  | invalidDimensions (width height : String)
  | obstacleOutOfBounds (x y : String)
  | malformedCommand
  | unrecognizedCommand (token : String)
  | incompleteArguments (command : String)
  | invalidArguments (command : String)
  | unknownHeading (text : String)
  | outOfBounds (x y : String)
  | blocked (x y : String)
  | placementRejected (reason : String)
  | notPlaced (command : String)
  | unsupportedInContext (command : String)

namespace Complaint

def kind : Complaint → String
  | .general category _ => category.generalKind
  | .invalidDimensions _ _ => "InvalidDimensions"
  | .obstacleOutOfBounds _ _ => "ObstacleOutOfBounds"
  | .malformedCommand => "MalformedCommand"
  | .unrecognizedCommand _ => "UnrecognizedCommand"
  | .incompleteArguments _ => "IncompleteArguments"
  | .invalidArguments _ => "InvalidArguments"
  | .unknownHeading _ => "UnknownOrientation"
  | .outOfBounds _ _ => "OutOfBounds"
  | .blocked _ _ => "Blocked"
  | .placementRejected _ => "PlacementRejected"
  | .notPlaced _ => "NotPlaced"
  | .unsupportedInContext _ => "UnsupportedInContext"

def category : Complaint → Category
  | .general category _ => category
  | .invalidDimensions _ _ => .config
  | .obstacleOutOfBounds _ _ => .config
  | .malformedCommand => .parse
  | .unrecognizedCommand _ => .parse
  | .incompleteArguments _ => .parse
  | .invalidArguments _ => .parse
  | .unknownHeading _ => .parse
  | .outOfBounds _ _ => .placement
  | .blocked _ _ => .placement
  | .placementRejected _ => .placement
  | .notPlaced _ => .sequencing
  | .unsupportedInContext _ => .sequencing

def message : Complaint → String
  | .general _ text => text
  | .invalidDimensions width height =>
    s!"Tabletop dimensions need to be positive integers, got {width}x{height}."
  | .obstacleOutOfBounds x y => s!"Position ({x}, {y}) is out of bounds."
  | .malformedCommand => "Command was empty or malformed."
  | .unrecognizedCommand token => s!"Command {token} was not recognized."
  | .incompleteArguments command => s!"Arguments for command {command} were incomplete."
  | .invalidArguments command => s!"Arguments for command {command} were invalid."
  | .unknownHeading text => s!"Unexpected orientation: {text}"
  | .outOfBounds x y => s!"Position ({x}, {y}) is out of bounds."
  | .blocked x y => s!"Position ({x}, {y}) is blocked."
  | .placementRejected reason => s!"Robot cannot be placed there: {reason}"
  | .notPlaced command => s!"Robot must be placed before {command}."
  | .unsupportedInContext command =>
    s!"Command {command} cannot be handled by the robot."

/-- An obstacle off the board is a complaint about the set-up and also one about a cell out of
bounds; every other complaint belongs to its category and to the engine. -/
def belongs (f : Complaint) (c : Category) : Bool :=
  c == .engine || c == f.category ||
    match f with
    | .obstacleOutOfBounds _ _ => c == .placement
    | _ => false

def isOutOfBounds : Complaint → Bool
  | .outOfBounds _ _ => true
  | .obstacleOutOfBounds _ _ => true
  | _ => false

end Complaint
end RobotGrid
