import RobotGrid.Settings
import RobotGrid.Simulation
/-!
# The service

Requests and responses. The service can be asked whether it runs, to simulate a session and to read
one command; it also has pages that describe it, whose text is not told here. The path is looked at
first, then the method, then the body. A body never holds an integer with too many digits, which
would not have been read. A path with strokes at its end leads elsewhere, to the path without them.
A fault of the set-up is the caller's; a numeral with too many digits is an error of the service. A
request for the head of a response gets an empty one. Main statement: a path that leads elsewhere
leads to a path of the service.
-/

set_option autoImplicit false

namespace RobotGrid

/-- A JSON value that has been read, so that each integer in it can be written. -/
abbrev Body := { j : Json // j.isWritten = true }

def Body.of? (j : Json) : Option Body := if h : j.isWritten = true then some ⟨j, h⟩ else none

structure Request where
  method : String
  path : String
  body : Option Body

inductive Content where
  | value (j : Json)
  | issues (l : List Issue)
  | plain (s : String)
  | elsewhere (path : String)

structure Response where
  status : Nat
  content : Content

namespace Service

inductive Route where
  | status
  | simulate
  | parse
  | page
  deriving DecidableEq

def Route.paths : Route → List String
  | .status => ["/status"]
  | .simulate => ["/simulate"]
  | .parse => ["/parse"]
  | .page => ["/openapi.json", "/docs", "/docs/oauth2-redirect", "/redoc"]

def Route.methods : Route → List String
  | .status => ["GET"]
  | .simulate => ["POST"]
  | .parse => ["POST"]
  | .page => ["GET", "HEAD"]

def Route.all : List Route := [.status, .simulate, .parse, .page]

/-- The route at exactly a path, of which a line feed at the end does not count. -/
def Route.at? (path : List Char) : Option Route :=
  let shown := if path.getLast? = some '\n' then path.dropLast else path
  Route.all.find? fun r => r.paths.any fun p => p.toList == shown

/-- The path without the strokes at its end, if there is a route at that path alone. -/
def Route.elsewhere? (path : List Char) : Option (List Char) :=
  let shorter := (path.reverse.dropWhile (· == '/')).reverse
  if (Route.at? path).isNone && (Route.at? shorter).isSome then some shorter else none

def explained (status : Nat) (detail : String) : Response :=
  ⟨status, .value (.object [("detail", .text detail)])⟩

structure SimulationInput where
  width : Int
  height : Int
  obstacles : List Cell
  commands : List String

def obstacleInput : List Place → Json → Checked Cell :=
  Validation.object fun here j =>
    ((Validation.member Validation.integer none here j "x").both
      (Validation.member Validation.integer none here j "y")).map fun (x, y) => ⟨x, y⟩

/-- The input of a simulation; the settings give the sides that are not told. -/
def simulationInput (settings : LegibleSettings) : List Place → Json → Checked SimulationInput :=
  Validation.object fun here j =>
    let width :=
      Validation.member Validation.integer (some settings.tabletopWidth) here j "width"
    let height :=
      Validation.member Validation.integer (some settings.tabletopHeight) here j "height"
    let obstacles := Validation.member (Validation.list obstacleInput) (some []) here j "obstacles"
    let commands := Validation.member (Validation.list Validation.text) none here j "commands"
    (width.both (height.both (obstacles.both commands))).map
      fun (width, height, obstacles, commands) => ⟨width, height, obstacles, commands⟩

def parseInput : List Place → Json → Checked String :=
  Validation.object fun here j => Validation.member Validation.text none here j "command"

/-- Checks the body of a request; a null body counts as absent. -/
def checkBody {α : Type} (check : List Place → Json → Checked α) (body : Option Body) : Checked α :=
  let here : List Place := [.member "body"]
  match body with
  | none => Checked.fail here .missing
  | some ⟨.scalar .absent, _⟩ => Checked.fail here .missing
  | some j => check here j.val

def instructionJson (i : Instruction) : Json :=
  let coordinate (f : Cell → Int) : Json :=
    match i.cell? with
    | none => .null
    | some c => .int (f c)
  .object [("kind", .text i.keyword.name), ("x", coordinate Cell.x), ("y", coordinate Cell.y),
    ("orientation", .optionalText (i.heading?.map Heading.name))]

def health : Response :=
  ⟨200, .value (.object [("status", .text "ok"), ("message", .text "Rules engine is running")])⟩

def answerSimulation (input : SimulationInput) : Response :=
  match simulate (.int input.width) (.int input.height) input.obstacles input.commands with
  | .ok s => ⟨200, .value s.toJson⟩
  | .error failure =>
    match failure with
    | .fault f => explained (if f.belongs .config then 400 else 500) f.message
    | .oversized o => explained 500 o.message

def answerParse (command : String) : Response :=
  match Instruction.read command with
  | .ok i => ⟨200, .value (instructionJson i)⟩
  | .error (.fault f) => explained 400 f.message
  | .error (.oversized _) => ⟨500, .plain "Internal Server Error"⟩

def answerChecked {α : Type} (answer : α → Response) : Checked α → Response
  | .ok a => answer a
  | .error issues => ⟨422, .issues issues⟩

def answerAt (settings : LegibleSettings) (route : Route) (r : Request) : Response :=
  if ¬route.methods.contains (Text.upperText r.method) then explained 405 "Method Not Allowed"
  else
    match route with
    | .status => health
    | .simulate => answerChecked answerSimulation (checkBody (simulationInput settings) r.body)
    | .parse => answerChecked answerParse (checkBody parseInput r.body)
    | .page => ⟨200, .plain ""⟩

def answer (settings : LegibleSettings) (r : Request) : Response :=
  let path := r.path.toList
  match Route.at? path with
  | some route => answerAt settings route r
  | none =>
    match Route.elsewhere? path with
    | some shorter => ⟨307, .elsewhere (String.ofList shorter)⟩
    | none => explained 404 "Not Found"

def respond (r : Request) (settings : LegibleSettings := .standard) : Response :=
  let response := answer settings r
  match response.content with
  | .elsewhere _ => response
  | _ => if Text.upperText r.method = "HEAD" then ⟨response.status, .plain ""⟩ else response

end Service
end RobotGrid
