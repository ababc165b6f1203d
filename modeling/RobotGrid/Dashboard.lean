import RobotGrid.Number.Nearest
import RobotGrid.Service
import RobotGrid.Text.Lines
/-!
# The dashboard

A window on a board whose size the settings give. Clicks set up obstacles; typed commands are sent
to the service, always the whole list since the last clearing; the answer is shown as status lines
and as a picture. The picture is what was drawn last, and is kept apart from the state. An answer
that is not of the expected form is taken apart as far as it goes, and the point where it fails is
reported.
-/

set_option autoImplicit false

namespace RobotGrid

inductive Colour where
  | gray
  | orange
  | red
  | darkgreen
  deriving DecidableEq

def Colour.name : Colour → String
  | .gray => "gray"
  | .orange => "orange"
  | .red => "red"
  | .darkgreen => "darkgreen"

/-- Where something is not of the expected form: a name that is not known, a value without members
or without items, one that is no place in the picture or too far away, one that cannot be filled up,
one that cannot be a name, one that cannot be written, and a click that is in no cell. -/
inductive Misfit where
  | unknown (name : Json)
  | noMembers (value : Json)
  | noItems (value : Json)
  | noPlace (value : Json)
  | tooFar (n : Int)
  | noPadding (value : Json)
  | noName (value : Json)
  | oversized (o : Oversized)
  | noCell (x : Binary64)

/-- A coordinate in the window: a number, or what is given that is not finite. -/
inductive Coordinate where
  | exact (q : Rat)
  | unbounded (x : Binary64)
  deriving DecidableEq

namespace Coordinate

/-- Half a cell more, as far as the binary64 format tells it. -/
def plusHalf : Coordinate → Coordinate
  | .exact q => .exact ((Binary64.nearest (q + 1 / 2)).elim q Binary64.value)
  | .unbounded x => .unbounded x

def truncated : Coordinate → Except Misfit Int
  | .exact q => .ok (truncate q)
  | .unbounded x => .error (.noCell x)

end Coordinate

structure Marker where
  centre : Coordinate × Coordinate
  arrow : Rat × Rat
  deriving DecidableEq

structure Picture where
  title : String
  obstacles : CellSet
  robot : Option Marker

structure Dashboard where
  settings : LegibleSettings
  obstacles : CellSet
  commands : List String
  results : Json
  final : Json
  status : String
  colour : Colour
  picture : Picture

inductive Reply where
  | answered (status : Int) (text : String) (body : Json)
  | unreachable (reason : String)

structure Click where
  onGrid : Bool
  x : Coordinate
  y : Coordinate
  button : Int

def Json.need (j : Json) (name : String) : Except Misfit Json :=
  match j with
  | .object members =>
    match members.lookup name with
    | some value => .ok value
    | none => .error (.unknown (.text name))
  | _ => .error (.noMembers j)

def Json.told (j : Json) : Except Misfit String := j.display.mapError .oversized

namespace Dashboard

def width (settings : LegibleSettings := .standard) : Int := settings.tabletopWidth

def height (settings : LegibleSettings := .standard) : Int := settings.tabletopHeight

def commandWidth : Nat := 20

def shownResults : Nat := 6

def shownErrorText : Nat := 80

def padRight (n : Nat) (s : String) : String :=
  s ++ String.ofList (List.replicate (n - s.length) ' ')

def paddedCommand : Json → Except Misfit String
  | .scalar (.text s) => .ok (padRight commandWidth s)
  | .scalar (.flag b) => .ok (padRight commandWidth (if b then "1" else "0"))
  | .scalar (.int n) => ((Text.Numeral.write n).mapError .oversized).map (padRight commandWidth)
  | .scalar (.real x) => .ok (padRight commandWidth x.text)
  | j => .error (.noPadding j)

def resultLine (r : Json) : Except Misfit String :=
  (r.need "ok").bind fun ok =>
    (r.need "command").bind fun command =>
      (paddedCommand command).bind fun command =>
        if ok.holds then
          (r.need "message").bind fun message =>
            (if message.holds then message.told else .ok "ok").map fun message =>
              command ++ " " ++ message
        else
          (r.need "error").bind fun error =>
            error.told.bind fun error =>
              (r.need "message").bind fun message =>
                message.told.map fun message => command ++ " " ++ error ++ ": " ++ message

def resultItems : Json → Except Misfit (List Json)
  | .list items => .ok items
  | .scalar (.text s) => if s.isEmpty then .ok [] else .error (.noMembers (.text s))
  | j => .error (.noItems j)

def resultsColour (items : List Json) : Except Misfit Colour :=
  match items.getLast? with
  | none => .ok .darkgreen
  | some r => (r.need "ok").map fun ok => if ok.holds then .darkgreen else .red

def resultsStatus (results : Json) : Except Misfit (String × Colour) :=
  (resultItems results).bind fun items =>
    ((items.drop (items.length - shownResults)).mapM resultLine).bind fun lines =>
      (resultsColour items).map fun colour => ("\n".intercalate lines, colour)

def robotLine (final : Json) : Except Misfit String :=
  if final.holds then
    ((final.need "x").bind Json.told).bind fun x =>
      ((final.need "y").bind Json.told).bind fun y =>
        ((final.need "orientation").bind Json.told).map fun orientation =>
          s!"Robot: {x},{y},{orientation}"
  else .ok "Robot: not placed"

def caption (settings : LegibleSettings) (obstacles : CellSet) (commands : List String)
    (line : String) : String :=
  let width := Text.Numeral.text settings.tabletopWidth settings.width_written
  let height := Text.Numeral.text settings.tabletopHeight settings.height_written
  s!"Tabletop {width}x{height} | Obstacles: {obstacles.size} | Commands: {commands.length}" ++
    "\n" ++ line

def titleText (settings : LegibleSettings) (obstacles : CellSet) (commands : List String)
    (final : Json) : Except Misfit String :=
  (robotLine final).map (caption settings obstacles commands)

/-- The place of an integer in the picture, which is a number of the binary64 format. Up to the
size of a significand every integer is one. -/
def drawnInteger (n : Int) : Except Misfit Rat :=
  if n.natAbs ≤ Nat.pow 2 53 then .ok n
  else
    match Binary64.nearest n with
    | some x => .ok x.value
    | none => .error (.tooFar n)

def drawnNumber : Json → Except Misfit Coordinate
  | .scalar (.int n) => (drawnInteger n).map .exact
  | .scalar (.flag b) => .ok (.exact (if b then 1 else 0))
  | .scalar (.real x) => .ok (if x.isFinite then .exact x.value else .unbounded x)
  | j => .error (.noPlace j)

def arrow (h : Heading) : Rat × Rat := ((h.delta.1 : Rat) * (3 / 10), (h.delta.2 : Rat) * (3 / 10))

def namedArrow (name : Json) : Except Misfit (Rat × Rat) :=
  match name with
  | .scalar s =>
    match Heading.all.find? fun h => s == .text h.name with
    | some h => .ok (arrow h)
    | none => .error (.unknown name)
  | j => .error (.noName j)

def marker (final : Json) : Except Misfit (Option Marker) :=
  if final.holds then
    (final.need "x").bind fun x =>
      (drawnNumber x).bind fun x =>
        (final.need "y").bind fun y =>
          (drawnNumber y).bind fun y =>
            (final.need "orientation").bind fun orientation =>
              (namedArrow orientation).map fun arrow =>
                some ⟨(x.plusHalf, y.plusHalf), arrow⟩
  else .ok none

/-- Draws the state. Where that fails, what was drawn before stays. -/
def draw (settings : LegibleSettings) (obstacles : CellSet) (commands : List String)
    (final : Json) : Picture × Option Misfit :=
  match titleText settings obstacles commands final with
  | .error m => (⟨"", .empty, none⟩, some m)
  | .ok title =>
    match marker final with
    | .error m => (⟨title, obstacles, none⟩, some m)
    | .ok robot => (⟨title, obstacles, robot⟩, none)

def redraw (d : Dashboard) : Dashboard × Option Misfit :=
  let (picture, misfit) := draw d.settings d.obstacles d.commands d.final
  ({ d with picture }, misfit)

def withStatus (d : Dashboard) (status : String) (colour : Colour) : Dashboard :=
  { d with status, colour }

def new (settings : LegibleSettings := .standard) : Dashboard :=
  { settings
    obstacles := .empty
    commands := []
    results := .list []
    final := .null
    status := "Status: ready"
    colour := .gray
    picture := (draw settings .empty [] .null).1 }

/-- The cell that a click is taken for: both coordinates cut towards zero. -/
def Click.cell (c : Click) : Except Misfit Cell :=
  c.x.truncated.bind fun x => c.y.truncated.map fun y => ⟨x, y⟩

def clicked (obstacles : CellSet) (c : Cell) (button : Int) : CellSet :=
  if button = 3 then obstacles.erase c
  else if button = 1 then obstacles.insert c
  else obstacles

def click (d : Dashboard) (c : Click) : Dashboard × Option Misfit :=
  if ¬c.onGrid then (d, none)
  else
    match Click.cell c with
    | .error m => (d, some m)
    | .ok cell =>
      if ¬InRectangle (width d.settings) (height d.settings) cell then (d, none)
      else if d.commands ≠ [] then
        (d.withStatus "Clear the session before changing obstacles." .orange, none)
      else { d with obstacles := clicked d.obstacles cell c.button }.redraw

def clear (d : Dashboard) : Dashboard × Option Misfit :=
  let empty := { d with obstacles := .empty, commands := [], results := .list [], final := .null }
  (empty.withStatus "Ready: click cells for obstacles, then type commands" .gray).redraw

def payload (width height : Int) (obstacles : CellSet) (commands : List String) : Json :=
  .object [("width", .int width), ("height", .int height),
    ("obstacles", .list (obstacles.cells.map fun c => .object [("x", .int c.x), ("y", .int c.y)])),
    ("commands", .list (commands.map .text))]

/-- Takes an answer apart: the commands, the results and the final pose are taken over one after
the other, then the results are shown and the picture is drawn. -/
def takeAnswer (d : Dashboard) (commands : List String) (body : Json) : Dashboard × Option Misfit :=
  let d := { d with commands }
  match body.need "results" with
  | .error m => (d, some m)
  | .ok results =>
    let d := { d with results }
    match body.need "final" with
    | .error m => (d, some m)
    | .ok final =>
      let d := { d with final }
      match resultsStatus results with
      | .error m => (d, some m)
      | .ok (status, colour) => (d.withStatus status colour).redraw

def takeReply (d : Dashboard) (commands : List String) : Reply → Dashboard × Option Misfit
  | .answered status text body =>
    if status = 200 then d.takeAnswer commands body
    else
      let shown := String.ofList (text.toList.take shownErrorText)
      match Text.Numeral.write status with
      | .ok status => (d.withStatus s!"Server error {status}: {shown}" .red, none)
      | .error o => (d, some (.oversized o))
  | .unreachable reason => (d.withStatus s!"Connection failed: {reason}" .red, none)

def received (r : Response) : Reply :=
  match r.content with
  | .value body =>
    match body.compact with
    | .ok text => .answered r.status text body
    | .error _ => .answered 500 "Internal Server Error" .null
  | .plain text => .answered r.status text .null
  | _ => .answered r.status "" .null

/-- The reply of the service to a payload, which is not sent if it cannot be written. -/
def serviceReply (payload : Json) : Reply :=
  match Body.of? payload with
  | some body => received (Service.respond ⟨"POST", "/simulate", some body⟩)
  | none => .unreachable Oversized.written.message

/-- What a step leads to: the dashboard, the payload that was posted, and the point where an
answer failed to be of the expected form. -/
structure Progress where
  dashboard : Dashboard
  sent : Option Json
  misfit : Option Misfit

def submit (d : Dashboard) (text : String) (server : Json → Reply) : Progress :=
  match Text.commandLines text with
  | [] => ⟨d, none, none⟩
  | new =>
    let commands := d.commands ++ new
    let sent := payload (width d.settings) (height d.settings) d.obstacles commands
    let (next, misfit) := d.takeReply commands (server sent)
    ⟨next, some sent, misfit⟩

/-- What a user does. A submit may be met by a given reply in place of the service. -/
inductive Step where
  | click (c : Click)
  | submit (text : String) (reply : Option Reply)
  | clear

def step (d : Dashboard) : Step → Progress
  | .click c =>
    let (next, misfit) := d.click c
    ⟨next, none, misfit⟩
  | .submit text none => d.submit text serviceReply
  | .submit text (some reply) => d.submit text fun _ => reply
  | .clear =>
    let (next, misfit) := d.clear
    ⟨next, none, misfit⟩

end Dashboard
end RobotGrid
