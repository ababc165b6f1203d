import RobotGrid.Proofs.Replay
import RobotGrid.Proofs.Rounding
import RobotGrid.Proofs.Summary

set_option autoImplicit false

/-!
# What the picture shows

A step either leaves what a dashboard holds as it was, and then the picture too, or it draws anew.
So the picture is always the drawing of what is held (`Shown`). The robot that is drawn stands where
the session has left it: in the grid and beside the obstacles. It is drawn as long as the binary64
format reaches its cell, and in the middle of it as long as half a cell counts there, both of which
few commands and small boards make sure.
-/
namespace RobotGrid
open Session (Course)

def CommandResult.verdict (r : CommandResult) : String :=
  match r.outcome with
  | .ok none => "ok"
  | .ok (some text) => if text.isEmpty then "ok" else text
  | .error f => f.kind ++ ": " ++ f.message

namespace Dashboard

def statusLine (r : CommandResult) : String := padRight commandWidth r.command ++ " " ++ r.verdict

def lastShown (results : List CommandResult) : List CommandResult :=
  results.drop (results.length - shownResults)

def paint (results : List CommandResult) : Colour :=
  match results.getLast? with
  | none => .darkgreen
  | some r => if r.ok then .darkgreen else .red

theorem resultLine_toJson (r : CommandResult) : resultLine r.toJson = .ok (statusLine r) := by
  obtain ⟨command, outcome⟩ := r
  cases outcome with
  | error f =>
    change Except.ok (padRight commandWidth command ++ " " ++ f.kind ++ ": " ++ f.message) = _
    simp only [statusLine, CommandResult.verdict, String.append_assoc]
  | ok m =>
    cases m with
    | none => rfl
    | some text =>
      change (if (!text.isEmpty) = true then Except.ok text else .ok "ok").map
        (fun message => padRight commandWidth command ++ " " ++ message) = _
      cases empty : text.isEmpty <;>
        simp [statusLine, CommandResult.verdict, empty, Except.map]

theorem resultsColour_toJson (results : List CommandResult) :
    resultsColour (results.map CommandResult.toJson) = .ok (paint results) := by
  unfold resultsColour paint
  rw [List.getLast?_map]
  cases results.getLast? with
  | none => rfl
  | some r => rfl

theorem resultsStatus_resultsJson (sim : Simulation) : resultsStatus sim.resultsJson =
    .ok ("\n".intercalate ((lastShown sim.results).map statusLine), paint sim.results) := by
  let items := sim.results.map CommandResult.toJson
  have each : resultLine ∘ CommandResult.toJson = fun r => pure (statusLine r) :=
    funext resultLine_toJson
  have told : (items.drop (items.length - shownResults)).mapM resultLine =
      .ok ((lastShown sim.results).map statusLine) := by
    rw [List.length_map, ← List.map_drop, List.mapM_map, each, List.mapM_pure]
    rfl
  change (((items.drop (items.length - shownResults)).mapM resultLine).bind fun lines =>
    (resultsColour items).map fun colour => ("\n".intercalate lines, colour)) = _
  rw [told, resultsColour_toJson]
  rfl

theorem takeAnswer_toJson (d : Dashboard) (commands : List String) (sim : Simulation) :
    d.takeAnswer commands sim.toJson =
      redraw { d with
        commands
        results := sim.resultsJson
        final := sim.finalJson
        status := "\n".intercalate ((lastShown sim.results).map statusLine)
        colour := paint sim.results } := by
  have results : sim.toJson.need "results" = .ok sim.resultsJson := rfl
  have final : sim.toJson.need "final" = .ok sim.finalJson := rfl
  simp only [takeAnswer, results, final, resultsStatus_resultsJson]
  rfl

/-- The picture is the drawing of what is held. -/
def Shown (d : Dashboard) : Prop :=
  d.picture = (draw d.settings d.obstacles d.commands d.final).1

variable {settings : LegibleSettings} {d : Dashboard} {b : Board} {results : List CommandResult}
  {last : Session}

theorem shown_new (settings : LegibleSettings) : (new settings).Shown := rfl

theorem shown_redraw (d : Dashboard) : d.redraw.1.Shown := by
  unfold redraw
  cases e : draw d.settings d.obstacles d.commands d.final with
  | mk picture misfit => exact (congrArg Prod.fst e).symm

theorem Shown.withStatus (h : d.Shown) (status : String) (colour : Colour) :
    (d.withStatus status colour).Shown := h

theorem Shown.click (h : d.Shown) (k : Click) : (d.click k).1.Shown := by
  by_cases target : ∃ c, d.Hits k c
  · obtain ⟨c, hit⟩ := target
    by_cases free : d.commands = []
    · rw [click_of_free hit free]
      exact shown_redraw _
    · rw [click_of_held hit free]
      exact h.withStatus _ _
  · rw [click_of_miss (not_exists.1 target)]
    exact h

theorem shown_takeAnswer (d : Dashboard) (commands : List String) (sim : Simulation) :
    (d.takeAnswer commands sim.toJson).1.Shown := by
  rw [takeAnswer_toJson]
  exact shown_redraw _

theorem Shown.takeReply (h : d.Shown) {reply : Reply} (failed : ¬reply.Succeeds)
    (commands : List String) : (d.takeReply commands reply).1.Shown := by
  cases reply with
  | unreachable reason => exact h.withStatus _ _
  | answered status text body =>
    have other : ¬status = 200 := failed
    simp only [Dashboard.takeReply, if_neg other]
    cases Text.Numeral.write status with
    | ok told => exact h.withStatus _ _
    | error o => exact h

theorem Shown.step (h : d.Shown) (held : Replays settings d b results last) {s : Step}
    (honest : s.Honest) : (d.step s).dashboard.Shown := by
  cases s with
  | click c => exact h.click c
  | clear => exact shown_redraw _
  | submit text reply? =>
    by_cases none : Text.commandLines text = []
    · rw [step_submit_of_nil none]
      exact h
    · rw [step_submit none]
      cases reply? with
      | some reply => exact h.takeReply honest _
      | none =>
        rcases held.replyTo_none text with ⟨sim, _, _, _, answered⟩ | ⟨shown, body, answered⟩
        · rw [answered]
          exact shown_takeAnswer d _ sim
        · rw [answered]
          have failed : ¬(Reply.answered 500 shown body).Succeeds := by simp [Reply.Succeeds]
          exact h.takeReply failed _

theorem Shown.after (h : d.Shown) (held : Replays settings d b results last) {steps : List Step}
    (honest : ∀ s ∈ steps, s.Honest) : (d.after steps).Shown := by
  induction steps generalizing d b results last with
  | nil => exact h
  | cons s steps ih =>
    obtain ⟨first, others⟩ := List.forall_mem_cons.1 honest
    obtain ⟨_, b', results', last', next⟩ := held.step first
    exact ih (h.step held first) next others

theorem draw_null (settings : LegibleSettings) (obstacles : CellSet) (commands : List String) :
    (draw settings obstacles commands .null).1 =
      ⟨caption settings obstacles commands "Robot: not placed", obstacles, none⟩ := rfl

theorem titleText_toJson (settings : LegibleSettings) (obstacles : CellSet)
    (commands : List String) {p : Pose} (written : p.cell.Written) :
    titleText settings obstacles commands p.toJson = .ok (caption settings obstacles commands
      s!"Robot: {p.cell.x},{p.cell.y},{p.heading.name}") := by
  have told : ∀ n : Int, Text.Numeral.isWritten n = true →
      Json.told (.int n) = .ok (toString n) := by
    intro n h
    have shown : (Scalar.int n).isWritten = true := h
    rw [Json.told, Json.int, Json.display, Scalar.display, dif_pos shown]
    rfl
  change ((Json.told (.int p.cell.x)).bind fun x => (Json.told (.int p.cell.y)).bind fun y =>
    ((Json.told (.text p.heading.name)).map fun orientation =>
      s!"Robot: {x},{y},{orientation}")).map _ = _
  rw [told _ written.1, told _ written.2]
  rfl

theorem namedArrow_name (h : Heading) : namedArrow (.text h.name) = .ok (arrow h) := by
  cases h <;> rfl

/-- Up to this size half an integer is a number of the binary64 format. -/
def exactSize : Int := 0x10000000000000

theorem drawnInteger_of_exact {n : Int} (low : 0 ≤ n) (high : n < exactSize) :
    drawnInteger n = .ok n := by
  have size : n.natAbs ≤ Nat.pow 2 53 := by
    have limit : Nat.pow 2 53 = 9007199254740992 := by decide
    rw [limit]
    simp only [exactSize] at high
    omega
  rw [drawnInteger, if_pos size]

theorem plusHalf_of_exact {n : Int} (low : 0 ≤ n) (high : n < exactSize) :
    (Coordinate.exact n).plusHalf = .exact (n + 1 / 2) := by
  obtain ⟨x, nearest, value⟩ := Binary64.nearest_half low high
  rw [Coordinate.plusHalf, nearest, ← value]
  rfl

/-- Up to this size an integer has a place in the picture. -/
def drawnSize : Int := 2 ^ Binary64.largestPower

theorem exists_drawnInteger {n : Int} (low : 0 ≤ n) (high : n < drawnSize) :
    ∃ q, drawnInteger n = .ok q := by
  rw [drawnInteger]
  by_cases exact : n.natAbs ≤ Nat.pow 2 53
  · exact ⟨_, if_pos exact⟩
  · have size : n.natAbs < 2 ^ Binary64.largestPower := by
      have power : (drawnSize.natAbs : Int) = drawnSize :=
        Int.natAbs_of_nonneg (Int.le_of_lt (Int.pow_pos (by decide)))
      have bound : drawnSize.natAbs = 2 ^ Binary64.largestPower := Int.natAbs_pow 2 _
      omega
    obtain ⟨x, e⟩ := Option.isSome_iff_exists.1 (Binary64.nearest_isSome size)
    exact ⟨x.value, by rw [if_neg exact, e]⟩

theorem marker_toJson {p : Pose} {x y : Rat} (hx : drawnInteger p.cell.x = .ok x)
    (hy : drawnInteger p.cell.y = .ok y) : marker p.toJson = .ok (some
      ⟨((Coordinate.exact x).plusHalf, (Coordinate.exact y).plusHalf), arrow p.heading⟩) := by
  have drawn : ∀ {n : Int} {q}, drawnInteger n = .ok q → drawnNumber (.int n) = .ok (.exact q) := by
    intro n q h
    change (drawnInteger n).map _ = _
    rw [h]
    rfl
  change ((drawnNumber (.int p.cell.x)).bind fun x => (drawnNumber (.int p.cell.y)).bind fun y =>
    (namedArrow (.text p.heading.name)).map fun arrow =>
      some (Marker.mk (x.plusHalf, y.plusHalf) arrow)) = _
  rw [drawn hx, drawn hy, namedArrow_name]
  rfl

/-- With a pose the title and the obstacles are drawn in any case, and the robot if it has a
place. -/
theorem draw_toJson (settings : LegibleSettings) (obstacles : CellSet) (commands : List String)
    {p : Pose} (written : p.cell.Written) :
    ∃ robot, (draw settings obstacles commands p.toJson).1 =
      ⟨caption settings obstacles commands s!"Robot: {p.cell.x},{p.cell.y},{p.heading.name}",
        obstacles, robot⟩ ∧ ∀ m, marker p.toJson = .ok m → robot = m := by
  simp only [draw, titleText_toJson _ _ _ written]
  cases e : marker p.toJson with
  | error misfit => exact ⟨none, rfl, fun m h => (by cases h)⟩
  | ok robot => exact ⟨robot, rfl, fun m h => Except.ok.inj h⟩

end Dashboard

namespace Session

/-- A robot that is placed has no coordinate beyond `n`. -/
def Reaches (s : Session) (n : Int) : Prop := ∀ p, s.pose? = some p → p.cell.x ≤ n ∧ p.cell.y ≤ n

theorem Reaches.mono {s : Session} {n m : Int} (h : s.Reaches n) (le : n ≤ m) : s.Reaches m := by
  intro p placed
  obtain ⟨hx, hy⟩ := h p placed
  exact ⟨Int.le_trans hx le, Int.le_trans hy le⟩

theorem ahead_le (c : Cell) (h : Heading) : (c.ahead h).x ≤ c.x + 1 ∧ (c.ahead h).y ≤ c.y + 1 := by
  cases h <;> simp only [Cell.ahead, Cell.shift, Heading.delta] <;> omega

/-- A command names a coordinate of 32 bits or goes one cell ahead. -/
theorem Reaches.evaluate {s : Session} {n : Int} (h : s.Reaches n) (large : coordinateMax ≤ n)
    (line : String) : (s.evaluate line).session.Reaches (n + 1) := by
  have kept : s.Reaches (n + 1) := h.mono (by omega)
  have bound : (2147483647 : Int) ≤ n := large
  cases e : Instruction.read line with
  | error f =>
    rw [evaluate_of_unread e]
    exact kept
  | ok i =>
    rw [(evaluate_of_read e).1]
    have acts := s.acts i
    generalize (s.act i).1 = s' at acts
    generalize (s.act i).2 = a at acts
    cases acts with
    | setUp | offBoard => exact kept
    | unwritten =>
      intro p placed
      rw [← driver_pose, equip, driver_of_some rfl, driver_pose] at placed
      exact kept p placed
    | driven ready executes =>
      intro p placed
      cases executes with
      | @taken _ t target free =>
        cases placed
        cases i with
        | place c o =>
          cases target
          obtain ⟨⟨_, hx⟩, ⟨_, hy⟩⟩ := Instruction.nameable_of_read e rfl
          change c.x ≤ n + 1 ∧ c.y ≤ n + 1
          omega
        | move =>
          obtain ⟨q, there, rfl⟩ := Option.map_eq_some_iff.1 target
          obtain ⟨hx, hy⟩ := h q ((driver_pose s).symm.trans there)
          obtain ⟨ax, ay⟩ := ahead_le q.cell q.heading
          exact ⟨Int.le_trans ax (by omega), Int.le_trans ay (by omega)⟩
        | obstacle | left | right | report => cases target
      | @left q there | @right q there =>
        cases placed
        exact kept q ((driver_pose s).symm.trans there)
      | barred | report | obstacle | unplaced | muted =>
        exact kept p ((driver_pose s).symm.trans placed)

theorem Course.reaches {s last : Session} {lines : List String} {results : List CommandResult}
    (h : Course s lines results last) {n : Int} (reach : s.Reaches n) (large : coordinateMax ≤ n) :
    last.Reaches (n + lines.length) := by
  induction h generalizing n with
  | nil s => exact reach.mono (by simp)
  | @cons s last line lines r results e more ih =>
    have next := ih (reach.evaluate large line) (by omega)
    refine next.mono ?_
    rw [List.length_cons]
    omega

theorem Course.sound {s last : Session} {lines : List String} {results : List CommandResult}
    (h : Course s lines results last) (sound : s.Sound) : last.Sound := by
  rw [h.last_eq_after]
  exact after_of_step (P := Sound) (fun _ line h => h.evaluate line) sound lines

end Session

namespace Dashboard

variable {settings : LegibleSettings} {d : Dashboard} {b : Board} {results : List CommandResult}
  {last : Session}

/-- The board is smaller than a size, or the commands are too few to get there. -/
def Within (d : Dashboard) (n : Int) : Prop :=
  (width d.settings ≤ n ∧ height d.settings ≤ n) ∨ coordinateMax + d.commands.length < n

theorem Replays.stands (h : Replays settings d b results last) {p : Pose}
    (placed : last.pose? = some p) :
    InRectangle (width settings) (height settings) p.cell ∧ p.cell ∉ d.obstacles := by
  have accounts := h.course.accounts
  have sound := h.course.sound (Session.sound_of_bare b)
  obtain ⟨inside, clear⟩ := sound.stands p ((Session.driver_pose last).trans placed)
  rw [sound.board, Board.Contains, accounts.width, accounts.height, h.width_eq,
    h.height_eq] at inside
  rw [sound.board, accounts.blocks, not_or, Board.Blocks, h.obstacles_eq] at clear
  exact ⟨inside, clear.1⟩

theorem Replays.within (h : Replays settings d b results last) {p : Pose}
    (placed : last.pose? = some p) {n : Int} (within : d.Within n) :
    (0 ≤ p.cell.x ∧ p.cell.x < n) ∧ 0 ≤ p.cell.y ∧ p.cell.y < n := by
  obtain ⟨⟨left, right, below, above⟩, _⟩ := h.stands placed
  refine ⟨⟨left, ?_⟩, below, ?_⟩
  all_goals
    rcases within with ⟨wide, high⟩ | few
    · rw [h.settings_eq] at wide high
      omega
    · have unplaced : (Session.mk b none).Reaches coordinateMax := by
        intro p placed
        cases placed
      obtain ⟨hx, hy⟩ := h.course.reaches unplaced (Int.le_refl _) p placed
      omega

theorem Replays.written_pose (h : Replays settings d b results last) {p : Pose}
    (placed : last.pose? = some p) : p.cell.Written := by
  rw [h.course.last_eq_after] at placed
  exact ((Session.legible_of_bare rfl h.written).after d.commands).written placed

theorem Replays.picture_eq (h : Replays settings d b results last) (shown : d.Shown) :
    ∃ line robot, d.picture = ⟨caption settings d.obstacles d.commands line, d.obstacles, robot⟩ ∧
      (last.pose? = none → line = "Robot: not placed" ∧ robot = none) ∧
      ∀ p, last.pose? = some p → line = s!"Robot: {p.cell.x},{p.cell.y},{p.heading.name}" ∧
        ∀ m, marker p.toJson = .ok m → robot = m := by
  have final := h.final_eq
  rw [Shown, h.settings_eq] at shown
  cases placed : last.pose? with
  | none =>
    simp only [Simulation.finalJson, placed] at final
    rw [final, draw_null] at shown
    exact ⟨_, _, shown, fun _ => ⟨rfl, rfl⟩, fun p e => (by cases e)⟩
  | some p =>
    simp only [Simulation.finalJson, placed] at final
    rw [final] at shown
    obtain ⟨robot, drawn, marked⟩ :=
      draw_toJson settings d.obstacles d.commands (h.written_pose placed)
    refine ⟨_, robot, shown.trans drawn, fun e => (by cases e), fun q e => ?_⟩
    cases e
    exact ⟨rfl, marked⟩

/-- Whatever is clicked, typed and cleared, if nobody but the service tells success: the picture
shows the obstacles held and, in the title, how many obstacles and commands are held and where the
robot is. Without a final pose no robot is drawn. With one the robot is in the grid and on none of
the obstacles that are drawn. Unless the binary64 format does not reach its cell, it is drawn, with
an arrow of three tenths of a step ahead, and as long as half a cell counts there it is in the
middle of its cell. -/
theorem picture_shows_state (settings : LegibleSettings) (steps : List Step)
    (honest : ∀ s ∈ steps, s.Honest) :
    let d := (new settings).after steps
    let sides := s!"{width settings}x{height settings}"
    d.picture.obstacles = d.obstacles ∧
    ∃ line, d.picture.title =
        s!"Tabletop {sides} | Obstacles: {d.obstacles.size} | Commands: {d.commands.length}" ++
          "\n" ++ line ∧
      (d.final = .null ∧ line = "Robot: not placed" ∧ d.picture.robot = none ∨
        ∃ (c : Cell) (o : Heading),
          d.final = .object [("x", .int c.x), ("y", .int c.y), ("orientation", .text o.name)] ∧
          line = s!"Robot: {c.x},{c.y},{o.name}" ∧
          InRectangle (width settings) (height settings) c ∧ c ∉ d.picture.obstacles ∧
          (d.Within drawnSize → ∃ centre, d.picture.robot = some
            { centre, arrow := (o.delta.1 * (3 / 10), o.delta.2 * (3 / 10)) }) ∧
          (d.Within exactSize → d.picture.robot = some
            { centre := (.exact (c.x + 1 / 2), .exact (c.y + 1 / 2))
              arrow := (o.delta.1 * (3 / 10), o.delta.2 * (3 / 10)) })) := by
  intro d sides
  obtain ⟨b₀, results₀, last₀, fresh⟩ := replays_new settings
  obtain ⟨_, b, results, last, h⟩ := fresh.after honest
  change Replays settings d b results last at h
  have shown : d.Shown := (shown_new settings).after fresh honest
  obtain ⟨line, robot, picture, unplaced, standing⟩ := h.picture_eq shown
  have final := h.final_eq
  rw [picture]
  refine ⟨rfl, line, rfl, ?_⟩
  cases placed : last.pose? with
  | none =>
    obtain ⟨text, absent⟩ := unplaced placed
    simp only [Simulation.finalJson, placed] at final
    exact Or.inl ⟨final, text, absent⟩
  | some p =>
    obtain ⟨text, marked⟩ := standing p placed
    obtain ⟨inside, clear⟩ := h.stands placed
    simp only [Simulation.finalJson, placed] at final
    refine Or.inr ⟨p.cell, p.heading, final, text, inside, clear, fun near => ?_, fun exact => ?_⟩
    · obtain ⟨hx, hy⟩ := h.within placed near
      obtain ⟨x, ex⟩ := exists_drawnInteger hx.1 hx.2
      obtain ⟨y, ey⟩ := exists_drawnInteger hy.1 hy.2
      exact ⟨_, marked _ (marker_toJson ex ey)⟩
    · obtain ⟨hx, hy⟩ := h.within placed exact
      have drawn := marked _ (marker_toJson (drawnInteger_of_exact hx.1 hx.2)
        (drawnInteger_of_exact hy.1 hy.2))
      rw [plusHalf_of_exact hx.1 hx.2, plusHalf_of_exact hy.1 hy.2] at drawn
      exact drawn

/-- A robot that an obstacle has stopped, behind a submit that is lost and a click that comes too
late. -/
theorem picture_shows_state_beside_obstacle :
    let steps : List Step := [.click ⟨true, .exact (1 / 2), .exact (3 / 2), 1⟩,
      .submit "PLACE 0,0,NORTH; MOVE" none, .submit "LEFT" (some (.unreachable "refused")),
      .click ⟨true, .exact (1 / 2), .exact (3 / 2), 3⟩]
    let d := (new .standard).after steps
    (∀ s ∈ steps, s.Honest) ∧ d.Within exactSize ∧ d.picture.obstacles.cells = [⟨0, 1⟩] ∧
      ∃ (c : Cell) (o : Heading),
        d.final = .object [("x", .int c.x), ("y", .int c.y), ("orientation", .text o.name)] ∧
        c ≠ ⟨0, 1⟩ ∧ d.picture.robot = some ⟨(.exact (c.x + 1 / 2), .exact (c.y + 1 / 2)),
          (o.delta.1 * (3 / 10), o.delta.2 * (3 / 10))⟩ ∧
        d.picture.robot = some ⟨(.exact (1 / 2), .exact (1 / 2)), (0, 3 / 10)⟩ := by
  intro steps d
  have honest : ∀ s ∈ steps, s.Honest := by simp [steps, Step.Honest, Reply.Succeeds]
  have exact : d.Within exactSize := Or.inl (by decide +kernel)
  have cells : d.picture.obstacles.cells = [⟨0, 1⟩] := by decide +kernel
  have robot : d.picture.robot = some ⟨(.exact (1 / 2), .exact (1 / 2)), (0, 3 / 10)⟩ := by
    decide +kernel
  obtain ⟨_, line, _, shown⟩ := picture_shows_state .standard steps honest
  rcases shown with ⟨_, _, missing⟩ | ⟨c, o, final, _, _, clear, _, drawn⟩
  · cases robot.symm.trans missing
  · refine ⟨honest, exact, cells, c, o, final, fun e => clear ?_, drawn exact, robot⟩
    change c ∈ d.picture.obstacles.cells
    rw [cells, e]
    exact List.mem_singleton_self _

end Dashboard
end RobotGrid
