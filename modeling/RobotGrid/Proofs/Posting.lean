import RobotGrid.Dashboard
import RobotGrid.Proofs.Answers
import RobotGrid.Proofs.Received

set_option autoImplicit false

/-!
# Posting a session

The service takes the payload of a dashboard for what it was made from: the payload can be written,
every check of it succeeds, and the simulation starts on the board that was posted. Hence the answer
is either a simulation, which has a text, or the failure on an overlong numeral.
-/
namespace RobotGrid
open Instruction (Excessive)
open Session (Course spoken)

theorem simulate_eq_ok_iff {b : Board} {commands : List String} {sim : Simulation} :
    simulate (.int b.width) (.int b.height) b.obstacles.cells commands = .ok sim ↔
      ∃ last, Course ⟨b, none⟩ (spoken commands) sim.results last ∧ sim.final = last.pose? :=
  Session.simulate_iff_course (Session.start_cells b)

/-- If the sides of the board can be written, only an overlong numeral ends a simulation, and the
cell at the end of one that does not can be written. -/
theorem simulate_cases {width height : Scalar} {cells : List Cell} {s : Session}
    (start : Session.start width height cells = .ok s) (written : s.table.Written)
    (commands : List String) :
    (∃ line ∈ commands, ∃ n, Excessive line n ∧
      simulate width height cells commands = .error (.oversized (.read n))) ∨
    (∀ line ∈ commands, ∀ n, ¬Excessive line n) ∧
      ∃ sim, simulate width height cells commands = .ok sim ∧
        ∀ p, sim.final = some p → p.cell.Written := by
  have legible := Session.legible_of_start start written
  cases e : s.run commands with
  | mk last answer =>
    rw [Session.simulate_of_run start e]
    cases answer with
    | error o =>
      obtain ⟨line, mem, n, read, excess⟩ := legible.excessive_of_run (congrArg Prod.snd e)
      exact Or.inl ⟨line, mem, n, excess, by rw [read]; rfl⟩
    | ok results =>
      refine Or.inr ⟨legible.follows_iff.1 (Session.run_answers_iff.1 ⟨_, congrArg Prod.snd e⟩), _,
        rfl, fun p placed => ?_⟩
      rw [Session.run_eq_after e] at placed
      exact (legible.after commands).written placed

theorem Json.itemsWritten_map {α : Type} {encode : α → Json} {as : List α}
    (h : ∀ a ∈ as, (encode a).isWritten = true) : itemsWritten (as.map encode) = true :=
  itemsWritten_iff.2 (List.forall_mem_map.2 h)

theorem Simulation.isWritten_toJson {sim : Simulation}
    (h : ∀ p, sim.final = some p → p.cell.Written) : sim.toJson.isWritten = true := by
  have optional : ∀ text, (Json.optionalText text).isWritten = true := by
    intro text
    cases text <;> rfl
  have results : sim.resultsJson.isWritten = true := Json.itemsWritten_map fun r _ => by
    simp [CommandResult.toJson, Json.isWritten, Json.membersWritten, optional, Json.text, Json.flag,
      Scalar.isWritten]
  have reports : (Json.list (sim.reports.map .text)).isWritten = true :=
    Json.itemsWritten_map fun _ _ => rfl
  have final : sim.finalJson.isWritten = true := by
    rw [finalJson]
    cases placed : sim.final with
    | none => rfl
    | some p =>
      obtain ⟨x, y⟩ := h p placed
      simp [Pose.toJson, Json.isWritten, Json.membersWritten, Json.int, Json.text,
        Scalar.isWritten, x, y]
  rw [toJson, Json.isWritten]
  simp only [Json.membersWritten, results, reports, final, Bool.and_self]

theorem Checked.all_ok {α : Type} (as : List α) : all (as.map .ok) = .ok as := by
  induction as with
  | nil => rfl
  | cons a as ih =>
    rw [List.map_cons, all, ih]
    rfl

theorem Validation.list_map {α : Type} {check : List Place → Json → Checked α} {encode : α → Json}
    (pass : ∀ here a, check here (encode a) = .ok a) (here : List Place) (as : List α) :
    list check here (.list (as.map encode)) = .ok as := by
  have items : (as.map encode).mapIdx (fun i item => check (here ++ [.index i]) item) =
      as.map .ok := by
    rw [List.mapIdx_eq_iff]
    intro i
    rw [List.getElem?_map, List.getElem?_map]
    cases as[i]? with
    | none => rfl
    | some a => exact congrArg some (pass _ a).symm
  rw [list, items, Checked.all_ok]

namespace Service
variable {settings : LegibleSettings} {body : Option Body}

theorem respond_of_route {path : String} {route : Route}
    (there : Route.at? path.toList = some route) (body : Option Body) :
    respond ⟨"POST", path, body⟩ settings = answerAt settings route ⟨"POST", path, body⟩ := by
  have head : Text.upperText "POST" ≠ "HEAD" := by decide +kernel
  rw [respond, if_neg head]
  simp only [answer, there]
  split <;> rfl

theorem respond_simulate {input : SimulationInput}
    (checked : checkBody (simulationInput settings) body = .ok input) :
    respond ⟨"POST", "/simulate", body⟩ settings = answerSimulation input := by
  have there : Route.at? "/simulate".toList = some .simulate := by decide +kernel
  have method : Route.simulate.methods.contains (Text.upperText "POST") = true := by decide +kernel
  rw [respond_of_route there, answerAt, if_neg (not_not_intro method)]
  simp only [checked, answerChecked]

theorem respond_parse {command : String} (checked : checkBody parseInput body = .ok command) :
    respond ⟨"POST", "/parse", body⟩ settings = answerParse command := by
  have there : Route.at? "/parse".toList = some .parse := by decide +kernel
  have method : Route.parse.methods.contains (Text.upperText "POST") = true := by decide +kernel
  rw [respond_of_route there, answerAt, if_neg (not_not_intro method)]
  simp only [checked, answerChecked]

end Service

namespace Dashboard
open Service

theorem obstacleInput_cell (here : List Place) (c : Cell) :
    obstacleInput here (.object [("x", .int c.x), ("y", .int c.y)]) = .ok c :=
  rfl

theorem text_text (here : List Place) (s : String) : Validation.text here (.text s) = .ok s := rfl

section
variable {b : Board} {commands : List String}

theorem isWritten_payload (written : b.Written) (commands : List String) :
    (payload b.width b.height b.obstacles commands).isWritten = true := by
  have cells : (Json.list (b.obstacles.cells.map fun c =>
      .object [("x", .int c.x), ("y", .int c.y)])).isWritten = true :=
    Json.itemsWritten_map fun c hc => by
      obtain ⟨x, y⟩ := written.of_contains (b.inside c hc)
      simp [Json.isWritten, Json.membersWritten, Json.int, Scalar.isWritten, x, y]
  have lines : (Json.list (commands.map .text)).isWritten = true :=
    Json.itemsWritten_map fun _ _ => rfl
  have width : (Json.int b.width).isWritten = true := written.1
  have height : (Json.int b.height).isWritten = true := written.2
  rw [payload, Json.isWritten]
  simp only [Json.membersWritten, width, height, cells, lines, Bool.and_self]

theorem checkBody_payload {settings : LegibleSettings} {body : Body} {width height : Int}
    {obstacles : CellSet} (e : body.val = payload width height obstacles commands) :
    checkBody (simulationInput settings) (some body) =
      .ok ⟨width, height, obstacles.cells, commands⟩ := by
  obtain ⟨j, written⟩ := body
  subst e
  let here : List Place := [.member "body"]
  let body := payload width height obstacles commands
  have cells : Validation.member (Validation.list obstacleInput) (some []) here body "obstacles" =
      .ok obstacles.cells := Validation.list_map obstacleInput_cell _ _
  have lines : Validation.member (Validation.list Validation.text) none here body "commands" =
      .ok commands := Validation.list_map text_text _ _
  change Except.map _ (Checked.both (.ok width) (Checked.both (.ok height) (Checked.both
    (Validation.member (Validation.list obstacleInput) (some []) here body "obstacles")
    (Validation.member (Validation.list Validation.text) none here body "commands")))) = _
  rw [cells, lines]
  rfl

theorem serviceReply_payload (written : b.Written) (commands : List String) :
    serviceReply (payload b.width b.height b.obstacles commands) =
      received (answerSimulation ⟨b.width, b.height, b.obstacles.cells, commands⟩) := by
  simp only [serviceReply, Body.of?_of_isWritten (isWritten_payload written commands)]
  rw [respond_simulate (checkBody_payload rfl)]

/-- The service simulates what is posted, or fails on an overlong numeral. -/
theorem serviceReply_cases (written : b.Written) (commands : List String) :
    (∃ sim text, simulate (.int b.width) (.int b.height) b.obstacles.cells commands = .ok sim ∧
      sim.toJson.compact = .ok text ∧
      serviceReply (payload b.width b.height b.obstacles commands) =
        .answered 200 text sim.toJson) ∨
    ∃ shown body, serviceReply (payload b.width b.height b.obstacles commands) =
      .answered 500 shown body := by
  rw [serviceReply_payload written, answerSimulation]
  rcases simulate_cases (Session.start_cells b) written commands with
    ⟨_, _, n, _, e⟩ | ⟨_, sim, e, told⟩
  · exact Or.inr ⟨_, _, by rw [e]; rfl⟩
  · obtain ⟨text, shown⟩ := sim.toJson.exists_compact (Simulation.isWritten_toJson told)
    refine Or.inl ⟨sim, text, e, shown, ?_⟩
    rw [e]
    simp only [received, shown]
    rfl

end

end Dashboard
end RobotGrid
