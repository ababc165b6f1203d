import RobotGrid.Proofs.Layout
import RobotGrid.Proofs.Posting

set_option autoImplicit false

/-!
# The replay of a dashboard

A dashboard keeps no session. It keeps the commands, and sends all of them whenever there are new
ones. `Replays` is the invariant: what a dashboard holds is what one session on its board answers
when each command is evaluated once. A click keeps it because obstacles change only while there are
no commands, and a submit because the evaluation of the commands held so far is the first part of
the evaluation of all of them.
-/
namespace RobotGrid
open Session (Course spoken course_append_iff)

def Reply.Succeeds : Reply → Prop
  | .answered status _ _ => status = 200
  | .unreachable _ => False

instance (r : Reply) : Decidable r.Succeeds :=
  match r with
  | .answered status _ _ => inferInstanceAs (Decidable (status = 200))
  | .unreachable _ => inferInstanceAs (Decidable False)

namespace Dashboard

/-- Only the service tells success: a reply that is given in its place tells a failure. -/
def Step.Honest : Step → Prop
  | .submit _ (some reply) => ¬reply.Succeeds
  | _ => True

def replyTo (d : Dashboard) (text : String) : Option Reply → Reply
  | some reply => reply
  | none => serviceReply (payload (width d.settings) (height d.settings) d.obstacles
      (d.commands ++ Text.commandLines text))

def after (d : Dashboard) (steps : List Step) : Dashboard :=
  steps.foldl (fun d s => (d.step s).dashboard) d

/-- The commands on record after a step: clearing drops them, and a submit that meets with success
adds those typed. -/
def record (d : Dashboard) (held : List String) : Step → List String
  | .click _ => held
  | .submit text reply? =>
    if (d.replyTo text reply?).Succeeds then held ++ Text.commandLines text else held
  | .clear => []

def ledger (d : Dashboard) (held : List String) : List Step → List String
  | [] => held
  | s :: steps => (d.step s).dashboard.ledger (d.record held s) steps

/-- Two dashboards that hold the same, whatever they show. -/
structure Agree (d d' : Dashboard) : Prop where
  settings : d'.settings = d.settings
  obstacles : d'.obstacles = d.obstacles
  commands : d'.commands = d.commands
  results : d'.results = d.results
  final : d'.final = d.final

theorem Agree.trans {d d' d'' : Dashboard} (h : Agree d d') (h' : Agree d' d'') : Agree d d'' :=
  ⟨h'.settings.trans h.settings, h'.obstacles.trans h.obstacles, h'.commands.trans h.commands,
    h'.results.trans h.results, h'.final.trans h.final⟩

theorem agree_withStatus (d : Dashboard) (status : String) (colour : Colour) :
    Agree d (d.withStatus status colour) :=
  ⟨rfl, rfl, rfl, rfl, rfl⟩

theorem agree_redraw (d : Dashboard) : Agree d d.redraw.1 := by
  unfold redraw
  cases draw d.settings d.obstacles d.commands d.final
  exact ⟨rfl, rfl, rfl, rfl, rfl⟩

theorem agree_takeAnswer (d : Dashboard) (commands : List String) {body results final : Json}
    (hr : body.need "results" = .ok results) (hf : body.need "final" = .ok final) :
    Agree { d with commands, results, final } (d.takeAnswer commands body).1 := by
  unfold takeAnswer
  simp only [hr, hf]
  cases resultsStatus results with
  | error m => exact ⟨rfl, rfl, rfl, rfl, rfl⟩
  | ok shown => exact (agree_withStatus _ shown.1 shown.2).trans (agree_redraw _)

theorem agree_takeReply {d : Dashboard} {reply : Reply} (h : ¬reply.Succeeds)
    (commands : List String) : Agree d (d.takeReply commands reply).1 := by
  cases reply with
  | unreachable reason => exact agree_withStatus _ _ _
  | answered status text body =>
    have failed : ¬status = 200 := h
    simp only [takeReply, if_neg failed]
    cases Text.Numeral.write status with
    | ok shown => exact agree_withStatus _ _ _
    | error o => exact ⟨rfl, rfl, rfl, rfl, rfl⟩

theorem step_submit {d : Dashboard} {text : String} (some : Text.commandLines text ≠ [])
    (reply? : Option Reply) : (d.step (.submit text reply?)).dashboard =
      (d.takeReply (d.commands ++ Text.commandLines text) (d.replyTo text reply?)).1 := by
  cases e : Text.commandLines text with
  | nil => exact absurd e some
  | cons line lines =>
    cases reply? with
    | some reply => simp only [step, submit, replyTo, e]
    | none => simp only [step, submit, replyTo, e]

theorem step_submit_of_nil {d : Dashboard} {text : String} (h : Text.commandLines text = [])
    (reply? : Option Reply) : (d.step (.submit text reply?)).dashboard = d := by
  cases reply? with
  | some reply => simp only [step, submit, h]
  | none => simp only [step, submit, h]

theorem agree_submit {d : Dashboard} {text : String} {reply? : Option Reply}
    (h : ¬(d.replyTo text reply?).Succeeds) : Agree d (d.step (.submit text reply?)).dashboard := by
  by_cases none : Text.commandLines text = []
  · rw [step_submit_of_nil none]
    exact ⟨rfl, rfl, rfl, rfl, rfl⟩
  · rw [step_submit none]
    exact agree_takeReply h _

/-- The click is on the grid and is taken for the cell, which is one of the grid. -/
def Hits (d : Dashboard) (k : Click) (c : Cell) : Prop :=
  k.onGrid = true ∧ Click.cell k = .ok c ∧ InRectangle (width d.settings) (height d.settings) c

section
variable {d : Dashboard} {k : Click} {c : Cell}

theorem click_of_held (hit : d.Hits k c) (held : d.commands ≠ []) :
    d.click k = (d.withStatus "Clear the session before changing obstacles." .orange, none) := by
  obtain ⟨onGrid, cell, inside⟩ := hit
  simp only [Dashboard.click, onGrid, cell, inside, held, not_true_eq_false, if_false, ne_eq,
    not_false_eq_true, if_true]

theorem click_of_free (hit : d.Hits k c) (free : d.commands = []) :
    d.click k = { d with obstacles := clicked d.obstacles c k.button }.redraw := by
  obtain ⟨onGrid, cell, inside⟩ := hit
  simp only [Dashboard.click, onGrid, cell, inside, free, not_true_eq_false, if_false, ne_eq]

theorem click_of_miss (miss : ∀ c, ¬d.Hits k c) : (d.click k).1 = d := by
  unfold Dashboard.click
  split
  · rfl
  · rename_i onGrid
    split
    · rfl
    · rename_i c cell
      have outside : ¬InRectangle (width d.settings) (height d.settings) c :=
        fun inside => miss c ⟨Decidable.not_not.1 onGrid, cell, inside⟩
      rw [if_pos outside]

end

/-- The dashboard holds the board, commands to be evaluated on it, and what evaluating each of them
once has answered. -/
structure Replays (settings : LegibleSettings) (d : Dashboard) (b : Board)
    (results : List CommandResult) (last : Session) : Prop where
  settings_eq : d.settings = settings
  width_eq : b.width = width settings
  height_eq : b.height = height settings
  obstacles_eq : b.obstacles = d.obstacles
  clean : ∀ c ∈ d.commands, Text.trimmed c = c ∧ Text.blankText c = false
  course : Course ⟨b, none⟩ d.commands results last
  results_eq : d.results = Simulation.resultsJson ⟨results, last.pose?⟩
  final_eq : d.final = Simulation.finalJson ⟨results, last.pose?⟩

variable {settings : LegibleSettings} {d d' : Dashboard} {b : Board} {results : List CommandResult}
  {last : Session}

theorem Replays.of_agree (h : Replays settings d b results last) (same : Agree d d') :
    Replays settings d' b results last where
  settings_eq := same.settings.trans h.settings_eq
  width_eq := h.width_eq
  height_eq := h.height_eq
  obstacles_eq := h.obstacles_eq.trans same.obstacles.symm
  clean := by
    rw [same.commands]
    exact h.clean
  course := by
    rw [same.commands]
    exact h.course
  results_eq := same.results.trans h.results_eq
  final_eq := same.final.trans h.final_eq

theorem replays_of_no_commands (b : Board) (settings_eq : d.settings = settings)
    (width_eq : b.width = width settings) (height_eq : b.height = height settings)
    (obstacles_eq : b.obstacles = d.obstacles) (commands : d.commands = [])
    (results : d.results = .list []) (final : d.final = .null) :
    Replays settings d b [] ⟨b, none⟩ where
  settings_eq := settings_eq
  width_eq := width_eq
  height_eq := height_eq
  obstacles_eq := obstacles_eq
  clean := by
    rw [commands]
    intro c hc
    cases hc
  course := by
    rw [commands]
    exact .nil _
  results_eq := results
  final_eq := final

def boardOf (settings : LegibleSettings) (obstacles : CellSet)
    (inside : ∀ c ∈ obstacles, InRectangle (width settings) (height settings) c) : Board :=
  ⟨width settings, height settings, obstacles, settings.width_pos, settings.height_pos, inside⟩

theorem inside_empty : ∀ c ∈ CellSet.empty, InRectangle (width settings) (height settings) c :=
  fun c hc => absurd hc (CellSet.not_mem_empty c)

theorem Replays.inside (h : Replays settings d b results last) :
    ∀ c ∈ d.obstacles, InRectangle (width settings) (height settings) c := by
  intro c hc
  have inside := b.inside c (by rw [h.obstacles_eq]; exact hc)
  rw [h.width_eq, h.height_eq] at inside
  exact inside

theorem replays_new (settings : LegibleSettings) :
    ∃ b results last, Replays settings (new settings) b results last :=
  ⟨boardOf settings .empty inside_empty, [], _,
    replays_of_no_commands _ rfl rfl rfl rfl rfl rfl rfl⟩

theorem Replays.clear (h : Replays settings d b results last) :
    ∃ b' results' last', Replays settings d.clear.1 b' results' last' := by
  have empty : Replays settings
      { d with obstacles := .empty, commands := [], results := .list [], final := .null }
      (boardOf settings .empty inside_empty) [] ⟨_, none⟩ :=
    replays_of_no_commands _ h.settings_eq rfl rfl rfl rfl rfl rfl
  exact ⟨_, _, _, empty.of_agree ((agree_withStatus _ _ _).trans (agree_redraw _))⟩

theorem mem_clicked {obstacles : CellSet} {c e : Cell} {button : Int}
    (h : e ∈ clicked obstacles c button) : e = c ∨ e ∈ obstacles := by
  unfold clicked at h
  split at h
  · exact Or.inr (CellSet.mem_erase.1 h).1
  · split at h
    · exact CellSet.mem_insert.1 h
    · exact Or.inr h

theorem Replays.click (h : Replays settings d b results last) (k : Click) :
    (d.click k).1.commands = d.commands ∧
      ∃ b' results' last', Replays settings (d.click k).1 b' results' last' := by
  by_cases target : ∃ c, d.Hits k c
  · obtain ⟨c, hit⟩ := target
    by_cases held : d.commands ≠ []
    · rw [click_of_held hit held]
      have same := agree_withStatus d "Clear the session before changing obstacles." .orange
      exact ⟨same.commands, b, results, last, h.of_agree same⟩
    · -- Without commands nothing has been answered yet, on any board.
      have commands : d.commands = [] := Decidable.not_not.1 held
      have course := h.course
      rw [commands] at course
      cases course
      have within : ∀ e ∈ clicked d.obstacles c k.button,
          InRectangle (width settings) (height settings) e := by
        intro e he
        rcases mem_clicked he with rfl | he
        · have here := hit.2.2
          rw [h.settings_eq] at here
          exact here
        · exact h.inside e he
      have moved : Replays settings { d with obstacles := clicked d.obstacles c k.button }
          (boardOf settings _ within) [] ⟨_, none⟩ :=
        replays_of_no_commands _ h.settings_eq rfl rfl rfl commands h.results_eq h.final_eq
      rw [click_of_free hit commands]
      have same := agree_redraw { d with obstacles := clicked d.obstacles c k.button }
      exact ⟨same.commands, _, _, _, moved.of_agree same⟩
  · rw [click_of_miss (not_exists.1 target)]
    exact ⟨rfl, b, results, last, h⟩

theorem Replays.written (h : Replays settings d b results last) : b.Written := by
  have width : Text.Numeral.isWritten b.width = true := by
    rw [h.width_eq]
    exact settings.width_written
  have height : Text.Numeral.isWritten b.height = true := by
    rw [h.height_eq]
    exact settings.height_written
  exact ⟨width, height⟩

theorem Replays.replyTo_eq (h : Replays settings d b results last) (text : String) :
    d.replyTo text none = serviceReply
      (payload b.width b.height b.obstacles (d.commands ++ Text.commandLines text)) := by
  rw [replyTo, h.settings_eq, h.width_eq, h.height_eq, h.obstacles_eq]

theorem Replays.replyTo_none (h : Replays settings d b results last) (text : String) :
    (∃ sim shown, simulate (.int b.width) (.int b.height) b.obstacles.cells
        (d.commands ++ Text.commandLines text) = .ok sim ∧
      sim.toJson.compact = .ok shown ∧ d.replyTo text none = .answered 200 shown sim.toJson) ∨
    ∃ shown body, d.replyTo text none = .answered 500 shown body := by
  rw [h.replyTo_eq]
  exact serviceReply_cases h.written _

theorem spoken_of_clean {commands : List String}
    (h : ∀ c ∈ commands, Text.trimmed c = c ∧ Text.blankText c = false) :
    spoken commands = commands :=
  Session.spoken_of_solid fun c hc => (h c hc).2

theorem Replays.clean_append (h : Replays settings d b results last) (text : String) :
    ∀ c ∈ d.commands ++ Text.commandLines text,
      Text.trimmed c = c ∧ Text.blankText c = false := by
  intro c hc
  rcases List.mem_append.1 hc with hc | hc
  · exact h.clean c hc
  · exact Text.trimmed_of_mem_commandLines hc

theorem Replays.submit (h : Replays settings d b results last) {text : String}
    (success : (d.replyTo text none).Succeeds) :
    (d.step (.submit text none)).dashboard.commands = d.commands ++ Text.commandLines text ∧
      ∃ more last', Replays settings (d.step (.submit text none)).dashboard b
        (results ++ more) last' := by
  by_cases blank : Text.commandLines text = []
  · rw [step_submit_of_nil blank, blank, List.append_nil]
    exact ⟨rfl, [], last, by rw [List.append_nil]; exact h⟩
  · rcases h.replyTo_none text with ⟨sim, _, e, _, reply⟩ | ⟨shown, body, reply⟩
    · obtain ⟨last', course, final⟩ := simulate_eq_ok_iff.1 e
      rw [spoken_of_clean (h.clean_append text)] at course
      obtain ⟨first, more, middle, before, _, whole⟩ := course_append_iff.1 course
      obtain ⟨old, _⟩ := before.unique h.course
      rw [whole, old] at course
      let taken : Dashboard :=
        { d with
          commands := d.commands ++ Text.commandLines text
          results := sim.resultsJson
          final := sim.finalJson }
      have same : Agree taken (d.takeAnswer taken.commands sim.toJson).1 :=
        agree_takeAnswer d _ rfl rfl
      have ahead : Replays settings taken b (results ++ more) last' := by
        refine ⟨h.settings_eq, h.width_eq, h.height_eq, h.obstacles_eq, h.clean_append text,
          course, ?_, ?_⟩
        · rw [← old, ← whole]
          rfl
        · change sim.finalJson = _
          rw [Simulation.finalJson, final]
          rfl
      rw [step_submit blank, reply]
      exact ⟨same.commands, more, last', ahead.of_agree same⟩
    · rw [reply] at success
      cases success

theorem step_click (d : Dashboard) (c : Click) : (d.step (.click c)).dashboard = (d.click c).1 :=
  rfl

theorem step_clear (d : Dashboard) : (d.step .clear).dashboard = d.clear.1 := rfl

/-- One step keeps the invariant, and the commands held are those on record. -/
theorem Replays.step (h : Replays settings d b results last) {s : Step} (honest : s.Honest) :
    (d.step s).dashboard.commands = d.record d.commands s ∧
      ∃ b' results' last', Replays settings (d.step s).dashboard b' results' last' := by
  cases s with
  | click c =>
    rw [step_click]
    exact h.click c
  | clear =>
    rw [step_clear]
    exact ⟨(agree_redraw _).commands, h.clear⟩
  | submit text reply? =>
    by_cases success : (d.replyTo text reply?).Succeeds
    · rw [record, if_pos success]
      cases reply? with
      | some reply => exact absurd success honest
      | none =>
        obtain ⟨commands, more, last', ahead⟩ := h.submit success
        exact ⟨commands, b, _, last', ahead⟩
    · rw [record, if_neg success]
      have same := agree_submit success
      exact ⟨same.commands, b, results, last, h.of_agree same⟩

theorem Replays.after (h : Replays settings d b results last) {steps : List Step}
    (honest : ∀ s ∈ steps, s.Honest) :
    (d.after steps).commands = d.ledger d.commands steps ∧
      ∃ b' results' last', Replays settings (d.after steps) b' results' last' := by
  induction steps generalizing d b results last with
  | nil => exact ⟨rfl, b, results, last, h⟩
  | cons s steps ih =>
    obtain ⟨first, others⟩ := List.forall_mem_cons.1 honest
    obtain ⟨commands, b', results', last', next⟩ := h.step first
    obtain ⟨all, behind⟩ := ih next others
    refine ⟨?_, behind⟩
    rw [ledger, ← commands]
    exact all

theorem finalJson_eq (results : List CommandResult) (final : Option Pose) :
    Simulation.finalJson ⟨results, final⟩ = final.elim .null fun p => .object
      [("x", .int p.cell.x), ("y", .int p.cell.y), ("orientation", .text p.heading.name)] := by
  cases final <;> rfl

theorem Replays.commands_eq (h : Replays settings d b results last) :
    results.map CommandResult.command = d.commands := by
  rw [h.course.commands]
  refine (List.map_congr_left fun c hc => (h.clean c hc).1).trans (List.map_id _)

/-- Whatever is clicked, typed and cleared, if nobody but the service tells success: what is held is
the simulation of the obstacles and commands held, with one result for each command, and is what one
session answers when each command on record is evaluated once. A further success adds results behind
the old ones, a failure changes nothing that is held, and the service finds no fault with what is
posted. -/
theorem replay_is_faithful (settings : LegibleSettings) (steps : List Step)
    (honest : ∀ s ∈ steps, s.Honest) :
    let d := (new settings).after steps
    let typed := (new settings).ledger [] steps
    let shown (results : List CommandResult) : Json := .list (results.map fun r => .object [
      ("command", .text r.command), ("ok", .flag r.ok), ("message", .optionalText r.message),
      ("error", .optionalText r.error),
      ("category", .optionalText (r.category.map Category.name))])
    let told (final : Option Pose) : Json := final.elim .null fun p => .object
      [("x", .int p.cell.x), ("y", .int p.cell.y), ("orientation", .text p.heading.name)]
    (∃ results final, simulate (.int (width settings)) (.int (height settings)) d.obstacles.cells
      d.commands = .ok ⟨results, final⟩ ∧ d.results = shown results ∧ d.final = told final) ∧
    (∃ items, d.results = .list items ∧
      items.map (Json.member? · "command") = d.commands.map fun c => some (.text c)) ∧
    (d.commands = typed ∧ ∃ s results last,
      Session.start (.int (width settings)) (.int (height settings)) d.obstacles.cells = .ok s ∧
        Course s typed results last ∧ d.results = shown results ∧ d.final = told last.pose?) ∧
    (∀ text, (d.replyTo text none).Succeeds → ∃ old more, d.results = .list old ∧
      (d.step (.submit text none)).dashboard.results = .list (old ++ more)) ∧
    (∀ text reply?, ¬(d.replyTo text reply?).Succeeds →
      Agree d (d.step (.submit text reply?)).dashboard) ∧
    ∀ text, ∃ status shown body, d.replyTo text none = .answered status shown body ∧
      (status = 200 ∨ status = 500) := by
  intro d typed shown told
  obtain ⟨b₀, results₀, last₀, fresh⟩ := replays_new settings
  obtain ⟨commands, b, results, last, h⟩ := fresh.after honest
  change d.commands = typed at commands
  change Replays settings d b results last at h
  have whole := spoken_of_clean h.clean
  have list : d.results = shown results := h.results_eq
  have pose : d.final = told last.pose? := h.final_eq.trans (finalJson_eq results last.pose?)
  refine ⟨?_, ?_, ⟨commands, ?_⟩, ?_, fun _ _ => agree_submit, ?_⟩
  · have e : simulate (.int b.width) (.int b.height) b.obstacles.cells d.commands =
        .ok ⟨results, last.pose?⟩ := by
      rw [simulate_eq_ok_iff, whole]
      exact ⟨last, h.course, rfl⟩
    rw [h.width_eq, h.height_eq, h.obstacles_eq] at e
    exact ⟨results, last.pose?, e, list, pose⟩
  · refine ⟨_, list, ?_⟩
    rw [← h.commands_eq, List.map_map, List.map_map]
    rfl
  · have start := Session.start_cells b
    rw [h.width_eq, h.height_eq, h.obstacles_eq] at start
    exact ⟨_, results, last, start, commands ▸ h.course, list, pose⟩
  · intro text success
    obtain ⟨_, more, last', ahead⟩ := h.submit success
    refine ⟨_, more.map CommandResult.toJson, h.results_eq, ?_⟩
    rw [ahead.results_eq, ← List.map_append]
    rfl
  · intro text
    rcases h.replyTo_none text with ⟨sim, shown, _, _, e⟩ | ⟨shown, body, e⟩
    · exact ⟨_, _, _, e, Or.inl rfl⟩
    · exact ⟨_, _, _, e, Or.inr rfl⟩

/-- A submit that is lost, one that is answered, and a click that comes too late. -/
theorem replay_is_faithful_beside_obstacle :
    let steps : List Step := [.click ⟨true, .exact (1 / 2), .exact (3 / 2), 1⟩,
      .submit "LEFT" (some (.unreachable "refused")), .submit "PLACE 0,0,NORTH; MOVE" none,
      .click ⟨true, .exact (1 / 2), .exact (3 / 2), 3⟩, .submit "REPORT" none]
    let d := (new .standard).after steps
    (∀ s ∈ steps, s.Honest) ∧ d.commands = ["PLACE 0,0,NORTH", "MOVE", "REPORT"] ∧
      ∃ results, simulate (.int 5) (.int 5) [⟨0, 1⟩] ["PLACE 0,0,NORTH", "MOVE", "REPORT"] =
          .ok ⟨results, some ⟨⟨0, 0⟩, .north⟩⟩ ∧
        d.final = .object [("x", .int 0), ("y", .int 0), ("orientation", .text "NORTH")] := by
  intro steps d
  have honest : ∀ s ∈ steps, s.Honest := by simp [steps, Step.Honest, Reply.Succeeds]
  have commands : d.commands = ["PLACE 0,0,NORTH", "MOVE", "REPORT"] := by decide +kernel
  have cells : d.obstacles.cells = [⟨0, 1⟩] := by decide +kernel
  obtain ⟨results, final, e, _, pose⟩ := (replay_is_faithful .standard steps honest).1
  change simulate (.int 5) (.int 5) d.obstacles.cells d.commands = _ at e
  rw [commands, cells] at e
  have ends : (simulate (.int 5) (.int 5) [⟨0, 1⟩]
      ["PLACE 0,0,NORTH", "MOVE", "REPORT"]).toOption.map Simulation.final =
      some (some ⟨⟨0, 0⟩, .north⟩) := by decide +kernel
  rw [e] at ends
  cases ends
  exact ⟨honest, commands, results, e, pose⟩

end Dashboard
end RobotGrid
