import RobotGrid.Proofs.Picture

set_option autoImplicit false

/-!
# Obstacles that are not drawn

The board of a session takes obstacles from the list that is posted and from commands ahead of the
robot. A dashboard holds and draws those that were clicked, which are the posted ones. So the board
of the session that it shows has the drawn obstacles and those that only an accepted command has
declared, and a robot may be stopped by a cell of either kind. A typed obstacle that was not clicked
as well is not in the picture.
-/
namespace RobotGrid
open Session (Course)

theorem Board.blocks_of_allow {b : Board} {c d : Cell} {written : d.Written}
    (h : b.allow c = .error (.fault (.blocked d written))) : b.Blocks d := by
  have refused : ¬b.Free c := fun free => by
    rw [allow_eq_ok_iff.2 free] at h
    cases h
  rcases allow_cases refused with ⟨_, _, e⟩ | ⟨_, blocks, e⟩ | ⟨_, e⟩
  · rw [h] at e
    cases e
  · rw [h] at e
    cases e
    exact blocks
  · rw [h] at e
    cases e

namespace Session

/-- The cell that a refused placement finds blocked is an obstacle of the session. -/
theorem blocks_of_refused {s : Session} {line : String} {r : CommandResult} {c : Cell}
    {written : c.Written} (sound : s.Sound) (h : (s.evaluate line).answer = .ok r)
    (refused : r.outcome = .error (.placementRejected (.blocked c written))) :
    s.table.Blocks c := by
  rcases answer_cases h with ⟨f, unread, rfl⟩ | ⟨i, outcome, _, told, rfl⟩
  · cases refused
    cases Instruction.readFault_of_read unread
  · rw [show outcome = .error (.placementRejected (.blocked c written)) from refused] at told
    have acts := s.acts i
    generalize (s.act i).1 = s' at acts
    generalize (s.act i).2 = a at acts told
    cases acts with
    | setUp | unwritten => cases told
    | offBoard =>
      obtain ⟨_, other⟩ := Failure.raise_eq_fault (Except.error.inj told)
      cases other
    | driven ready executes =>
      subst told
      cases executes with
      | barred target barrier =>
        rw [← sound.board]
        exact Board.blocks_of_allow barrier

theorem Course.blocks_of_refused {s last : Session} {lines : List String}
    {results : List CommandResult} (h : Course s lines results last) (sound : s.Sound) :
    ∀ r ∈ results, ∀ c written,
      r.outcome = .error (.placementRejected (.blocked c written)) → last.table.Blocks c := by
  induction h with
  | nil => simp
  | @cons s last line lines r results e more ih =>
    refine List.forall_mem_cons.2 ⟨fun c _ refused => ?_, ih (sound.evaluate line)⟩
    -- Obstacles stay, whatever is evaluated behind.
    have there := Session.blocks_of_refused sound e refused
    exact ((Course.cons e more).accounts.blocks c).2 (Or.inl there)

end Session

namespace Dashboard

/-- Whatever is clicked, typed and cleared, if nobody but the service tells success: the board of
the session that evaluates the commands held has the obstacles that are drawn and counted in the
title, and beside them exactly those that accepted commands have declared. The picture has all of
them exactly if each obstacle that was typed with success was also clicked. A robot is stopped by an
obstacle that is drawn or by one that was typed. -/
theorem picture_lacks_typed_obstacles (settings : LegibleSettings) (steps : List Step)
    (honest : ∀ s ∈ steps, s.Honest) :
    let d := (new settings).after steps
    let sides := s!"{width settings}x{height settings}"
    let counted := d.picture.obstacles.size
    (∃ line, d.picture.title =
      s!"Tabletop {sides} | Obstacles: {counted} | Commands: {d.commands.length}" ++
        "\n" ++ line) ∧
    ∃ s results last,
      Session.start (.int (width settings)) (.int (height settings)) d.obstacles.cells = .ok s ∧
      Course s d.commands results last ∧
      d.results = Simulation.resultsJson ⟨results, last.pose?⟩ ∧
      (∀ c, last.table.Blocks c ↔ c ∈ d.picture.obstacles ∨
        ∃ r ∈ results, r.accepted? = some (.obstacle c)) ∧
      (d.picture.obstacles = last.table.obstacles ↔
        ∀ r ∈ results, ∀ c, r.accepted? = some (.obstacle c) → c ∈ d.picture.obstacles) ∧
      ∀ r ∈ results, ∀ c written, r.outcome = .error (.placementRejected (.blocked c written)) →
        c ∈ d.picture.obstacles ∨ ∃ r' ∈ results, r'.accepted? = some (.obstacle c) := by
  intro d sides counted
  obtain ⟨b₀, results₀, last₀, fresh⟩ := replays_new settings
  obtain ⟨_, b, results, last, h⟩ := fresh.after honest
  change Replays settings d b results last at h
  have shown : d.Shown := (shown_new settings).after fresh honest
  obtain ⟨line, robot, picture, _⟩ := h.picture_eq shown
  have drawn : d.picture.obstacles = d.obstacles := by rw [picture]
  have start := Session.start_cells b
  rw [h.width_eq, h.height_eq, h.obstacles_eq] at start
  have sources : ∀ c, last.table.Blocks c ↔ c ∈ d.picture.obstacles ∨
      ∃ r ∈ results, r.accepted? = some (.obstacle c) := by
    intro c
    rw [h.course.accounts.blocks, drawn, ← h.obstacles_eq]
    rfl
  have title : d.picture.title = caption settings d.picture.obstacles d.commands line := by
    rw [drawn, picture]
  refine ⟨⟨line, title⟩, _, results, last, start, h.course, h.results_eq, sources,
    ?_, ?_⟩
  · constructor
    · intro same r hr c accepted
      rw [same]
      exact (sources c).2 (Or.inr ⟨r, hr, accepted⟩)
    · intro clicked
      refine CellSet.ext fun c => ⟨fun mem => (sources c).2 (Or.inl mem), fun mem => ?_⟩
      rcases (sources c).1 mem with mem | ⟨r, hr, accepted⟩
      · exact mem
      · exact clicked r hr c accepted
  · intro r hr c written refused
    exact (sources c).1
      (h.course.blocks_of_refused (Session.sound_of_bare b) r hr c written refused)

/-- One obstacle is clicked and one is typed; the typed one stops the robot. -/
theorem picture_lacks_typed_obstacles_beside_clicked :
    let steps : List Step :=
      [.click ⟨true, .exact (3 / 2), .exact (1 / 2), 1⟩,
        .submit "OBSTACLE 0,1; PLACE 0,0,NORTH; MOVE" none]
    let d := (new .standard).after steps
    (∀ s ∈ steps, s.Honest) ∧ d.picture.obstacles.cells = [⟨1, 0⟩] ∧
      ∃ s results last, Session.start (.int 5) (.int 5) d.obstacles.cells = .ok s ∧
        Course s d.commands results last ∧ last.table.Blocks ⟨1, 0⟩ := by
  intro steps d
  have honest : ∀ s ∈ steps, s.Honest := by simp [steps, Step.Honest]
  have cells : d.picture.obstacles.cells = [⟨1, 0⟩] := by decide +kernel
  obtain ⟨_, s, results, last, start, course, _, sources, _⟩ :=
    picture_lacks_typed_obstacles .standard steps honest
  refine ⟨honest, cells, s, results, last, start, course, (sources _).2 (Or.inl ?_)⟩
  change _ ∈ d.picture.obstacles.cells
  rw [cells]
  exact List.mem_singleton_self _

/-- An obstacle that is typed with success stops the robot, and is neither drawn nor counted. -/
theorem typed_obstacle_is_not_drawn :
    let d := (new .standard).after [.submit "OBSTACLE 0,1; PLACE 0,0,NORTH; MOVE" none]
    d.commands = ["OBSTACLE 0,1", "PLACE 0,0,NORTH", "MOVE"] ∧ d.picture.obstacles.cells = [] ∧
      d.picture.title = "Tabletop 5x5 | Obstacles: 0 | Commands: 3\nRobot: 0,0,NORTH" ∧
      ∃ s results last, Session.start (.int 5) (.int 5) d.obstacles.cells = .ok s ∧
        Course s d.commands results last ∧ last.table.obstacles.cells = [⟨0, 1⟩] ∧
        ⟨"MOVE", .error (.placementRejected (.blocked ⟨0, 1⟩ (by decide)))⟩ ∈ results := by
  intro d
  let lines := ["OBSTACLE 0,1", "PLACE 0,0,NORTH", "MOVE"]
  have shown : (d.commands = lines ∧ d.obstacles.cells = []) ∧ d.picture.obstacles.cells = [] ∧
      d.picture.title = "Tabletop 5x5 | Obstacles: 0 | Commands: 3\nRobot: 0,0,NORTH" := by
    decide +kernel
  obtain ⟨⟨commands, cells⟩, drawn, title⟩ := shown
  let s : Session := ⟨⟨5, 5, .empty, by decide, by decide, fun c h => absurd h (by simp)⟩, none⟩
  have run : Session.run ⟨⟨5, 5, .empty, by decide, by decide, fun c h => absurd h (by simp)⟩, none⟩
      ["OBSTACLE 0,1", "PLACE 0,0,NORTH", "MOVE"] = (s.after lines, .ok
      [⟨"OBSTACLE 0,1", .ok none⟩, ⟨"PLACE 0,0,NORTH", .ok none⟩,
        ⟨"MOVE", .error (.placementRejected (.blocked ⟨0, 1⟩ (by decide)))⟩]) := rfl
  have spoken : Session.spoken lines = lines := by decide +kernel
  have course := Session.run_eq_ok_iff.1 run
  rw [spoken] at course
  refine ⟨commands, drawn, title, ?_⟩
  rw [commands, cells]
  exact ⟨_, _, _, rfl, course, by decide +kernel, by simp⟩

end Dashboard
end RobotGrid
