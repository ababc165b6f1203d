import RobotGrid.Proofs.Furnishing
import RobotGrid.Proofs.Pruning
import RobotGrid.Proofs.Rendering

set_option autoImplicit false

/-!
# Obstacles however they are declared

Obstacles come to a board from a list, or one by one from commands ahead of all others. A list
counts as the set of its cells. A command line puts the same cell on the board as an entry of the
list does, and is answered without a message. So the sessions are the same from there on, and leave
the same.
-/
namespace RobotGrid

theorem simulate_congr {width height : Scalar} {cells cells' : List Cell}
    (h : Session.start width height cells = Session.start width height cells')
    (commands : List String) :
    simulate width height cells commands = simulate width height cells' commands := by
  simp only [simulate, h]

def obstacleLines (cells : List Cell) : List String :=
  cells.map fun c => Instruction.render (.obstacle c)

def silentResults (lines : List String) : List CommandResult :=
  lines.map fun line => ⟨line, .ok none⟩

theorem reports_append (results more : List CommandResult) :
    reports (results ++ more) = reports results ++ reports more := List.filterMap_append

theorem reports_silentResults (lines : List String) : reports (silentResults lines) = [] := by
  induction lines with
  | nil => rfl
  | cons line lines ih => exact ih

namespace Session

theorem evaluate_obstacleLine {b u : Board} {c : Cell} (named : c.Nameable)
    (h : b.declare c = .ok u) :
    let e := (Session.mk b none).evaluate (Instruction.render (.obstacle c))
    e.session = ⟨u, none⟩ ∧ e.answer = .ok ⟨Instruction.render (.obstacle c), .ok none⟩ := by
  have reads := Instruction.read_obstacle_of_nameable named
  have act := act_obstacle_of_ok (s := ⟨b, none⟩) rfl h
  obtain ⟨session, answer⟩ := evaluate_of_read (s := ⟨b, none⟩) reads
  rw [act] at session answer
  rw [Instruction.trimmed_render_obstacle] at answer
  exact ⟨session, answer⟩

theorem course_obstacleLines {b u : Board} {cells : List Cell} (named : ∀ c ∈ cells, c.Nameable)
    (h : b.declareAll cells = .ok u) :
    Course ⟨b, none⟩ (obstacleLines cells) (silentResults (obstacleLines cells)) ⟨u, none⟩ := by
  induction cells generalizing b with
  | nil =>
    cases h
    exact .nil _
  | cons c cells ih =>
    obtain ⟨first, others⟩ := List.forall_mem_cons.1 named
    rw [Board.declareAll, List.foldlM_cons] at h
    cases e : b.declare c with
    | error f =>
      rw [e] at h
      cases h
    | ok t =>
      rw [e] at h
      obtain ⟨session, answer⟩ := evaluate_obstacleLine first e
      have rest := ih others h
      rw [← session] at rest
      exact .cons answer rest

theorem spoken_obstacleLines {b u : Board} {cells : List Cell} (named : ∀ c ∈ cells, c.Nameable)
    (h : b.declareAll cells = .ok u) : spoken (obstacleLines cells) = obstacleLines cells := by
  refine spoken_of_solid ((course_obstacleLines named h).solid_of_ok fun r hr => ?_)
  obtain ⟨line, _, rfl⟩ := List.mem_map.1 hr
  rfl

theorem run_obstacleLines {b u : Board} {extra : List Cell} (named : ∀ c ∈ extra, c.Nameable)
    (declared : b.declareAll extra = .ok u) : Session.run ⟨b, none⟩ (obstacleLines extra) =
      (⟨u, none⟩, .ok (silentResults (obstacleLines extra))) := by
  rw [run_eq_ok_iff, spoken_obstacleLines named declared]
  exact course_obstacleLines named declared

end Session

namespace Board

def ofCells {width height : Int} (wide : 0 < width) (high : 0 < height) {cells : List Cell}
    (inside : ∀ c ∈ cells, InRectangle width height c) : Board :=
  ⟨width, height, .ofList cells, wide, high, fun c hc => inside c (CellSet.mem_ofList.1 hc)⟩

theorem declareAll_ofCells {width height : Int} (wide : 0 < width) (high : 0 < height)
    {cells extra : List Cell} (inside : ∀ c ∈ cells, InRectangle width height c)
    (more : ∀ c ∈ extra, InRectangle width height c)
    (all : ∀ c ∈ cells ++ extra, InRectangle width height c) :
    (ofCells wide high inside).declareAll extra = .ok (ofCells wide high all) := by
  obtain ⟨t, e, width_eq, height_eq, obstacles⟩ :=
    declareAll_of_contains (b := ofCells wide high inside) more
  have members : t.obstacles = CellSet.ofList (cells ++ extra) := by
    rw [obstacles, CellSet.ofList, List.foldl_append]
    rfl
  rw [e]
  exact congrArg Except.ok (ext width_eq height_eq members)

end Board

theorem Session.start_ofCells {width height : Int} (wide : 0 < width) (high : 0 < height)
    {cells : List Cell} (inside : ∀ c ∈ cells, InRectangle width height c) :
    start (.int width) (.int height) cells = .ok ⟨.ofCells wide high inside, none⟩ :=
  start_of_blocks (b := .ofCells wide high inside) fun _ => CellSet.mem_ofList.symm

theorem simulate_obstacleLines {width height : Scalar} {cells cells' extra : List Cell}
    {b u : Board} (start : Session.start width height cells = .ok ⟨b, none⟩)
    (start' : Session.start width height cells' = .ok ⟨u, none⟩)
    (named : ∀ c ∈ extra, c.Nameable) (declared : b.declareAll extra = .ok u)
    (commands : List String) : simulate width height cells (obstacleLines extra ++ commands) =
      (simulate width height cells' commands).map fun listed =>
        ⟨silentResults (obstacleLines extra) ++ listed.results, listed.final⟩ := by
  have typed := Session.run_append (Session.run_obstacleLines named declared) commands
  rw [Session.simulate_of_run start typed, Session.simulate_of_run start' rfl]
  cases (Session.run ⟨u, none⟩ commands).2 <;> rfl

/-- On a rectangle, lists with the same cells give the same simulations. And a list of cells may
leave the declared obstacles and come as command lines ahead of the others: these lines are accepted
without a message, and all else that the simulation leaves stays, or both simulations fail alike.
Where the sides can be written and no overlong numeral is reached on a line, both answer. -/
theorem declared_obstacles_agree {width height : Int} (wide : 0 < width) (high : 0 < height)
    {cells : List Cell} (inside : ∀ c ∈ cells, InRectangle width height c) :
    (∀ cells', (∀ c, c ∈ cells ↔ c ∈ cells') → ∀ commands,
      simulate (.int width) (.int height) cells commands =
        simulate (.int width) (.int height) cells' commands) ∧
    ∀ extra, (∀ c ∈ extra, InRectangle width height c ∧ c.x ≤ 2147483647 ∧ c.y ≤ 2147483647) →
      ∀ commands,
        let lines := extra.map fun c => Instruction.render (.obstacle c)
        let typed := simulate (.int width) (.int height) cells (lines ++ commands)
        let listed := simulate (.int width) (.int height) (cells ++ extra) commands
        (∀ sim, listed = .ok sim → ∃ sim', typed = .ok sim' ∧
          sim'.results = (lines.map fun line => ⟨line, .ok none⟩) ++ sim.results ∧
          sim'.reports = sim.reports ∧ sim'.final = sim.final) ∧
        (∀ failure, typed = .error failure ↔ listed = .error failure) ∧
        (Text.Numeral.isWritten width = true → Text.Numeral.isWritten height = true →
          (∀ line ∈ commands, ∀ n, ¬Instruction.Excessive line n) → ∃ sim, listed = .ok sim) := by
  let b := Board.ofCells wide high inside
  have start : Session.start (.int width) (.int height) cells = .ok ⟨b, none⟩ :=
    Session.start_ofCells wide high inside
  refine ⟨fun cells' same commands => ?_, fun extra more commands => ?_⟩
  · have blocks : ∀ c, c ∈ cells' ↔ b.Blocks c := fun c =>
      (same c).symm.trans CellSet.mem_ofList.symm
    have start' : Session.start (.int width) (.int height) cells' = .ok ⟨b, none⟩ :=
      Session.start_of_blocks blocks
    exact simulate_congr (start.trans start'.symm) commands
  · have within : ∀ c ∈ extra, InRectangle width height c := fun c hc => (more c hc).1
    have all : ∀ c ∈ cells ++ extra, InRectangle width height c := by
      intro c hc
      exact (List.mem_append.1 hc).elim (inside c) (within c)
    have named : ∀ c ∈ extra, c.Nameable := by
      intro c hc
      obtain ⟨⟨left, _, below, _⟩, right, above⟩ := more c hc
      simp only [Cell.Nameable, Nameable]
      omega
    let u := Board.ofCells wide high all
    have declared : b.declareAll extra = .ok u :=
      Board.declareAll_ofCells wide high inside within all
    have start' : Session.start (.int width) (.int height) (cells ++ extra) = .ok ⟨u, none⟩ :=
      Session.start_ofCells wide high all
    intro lines typed listed
    have same : typed = listed.map _ := simulate_obstacleLines start start' named declared commands
    refine ⟨fun sim answered => ?_, fun failure => ?_, fun wideText highText read => ?_⟩
    · rw [answered] at same
      refine ⟨_, same, rfl, ?_, rfl⟩
      rw [Simulation.reports, Simulation.reports, reports_append, reports_silentResults,
        List.nil_append]
    · rw [same]
      cases listed <;> simp [Except.map]
    · have legible : Session.Legible ⟨u, none⟩ := Session.legible_of_bare rfl ⟨wideText, highText⟩
      obtain ⟨results, last, course⟩ :=
        Session.exists_course_iff.2 (Session.follows_spoken.2 (legible.follows_iff.2 read))
      exact ⟨⟨results, last.pose?⟩, (Session.simulate_iff_course start').2 ⟨last, course, rfl⟩⟩

/-- A cell that is named twice is declared once, and the robot is stopped by it all the same. -/
theorem declared_obstacles_agree_beside_robot :
    let cells : List Cell := [⟨0, 1⟩]
    let extra : List Cell := [⟨1, 1⟩, ⟨0, 1⟩, ⟨1, 1⟩]
    let commands := ["OBSTACLE 2,0", "PLACE 1,0,NORTH", "MOVE", "RIGHT", "REPORT"]
    (∀ c ∈ cells, InRectangle 3 2 c) ∧
    (∀ c ∈ extra, InRectangle 3 2 c ∧ c.x ≤ 2147483647 ∧ c.y ≤ 2147483647) ∧
    (∀ line ∈ commands, ∀ n, ¬Instruction.Excessive line n) ∧
    simulate (.int 3) (.int 2) cells commands =
      simulate (.int 3) (.int 2) [⟨0, 1⟩, ⟨0, 1⟩] commands ∧
    ∃ typed listed,
      simulate (.int 3) (.int 2) cells
        (["OBSTACLE 1,1", "OBSTACLE 0,1", "OBSTACLE 1,1"] ++ commands) = .ok typed ∧
      simulate (.int 3) (.int 2) [⟨0, 1⟩, ⟨1, 1⟩, ⟨0, 1⟩, ⟨1, 1⟩] commands = .ok listed ∧
      typed.results.length = 3 + listed.results.length ∧ typed.reports = listed.reports ∧
      typed.final = listed.final := by
  intro cells extra commands
  have inside : ∀ c ∈ cells, InRectangle 3 2 c := by decide
  have more : ∀ c ∈ extra, InRectangle 3 2 c ∧ c.x ≤ 2147483647 ∧ c.y ≤ 2147483647 := by decide
  have wide : (0 : Int) < 3 := by decide
  have high : (0 : Int) < 2 := by decide
  let s : Session := ⟨⟨3, 2, .ofList [⟨0, 1⟩], by decide, by decide, by decide⟩, none⟩
  have heard : s.Follows commands := by decide +kernel
  have written : s.table.Written := by decide
  have read : ∀ line ∈ commands, ∀ n, ¬Instruction.Excessive line n :=
    (Session.legible_of_bare rfl written).follows_iff.1 heard
  have same : ∀ c, c ∈ cells ↔ c ∈ [Cell.mk 0 1, Cell.mk 0 1] := by simp [cells]
  obtain ⟨lists, lines⟩ := declared_obstacles_agree wide high inside
  obtain ⟨agree, _, answers⟩ := lines extra more commands
  obtain ⟨listed, second⟩ := answers (by decide) (by decide) read
  obtain ⟨typed, first, results, reports, final⟩ := agree listed second
  refine ⟨inside, more, read, lists _ same commands, typed, listed, first, second, ?_, reports,
    final⟩
  rw [results, List.length_append]
  rfl

end RobotGrid
