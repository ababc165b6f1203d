import Mathlib.Data.List.Forall2
import RobotGrid.Proofs.Answers

set_option autoImplicit false

/-!
# A session beside a robot

A session and a robot on the same board hear the same lines. As long as no line reads, the session
has no robot, and the other stays as it was made. The first line that reads makes the robot of the
session, unless it is an obstacle, and from then on both robots are the same. So the driver of the
session is the other robot behind every line, and a result tells what that robot has answered.
-/
namespace RobotGrid

def Robot.evaluateAll (r : Robot) : List String → Robot × List (Except Failure (Option String))
  | [] => (r, [])
  | line :: lines =>
    let (next, answer) := r.evaluate line
    let (last, answers) := next.evaluateAll lines
    (last, answer :: answers)

/-- A result is accepted with the message that a robot answers, or refused with the kind, the
category and the text of the robot's fault. -/
structure CommandResult.Tells (r : CommandResult) (a : Except Failure (Option String)) : Prop where
  accepted : ∀ m, r.ok = true ∧ r.message = m ↔ a = .ok m
  refused : ∀ kind category text,
    (r.ok = false ∧ r.error = some kind ∧ r.category = some category ∧ r.message = some text) ↔
      ∃ f, a = .error (.fault f) ∧ f.kind = kind ∧ f.category = category ∧ f.message = text

theorem CommandResult.tells_outcome (command : String) (outcome : Except Fault (Option String)) :
    CommandResult.Tells ⟨command, outcome⟩ (outcome.mapError .fault) := by
  cases outcome with
  | ok m =>
    constructor
    · simp [CommandResult.ok, CommandResult.message]
    · simp [CommandResult.ok]
  | error f =>
    constructor
    · simp [CommandResult.ok]
    · simp [CommandResult.ok, CommandResult.message, CommandResult.error, CommandResult.category]

def instructions (lines : List String) : List Instruction :=
  lines.filterMap fun line => (Instruction.read line).toOption

theorem instructions_cons_of_ok {line : String} {i : Instruction}
    (h : Instruction.read line = .ok i) (lines : List String) :
    instructions (line :: lines) = i :: instructions lines := by
  simp only [instructions, List.filterMap_cons, h, Except.toOption]

theorem instructions_cons_of_error {line : String} {f : Failure}
    (h : Instruction.read line = .error f) (lines : List String) :
    instructions (line :: lines) = instructions lines := by
  simp only [instructions, List.filterMap_cons, h, Except.toOption]

theorem Instruction.read_trimmed_of_solid {line : String} (h : Text.blankText line = false) :
    read (Text.trimmed line) = read line := by
  have solid : ∃ c ∈ line.toList, Text.isBlank c = false := by
    simpa [Text.blankText] using h
  obtain ⟨lead, word, rest, layout⟩ := Text.exists_layout solid
  simp only [read, words_trimmed, layout.words_eq]

namespace Session

theorem evaluate_beside {s : Session} {line : String} {r : CommandResult}
    (h : (s.evaluate line).answer = .ok r) (solid : Text.blankText line = false)
    (needs : ∀ i, Instruction.read line = .ok i → s.robot ≠ none ∨ i.keyword ≠ .obstacle) :
    (s.evaluate line).session.driver = (s.driver.evaluate line).1 ∧
      r.Tells (s.driver.evaluate line).2 := by
  have same := Instruction.read_trimmed_of_solid solid
  rcases answer_cases h with ⟨f, e, rfl⟩ | ⟨i, outcome, e, told, rfl⟩
  · rw [same] at e
    rw [evaluate_of_unread e, Robot.evaluate_of_unread e]
    exact ⟨rfl, CommandResult.tells_outcome _ (.error f)⟩
  · rw [same] at e
    have act := act_eq_execute_of_told told (needs i e)
    rw [act] at told
    rw [(evaluate_of_read e).1, Robot.evaluate_of_read e, act, told]
    exact ⟨driver_of_some rfl, CommandResult.tells_outcome _ _⟩

theorem Course.beside {s last : Session} {lines : List String} {results : List CommandResult}
    (h : Course s lines results last) (solid : ∀ line ∈ lines, Text.blankText line = false)
    (first : s.robot ≠ none ∨ ∀ c, (instructions lines).head? ≠ some (.obstacle c)) :
    last.driver = (s.driver.evaluateAll lines).1 ∧
      List.Forall₂ CommandResult.Tells results (s.driver.evaluateAll lines).2 := by
  induction h with
  | nil s => exact ⟨rfl, .nil⟩
  | @cons s last line lines r results e more ih =>
    obtain ⟨here, others⟩ := List.forall_mem_cons.1 solid
    have needs : ∀ i, Instruction.read line = .ok i → s.robot ≠ none ∨ i.keyword ≠ .obstacle := by
      intro i reads
      refine first.imp_right fun none => ?_
      rw [instructions_cons_of_ok reads, List.head?_cons] at none
      cases i with
      | obstacle c => exact absurd rfl (none c)
      | place | move | left | right | report => simp [Instruction.keyword]
    -- A line that does not read leaves the condition to the lines behind it; one that reads makes
    -- the robot.
    have next : (s.evaluate line).session.robot ≠ none ∨
        ∀ c, (instructions lines).head? ≠ some (.obstacle c) := by
      cases reads : Instruction.read line with
      | error f =>
        rw [evaluate_of_unread reads]
        rw [instructions_cons_of_error reads] at first
        exact first
      | ok i =>
        have needed : s.robot ≠ none ∨ NeedsRobot line :=
          (needs i reads).imp_right (needsRobot_of_read reads).2
        obtain ⟨_, r, robot, _⟩ := evaluate_keeps_boards needed
        rw [robot]
        exact Or.inl (Option.some_ne_none r)
    obtain ⟨driver, tells⟩ := evaluate_beside e here needs
    obtain ⟨end_eq, rest⟩ := ih others next
    rw [driver] at end_eq rest
    exact ⟨end_eq, .cons tells rest⟩

theorem follows_of_unread {s : Session} {lines : List String} (unread : instructions lines = [])
    (read : ∀ line ∈ lines, ∀ n, ¬Instruction.Excessive line n) : s.Follows lines := by
  induction lines generalizing s with
  | nil => exact follows_nil s
  | cons line lines ih =>
    obtain ⟨here, others⟩ := List.forall_mem_cons.1 read
    cases e : Instruction.read line with
    | ok i =>
      rw [instructions_cons_of_ok e] at unread
      cases unread
    | error f =>
      rw [instructions_cons_of_error e] at unread
      exact follows_cons.2 ⟨⟨here, not_speechless_of_unread e⟩, ih unread others⟩

theorem run_of_unwritten {s : Session} {lines : List String} (bare : s.robot = none)
    (unwritten : ¬s.table.Written) (solid : ∀ line ∈ lines, Text.blankText line = false)
    (read : ∀ line ∈ lines, ∀ n, ¬Instruction.Excessive line n) (some : instructions lines ≠ [])
    (first : ∀ c, (instructions lines).head? ≠ .some (.obstacle c)) :
    (s.run lines).2 = .error .written := by
  induction lines generalizing s with
  | nil => exact absurd rfl some
  | cons line lines ih =>
    obtain ⟨here, behind⟩ := List.forall_mem_cons.1 solid
    obtain ⟨short, others⟩ := List.forall_mem_cons.1 read
    cases e : Instruction.read line with
    | error f =>
      rw [instructions_cons_of_error e] at some first
      have same := evaluate_of_unread (s := s) e
      obtain ⟨r, answer⟩ := answer_eq_ok_iff.2 ⟨short, not_speechless_of_unread (s := s) e⟩
      have rest := ih bare unwritten behind others some first
      rw [run_cons_of_ok here answer, same, rest]
      rfl
    | ok i =>
      rw [instructions_cons_of_ok e, List.head?_cons] at first
      have needs : i.keyword ≠ .obstacle := by
        cases i with
        | obstacle c => exact absurd rfl (first c)
        | place | move | left | right | report => simp [Instruction.keyword]
      have making : s.Speechless line := .making bare ((needsRobot_of_read e).2 needs) unwritten
      rw [run_cons_of_speechless here making]

/-- A session on a board that is given by its sides and its obstacles hears lines of which none is
blank, none ends the reading, and the first that reads is no obstacle. If the sides of the board can
be written, or no line reads, then each line is answered, and the result tells what a robot made on
that board answers to the line. Behind the lines the robot of the session is that robot; if the
session has none, that robot is not placed. Otherwise the batch has no answer. -/
theorem session_tells_robot (b : Board) {cells : List Cell} (same : ∀ c, c ∈ cells ↔ b.Blocks c)
    {lines : List String} (solid : ∀ line ∈ lines, Text.blankText line = false)
    (read : ∀ line ∈ lines, ∀ n, ¬Instruction.Excessive line n)
    (first : ∀ c, (instructions lines).head? ≠ some (.obstacle c)) :
    ∃ s, Session.start (.int b.width) (.int b.height) cells = .ok s ∧
      (b.Written ∨ instructions lines = [] → ∃ results last,
        s.run lines = (last, .ok results) ∧ results.length = lines.length ∧
        let beside := (Robot.create b).evaluateAll lines
        List.Forall₂ CommandResult.Tells results beside.2 ∧
        (∀ r, last.robot = some r → r = beside.1) ∧
        (last.robot = none → beside.1.pose = none)) ∧
      (¬b.Written → instructions lines ≠ [] → (s.run lines).2 = .error .written) := by
  let s : Session := ⟨b, none⟩
  have start : Session.start (.int b.width) (.int b.height) cells = .ok s := start_of_blocks same
  refine ⟨s, start, fun told => ?_, fun unwritten some =>
    run_of_unwritten rfl unwritten solid read some first⟩
  have heard : s.Follows lines := by
    rcases told with written | unread
    · exact (legible_of_bare rfl written).follows_iff.2 read
    · exact follows_of_unread unread read
  obtain ⟨results, last, course⟩ := exists_course_iff.2 heard
  have spoke : Course s (spoken lines) results last := by
    rw [spoken_of_solid solid]
    exact course
  have driver : s.driver = Robot.create b := rfl
  obtain ⟨end_eq, tells⟩ := course.beside solid (Or.inr first)
  rw [driver] at end_eq tells
  refine ⟨results, last, run_eq_ok_iff.2 spoke, course.length_eq, tells, fun r robot => ?_,
    fun none => ?_⟩
  · rw [← end_eq, driver_of_some robot]
  · rw [← end_eq, driver_of_none none, Robot.create]

/-- Behind a line that does not read, a refused move makes the robot, and so the obstacle that comes
next is refused as well. -/
theorem session_tells_robot_of_late_obstacle :
    let b : Board := ⟨2, 2, .ofList [⟨1, 1⟩], by decide, by decide, by decide⟩
    let cells : List Cell := [⟨1, 1⟩, ⟨1, 1⟩]
    let lines := ["JUMP", " move", "OBSTACLE 0,0", "PLACE 0 , 0,north ", "REPORT"]
    (∀ c, c ∈ cells ↔ b.Blocks c) ∧ (∀ line ∈ lines, Text.blankText line = false) ∧
    (∀ line ∈ lines, ∀ n, ¬Instruction.Excessive line n) ∧
    (∀ c, (instructions lines).head? ≠ some (.obstacle c)) ∧ b.Written ∧
    ∃ s results last, Session.start (.int 2) (.int 2) cells = .ok s ∧
      s.run lines = (last, .ok results) ∧ results.length = 5 ∧
      List.Forall₂ CommandResult.Tells results ((Robot.create b).evaluateAll lines).2 ∧
      last.robot = some ⟨b, some ⟨⟨0, 0⟩, .north⟩⟩ ∧
      ((Robot.create b).evaluateAll lines).1 = ⟨b, some ⟨⟨0, 0⟩, .north⟩⟩ := by
  intro b cells lines
  have same : ∀ c, c ∈ cells ↔ b.Blocks c := by
    intro c
    change c ∈ cells ↔ c ∈ CellSet.ofList [⟨1, 1⟩]
    simp [cells]
  have solid : ∀ line ∈ lines, Text.blankText line = false := by decide +kernel
  have written : b.Written := by decide
  have heard : Session.Follows ⟨b, none⟩ lines := by decide +kernel
  have read := (legible_of_bare (s := ⟨b, none⟩) rfl written).follows_iff.1 heard
  have opening : (instructions lines).head? = some .move := by decide +kernel
  have first : ∀ c, (instructions lines).head? ≠ some (.obstacle c) := by
    rw [opening]
    simp
  obtain ⟨s, start, told, _⟩ := session_tells_robot b same solid read first
  obtain ⟨results, last, runs, size, tells, robot, _⟩ := told (Or.inl written)
  have fresh : s = ⟨b, none⟩ := (Except.ok.inj ((start_of_blocks same).symm.trans start)).symm
  have placed : (Session.run ⟨b, none⟩ lines).1.robot = some ⟨b, some ⟨⟨0, 0⟩, .north⟩⟩ := by
    decide +kernel
  have made : last.robot = some ⟨b, some ⟨⟨0, 0⟩, .north⟩⟩ := by
    rw [← placed, ← fresh, runs]
  exact ⟨same, solid, read, first, written, s, results, last, start, runs, size, tells, made,
    (robot _ made).symm⟩

/-- On a vast board a robot refuses to turn before it is placed, and a session has no answer. -/
theorem session_is_silent_where_robot_refuses :
    ∃ s, Session.start (.int Board.vast.width) (.int Board.vast.height) [] = .ok s ∧
      (s.run ["LEFT"]).2 = .error .written ∧
      ((Robot.create .vast).evaluate "LEFT").2 = .error (.fault (.notPlaced "LEFT")) := by
  have reads : Instruction.read "LEFT" = .ok .left := rfl
  have needs : NeedsRobot "LEFT" := ⟨.left, reads, by decide⟩
  have silent : Session.Speechless ⟨.vast, none⟩ "LEFT" := .making rfl needs Board.vast_not_written
  refine ⟨_, start_cells .vast, ?_, ?_⟩
  · rw [run_cons_of_speechless (by decide) silent]
  · rw [Robot.evaluate_of_read reads]
    rfl

end Session
end RobotGrid
