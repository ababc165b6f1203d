import RobotGrid.Proofs.Conduct
import RobotGrid.Proofs.Furnishing

set_option autoImplicit false

/-!
# The setup phase of a session

A session is set up until the first line that needs a robot. Up to there its board takes the cells
of the obstacle lines that lie on it, and nothing else happens. That line makes the robot whether or
not it is accepted. From then on the robot keeps the board of that moment, and no line changes the
board of the session either; only the caller can still do that, and the robot does not notice.
-/
namespace RobotGrid
namespace Session

inductive Call where
  | evaluate (line : String)
  | declare (c : Cell)
  deriving DecidableEq

def call (s : Session) : Call → Session
  | .evaluate line => (s.evaluate line).session
  | .declare c => (s.declare c).1

def callAll (s : Session) (calls : List Call) : Session := calls.foldl call s

def after (s : Session) (lines : List String) : Session := s.callAll (lines.map .evaluate)

theorem call_evaluate (s : Session) (line : String) :
    s.call (.evaluate line) = (s.evaluate line).session := rfl

theorem callAll_cons (s : Session) (c : Call) (calls : List Call) :
    s.callAll (c :: calls) = (s.call c).callAll calls := List.foldl_cons

theorem after_cons (s : Session) (line : String) (lines : List String) :
    s.after (line :: lines) = (s.evaluate line).session.after lines := by
  simp only [after, List.map_cons, callAll_cons, call_evaluate]

theorem after_of_step {P : Session → Prop} (step : ∀ s line, P s → P (s.evaluate line).session)
    {s : Session} (h : P s) (lines : List String) : P (s.after lines) := by
  induction lines generalizing s with
  | nil => exact h
  | cons line lines ih =>
    rw [after_cons]
    exact ih (step s line h)

theorem Course.last_eq_after {s last : Session} {lines : List String}
    {results : List CommandResult} (h : Course s lines results last) : last = s.after lines := by
  induction h with
  | nil => rfl
  | cons e more ih =>
    rw [after_cons]
    exact ih

theorem after_spoken (s : Session) (lines : List String) :
    s.after (spoken lines) = s.after lines := by
  induction lines generalizing s with
  | nil => rfl
  | cons line lines ih =>
    cases blank : Text.blankText line with
    | true =>
      rw [spoken_cons_of_blank blank, after_cons,
        evaluate_of_unread (Instruction.read_of_blank blank), ih]
    | false =>
      rw [spoken_cons_of_solid blank, after_cons, after_cons, ih]

theorem run_eq_after {s last : Session} {lines : List String} {results : List CommandResult}
    (h : s.run lines = (last, .ok results)) : last = s.after lines := by
  rw [← after_spoken]
  exact (run_eq_ok_iff.1 h).last_eq_after

/-- A session without a robot whose board has taken the cells on it that the lines name. -/
structure SetUpBy (s : Session) (lines : List String) (s' : Session) : Prop where
  robot : s'.robot = none
  width : s'.table.width = s.table.width
  height : s'.table.height = s.table.height
  blocks : ∀ c, s'.table.Blocks c ↔ s.table.Blocks c ∨
    (∃ line ∈ lines, Instruction.read line = .ok (.obstacle c)) ∧ s.table.Contains c

theorem setUpBy_iff {s s' : Session} {lines : List String} : SetUpBy s lines s' ↔
    s'.robot = none ∧ s.table.Gains
      (fun c => ∃ line ∈ lines, Instruction.read line = .ok (.obstacle c)) s'.table :=
  ⟨fun h => ⟨h.robot, h.width, h.height, h.blocks⟩,
    fun ⟨robot, g⟩ => ⟨robot, g.width, g.height, g.blocks⟩⟩

theorem setUpBy_nil {s : Session} (h : s.robot = none) : SetUpBy s [] s :=
  setUpBy_iff.2 ⟨h, s.table.gains_self (by simp)⟩

theorem SetUpBy.trans {s s' s'' : Session} {lines more : List String} (h : SetUpBy s lines s')
    (h' : SetUpBy s' more s'') : SetUpBy s (lines ++ more) s'' := by
  obtain ⟨_, first⟩ := setUpBy_iff.1 h
  obtain ⟨robot, second⟩ := setUpBy_iff.1 h'
  refine setUpBy_iff.2 ⟨robot, (first.trans second).congr fun c => ?_⟩
  simp only [List.mem_append, or_and_right, exists_or]

theorem setUpBy_evaluate {s : Session} {line : String} (bare : s.robot = none)
    (quiet : ¬NeedsRobot line) : SetUpBy s [line] (s.evaluate line).session := by
  cases e : Instruction.read line with
  | error f =>
    rw [evaluate_of_unread e]
    exact setUpBy_iff.2 ⟨bare, s.table.gains_self (by simp [e])⟩
  | ok i =>
    rw [(evaluate_of_read e).1]
    rw [needsRobot_of_read e, Decidable.not_not] at quiet
    have acts := s.acts i
    generalize (s.act i).1 = s' at acts
    generalize (s.act i).2 = a at acts
    -- The instruction is an obstacle, so the board takes it or it lies off the board.
    cases acts with
    | setUp _ h =>
      exact setUpBy_iff.2 ⟨bare, (Board.gains_of_declare h).congr fun c => by simp [e, eq_comm]⟩
    | offBoard _ h =>
      exact setUpBy_iff.2 ⟨bare, (Board.gains_of_outside h).congr fun c => by simp [e, eq_comm]⟩
    | driven ready _ => exact absurd quiet (ready.resolve_left (not_not_intro bare)).1
    | unwritten _ needs _ => exact absurd quiet needs

theorem setUpBy_after {s : Session} {lines : List String} (bare : s.robot = none)
    (quiet : ∀ line ∈ lines, ¬NeedsRobot line) : SetUpBy s lines (s.after lines) := by
  induction lines generalizing s with
  | nil => exact setUpBy_nil bare
  | cons line lines ih =>
    obtain ⟨first, others⟩ := List.forall_mem_cons.1 quiet
    have step := setUpBy_evaluate bare first
    rw [after_cons]
    exact step.trans (ih step.robot others)

/-- Where there is a robot or one is needed, a line leaves the board of the session alone, and
behind it there is a robot on the driver's board. -/
theorem evaluate_keeps_boards {s : Session} {line : String}
    (h : s.robot ≠ none ∨ NeedsRobot line) : (s.evaluate line).session.table = s.table ∧
      ∃ r, (s.evaluate line).session.robot = some r ∧ r.board = s.driver.board := by
  cases e : Instruction.read line with
  | error f =>
    have robot : s.robot ≠ none := h.resolve_right (not_needsRobot_of_error e)
    obtain ⟨r, hr⟩ := Option.ne_none_iff_exists'.1 robot
    rw [evaluate_of_unread e, driver_of_some hr]
    exact ⟨rfl, r, hr, rfl⟩
  | ok i =>
    have ready : s.robot ≠ none ∨ i.keyword ≠ .obstacle := h.imp_right (needsRobot_of_read e).1
    have acts := s.acts i
    rw [(evaluate_of_read e).1]
    generalize (s.act i).1 = s' at acts
    generalize (s.act i).2 = a at acts
    cases acts with
    | setUp bare _ => exact absurd rfl (ready.resolve_left (not_not_intro bare))
    | offBoard bare _ => exact absurd rfl (ready.resolve_left (not_not_intro bare))
    | driven _ executes => exact ⟨rfl, _, rfl, executes.board⟩
    | unwritten => exact ⟨rfl, _, rfl, rfl⟩

theorem evaluate_obstacle_of_robot {s : Session} {line : String} {c : Cell} (h : s.robot ≠ none)
    (e : Instruction.read line = .ok (.obstacle c)) : (s.evaluate line).answer =
      .ok ⟨Text.trimmed line, .error (.unsupportedInContext "OBSTACLE")⟩ := by
  rw [(evaluate_of_read e).2, act_eq_execute (Or.inl h)]
  rfl

def Frozen (b : Board) (s : Session) : Prop := ∃ r, s.robot = some r ∧ r.board = b

theorem Frozen.robot {b : Board} {s : Session} (h : Frozen b s) : s.robot ≠ none := by
  obtain ⟨r, e, _⟩ := h
  rw [e]
  exact Option.some_ne_none r

theorem Frozen.call {b : Board} {s : Session} (h : Frozen b s) (c : Call) :
    Frozen b (s.call c) := by
  have robot := h.robot
  obtain ⟨r, e, board⟩ := h
  cases c with
  | evaluate line =>
    have needed : s.robot ≠ none ∨ NeedsRobot line := Or.inl robot
    obtain ⟨_, r', e', board'⟩ := evaluate_keeps_boards needed
    rw [call_evaluate]
    exact ⟨r', e', board'.trans (by rw [driver_of_some e, board])⟩
  | declare c =>
    have same : (s.declare c).1.robot = s.robot := by
      rw [declare]
      split <;> rfl
    exact ⟨r, same.trans e, board⟩

theorem Frozen.callAll {b : Board} {s : Session} (h : Frozen b s) (calls : List Call) :
    Frozen b (s.callAll calls) := by
  induction calls generalizing s with
  | nil => exact h
  | cons c calls ih =>
    rw [callAll_cons]
    exact ih (h.call c)

theorem table_callAll {b : Board} {s : Session} {calls : List Call} (h : Frozen b s)
    (lines : ∀ c, Call.declare c ∉ calls) : (s.callAll calls).table = s.table := by
  induction calls generalizing s with
  | nil => rfl
  | cons first calls ih =>
    cases first with
    | declare c => exact absurd List.mem_cons_self (lines c)
    | evaluate line =>
      have others : ∀ c, Call.declare c ∉ calls := fun c hc => lines c (List.mem_cons_of_mem _ hc)
      have kept : (s.evaluate line).session.table = s.table :=
        (evaluate_keeps_boards (Or.inl h.robot)).1
      rw [callAll_cons, ih (h.call _) others, call_evaluate, kept]

/-- Up to the first line that needs a robot there is none, and the board holds the cells that the
session was opened with and those on it that obstacle lines have named; a line that does not read
changes nothing. The line that needs a robot makes one on this board. Whatever is called later, the
robot is there and keeps the board, lines change the board of the session no more, and each line
that reads as an obstacle is refused. A batch is its lines one by one. -/
theorem setup_lasts_until_robot_needed {width height : Scalar} {cells : List Cell} {s : Session}
    (start : Session.start width height cells = .ok s) {before : List String}
    (quiet : ∀ line ∈ before, ¬NeedsRobot line) :
    let furnished := s.after before
    (furnished.robot = none ∧ width = .int furnished.table.width ∧
      height = .int furnished.table.height ∧ ∀ c, furnished.table.Blocks c ↔ c ∈ cells ∨
        (∃ line ∈ before, Instruction.read line = .ok (.obstacle c)) ∧ furnished.table.Contains c) ∧
    (∀ line f, Instruction.read line = .error f →
      (furnished.evaluate line).session = furnished) ∧
    (∀ line, NeedsRobot line →
      let made := (furnished.evaluate line).session
      (made.table = furnished.table ∧ ∃ r, made.robot = some r ∧ r.board = furnished.table) ∧
      ∀ calls, let later := made.callAll calls
        (∃ r, later.robot = some r ∧ r.board = furnished.table) ∧
        (∀ next, (later.evaluate next).session.table = later.table) ∧
        ((∀ c, Call.declare c ∉ calls) → later.table = furnished.table) ∧
        ∀ next c, Instruction.read next = .ok (.obstacle c) → (later.evaluate next).answer =
          .ok ⟨Text.trimmed next, .error (.unsupportedInContext "OBSTACLE")⟩) ∧
    ∀ lines last results, s.run lines = (last, .ok results) → last = s.after lines := by
  intro furnished
  obtain ⟨b, created, rfl⟩ := start_eq_ok start
  obtain ⟨hw, hh, listed⟩ := Board.create_eq_ok created
  have setUp : SetUpBy ⟨b, none⟩ before furnished := setUpBy_after rfl quiet
  refine ⟨⟨setUp.robot, ?_, ?_, fun c => ?_⟩, fun _ _ => evaluate_of_unread, ?_,
    fun _ _ _ => run_eq_after⟩
  · rw [hw, setUp.width]
  · rw [hh, setUp.height]
  · rw [setUp.blocks, listed, Board.Contains, Board.Contains, setUp.width, setUp.height]
  · intro line needs made
    obtain ⟨table, r, robot, board⟩ := evaluate_keeps_boards (Or.inr needs)
    rw [driver_of_none setUp.robot] at board
    have frozen : Frozen furnished.table made := ⟨r, robot, board⟩
    refine ⟨⟨table, frozen⟩, fun calls => ?_⟩
    have held : Frozen furnished.table (made.callAll calls) := frozen.callAll calls
    refine ⟨held, fun next => ?_, fun lines => ?_, fun next c => ?_⟩
    · exact (evaluate_keeps_boards (Or.inl held.robot)).1
    · exact (table_callAll frozen lines).trans table
    · exact evaluate_obstacle_of_robot held.robot

/-- The setup ends with a placement that is refused: the obstacle that a line names later is refused
too, and one that the caller puts on the board does not stand in the robot's way. -/
theorem setup_lasts_until_refused_placement :
    ∃ s, Session.start (.int 3) (.int 3) [⟨2, 2⟩] = .ok s ∧
      let before := ["OBSTACLE 1,1", "JUMP", "OBSTACLE 3,0", " "]
      let furnished := s.after before
      let made := (furnished.evaluate "PLACE 1,1,NORTH").session
      let later := made.callAll
        [.evaluate "OBSTACLE 0,0", .declare ⟨0, 1⟩, .evaluate "PLACE 0,1,EAST"]
      (∀ line ∈ before, ¬NeedsRobot line) ∧ furnished.table.obstacles.cells = [⟨1, 1⟩, ⟨2, 2⟩] ∧
        NeedsRobot "PLACE 1,1,NORTH" ∧ furnished.Fails "PLACE 1,1,NORTH" ∧
        later.table.Blocks ⟨0, 1⟩ ∧
        ∃ r, later.robot = some r ∧ r.board = furnished.table ∧ r.pose = some ⟨⟨0, 1⟩, .east⟩ := by
  have start : Session.start (.int 3) (.int 3) [⟨2, 2⟩] = .ok _ := rfl
  have quiet : ∀ line ∈ ["OBSTACLE 1,1", "JUMP", "OBSTACLE 3,0", " "], ¬NeedsRobot line := by
    decide +kernel
  have needs : NeedsRobot "PLACE 1,1,NORTH" := by decide +kernel
  obtain ⟨_, _, law, _⟩ := setup_lasts_until_robot_needed start quiet
  obtain ⟨r, robot, board⟩ := ((law _ needs).2 [.evaluate "OBSTACLE 0,0", .declare ⟨0, 1⟩,
    .evaluate "PLACE 0,1,EAST"]).1
  have placed : some r.pose = some (some ⟨⟨0, 1⟩, .east⟩) := by
    rw [← Option.map_some, ← robot]
    decide +kernel
  exact ⟨_, start, quiet, by decide +kernel, needs, by decide +kernel, by decide +kernel, r, robot,
    board, Option.some.inj placed⟩

end Session
end RobotGrid
