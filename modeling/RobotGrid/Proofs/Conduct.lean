import RobotGrid.Proofs.Evaluation
import RobotGrid.Proofs.Footing
import RobotGrid.Shelf

set_option autoImplicit false

/-!
# How a session acts

`Acts` is all that a session can do with an instruction. An obstacle that comes before the robot
goes to the board; everything else goes to the driver, which is the robot or, where there is none,
one made on the spot, and then the board has to be written first. Only this making outlasts a
failure: a line that fails leaves the session as it was, or equipped with a robot that is not placed
yet if the line needs one. The same holds one level below without any exception, for robots and for
boards.
-/
namespace RobotGrid

namespace Session

/-- A line that reads as an instruction other than an obstacle. -/
def NeedsRobot (line : String) : Prop :=
  ∃ i, Instruction.read line = .ok i ∧ i.keyword ≠ .obstacle

theorem needsRobot_of_read {line : String} {i : Instruction} (h : Instruction.read line = .ok i) :
    NeedsRobot line ↔ i.keyword ≠ .obstacle := by
  constructor
  · rintro ⟨j, e, hj⟩
    have same : i = j := Except.ok.inj (h.symm.trans e)
    exact same ▸ hj
  · exact fun hi => ⟨i, h, hi⟩

theorem not_needsRobot_of_error {line : String} {f : Failure}
    (h : Instruction.read line = .error f) : ¬NeedsRobot line := by
  rintro ⟨i, e, _⟩
  rw [h] at e
  cases e

instance (line : String) : Decidable (NeedsRobot line) :=
  match e : Instruction.read line with
  | .ok _ => decidable_of_iff _ (needsRobot_of_read e).symm
  | .error _ => .isFalse (not_needsRobot_of_error e)

def driver (s : Session) : Robot := s.robot.getD (Robot.create s.table)

def equip (s : Session) : Session := { s with robot := some s.driver }

theorem driver_of_some {s : Session} {r : Robot} (h : s.robot = some r) : s.driver = r := by
  rw [driver, h, Option.getD_some]

theorem driver_of_none {s : Session} (h : s.robot = none) : s.driver = Robot.create s.table := by
  rw [driver, h, Option.getD_none]

theorem equip_of_robot {s : Session} (h : s.robot ≠ none) : s.equip = s := by
  obtain ⟨r, e⟩ := Option.ne_none_iff_exists'.1 h
  rw [equip, driver_of_some e, ← e]

theorem equip_equip (s : Session) : s.equip.equip = s.equip :=
  equip_of_robot (Option.some_ne_none _)

theorem driver_pose (s : Session) : s.driver.pose = s.pose? := by
  cases h : s.robot with
  | none => rw [driver_of_none h, pose?, h]; rfl
  | some r => rw [driver_of_some h, pose?, h]; rfl

/-- The possible effects of an instruction on a session, and what is answered. -/
inductive Acts (s : Session) : Instruction → Session → Except Failure (Option String) → Prop where
  | setUp {c : Cell} {t : Board} (bare : s.robot = none) (h : s.table.declare c = .ok t) :
      Acts s (.obstacle c) { s with table := t } (.ok none)
  | offBoard {c : Cell} (bare : s.robot = none) (h : ¬s.table.Contains c) :
      Acts s (.obstacle c) s (.error (.obstacleOutOfBounds c))
  | driven {i : Instruction} {r : Robot} {a : Except Failure (Option String)}
      (ready : s.robot ≠ none ∨ i.keyword ≠ .obstacle ∧ s.table.Written)
      (h : s.driver.Executes i r a) : Acts s i { s with robot := some r } a
  | unwritten {i : Instruction} (bare : s.robot = none) (needs : i.keyword ≠ .obstacle)
      (h : ¬s.table.Written) : Acts s i s.equip (.error (.oversized .written))

theorem act_eq_execute {s : Session} {i : Instruction}
    (ready : s.robot ≠ none ∨ i.keyword ≠ .obstacle ∧ s.table.Written) :
    s.act i = ({ s with robot := some (s.driver.execute i).1 }, (s.driver.execute i).2) := by
  cases h : s.robot with
  | some r => rw [act_of_some h, driver_of_some h]
  | none =>
    obtain ⟨needs, written⟩ := ready.resolve_left (by simp [h])
    rw [act_of_none h needs, if_pos written, driver_of_none h]

theorem act_of_unwritten {s : Session} {i : Instruction} (bare : s.robot = none)
    (needs : i.keyword ≠ .obstacle) (h : ¬s.table.Written) :
    s.act i = (s.equip, .error (.oversized .written)) := by
  rw [act_of_none bare needs, if_neg h, equip, driver_of_none bare]

theorem act_obstacle_of_ok {s : Session} {c : Cell} {t : Board} (bare : s.robot = none)
    (h : s.table.declare c = .ok t) : s.act (.obstacle c) = ({ s with table := t }, .ok none) := by
  obtain ⟨table, robot⟩ := s
  subst bare
  simp only at h
  simp only [act, h]

theorem act_obstacle_of_outside {s : Session} {c : Cell} (bare : s.robot = none)
    (h : ¬s.table.Contains c) : s.act (.obstacle c) = (s, .error (.obstacleOutOfBounds c)) := by
  have refused := Board.declare_eq_error_iff.2 ⟨h, rfl⟩
  obtain ⟨table, robot⟩ := s
  subst bare
  simp only at refused
  simp only [act, refused]

theorem acts (s : Session) (i : Instruction) : Acts s i (s.act i).1 (s.act i).2 := by
  by_cases ready : s.robot ≠ none ∨ i.keyword ≠ .obstacle ∧ s.table.Written
  · rw [act_eq_execute ready]
    exact .driven ready (s.driver.executes i)
  · obtain ⟨bare, first⟩ := not_or.1 ready
    have bare : s.robot = none := Decidable.not_not.1 bare
    by_cases needs : i.keyword ≠ .obstacle
    · have unwritten : ¬s.table.Written := fun written => first ⟨needs, written⟩
      rw [act_of_unwritten bare needs unwritten]
      exact .unwritten bare needs unwritten
    · cases i with
      | obstacle c =>
        cases e : s.table.declare c with
        | ok t =>
          rw [act_obstacle_of_ok bare e]
          exact .setUp bare e
        | error f =>
          have outside := (Board.declare_eq_error_iff.1 e).1
          rw [act_obstacle_of_outside bare outside]
          exact .offBoard bare outside
      | place | move | left | right | report => exact absurd (by simp [Instruction.keyword]) needs

/-- Where an answer is told, an instruction that needs a robot is executed by the driver. -/
theorem act_eq_execute_of_told {s : Session} {i : Instruction}
    {told : Except Fault (Option String)} (h : (s.act i).2 = told.mapError .fault)
    (needs : s.robot ≠ none ∨ i.keyword ≠ .obstacle) :
    s.act i = ({ s with robot := some (s.driver.execute i).1 }, (s.driver.execute i).2) := by
  by_cases ready : s.robot ≠ none ∨ s.table.Written
  · refine act_eq_execute ?_
    rcases ready with robot | written
    · exact Or.inl robot
    · exact needs.imp_right fun needs => ⟨needs, written⟩
  · obtain ⟨bare, unwritten⟩ := not_or.1 ready
    have first := needs.resolve_left bare
    rw [act_of_unwritten (Decidable.not_not.1 bare) first unwritten] at h
    cases told <;> cases h

theorem evaluate_of_read {s : Session} {line : String} {i : Instruction}
    (h : Instruction.read line = .ok i) :
    (s.evaluate line).session = (s.act i).1 ∧
      (s.evaluate line).answer = answered (Text.trimmed line) (s.act i).2 :=
  evaluate_of_ok (Instruction.read_trimmed_eq_ok_iff.2 h)

theorem evaluate_of_unread {s : Session} {line : String} {f : Failure}
    (h : Instruction.read line = .error f) : (s.evaluate line).session = s := by
  obtain ⟨failure, e⟩ := Instruction.read_trimmed_fails_iff.2 ⟨f, h⟩
  exact (evaluate_of_error e).1

theorem accepted_of_ok {s : Session} {line : String} {r : CommandResult}
    (h : (s.evaluate line).answer = .ok r) (ok : r.ok = true) :
    ∃ i m, Instruction.read line = .ok i ∧ (s.act i).2 = .ok m ∧
      r = ⟨Text.trimmed line, .ok m⟩ := by
  rcases answer_cases h with ⟨f, _, rfl⟩ | ⟨i, outcome, e, told, rfl⟩
  · cases ok
  · cases outcome with
    | ok m => exact ⟨i, m, Instruction.read_trimmed_eq_ok_iff.1 e, told, rfl⟩
    | error f => cases ok

theorem Acts.of_error {s s' : Session} {i : Instruction} {f : Failure}
    (h : Acts s i s' (.error f)) : s' = if i.keyword ≠ .obstacle then s.equip else s := by
  cases h with
  | offBoard => rfl
  | @driven _ r _ ready executes =>
    -- The robot keeps its pose; what stays is that it is there.
    have kept : r = s.driver := by cases executes <;> rfl
    rw [kept]
    change s.equip = _
    split
    · rfl
    · rename_i obstacle
      exact equip_of_robot (ready.resolve_right fun ready => obstacle ready.1)
  | unwritten bare needs => rw [if_pos needs]

/-- A line fails if it is answered by a refusal or not at all. -/
def Fails (s : Session) (line : String) : Prop :=
  ∀ r, (s.evaluate line).answer = .ok r → r.ok = false

theorem fails_of_refused {s : Session} {line : String} {r : CommandResult}
    (h : (s.evaluate line).answer = .ok r) (refused : r.ok = false) : s.Fails line := by
  intro r' h'
  have same : r = r' := Except.ok.inj (h.symm.trans h')
  rw [← same]
  exact refused

instance (s : Session) (line : String) : Decidable (s.Fails line) :=
  match e : (s.evaluate line).answer with
  | .ok r => decidable_of_iff (r.ok = false) ⟨fails_of_refused e, fun h => h r e⟩
  | .error _ => .isTrue fun r h => by rw [e] at h; cases h

theorem evaluate_of_fails {s : Session} {line : String} (h : s.Fails line) :
    (s.evaluate line).session = if NeedsRobot line then s.equip else s := by
  cases e : Instruction.read line with
  | error f => rw [evaluate_of_unread e, if_neg (not_needsRobot_of_error e)]
  | ok i =>
    have acts := s.acts i
    cases verdict : (s.act i).2 with
    | ok m =>
      have answer := (evaluate_of_read (s := s) e).2
      rw [verdict] at answer
      cases h _ answer
    | error f =>
      rw [verdict] at acts
      rw [(evaluate_of_read e).1, acts.of_error]
      simp only [needsRobot_of_read e]

theorem declare_of_error {s : Session} {c : Cell} {f : Failure} (h : (s.declare c).2 = .error f) :
    (s.declare c).1 = s := by
  unfold declare at h ⊢
  cases e : s.table.declare c with
  | ok t =>
    rw [e] at h
    cases h
  | error f => rfl

end Session

theorem Robot.evaluate_of_read {r : Robot} {line : String} {i : Instruction}
    (h : Instruction.read line = .ok i) :
    r.evaluate line = r.execute i := by
  simp only [evaluate, h]

theorem Robot.evaluate_of_unread {r : Robot} {line : String} {f : Failure}
    (h : Instruction.read line = .error f) : r.evaluate line = (r, .error f) := by
  simp only [evaluate, h]

theorem Robot.evaluate_of_error {r : Robot} {line : String} {f : Failure}
    (h : (r.evaluate line).2 = .error f) : (r.evaluate line).1 = r := by
  unfold evaluate at h ⊢
  cases e : Instruction.read line with
  | error failure => rfl
  | ok i =>
    rw [e] at h
    exact execute_eq_of_error h

theorem Shelf.declare_of_error {shelf : Shelf} {n : Nat} {c : Cell} {f : Failure}
    (h : (shelf.handle (.declare n c)).2 = .error f) : (shelf.handle (.declare n c)).1 = shelf := by
  unfold handle at h ⊢
  cases found : shelf[n]? with
  | none => simp only [found]
  | some b =>
    cases e : b.declare c with
    | ok t =>
      simp only [found, e] at h
      cases h
    | error f => simp only [found, e]

theorem Workbench.declareOnSource_of_error {w : Workbench} {c : Cell} {f : Failure}
    (h : (w.handle (.declareOnSource c)).2 = .error f) :
    (w.handle (.declareOnSource c)).1 = w := by
  have kept : (w.shelf.handle (.declare w.source c)).1 = w.shelf := Shelf.declare_of_error h
  obtain ⟨shelf, source, own, views, pose, source_lt, own_lt⟩ := w
  simp only [handle, request, kept]

/-- A line that is refused or not answered changes neither the board nor a robot, and makes a robot
exactly if it needs one and there is none. A refused instruction or line leaves a robot as it was,
and a refused obstacle the board. -/
theorem failures_keep_state :
    (∀ (s : Session) (line : String), s.Fails line →
      (s.evaluate line).session.table = s.table ∧
      (∀ r, s.robot = some r → (s.evaluate line).session.robot = some r) ∧
      (s.robot = none → (s.evaluate line).session.robot =
        if Session.NeedsRobot line then some (Robot.create s.table) else none)) ∧
    (∀ (r : Robot) (i : Instruction) (f : Failure),
      (r.execute i).2 = .error f → (r.execute i).1 = r) ∧
    (∀ (r : Robot) (line : String) (f : Failure),
      (r.evaluate line).2 = .error f → (r.evaluate line).1 = r) ∧
    (∀ (s : Session) (c : Cell) (f : Failure), (s.declare c).2 = .error f → (s.declare c).1 = s) ∧
    (∀ (w : Workbench) (c : Cell) (f : Failure),
      (w.handle (.declareOnSource c)).2 = .error f → (w.handle (.declareOnSource c)).1 = w) ∧
    ∀ (shelf : Shelf) (n : Nat) (c : Cell) (f : Failure),
      (shelf.handle (.declare n c)).2 = .error f → (shelf.handle (.declare n c)).1 = shelf := by
  refine ⟨?_, fun _ _ _ => Robot.execute_eq_of_error, fun _ _ _ => Robot.evaluate_of_error,
    fun _ _ _ => Session.declare_of_error, fun _ _ _ => Workbench.declareOnSource_of_error,
    fun _ _ _ _ => Shelf.declare_of_error⟩
  intro s line fails
  have behind := Session.evaluate_of_fails fails
  by_cases needs : Session.NeedsRobot line
  · rw [if_pos needs] at behind
    rw [behind, if_pos needs]
    refine ⟨rfl, fun r h => ?_, fun h => ?_⟩
    · exact congrArg some (Session.driver_of_some h)
    · exact congrArg some (Session.driver_of_none h)
  · rw [if_neg needs] at behind
    rw [behind, if_neg needs]
    exact ⟨rfl, fun _ h => h, id⟩

/-- A move that comes too early makes the robot, a placement off the board moves no robot, and an
obstacle off the board is put on none. -/
theorem failures_keep_state_around_edge :
    let board : Board := ⟨3, 2, .empty, by decide, by decide, fun c h => absurd h (by simp)⟩
    let robot : Robot := ⟨board, some ⟨⟨2, 1⟩, .east⟩⟩
    let fresh : Session := ⟨board, none⟩
    let placed : Session := ⟨board, some robot⟩
    let bench := Workbench.ofBoard board
    let shelf : Shelf := [board]
    (fresh.Fails "MOVE" ∧ (fresh.evaluate "MOVE").session.robot = some ⟨board, none⟩) ∧
      (placed.Fails "PLACE 3,1,WEST" ∧
        (placed.evaluate "PLACE 3,1,WEST").session.robot = some robot) ∧
      (robot.execute .move).1 = robot ∧ (robot.evaluate "PLACE 3,1").1 = robot ∧
      (placed.declare ⟨3, 1⟩).1 = placed ∧ (bench.handle (.declareOnSource ⟨3, 1⟩)).1 = bench ∧
      (shelf.handle (.declare 0 ⟨3, 1⟩)).1 = shelf := by
  intro board robot fresh placed bench shelf
  have early : fresh.Fails "MOVE" := by decide +kernel
  have outside : placed.Fails "PLACE 3,1,WEST" := by decide +kernel
  obtain ⟨lines, execute, evaluate, declare, source, handle⟩ := failures_keep_state
  refine ⟨⟨early, ?_⟩, ⟨outside, ?_⟩, execute robot .move _ rfl, evaluate robot "PLACE 3,1" _ rfl,
    declare placed ⟨3, 1⟩ _ rfl, source bench ⟨3, 1⟩ _ rfl, handle shelf 0 ⟨3, 1⟩ _ rfl⟩
  · exact (lines fresh "MOVE" early).2.2 rfl
  · exact (lines placed "PLACE 3,1,WEST" outside).2.1 _ rfl

end RobotGrid
