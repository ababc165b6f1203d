import RobotGrid.Proofs.Stock
import RobotGrid.Proofs.Writing
import RobotGrid.Workbench

set_option autoImplicit false

/-!
# Where a robot stands

`Executes` is all that one instruction can do to a robot. A pose is taken only after the board has
been asked, so a placed robot stands on a free cell of its own board; it keeps that board, and it is
never taken off again. Whatever a caller does to the boards that it holds, it does not reach the
robot's board: that one has a number which the caller is never told (`Apart`).
-/
namespace RobotGrid

/-- The instruction is refused, or asks for a report, and a coordinate has too many digits for it to
be told. -/
def Robot.Muted (r : Robot) (i : Instruction) : Prop :=
  (∃ t, r.target? i = some t ∧ ¬r.board.Free t.cell ∧ ¬t.cell.Written) ∨
    i = .report ∧ ∃ p, r.pose = some p ∧ ¬p.cell.Written

/-- The possible effects of an instruction on a robot, and what is answered. -/
inductive Robot.Executes (r : Robot) :
    Instruction → Robot → Except Failure (Option String) → Prop where
  | taken {i : Instruction} {t : Pose} (ht : r.target? i = some t) (free : r.board.Free t.cell) :
      Executes r i { r with pose := some t } (.ok none)
  | barred {i : Instruction} {t : Pose} {reason : Fault} (ht : r.target? i = some t)
      (e : r.board.allow t.cell = .error (.fault reason)) :
      Executes r i r (.error (.fault (.placementRejected reason)))
  | left {p : Pose} (h : r.pose = some p) :
      Executes r .left { r with pose := some p.turnLeft } (.ok none)
  | right {p : Pose} (h : r.pose = some p) :
      Executes r .right { r with pose := some p.turnRight } (.ok none)
  | report {p : Pose} {m : String} (h : r.pose = some p) (e : p.report = .ok m) :
      Executes r .report r (.ok (some m))
  | obstacle {c : Cell} :
      Executes r (.obstacle c) r (.error (.fault (.unsupportedInContext Keyword.obstacle.name)))
  | unplaced {i : Instruction} (h : r.pose = none) (hp : i.keyword ≠ .place)
      (ho : i.keyword ≠ .obstacle) : Executes r i r (.error (.fault (.notPlaced i.keyword.name)))
  | muted {i : Instruction} (h : r.Muted i) : Executes r i r (.error (.oversized .written))

namespace Robot

theorem execute_left {r : Robot} {p : Pose} (h : r.pose = some p) :
    r.execute .left = ({ r with pose := some p.turnLeft }, .ok none) := by
  simp only [execute, h]

theorem execute_right {r : Robot} {p : Pose} (h : r.pose = some p) :
    r.execute .right = ({ r with pose := some p.turnRight }, .ok none) := by
  simp only [execute, h]

theorem execute_move {r : Robot} {p : Pose} (h : r.pose = some p) :
    r.execute .move = r.occupy p.ahead := by
  simp only [execute, h]

theorem execute_report {r : Robot} {p : Pose} (h : r.pose = some p) :
    r.execute .report = (r, (p.report.mapError .oversized).map some) := by
  simp only [execute, h]

theorem execute_of_unplaced {r : Robot} {i : Instruction} (h : r.pose = none)
    (place : i.keyword ≠ .place) (obstacle : i.keyword ≠ .obstacle) :
    (r.execute i).2 = .error (.fault (.notPlaced i.keyword.name)) := by
  cases i with
  | place c o => exact absurd rfl place
  | obstacle c => exact absurd rfl obstacle
  | move | left | right | report => simp only [execute, h]

theorem occupy_of_refused {r : Robot} {t : Pose} {f : Failure}
    (h : r.board.allow t.cell = .error f) :
    r.occupy t = (r, .error (f.chain .placementRejected)) := by
  simp only [occupy, h]

theorem execute_of_target {r : Robot} {i : Instruction} {t : Pose} (h : r.target? i = some t) :
    r.execute i = r.occupy t := by
  cases i with
  | place c o =>
    cases h
    rfl
  | move =>
    obtain ⟨p, placed, rfl⟩ := Option.map_eq_some_iff.1 h
    exact execute_move placed
  | obstacle | left | right | report => cases h

theorem executes_of_target {r : Robot} {i : Instruction} {t : Pose} (ht : r.target? i = some t) :
    Executes r i (r.execute i).1 (r.execute i).2 := by
  rw [execute_of_target ht]
  by_cases free : r.board.Free t.cell
  · rw [occupy_of_free free]
    exact .taken ht free
  · obtain ⟨reason, refused, e'⟩ := occupy_of_not_free free
    rw [e']
    cases reason with
    | fault reason => exact .barred ht refused
    | oversized o =>
      obtain ⟨rfl, unwritten⟩ := Board.unwritten_of_allow refused
      exact .muted (Or.inl ⟨t, ht, free, unwritten⟩)

theorem executes (r : Robot) (i : Instruction) :
    Executes r i (r.execute i).1 (r.execute i).2 := by
  obtain ⟨board, pose⟩ := r
  cases i with
  | place c o => exact executes_of_target rfl
  | obstacle c => exact .obstacle
  | move =>
    cases pose with
    | none => exact .unplaced rfl (by decide) (by decide)
    | some p => exact executes_of_target rfl
  | left =>
    cases pose with
    | none => exact .unplaced rfl (by decide) (by decide)
    | some p => exact .left rfl
  | right =>
    cases pose with
    | none => exact .unplaced rfl (by decide) (by decide)
    | some p => exact .right rfl
  | report =>
    cases pose with
    | none => exact .unplaced rfl (by decide) (by decide)
    | some p =>
      rw [execute_report rfl]
      by_cases written : p.cell.Written
      · have told := Pose.report_of_written written
        rw [told]
        exact .report rfl told
      · rw [Pose.report_of_not_written written]
        exact .muted (Or.inr ⟨rfl, p, rfl, written⟩)

theorem execute_eq_oversized_iff {r : Robot} {i : Instruction} {o : Oversized} :
    (r.execute i).2 = .error (.oversized o) ↔ o = .written ∧ r.Muted i := by
  constructor
  · intro h
    have executes := r.executes i
    rw [h] at executes
    generalize (r.execute i).1 = r' at executes
    cases executes with
    | muted muted => exact ⟨rfl, muted⟩
  · rintro ⟨rfl, ⟨t, ht, refused, unwritten⟩ | ⟨rfl, p, hp, unwritten⟩⟩
    · rw [execute_of_target ht]
      rcases Board.allow_cases refused with ⟨written, _⟩ | ⟨written, _⟩ | ⟨_, e⟩
      · exact absurd written unwritten
      · exact absurd written unwritten
      · rw [occupy_of_refused e]
        rfl
    · rw [execute_report hp, Pose.report_of_not_written unwritten]
      rfl

/-- A robot that is placed stands on a free cell of its board. -/
def Stands (r : Robot) : Prop := ∀ p, r.pose = some p → r.board.Free p.cell

theorem Executes.stands {r r' : Robot} {i : Instruction} {a : Except Failure (Option String)}
    (h : Executes r i r' a) (s : r.Stands) : r'.Stands := by
  intro p hp
  cases h with
  | taken ht free =>
    cases hp
    exact free
  | left e =>
    have free := s _ e
    cases hp
    exact free
  | right e =>
    have free := s _ e
    cases hp
    exact free
  | barred | report | obstacle | unplaced | muted => exact s p hp

theorem Executes.placed {r r' : Robot} {i : Instruction} {a : Except Failure (Option String)}
    (h : Executes r i r' a) (placed : r.pose ≠ none) : r'.pose ≠ none := by
  cases h with
  | taken | left | right => exact Option.some_ne_none _
  | barred | report | obstacle | unplaced | muted => exact placed

/-- The sides of the board can be written, and the robot stands on it if it is placed. -/
structure Legible (r : Robot) : Prop where
  board : r.board.Written
  stands : r.Stands

/-- On a board with sides that can be written, whatever can be named is answered. -/
theorem Legible.not_muted {r : Robot} (l : r.Legible) {i : Instruction}
    (named : ∀ c, i.cell? = some c → c.Written) : ¬r.Muted i := by
  rintro (⟨t, ht, _, unwritten⟩ | ⟨rfl, p, hp, unwritten⟩)
  · cases i with
    | place c o =>
      cases ht
      exact unwritten (named c rfl)
    | move =>
      obtain ⟨p, hp, rfl⟩ := Option.map_eq_some_iff.1 ht
      exact unwritten (l.board.ahead (l.stands p hp).1 p.heading)
    | obstacle | left | right | report => cases ht
  · exact unwritten (l.board.of_contains (l.stands p hp).1)

theorem Executes.board {r r' : Robot} {i : Instruction} {a : Except Failure (Option String)}
    (h : Executes r i r' a) : r'.board = r.board := by
  cases h <;> rfl

theorem Executes.legible {r r' : Robot} {i : Instruction} {a : Except Failure (Option String)}
    (h : Executes r i r' a) (l : r.Legible) : r'.Legible :=
  ⟨h.board ▸ l.board, h.stands l.stands⟩

theorem evaluate_fst (r : Robot) (line : String) :
    (r.evaluate line).1 = r ∨ ∃ i, (r.evaluate line).1 = (r.execute i).1 := by
  unfold evaluate
  cases Instruction.read line with
  | error f => exact Or.inl rfl
  | ok i => exact Or.inr ⟨i, rfl⟩

@[simp] theorem evaluate_board (r : Robot) (line : String) :
    (r.evaluate line).1.board = r.board := by
  rcases r.evaluate_fst line with e | ⟨i, e⟩ <;> rw [e]
  exact r.execute_board i

def trail (r : Robot) : List Instruction → List (Robot × Except Failure (Option String))
  | [] => []
  | i :: is => r.execute i :: (r.execute i).1.trail is

end Robot

namespace Workbench

/-- The boards that the robot and the caller keep are different ones. -/
structure Apart (w : Workbench) : Prop where
  source : w.own ≠ w.source
  views : ∀ n ∈ w.views, n < w.shelf.length ∧ n ≠ w.own ∧ n ≠ w.source

theorem getElem?_own (w : Workbench) : w.shelf[w.own]? = some w.robot.board :=
  List.getElem?_eq_getElem w.own_lt

theorem getElem?_source (w : Workbench) : w.shelf[w.source]? = some w.sourceBoard :=
  List.getElem?_eq_getElem w.source_lt

theorem robot_eq_of {w : Workbench} {r : Robot} (board : w.shelf[w.own]? = some r.board)
    (pose : w.pose = r.pose) : w.robot = r := by
  rw [getElem?_own, Option.some.injEq] at board
  obtain ⟨b, p⟩ := r
  subst board pose
  rfl

theorem put_robot (w : Workbench) (r : Robot) : (w.put r).robot = r :=
  robot_eq_of (List.getElem?_set_self w.own_lt) rfl

theorem put_shelf {w : Workbench} {r : Robot} (same : r.board = w.robot.board) :
    (w.put r).shelf = w.shelf := by
  change w.shelf.set w.own r.board = w.shelf
  rw [same]
  exact List.set_getElem_self w.own_lt

theorem request_robot {w : Workbench} {q : ShelfRequest} (quiet : ∀ c, q ≠ .declare w.own c) :
    (w.request q).1.robot = w.robot :=
  robot_eq_of (Shelf.getElem?_handle w.getElem?_own quiet) rfl

theorem copy_own (w : Workbench) : w.shelf.handle (.copy w.own) =
    (w.shelf ++ [w.robot.board], .ok (.number w.shelf.length)) := Shelf.handle_copy w.getElem?_own

theorem length_put (w : Workbench) (r : Robot) : (w.put r).shelf.length = w.shelf.length :=
  List.length_set

theorem Apart.put {w : Workbench} (h : w.Apart) (r : Robot) : (w.put r).Apart :=
  ⟨h.source, by rw [length_put]; exact h.views⟩

theorem Apart.request {w : Workbench} (h : w.Apart) (q : ShelfRequest) : (w.request q).1.Apart where
  source := h.source
  views n mem := by
    obtain ⟨low, own, source⟩ := h.views n mem
    exact ⟨Nat.lt_of_lt_of_le low (w.shelf.length_le_handle q), own, source⟩

theorem Apart.look {w : Workbench} (h : w.Apart) : w.look.Apart where
  source := h.source
  views n mem := by
    rcases List.mem_append.1 mem with old | new
    · exact (h.request (.copy w.own)).views n old
    · -- The copy comes behind all boards, so its number is above those that are kept.
      have number : n = w.shelf.length := List.mem_singleton.1 new
      have length : w.look.shelf.length = w.shelf.length + 1 := by
        change (w.shelf.handle (.copy w.own)).1.length = _
        rw [copy_own, List.length_append]
        rfl
      rw [number, length]
      exact ⟨Nat.lt_succ_self _, Nat.ne_of_gt w.own_lt, Nat.ne_of_gt w.source_lt⟩

theorem apart_make {shelf : Shelf} {source : Nat} {views : List Nat} (h : source < shelf.length)
    (others : ∀ n ∈ views, n < shelf.length ∧ n ≠ source) : (make shelf source views h).Apart where
  source := Nat.ne_of_gt h
  views n mem := by
    obtain ⟨low, other⟩ := others n mem
    exact ⟨Nat.lt_of_lt_of_le low (shelf.length_le_handle _), Nat.ne_of_lt low, other⟩

theorem Apart.handle {w : Workbench} (h : w.Apart) (step : Handling) : (w.handle step).1.Apart := by
  cases step with
  | evaluate line => exact h.put _
  | execute i => exact h.put _
  | report => exact h
  | declareOnSource c => exact h.request _
  | look => exact h.look
  | declareOnView view c =>
    rw [Workbench.handle]
    split
    · exact h
    · exact h.request _
  | compare => exact (h.request _).request _
  | recreate =>
    refine apart_make w.source_lt fun n mem => ?_
    obtain ⟨low, _, other⟩ := h.views n mem
    exact ⟨low, other⟩

theorem look_robot (w : Workbench) : w.look.robot = w.robot :=
  request_robot (q := .copy w.own) fun c => by simp

theorem compare_robot (w : Workbench) : (w.handle .compare).1.robot = w.robot := by
  refine (request_robot (w := (w.request (.copy w.own)).1) fun c => by simp).trans ?_
  exact request_robot fun c => by simp

theorem Apart.view_robot {w : Workbench} (h : w.Apart) (view : Nat) (c : Cell) :
    (w.handle (.declareOnView view c)).1.robot = w.robot := by
  rw [Workbench.handle]
  split
  · rfl
  · rename_i n found
    obtain ⟨_, own, _⟩ := h.views n (List.mem_of_getElem? found)
    exact request_robot fun d => by simp [own]

theorem Apart.handle_robot {w : Workbench} (h : w.Apart) {step : Handling}
    (kept : step ≠ .recreate) : (w.handle step).1.robot = w.robot ∨
      ∃ i, (w.handle step).1.robot = (w.robot.execute i).1 := by
  cases step with
  | evaluate line =>
    change (w.put _).robot = _ ∨ ∃ i, (w.put _).robot = _
    rw [put_robot]
    exact w.robot.evaluate_fst line
  | execute i => exact Or.inr ⟨i, w.put_robot _⟩
  | report => exact Or.inl rfl
  | declareOnSource c => exact Or.inl (request_robot fun d => by simp [h.source.symm])
  | look => exact Or.inl w.look_robot
  | declareOnView view c => exact Or.inl (h.view_robot view c)
  | compare => exact Or.inl w.compare_robot
  | recreate => exact absurd rfl kept

theorem apart_ofBoard (source : Board) : (ofBoard source).Apart :=
  apart_make Nat.one_pos fun _ mem => absurd mem List.not_mem_nil

def handleAll (w : Workbench) (steps : List Handling) : Workbench :=
  steps.foldl (fun w h => (w.handle h).1) w

theorem handleAll_cons (w : Workbench) (h : Handling) (steps : List Handling) :
    w.handleAll (h :: steps) = (w.handle h).1.handleAll steps := List.foldl_cons

theorem handleAll_append (w : Workbench) (steps more : List Handling) :
    w.handleAll (steps ++ more) = (w.handleAll steps).handleAll more :=
  List.foldl_append

theorem Apart.handleAll {w : Workbench} (h : w.Apart) (steps : List Handling) :
    (w.handleAll steps).Apart := by
  induction steps generalizing w with
  | nil => exact h
  | cons step steps ih => exact ih (h.handle step)

/-- What holds of a robot and survives every instruction survives a caller's steps. -/
theorem Apart.handleAll_robot {P : Robot → Prop} (step : ∀ r i, P r → P (r.execute i).1)
    {w : Workbench} (apart : w.Apart) {steps : List Handling} (kept : Handling.recreate ∉ steps)
    (h : P w.robot) : P (w.handleAll steps).robot := by
  induction steps generalizing w with
  | nil => exact h
  | cons s steps ih =>
    have first : s ≠ .recreate := fun e => kept (e ▸ List.mem_cons_self)
    have others : Handling.recreate ∉ steps := fun e => kept (List.mem_cons_of_mem s e)
    refine ih (apart.handle s) others ?_
    -- As the boards are apart, only the robot's own steps reach it, each by one instruction.
    rcases apart.handle_robot first with same | ⟨i, moved⟩
    · rw [same]
      exact h
    · rw [moved]
      exact step w.robot i h

theorem board_handleAll (source : Board) {steps : List Handling}
    (kept : Handling.recreate ∉ steps) :
    ((ofBoard source).handleAll steps).robot.board = source := by
  refine (apart_ofBoard source).handleAll_robot (P := fun r => r.board = source) ?_ kept rfl
  intro r i h
  rw [Robot.execute_board, h]

/-- Behind every step the robot's board is the source board as it was when the robot was made, a
placed robot is inside it and on no obstacle of it, and a robot once placed stays placed. -/
theorem robot_keeps_footing (source : Board) (steps : List Handling)
    (kept : Handling.recreate ∉ steps) :
    let r := ((ofBoard source).handleAll steps).robot
    (r.board.width = source.width ∧ r.board.height = source.height ∧
      ∀ c, c ∈ r.board.obstacles ↔ c ∈ source.obstacles) ∧
    (∀ p, r.pose = some p → 0 ≤ p.cell.x ∧ p.cell.x < r.board.width ∧ 0 ≤ p.cell.y ∧
      p.cell.y < r.board.height ∧ p.cell ∉ r.board.obstacles) ∧
    (r.pose ≠ none → ∀ more, Handling.recreate ∉ more →
      ((ofBoard source).handleAll (steps ++ more)).robot.pose ≠ none) := by
  intro r
  have apart := apart_ofBoard source
  have board : r.board = source := board_handleAll source kept
  have stands : r.Stands := by
    refine apart.handleAll_robot (fun r i h => (r.executes i).stands h) kept ?_
    intro p hp
    cases hp
  refine ⟨?_, ?_, ?_⟩
  · rw [board]
    exact ⟨rfl, rfl, fun c => Iff.rfl⟩
  · intro p hp
    obtain ⟨⟨left, right, below, above⟩, clear⟩ := stands p hp
    exact ⟨left, right, below, above, clear⟩
  · intro placed more kept'
    rw [handleAll_append]
    refine (apart.handleAll steps).handleAll_robot (P := fun r => r.pose ≠ none) ?_ kept' placed
    exact fun r i h => (r.executes i).placed h

/-- An obstacle that comes late, on the source or on a copy of the robot's board, does not stop the
robot, and the edge does. -/
theorem robot_keeps_footing_at_edge :
    let source : Board := ⟨2, 1, .empty, by decide, by decide, fun c h => absurd h (by simp)⟩
    let steps : List Handling := [.execute (.place ⟨0, 0⟩ .east), .declareOnSource ⟨1, 0⟩, .look,
      .declareOnView 0 ⟨1, 0⟩, .execute .move, .execute .move, .report]
    let w := (ofBoard source).handleAll steps
    Handling.recreate ∉ steps ∧ w.robot.pose = some ⟨⟨1, 0⟩, .east⟩ ∧
      ⟨1, 0⟩ ∈ w.sourceBoard.obstacles ∧ ⟨1, 0⟩ ∉ w.robot.board.obstacles := by
  intro source steps
  have kept : Handling.recreate ∉ steps := by decide
  have pose : ((ofBoard source).handleAll steps).robot.pose = some ⟨⟨1, 0⟩, .east⟩ := by decide
  have footing := (robot_keeps_footing source steps kept).2.1 _ pose
  exact ⟨kept, pose, by decide, footing.2.2.2.2⟩

end Workbench
end RobotGrid
