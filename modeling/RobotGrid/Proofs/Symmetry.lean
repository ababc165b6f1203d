import Mathlib.Data.List.Forall2
import RobotGrid.Heading.Turn
import RobotGrid.Proofs.Footing

set_option autoImplicit false

/-!
# Boards seen from another side

A view tells a board in other coordinates: each cell, heading and turn by what it looks like from
there. The cells of the board become the cells of the board that is seen, and one step ahead looks
like one step ahead. A robot needs no more than this to look the same. Whatever instructions it
executes, the robot that is seen executes what they look like, the verdicts are the same, and behind
each instruction it is still the robot that is seen. A quarter turn and a mirror image are views.
-/
namespace RobotGrid

/-- Both are accepted, or refused with faults of one kind that have causes of one kind. -/
inductive SameVerdict :
    Except Failure (Option String) → Except Failure (Option String) → Prop where
  | accepted {m n : Option String} (h : m.isSome = n.isSome) : SameVerdict (.ok m) (.ok n)
  | refused {f g : Fault} (kind : f.kind = g.kind)
      (cause : f.cause.map Fault.kind = g.cause.map Fault.kind) :
      SameVerdict (.error (.fault f)) (.error (.fault g))

theorem Cell.eq_of_coordinates {c d : Cell} (x : c.x = d.x) (y : c.y = d.y) : c = d := by
  cases c
  cases d
  simp_all

def Heading.mirrored : Heading → Heading
  | .north => .north
  | .east => .west
  | .south => .south
  | .west => .east

def Turn.reversed : Turn → Turn
  | .left => .right
  | .right => .left

def Turn.instruction : Turn → Instruction
  | .left => .left
  | .right => .right

theorem Turn.cell?_instruction (t : Turn) : t.instruction.cell? = none := by cases t <;> rfl

/-- A board in other coordinates. -/
structure View (b : Board) where
  width : Int
  height : Int
  cell : Cell → Cell
  heading : Heading → Heading
  turn : Turn → Turn
  injective : ∀ c d, cell c = cell d → c = d
  inside : ∀ c, InRectangle width height (cell c) ↔ b.Contains c
  ahead : ∀ c o, cell (c.ahead o) = (cell c).ahead (heading o)
  heading_turn : ∀ o t, heading (o.turn t) = (heading o).turn (turn t)

namespace View
variable {b : Board} (v : View b)

theorem corner : InRectangle v.width v.height (v.cell ⟨0, 0⟩) :=
  (v.inside ⟨0, 0⟩).2 ⟨Int.le_refl 0, b.width_pos, Int.le_refl 0, b.height_pos⟩

def board : Board where
  width := v.width
  height := v.height
  obstacles := .ofList (b.obstacles.cells.map v.cell)
  width_pos := Int.lt_of_le_of_lt v.corner.1 v.corner.2.1
  height_pos := Int.lt_of_le_of_lt v.corner.2.2.1 v.corner.2.2.2
  inside := by
    intro c hc
    obtain ⟨d, hd, rfl⟩ := List.mem_map.1 (CellSet.mem_ofList.1 hc)
    exact (v.inside d).2 (b.inside d hd)

def pose (p : Pose) : Pose := ⟨v.cell p.cell, v.heading p.heading⟩

def robot (r : Robot) : Robot := ⟨v.board, r.pose.map v.pose⟩

/-- What an instruction looks like. An obstacle is refused wherever it is, and stays as it is. -/
def instruction : Instruction → Instruction
  | .place c o => .place (v.cell c) (v.heading o)
  | .left => (v.turn .left).instruction
  | .right => (v.turn .right).instruction
  | i => i

/-- The second robot is the first as it is seen, and their answers have the same verdict. -/
def Shows (s s' : Robot × Except Failure (Option String)) : Prop :=
  s'.1 = v.robot s.1 ∧ SameVerdict s.2 s'.2

/-- The second robot is the first as it is seen, and so are their answers where both can be told. -/
def ShowsTold (s s' : Robot × Except Failure (Option String)) : Prop :=
  s'.1 = v.robot s.1 ∧ (s.2 ≠ .error (.oversized .written) → s'.2 ≠ .error (.oversized .written) →
    SameVerdict s.2 s'.2)

theorem Shows.told {s s' : Robot × Except Failure (Option String)} (h : v.Shows s s') :
    v.ShowsTold s s' :=
  ⟨h.1, fun _ _ => h.2⟩

theorem blocks_board (c : Cell) : v.board.Blocks (v.cell c) ↔ b.Blocks c := by
  rw [Board.Blocks, board, CellSet.mem_ofList, List.mem_map]
  constructor
  · rintro ⟨d, hd, same⟩
    exact v.injective d c same ▸ hd
  · exact fun hc => ⟨c, hc, rfl⟩

end View

namespace Robot

theorem execute_turn_of_placed {r : Robot} {p : Pose} (h : r.pose = some p) (t : Turn) :
    r.execute t.instruction = ({ r with pose := some ⟨p.cell, p.heading.turn t⟩ }, .ok none) := by
  cases t with
  | left => exact execute_left h
  | right => exact execute_right h

theorem execute_turn_of_unplaced {r : Robot} (h : r.pose = none) (t : Turn) :
    r.execute t.instruction = (r, .error (.fault (.notPlaced t.instruction.keyword.name))) := by
  cases t <;> simp only [Turn.instruction, execute, h]

end Robot

namespace View
variable {b : Board} (v : View b)

theorem shows_refusal {r : Robot} (own : r.board = b) {t : Pose}
    {fault : ∀ c : Cell, c.Written → Fault} (kind : ∀ c d h g, (fault c h).kind = (fault d g).kind)
    (here : b.allow t.cell = .error (.raise t.cell.Written (fault t.cell)))
    (there : v.board.allow (v.cell t.cell) =
      .error (.raise (v.cell t.cell).Written (fault (v.cell t.cell)))) :
    v.ShowsTold (r.occupy t) ((v.robot r).occupy (v.pose t)) := by
  have refused : r.board.allow t.cell = _ := own ▸ here
  have refused' : (v.robot r).board.allow (v.pose t).cell = _ := there
  rw [Robot.occupy_of_refused refused, Robot.occupy_of_refused refused']
  refine ⟨rfl, fun told told' => ?_⟩
  have written : t.cell.Written := Decidable.not_not.1 fun far =>
    told (by rw [Failure.raise_of_not_writable far]; rfl)
  have written' : (v.cell t.cell).Written := Decidable.not_not.1 fun far =>
    told' (by rw [Failure.raise_of_not_writable far]; rfl)
  rw [Failure.raise_of_writable written, Failure.raise_of_writable written']
  exact .refused rfl (congrArg some (kind _ _ written written'))

theorem shows_occupy {r : Robot} (own : r.board = b) (t : Pose) :
    v.ShowsTold (r.occupy t) ((v.robot r).occupy (v.pose t)) := by
  by_cases inside : b.Contains t.cell
  · have inside' : v.board.Contains (v.cell t.cell) := (v.inside t.cell).2 inside
    by_cases blocked : b.Blocks t.cell
    · have blocked' : v.board.Blocks (v.cell t.cell) := (v.blocks_board t.cell).2 blocked
      exact v.shows_refusal own (fun _ _ _ _ => rfl) (Board.allow_of_blocks blocked)
        (Board.allow_of_blocks blocked')
    · have here : r.board.Free t.cell := own ▸ ⟨inside, blocked⟩
      have there : (v.robot r).board.Free (v.pose t).cell :=
        ⟨inside', mt (v.blocks_board t.cell).1 blocked⟩
      rw [Robot.occupy_of_free here, Robot.occupy_of_free there]
      exact Shows.told v ⟨rfl, .accepted rfl⟩
  · have outside : ¬v.board.Contains (v.cell t.cell) := mt (v.inside t.cell).1 inside
    exact v.shows_refusal own (fun _ _ _ _ => rfl) (Board.allow_of_not_contains inside)
      (Board.allow_of_not_contains outside)

theorem pose_ahead (p : Pose) : v.pose p.ahead = (v.pose p).ahead := by
  rw [pose, Pose.ahead, v.ahead]
  rfl

theorem shows_turn (r : Robot) (t : Turn) :
    v.Shows (r.execute t.instruction) ((v.robot r).execute (v.turn t).instruction) := by
  cases h : r.pose with
  | none =>
    have there : (v.robot r).pose = none := congrArg (Option.map v.pose) h
    rw [Robot.execute_turn_of_unplaced h, Robot.execute_turn_of_unplaced there]
    exact ⟨rfl, .refused rfl rfl⟩
  | some p =>
    have there : (v.robot r).pose = some (v.pose p) := congrArg (Option.map v.pose) h
    rw [Robot.execute_turn_of_placed h, Robot.execute_turn_of_placed there]
    refine ⟨?_, .accepted rfl⟩
    simp only [robot, pose, Option.map_some, v.heading_turn]

/-- One instruction, and what it looks like. -/
theorem shows_execute {r : Robot} (own : r.board = b) (i : Instruction) :
    v.ShowsTold (r.execute i) ((v.robot r).execute (v.instruction i)) := by
  cases i with
  | place c o => exact v.shows_occupy own ⟨c, o⟩
  | obstacle c => exact Shows.told v ⟨rfl, .refused rfl rfl⟩
  | left => exact Shows.told v (v.shows_turn r .left)
  | right => exact Shows.told v (v.shows_turn r .right)
  | move =>
    obtain ⟨board, pose⟩ := r
    cases pose with
    | none => exact Shows.told v ⟨rfl, .refused rfl rfl⟩
    | some p =>
      have occupies := v.shows_occupy (r := ⟨board, some p⟩) own p.ahead
      rw [v.pose_ahead] at occupies
      exact occupies
  | report =>
    obtain ⟨board, pose⟩ := r
    cases pose with
    | none => exact Shows.told v ⟨rfl, .refused rfl rfl⟩
    | some p =>
      have there : (v.robot ⟨board, some p⟩).pose = some (v.pose p) := rfl
      rw [Robot.execute_report (p := p) rfl]
      change v.ShowsTold _ ((v.robot ⟨board, some p⟩).execute .report)
      rw [Robot.execute_report there]
      refine ⟨rfl, fun told told' => ?_⟩
      have written : p.cell.Written := Decidable.not_not.1 fun far =>
        told (by rw [Pose.report_of_not_written far]; rfl)
      have written' : (v.pose p).cell.Written := Decidable.not_not.1 fun far =>
        told' (by rw [Pose.report_of_not_written far]; rfl)
      rw [Pose.report_of_written written, Pose.report_of_written written']
      exact .accepted rfl

theorem shows_trail {r : Robot} (own : r.board = b) (is : List Instruction) :
    List.Forall₂ v.ShowsTold (r.trail is) ((v.robot r).trail (is.map v.instruction)) := by
  induction is generalizing r with
  | nil => exact .nil
  | cons i is ih =>
    have step := v.shows_execute own i
    -- The robot keeps its board, so the view is also one of the robot behind the instruction.
    have rest := ih (r := (r.execute i).1) (by rw [Robot.execute_board, own])
    rw [← step.1] at rest
    exact .cons step rest

theorem written_instruction {i : Instruction}
    (named : ∀ c, i.cell? = some c → c.Written ∧ (v.cell c).Written) :
    ∀ c, (v.instruction i).cell? = some c → c.Written := by
  intro c hc
  cases i with
  | place d o =>
    cases hc
    exact (named d rfl).2
  | obstacle d =>
    cases hc
    exact (named _ rfl).1
  | move | report => cases hc
  | left | right =>
    rw [instruction, Turn.cell?_instruction] at hc
    cases hc

theorem shows_trail_of_written {r : Robot} (own : r.board = b) (l : r.Legible)
    (l' : (v.robot r).Legible) {is : List Instruction}
    (named : ∀ i ∈ is, ∀ c, i.cell? = some c → c.Written ∧ (v.cell c).Written) :
    List.Forall₂ v.Shows (r.trail is) ((v.robot r).trail (is.map v.instruction)) := by
  induction is generalizing r with
  | nil => exact .nil
  | cons i is ih =>
    obtain ⟨first, others⟩ := List.forall_mem_cons.1 named
    have step := v.shows_execute own i
    have told : (r.execute i).2 ≠ .error (.oversized .written) := fun e =>
      l.not_muted (fun c hc => (first c hc).1) (Robot.execute_eq_oversized_iff.1 e).2
    have told' : ((v.robot r).execute (v.instruction i)).2 ≠ .error (.oversized .written) :=
      fun e => l'.not_muted (v.written_instruction first) (Robot.execute_eq_oversized_iff.1 e).2
    have next := (r.executes i).legible l
    have next' := ((v.robot r).executes (v.instruction i)).legible l'
    rw [step.1] at next'
    have rest := ih (r := (r.execute i).1) (by rw [Robot.execute_board, own]) next next' others
    rw [← step.1] at rest
    exact .cons ⟨step.1, step.2 told told'⟩ rest

theorem shows_created (h : b.Written) (h' : v.board.Written) {is : List Instruction}
    (named : ∀ i ∈ is, ∀ c, i.cell? = some c → c.Written ∧ (v.cell c).Written) :
    List.Forall₂ v.Shows ((Robot.create b).trail is)
      ((Robot.create v.board).trail (is.map v.instruction)) := by
  have unplaced : ∀ b, (Robot.create b).Stands := fun b p hp => by cases hp
  exact v.shows_trail_of_written rfl ⟨h, unplaced b⟩ ⟨h', unplaced v.board⟩ named

end View

namespace Board

/-- Where a cell is after a quarter turn of the board to the left. -/
def turnedCell (b : Board) (c : Cell) : Cell := ⟨b.height - 1 - c.y, c.x⟩

/-- Where a cell is in the mirror image of the board. -/
def mirroredCell (b : Board) (c : Cell) : Cell := ⟨b.width - 1 - c.x, c.y⟩

variable {b : Board}

theorem turnedCell_injective (c d : Cell) (same : b.turnedCell c = b.turnedCell d) : c = d := by
  obtain ⟨y, x⟩ := Cell.mk.inj same
  exact Cell.eq_of_coordinates x (by omega)

theorem contains_turnedCell (c : Cell) :
    InRectangle b.height b.width (b.turnedCell c) ↔ b.Contains c := by
  simp only [turnedCell, Contains, InRectangle]
  omega

theorem turnedCell_ahead (c : Cell) (o : Heading) :
    b.turnedCell (c.ahead o) = (b.turnedCell c).ahead o.left := by
  refine Cell.eq_of_coordinates ?_ ?_
  · simp only [turnedCell, Cell.ahead, Cell.shift, Heading.delta_left]
    omega
  · simp only [turnedCell, Cell.ahead, Cell.shift, Heading.delta_left]

theorem mirroredCell_injective (c d : Cell) (same : b.mirroredCell c = b.mirroredCell d) :
    c = d := by
  obtain ⟨x, y⟩ := Cell.mk.inj same
  exact Cell.eq_of_coordinates (by omega) y

theorem contains_mirroredCell (c : Cell) :
    InRectangle b.width b.height (b.mirroredCell c) ↔ b.Contains c := by
  simp only [mirroredCell, Contains, InRectangle]
  omega

theorem mirroredCell_ahead (c : Cell) (o : Heading) :
    b.mirroredCell (c.ahead o) = (b.mirroredCell c).ahead o.mirrored := by
  refine Cell.eq_of_coordinates ?_ ?_
  · cases o <;>
      simp only [mirroredCell, Cell.ahead, Cell.shift, Heading.mirrored, Heading.delta] <;> omega
  · cases o <;> simp only [mirroredCell, Cell.ahead, Cell.shift, Heading.mirrored, Heading.delta]

/-- The board after a quarter turn to the left. -/
def quarterTurn (b : Board) : View b where
  width := b.height
  height := b.width
  cell := b.turnedCell
  heading := Heading.left
  turn := id
  injective := turnedCell_injective
  inside := contains_turnedCell
  ahead := turnedCell_ahead
  heading_turn := by
    intro o t
    cases o <;> cases t <;> rfl

/-- The mirror image of the board, in which east and west change places. -/
def mirrorImage (b : Board) : View b where
  width := b.width
  height := b.height
  cell := b.mirroredCell
  heading := Heading.mirrored
  turn := Turn.reversed
  injective := mirroredCell_injective
  inside := contains_mirroredCell
  ahead := mirroredCell_ahead
  heading_turn := by
    intro o t
    cases o <;> cases t <;> rfl

end Board

/-- A board has no preferred direction. A robot on the board after a quarter turn, and one on its
mirror image, that execute what the instructions look like from there are behind each instruction
what the robot on the board looks like. They accept the same instructions and refuse the others with
faults and causes of the same kinds, except where one of them is muted. That does not happen if the
sides of the board can be written and so can the cells that the instructions name, from either
side. -/
theorem no_preferred_direction (b : Board) (is : List Instruction) :
    (List.Forall₂ b.quarterTurn.ShowsTold ((Robot.create b).trail is)
        ((Robot.create b.quarterTurn.board).trail (is.map b.quarterTurn.instruction)) ∧
      List.Forall₂ b.mirrorImage.ShowsTold ((Robot.create b).trail is)
        ((Robot.create b.mirrorImage.board).trail (is.map b.mirrorImage.instruction))) ∧
    (∀ (r : Robot) (i : Instruction) (o : Oversized),
      (r.execute i).2 = .error (.oversized o) ↔ o = .written ∧ r.Muted i) ∧
    (b.Written →
      ((∀ i ∈ is, ∀ c, i.cell? = some c → c.Written ∧ (b.quarterTurn.cell c).Written) →
        List.Forall₂ b.quarterTurn.Shows ((Robot.create b).trail is)
          ((Robot.create b.quarterTurn.board).trail (is.map b.quarterTurn.instruction))) ∧
      ((∀ i ∈ is, ∀ c, i.cell? = some c → c.Written ∧ (b.mirrorImage.cell c).Written) →
        List.Forall₂ b.mirrorImage.Shows ((Robot.create b).trail is)
          ((Robot.create b.mirrorImage.board).trail (is.map b.mirrorImage.instruction)))) := by
  refine ⟨⟨b.quarterTurn.shows_trail rfl is, b.mirrorImage.shows_trail rfl is⟩,
    fun r i o => Robot.execute_eq_oversized_iff, fun written => ⟨?_, ?_⟩⟩
  · exact b.quarterTurn.shows_created written ⟨written.2, written.1⟩
  · exact b.mirrorImage.shows_created written written

/-- On a narrow board with an obstacle a robot passes the edge nowhere, from whichever side. -/
theorem no_preferred_direction_on_narrow_board :
    let b : Board := ⟨3, 2, .ofList [⟨1, 1⟩], by decide, by decide, by decide⟩
    let is : List Instruction := [.move, .place ⟨0, 1⟩ .east, .move, .right, .move, .move, .report,
      .place ⟨3, 0⟩ .west, .obstacle ⟨0, 0⟩]
    let turned := (Robot.create b.quarterTurn.board).trail (is.map b.quarterTurn.instruction)
    let mirrored := (Robot.create b.mirrorImage.board).trail (is.map b.mirrorImage.instruction)
    (b.quarterTurn.board.width = 2 ∧ b.quarterTurn.board.height = 3) ∧
    (turned.map fun s => s.1.pose) = [none, some ⟨⟨0, 0⟩, .north⟩, some ⟨⟨0, 0⟩, .north⟩,
      some ⟨⟨0, 0⟩, .east⟩, some ⟨⟨1, 0⟩, .east⟩, some ⟨⟨1, 0⟩, .east⟩, some ⟨⟨1, 0⟩, .east⟩,
      some ⟨⟨1, 0⟩, .east⟩, some ⟨⟨1, 0⟩, .east⟩] ∧
    List.Forall₂ b.quarterTurn.Shows ((Robot.create b).trail is) turned ∧
    List.Forall₂ b.mirrorImage.Shows ((Robot.create b).trail is) mirrored := by
  intro b is turned mirrored
  obtain ⟨_, _, strict⟩ := no_preferred_direction b is
  obtain ⟨quarter, mirror⟩ := strict (by decide)
  have named : ∀ i ∈ is, ∀ c, i.cell? = some c →
      c.Written ∧ (b.quarterTurn.cell c).Written ∧ (b.mirrorImage.cell c).Written := by
    have cells : ∀ c ∈ is.filterMap Instruction.cell?,
        c.Written ∧ (b.quarterTurn.cell c).Written ∧ (b.mirrorImage.cell c).Written := by
      decide +kernel
    exact fun i hi c hc => cells c (List.mem_filterMap.2 ⟨i, hi, hc⟩)
  refine ⟨⟨rfl, rfl⟩, by decide +kernel, quarter fun i hi c hc => ?_, mirror fun i hi c hc => ?_⟩
  · exact ⟨(named i hi c hc).1, (named i hi c hc).2.1⟩
  · exact ⟨(named i hi c hc).1, (named i hi c hc).2.2⟩

/-- A placement far below a board is refused, and after a quarter turn of the board it has no
answer. -/
theorem quarter_turn_mutes_far_placement :
    let b : Board := ⟨5, 5, .empty, by decide, by decide, fun c h => absurd h (by simp)⟩
    let place : Instruction := .place ⟨0, 1 - unwritten⟩ .north
    (∃ f, ((Robot.create b).execute place).2 = .error (.fault f) ∧
      f.kind = "PlacementRejected" ∧ f.cause.map Fault.kind = some "OutOfBounds") ∧
    ((Robot.create b.quarterTurn.board).execute (b.quarterTurn.instruction place)).2 =
      .error (.oversized .written) := by
  intro b place
  have large : 1 < unwritten := lt_unwritten (by decide)
  have below : ¬b.Contains ⟨0, 1 - unwritten⟩ := fun inside => by
    have bottom : 0 ≤ 1 - unwritten := inside.2.2.1
    omega
  have written : Cell.Written ⟨0, 1 - unwritten⟩ :=
    ⟨by decide, isWritten_iff_lt.2 (by simp only; omega)⟩
  have right : ¬b.quarterTurn.board.Contains ⟨4 - (1 - unwritten), 0⟩ := fun inside => by
    have edge : 4 - (1 - unwritten) < 5 := inside.2.1
    omega
  have far : ¬Cell.Written ⟨4 - (1 - unwritten), 0⟩ :=
    Board.not_written_of_unwritten_le (by omega)
  constructor
  · have refused := Robot.occupy_of_refused (r := Robot.create b)
      (t := ⟨⟨0, 1 - unwritten⟩, .north⟩) (Board.allow_of_not_contains below)
    rw [Failure.outOfBounds, Failure.raise_of_writable written] at refused
    exact ⟨_, congrArg Prod.snd refused, rfl, rfl⟩
  · have refused := Robot.occupy_of_refused (r := Robot.create b.quarterTurn.board)
      (t := ⟨⟨4 - (1 - unwritten), 0⟩, .west⟩) (Board.allow_of_not_contains right)
    rw [Failure.outOfBounds, Failure.raise_of_not_writable far] at refused
    exact congrArg Prod.snd refused

end RobotGrid
