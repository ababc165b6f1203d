import RobotGrid.Session

set_option autoImplicit false

/-!
# Boards from listed cells

Cells are accepted one after the other if and only if all lie in the rectangle, and a board that is
made holds the cells that were listed. So a session starts on exactly the board whose cells are
listed, in whatever order and however often. What a board has taken since, one cell after the other,
is told by `Gains`.
-/
namespace RobotGrid

namespace Board

theorem declare_of_contains {b : Board} {c : Cell} (h : b.Contains c) :
    ∃ t, b.declare c = .ok t ∧ t.width = b.width ∧ t.height = b.height ∧
      t.obstacles = b.obstacles.insert c := by
  cases e : b.declare c with
  | error f => exact absurd h (declare_eq_error_iff.1 e).1
  | ok t => exact ⟨t, rfl, (declare_eq_ok e).2⟩

theorem declareAll_of_contains {b : Board} {cells : List Cell} (h : ∀ c ∈ cells, b.Contains c) :
    ∃ t, b.declareAll cells = .ok t ∧ t.width = b.width ∧ t.height = b.height ∧
      t.obstacles = cells.foldl CellSet.insert b.obstacles := by
  induction cells generalizing b with
  | nil => exact ⟨b, rfl, rfl, rfl, rfl⟩
  | cons c cells ih =>
    obtain ⟨t, e, width, height, obstacles⟩ := declare_of_contains (h c List.mem_cons_self)
    have others : ∀ d ∈ cells, t.Contains d := by
      intro d hd
      have inside := h d (List.mem_cons_of_mem c hd)
      rw [Contains, width, height]
      exact inside
    obtain ⟨u, e', width', height', obstacles'⟩ := ih others
    refine ⟨u, ?_, width'.trans width, height'.trans height, ?_⟩
    · rw [declareAll, List.foldlM_cons, e]
      exact e'
    · rw [obstacles', obstacles, List.foldl_cons]

theorem contains_of_declareAll {b t : Board} {cells : List Cell} (h : b.declareAll cells = .ok t) :
    ∀ c ∈ cells, b.Contains c := by
  induction cells generalizing b with
  | nil => simp
  | cons c cells ih =>
    rw [declareAll, List.foldlM_cons] at h
    cases e : b.declare c with
    | error f =>
      rw [e] at h
      cases h
    | ok u =>
      rw [e] at h
      obtain ⟨inside, width, height, _⟩ := declare_eq_ok e
      have others := ih (b := u) h
      simp only [Contains, width, height] at others
      exact List.forall_mem_cons.2 ⟨inside, others⟩

theorem declareAll_of_outside {b : Board} {before after : List Cell} {c : Cell}
    (inside : ∀ d ∈ before, b.Contains d) (outside : ¬b.Contains c) :
    b.declareAll (before ++ c :: after) = .error (.obstacleOutOfBounds c) := by
  obtain ⟨t, e, width, height, _⟩ := declareAll_of_contains inside
  have refused : t.declare c = .error (.obstacleOutOfBounds c) := by
    refine declare_eq_error_iff.2 ⟨?_, rfl⟩
    rw [Contains, width, height]
    exact outside
  rw [declareAll] at e
  rw [declareAll, List.foldlM_append, e]
  change (c :: after).foldlM declare t = _
  rw [List.foldlM_cons, refused]
  rfl

theorem bare_of_not_positive {width height : Int} (h : ¬(0 < width ∧ 0 < height)) :
    bare (.int width) (.int height) = .error (.invalidDimensions (.int width) (.int height)) := by
  rw [bare, dif_neg h]

theorem create_of_outside {width height : Int} (wide : 0 < width) (high : 0 < height)
    {before after : List Cell} {c : Cell} (inside : ∀ d ∈ before, InRectangle width height d)
    (outside : ¬InRectangle width height c) :
    create (.int width) (.int height) (before ++ c :: after) = .error (.obstacleOutOfBounds c) := by
  let empty : Board :=
    ⟨width, height, .empty, wide, high, fun c hc => absurd hc (CellSet.not_mem_empty c)⟩
  rw [create, bare, dif_pos ⟨wide, high⟩]
  exact declareAll_of_outside (b := empty) inside outside

theorem bare_eq_ok {width height : Scalar} {b : Board} (h : bare width height = .ok b) :
    width = .int b.width ∧ height = .int b.height ∧ b.obstacles = .empty := by
  unfold bare at h
  split at h
  · split at h
    · cases h
      exact ⟨rfl, rfl, rfl⟩
    · cases h
  · cases h

theorem create_eq_ok {width height : Scalar} {cells : List Cell} {t : Board}
    (h : create width height cells = .ok t) :
    width = .int t.width ∧ height = .int t.height ∧ ∀ c, t.Blocks c ↔ c ∈ cells := by
  rw [create] at h
  cases e : bare width height with
  | error f =>
    rw [e] at h
    cases h
  | ok b =>
    rw [e] at h
    change b.declareAll cells = .ok t at h
    obtain ⟨hw, hh, empty⟩ := bare_eq_ok e
    obtain ⟨u, made, width', height', obstacles⟩ :=
      declareAll_of_contains (contains_of_declareAll h)
    rw [h] at made
    cases made
    refine ⟨hw.trans (congrArg _ width'.symm), hh.trans (congrArg _ height'.symm), fun c => ?_⟩
    rw [Blocks, obstacles, empty]
    exact CellSet.mem_ofList

theorem create_of_blocks {b : Board} {cells : List Cell} (same : ∀ c, c ∈ cells ↔ b.Blocks c) :
    create (.int b.width) (.int b.height) cells = .ok b := by
  have sides : 0 < b.width ∧ 0 < b.height := ⟨b.width_pos, b.height_pos⟩
  rw [create, bare, dif_pos sides]
  let empty : Board := ⟨b.width, b.height, .empty, sides.1, sides.2,
    fun c hc => absurd hc (CellSet.not_mem_empty c)⟩
  have inside : ∀ c ∈ cells, empty.Contains c := fun c hc => b.inside c ((same c).1 hc)
  obtain ⟨t, e, width, height, obstacles⟩ := declareAll_of_contains inside
  change empty.declareAll cells = .ok b
  have members : CellSet.ofList cells = b.obstacles :=
    CellSet.ext fun c => CellSet.mem_ofList.trans (same c)
  rw [e]
  exact congrArg Except.ok (ext width height (obstacles.trans members))

section Gains

variable {b t u : Board} {named more : Cell → Prop}

/-- The board has taken the named cells that lie on it. -/
structure Gains (b : Board) (named : Cell → Prop) (t : Board) : Prop where
  width : t.width = b.width
  height : t.height = b.height
  blocks : ∀ c, t.Blocks c ↔ b.Blocks c ∨ named c ∧ b.Contains c

theorem Gains.contains_iff (g : b.Gains named t) (c : Cell) : t.Contains c ↔ b.Contains c := by
  rw [Contains, g.width, g.height]
  rfl

theorem Gains.trans (g : b.Gains named t) (g' : t.Gains more u) :
    b.Gains (fun c => named c ∨ more c) u where
  width := g'.width.trans g.width
  height := g'.height.trans g.height
  blocks c := by
    rw [g'.blocks, g.blocks, g.contains_iff, or_assoc, ← or_and_right]

theorem Gains.congr (g : b.Gains named t) (same : ∀ c, more c ↔ named c) : b.Gains more t where
  width := g.width
  height := g.height
  blocks c := by rw [g.blocks, same]

theorem gains_self (b : Board) (none : ∀ c, ¬(named c ∧ b.Contains c)) : b.Gains named b :=
  ⟨rfl, rfl, fun c => (or_iff_left (none c)).symm⟩

theorem gains_of_declare {c : Cell} (h : b.declare c = .ok t) : b.Gains (· = c) t := by
  obtain ⟨inside, width, height, _⟩ := declare_eq_ok h
  refine ⟨width, height, fun d => ?_⟩
  rw [blocks_of_declare h]
  exact or_congr_right (iff_self_and.2 fun e => e ▸ inside)

theorem gains_of_outside {c : Cell} (outside : ¬b.Contains c) : b.Gains (· = c) b := by
  refine b.gains_self ?_
  rintro d ⟨rfl, inside⟩
  exact outside inside

/-- A board stays as it is exactly if it held all that was named on it. -/
theorem Gains.eq_iff (g : b.Gains named t) :
    b = t ↔ ∀ c, named c → b.Contains c → b.Blocks c := by
  constructor
  · rintro rfl c taken inside
    exact (g.blocks c).2 (Or.inr ⟨taken, inside⟩)
  · intro held
    refine ext g.width.symm g.height.symm (CellSet.ext fun c => ?_)
    refine ⟨fun old => (g.blocks c).2 (Or.inl old), fun new => ?_⟩
    rcases (g.blocks c).1 new with old | ⟨taken, inside⟩
    · exact old
    · exact held c taken inside

end Gains

end Board

theorem Session.start_eq_ok {width height : Scalar} {cells : List Cell} {s : Session}
    (h : start width height cells = .ok s) :
    ∃ b, Board.create width height cells = .ok b ∧ s = ⟨b, none⟩ := by
  rw [start_eq] at h
  cases e : Board.create width height cells with
  | error f =>
    rw [e] at h
    cases h
  | ok b =>
    rw [e] at h
    exact ⟨b, rfl, (Except.ok.inj h).symm⟩

theorem Session.start_of_blocks {b : Board} {cells : List Cell}
    (same : ∀ c, c ∈ cells ↔ b.Blocks c) :
    start (.int b.width) (.int b.height) cells = .ok ⟨b, none⟩ := by
  rw [start_eq, Board.create_of_blocks same]
  rfl

theorem Session.start_cells (b : Board) :
    start (.int b.width) (.int b.height) b.obstacles.cells = .ok ⟨b, none⟩ :=
  start_of_blocks fun _ => Iff.rfl

end RobotGrid
