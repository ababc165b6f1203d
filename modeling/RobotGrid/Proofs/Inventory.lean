import RobotGrid.Proofs.Stock
import RobotGrid.Proofs.Writing

set_option autoImplicit false

/-!
# What boards on a shelf hold

A board is its two sides and a set of cells on it. It is made from sides that are integers above
zero and from cells that all lie on it. Behind any requests it has the same sides, and it holds what
it held and the cells on it that were named for it since (`Gains`). So a copy and its original go
apart only with what is named for one of them, and boards are equal exactly if their sides and their
cells are, in whatever order and however often these were named. A refusal is a fault unless what it
would name has too many digits (`Refuses`).
-/
namespace RobotGrid

namespace Board

variable {b t : Board}

def Measures (width height : Scalar) (w h : Int) : Prop :=
  width = .int w ∧ height = .int h ∧ 0 < w ∧ 0 < h

theorem eq_iff : b = t ↔
    b.width = t.width ∧ b.height = t.height ∧ ∀ c, b.Blocks c ↔ t.Blocks c := by
  constructor
  · rintro rfl
    exact ⟨rfl, rfl, fun c => Iff.rfl⟩
  · rintro ⟨width, height, same⟩
    exact ext width height (CellSet.ext same)

variable {width height : Scalar} {w h : Int} {cells before after : List Cell} {c : Cell}

theorem create_of_inside (sides : Measures width height w h)
    (inside : ∀ c ∈ cells, InRectangle w h c) : ∃ b, create width height cells = .ok b ∧
      b.width = w ∧ b.height = h ∧ ∀ c, b.Blocks c ↔ c ∈ cells := by
  obtain ⟨rfl, rfl, wide, high⟩ := sides
  let b : Board := ⟨w, h, .ofList cells, wide, high, fun c hc => inside c (CellSet.mem_ofList.1 hc)⟩
  have holds : ∀ c, b.Blocks c ↔ c ∈ cells := fun c => CellSet.mem_ofList
  exact ⟨b, create_of_blocks (b := b) fun c => (holds c).symm, rfl, rfl, holds⟩

theorem create_of_bad_sides (bad : ∀ w h, ¬Measures width height w h) (cells : List Cell) :
    create width height cells = .error (.invalidDimensions width height) := by
  have refused : bare width height = .error (.invalidDimensions width height) := by
    unfold bare
    split
    · rename_i w h
      split
      · rename_i sides
        exact absurd ⟨rfl, rfl, sides⟩ (bad w h)
      · rfl
    · rfl
  rw [create, refused]
  rfl

end Board

namespace Shelf

variable {s : Shelf} {i j : Nat} {b t : Board} {c : Cell}

theorem handle_allow (here : s[i]? = some b) (c : Cell) :
    s.handle (.allow i c) = (s, (b.allow c).map fun _ => .nothing) := by
  simp only [handle, ask, here]

/-- The request is refused and changes nothing: by the fault, if what it is about can be written,
and otherwise without one. -/
structure Refuses (s : Shelf) (request : ShelfRequest) {Writable : Prop}
    (fault : Writable → Fault) : Prop where
  told : ∀ written, s.handle request = (s, .error (.fault (fault written)))
  untold : ¬Writable → s.handle request = (s, .error (.oversized .written))

theorem refuses_of_raise {request : ShelfRequest} {Writable : Prop} [Decidable Writable]
    {fault : Writable → Fault} (e : s.handle request = (s, .error (.raise Writable fault))) :
    s.Refuses request fault where
  told written := by rw [e, Failure.raise_of_writable written]
  untold unwritten := by rw [e, Failure.raise_of_not_writable unwritten]

theorem handle_cell (here : s[i]? = some b) (c : Cell) :
    (b.Contains c → (s.handle (.declare i c)).2 = .ok .nothing) ∧
      (¬b.Contains c → s.Refuses (.declare i c) (Fault.obstacleOutOfBounds c) ∧
        s.Refuses (.allow i c) (Fault.outOfBounds c)) ∧
      (b.Blocks c → s.Refuses (.allow i c) (Fault.blocked c)) ∧
      (b.Contains c → ¬b.Blocks c → s.handle (.allow i c) = (s, .ok .nothing)) := by
  refine ⟨fun inside => ?_, fun outside => ⟨?_, ?_⟩, fun taken => ?_, fun inside free => ?_⟩
  · obtain ⟨_, _, taken⟩ := handle_declare_of_contains here inside
    rw [taken]
  · exact refuses_of_raise (handle_declare_of_outside here outside)
  · refine refuses_of_raise ?_
    rw [handle_allow here, Board.allow_of_not_contains outside]
    rfl
  · refine refuses_of_raise ?_
    rw [handle_allow here, Board.allow_of_blocks taken]
    rfl
  · rw [handle_allow here, Board.allow_eq_ok_iff.2 ⟨inside, free⟩]
    rfl

theorem handle_text (here : s[i]? = some b) :
    (b.Written → s.handle (.text i) = (s, .ok (.text
      s!"Tabletop(width={b.width}, height={b.height}, obstacles={b.obstacles.size})"))) ∧
    (¬b.Written → s.handle (.text i) = (s, .error (.oversized .written))) := by
  refine ⟨fun written => ?_, fun unwritten => ?_⟩
  · simp only [handle, ask, here, Board.text, dif_pos written]
    rfl
  · simp only [handle, ask, here, Board.text, dif_neg unwritten]
    rfl

/-- The cells that a board holds behind requests: those it held, and those on it that were named. -/
def Held (i : Nat) (b : Board) (requests : List ShelfRequest) (c : Cell) : Prop :=
  b.Blocks c ∨ .declare i c ∈ requests ∧ b.Contains c

theorem equal_after (here : s[i]? = some b) (there : s[j]? = some t)
    (requests : List ShelfRequest) :
    ∃ e, (s.after requests).handle (.equal i (some j)) = (s.after requests, .ok (.flag e)) ∧
      (e = true ↔ b.width = t.width ∧ b.height = t.height ∧
        ∀ c, Held i b requests c ↔ Held j t requests c) := by
  obtain ⟨b', here', gains⟩ := gains_after here requests
  obtain ⟨t', there', gains'⟩ := gains_after there requests
  refine ⟨_, handle_equal here' there', ?_⟩
  rw [decide_eq_true_iff, eq_comm, Board.eq_iff, gains.width, gains.height, gains'.width,
    gains'.height]
  simp only [gains.blocks, gains'.blocks, Held]

theorem equal_after_copy (here : s[i]? = some b) (requests : List ShelfRequest) :
    ∃ e, ((s ++ [b]).after requests).handle (.equal i (some s.length)) =
        ((s ++ [b]).after requests, .ok (.flag e)) ∧
      (e = true ↔ ∀ c, b.Contains c → ¬b.Blocks c →
        (.declare i c ∈ requests ↔ .declare s.length c ∈ requests)) := by
  have copy : (s ++ [b])[s.length]? = some b := List.getElem?_concat_length
  obtain ⟨e, answer, same⟩ := equal_after (getElem?_append here [b]) copy requests
  refine ⟨e, answer, same.trans ?_⟩
  simp only [true_and, Held]
  refine forall_congr' fun c => ?_
  by_cases onBoard : b.Contains c <;> by_cases taken : b.Blocks c <;> simp [onBoard, taken]

end Shelf

/-- A board can be made exactly from two integers above zero and cells that all lie in their
rectangle; else the sides are refused, or the first cell outside. Behind any requests to its shelf a
board has its sides, and holds the cells that it held and those on it that were named for it. It
tells their number, admits all others on it, and refuses to hold or to admit a cell off it, which
changes nothing. Two boards are equal exactly if their sides and cells are. A copy is equal to its
original, can be made anew from any list of its cells, and goes apart from the original only with
what is named for one of them. What has too many digits is refused as well, but without a fault that
names it, and a board with such a side has no text. -/
theorem boards_are_sides_and_cells (s : Shelf) :
    (∀ width height cells,
      (∀ w h, Board.Measures width height w h → (∀ c ∈ cells, InRectangle w h c) →
        ∃ b, s.handle (.create width height cells) = (s ++ [b], .ok (.number s.length)) ∧
          b.width = w ∧ b.height = h ∧ ∀ c, b.Blocks c ↔ c ∈ cells) ∧
      ((∀ w h, ¬Board.Measures width height w h) →
        s.Refuses (.create width height cells) (Fault.invalidDimensions width height)) ∧
      ∀ w h before c after, Board.Measures width height w h → cells = before ++ c :: after →
        (∀ d ∈ before, InRectangle w h d) → ¬InRectangle w h c →
          s.Refuses (.create width height cells) (Fault.obstacleOutOfBounds c)) ∧
    ∀ i b, s[i]? = some b → ∀ requests,
      let later := s.after requests
      let held := Shelf.Held i b requests
      (∃ cells : List Cell, cells.Nodup ∧ (∀ c, c ∈ cells ↔ held c) ∧
        (b.Written → later.handle (.text i) = (later, .ok (.text
          s!"Tabletop(width={b.width}, height={b.height}, obstacles={cells.length})"))) ∧
        (¬b.Written → later.handle (.text i) = (later, .error (.oversized .written)))) ∧
      (∀ c, (b.Contains c → (later.handle (.declare i c)).2 = .ok .nothing) ∧
        (¬b.Contains c → later.Refuses (.declare i c) (Fault.obstacleOutOfBounds c) ∧
          later.Refuses (.allow i c) (Fault.outOfBounds c)) ∧
        (held c → later.Refuses (.allow i c) (Fault.blocked c)) ∧
        (b.Contains c → ¬held c → later.handle (.allow i c) = (later, .ok .nothing))) ∧
      (∀ j t, s[j]? = some t → ∃ e,
        later.handle (.equal i (some j)) = (later, .ok (.flag e)) ∧
          (e = true ↔ b.width = t.width ∧ b.height = t.height ∧
            ∀ c, held c ↔ Shelf.Held j t requests c)) ∧
      ∃ t : Board, later[i]? = some t ∧ t.width = b.width ∧ t.height = b.height ∧
        (∀ c, t.Blocks c ↔ held c) ∧
        (∀ cells : List Cell, (∀ c, c ∈ cells ↔ held c) →
          Board.create (.int b.width) (.int b.height) cells = .ok t) ∧
        later.handle (.copy i) = (later ++ [t], .ok (.number later.length)) ∧
        ∀ more, let behind := (later ++ [t]).after more
          ((∀ c, .declare i c ∉ more) → behind[i]? = some t) ∧
          ((∀ c, .declare later.length c ∉ more) → behind[later.length]? = some t) ∧
          ∃ e, behind.handle (.equal i (some later.length)) = (behind, .ok (.flag e)) ∧
            (e = true ↔ ∀ c, b.Contains c → ¬held c →
              (.declare i c ∈ more ↔ .declare later.length c ∈ more)) := by
  refine ⟨fun width height cells => ⟨fun w h sides inside => ?_, fun bad => ?_, ?_⟩,
    fun i b here requests => ?_⟩
  · obtain ⟨b, made, members⟩ := Board.create_of_inside sides inside
    exact ⟨b, by simp only [Shelf.handle, Shelf.add, made], members⟩
  · refine Shelf.refuses_of_raise ?_
    simp only [Shelf.handle, Board.create_of_bad_sides bad]
    rfl
  · rintro w h before c after ⟨rfl, rfl, wide, high⟩ rfl inside outside
    refine Shelf.refuses_of_raise ?_
    simp only [Shelf.handle, Board.create_of_outside wide high inside outside]
    rfl
  · obtain ⟨t, there, gains⟩ := Shelf.gains_after here requests
    have blocks : ∀ c, t.Blocks c ↔ Shelf.Held i b requests c := gains.blocks
    have corner : t.corner = b.corner := by rw [Board.corner, gains.width, gains.height]; rfl
    intro later held
    refine ⟨⟨t.obstacles.cells, t.obstacles.nodup, blocks, ?_⟩, fun c => ?_,
      fun j u there => Shelf.equal_after here there requests, t, there, gains.width, gains.height,
      blocks, fun cells same => ?_, Shelf.handle_copy there, fun more => ⟨?_, ?_, ?_⟩⟩
    · have text := Shelf.handle_text there
      rw [gains.width, gains.height, Board.Written, corner] at text
      exact text
    · have answers := Shelf.handle_cell there c
      rw [gains.contains_iff, blocks] at answers
      exact answers
    · rw [← gains.width, ← gains.height]
      exact Board.create_of_blocks fun c => (same c).trans (blocks c).symm
    -- The board and its copy are two numbers of the shelf, so what is behind either is its own.
    · exact Shelf.after_of_unnamed (Shelf.getElem?_append there [t])
    · exact Shelf.after_of_unnamed List.getElem?_concat_length
    · obtain ⟨e, answer, same⟩ := Shelf.equal_after_copy there more
      refine ⟨e, answer, same.trans (forall_congr' fun c => ?_)⟩
      rw [gains.contains_iff, blocks]

/-- Cells are listed twice, named off the board and named for a copy. -/
theorem boards_are_sides_and_cells_of_copy :
    let board : Board := ⟨3, 2, .ofList [⟨2, 1⟩, ⟨0, 0⟩], by decide, by decide, by decide⟩
    let shelf : Shelf := [board, board]
    let later := shelf.after [.declare 0 ⟨1, 1⟩, .declare 1 ⟨3, 0⟩, .declare 0 ⟨1, 1⟩]
    (∃ b, shelf.handle (.create (.int 3) (.int 2) [⟨2, 1⟩, ⟨0, 0⟩, ⟨2, 1⟩]) =
      (shelf ++ [b], .ok (.number 2)) ∧ b.Blocks ⟨0, 0⟩ ∧ ¬b.Blocks ⟨1, 1⟩) ∧
    shelf.handle (.create (.int 3) (.flag true) []) = (shelf,
      .error (.fault (.invalidDimensions (.int 3) (.flag true) (by decide)))) ∧
    shelf.handle (.create (.int 3) (.int 2) [⟨2, 1⟩, ⟨3, 0⟩, ⟨0, -1⟩]) =
      (shelf, .error (.fault (.obstacleOutOfBounds ⟨3, 0⟩ (by decide)))) ∧
    shelf[0]? = some board ∧
    later.handle (.allow 0 ⟨1, 1⟩) = (later, .error (.fault (.blocked ⟨1, 1⟩ (by decide)))) ∧
    later.handle (.declare 0 ⟨3, 0⟩) =
      (later, .error (.fault (.obstacleOutOfBounds ⟨3, 0⟩ (by decide)))) ∧
    later.handle (.equal 0 (some 1)) = (later, .ok (.flag false)) ∧
    ∃ t, later.handle (.copy 0) = (later ++ [t], .ok (.number 2)) ∧
      ((later ++ [t]).after [.declare 2 ⟨1, 0⟩])[0]? = some t ∧
      (((later ++ [t]).after [.declare 2 ⟨1, 0⟩, .declare 0 ⟨1, 0⟩]).handle (.equal 0 (some 2))).2 =
        .ok (.flag true) := by
  intro board shelf later
  obtain ⟨creates, answers⟩ := boards_are_sides_and_cells shelf
  obtain ⟨b, made, _, _, members⟩ :=
    (creates (.int 3) (.int 2) [⟨2, 1⟩, ⟨0, 0⟩, ⟨2, 1⟩]).1 3 2
      ⟨rfl, rfl, by decide, by decide⟩ (by decide)
  have bad : ∀ w h, ¬Board.Measures (.int 3) (.flag true) w h := by
    rintro w h ⟨_, other, _⟩
    cases other
  have refused := (creates (.int 3) (.flag true) []).2.1 bad
  have outside := (creates (.int 3) (.int 2) [⟨2, 1⟩, ⟨3, 0⟩, ⟨0, -1⟩]).2.2 3 2 [⟨2, 1⟩]
    ⟨3, 0⟩ [⟨0, -1⟩] ⟨rfl, rfl, by decide, by decide⟩ rfl (by decide) (by decide)
  have here : shelf[0]? = some board := rfl
  obtain ⟨_, cells, equal, t, _, _, _, blocks, _, copied, apart⟩ := answers 0 board here
    [.declare 0 ⟨1, 1⟩, .declare 1 ⟨3, 0⟩, .declare 0 ⟨1, 1⟩]
  have size : later.length = 2 := by decide
  rw [size] at copied
  have held : Shelf.Held 0 board
      [.declare 0 ⟨1, 1⟩, .declare 1 ⟨3, 0⟩, .declare 0 ⟨1, 1⟩] ⟨1, 1⟩ :=
    Or.inr ⟨by simp, by decide⟩
  obtain ⟨e, answer, same⟩ := equal 1 board rfl
  have differ : e = false := by
    refine Bool.eq_false_iff.2 fun alike => ?_
    rcases ((same.1 alike).2.2 ⟨1, 1⟩).1 held with before | ⟨named, _⟩
    · exact absurd before (by decide)
    · simp at named
  obtain ⟨untouched, _, _⟩ := apart [.declare 2 ⟨1, 0⟩]
  obtain ⟨_, _, e', answer', same'⟩ := apart [.declare 2 ⟨1, 0⟩, .declare 0 ⟨1, 0⟩]
  rw [size] at answer' same'
  have alike : e' = true := same'.2 fun c _ _ => by simp
  rw [differ] at answer
  rw [alike] at answer'
  refine ⟨⟨b, made, (members _).2 (by simp), fun h => ?_⟩, refused.told _, outside.told _, here,
    ((cells _).2.2.1 held).told _, ((cells _).2.1 (by decide)).1.told _, answer, t, copied,
    untouched (by simp), congrArg Prod.snd answer'⟩
  exact absurd ((members _).1 h) (by decide)

/-- A cell far out is off a small board, and the board refuses it without the fault that says so. -/
theorem refusal_of_cell_far_out_has_no_fault :
    let shelf : Shelf := [⟨5, 5, .empty, by decide, by decide, fun c h => absurd h (by simp)⟩]
    ¬InRectangle 5 5 ⟨unwritten, 0⟩ ∧
      shelf.handle (.allow 0 ⟨unwritten, 0⟩) = (shelf, .error (.oversized .written)) := by
  intro shelf
  let board : Board := ⟨5, 5, .empty, by decide, by decide, fun c h => absurd h (by simp)⟩
  have here : shelf[0]? = some board := rfl
  have far : ¬Cell.Written ⟨unwritten, 0⟩ := Board.not_written_of_unwritten_le (Int.le_refl _)
  have small : board.Written := by decide
  have outside : ¬board.Contains ⟨unwritten, 0⟩ := fun inside => far (small.of_contains inside)
  exact ⟨outside, ((Shelf.handle_cell here _).2.1 outside).2.untold far⟩

end RobotGrid
