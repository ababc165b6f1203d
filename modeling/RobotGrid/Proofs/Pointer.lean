import Mathlib.Data.Rat.Floor
import RobotGrid.Proofs.Replay

set_option autoImplicit false

/-!
# Clicks and cells

A click is taken for the cell that is left when both coordinates are cut towards zero. In the grid
that is the cell under the pointer, and it is the only one that the click changes. Less than one
cell left of the grid or below it, cutting leads back into the grid, so a click there is taken for
one at the edge; further out, and anywhere right of the grid or above it, a click does nothing.
-/
namespace RobotGrid

theorem truncate_of_nonneg {q : Rat} (h : 0 ≤ q) : truncate q = ⌊q⌋ := by
  rw [truncate, Rat.floor_def', Int.tdiv_eq_ediv_of_nonneg (Rat.num_nonneg.2 h)]

theorem truncate_neg (q : Rat) : truncate (-q) = -truncate q := by
  rw [truncate, truncate, Rat.neg_num, Rat.neg_den, Int.neg_tdiv]

theorem truncate_of_nonpos {q : Rat} (h : q ≤ 0) : truncate q = ⌈q⌉ := by
  have opposite := truncate_of_nonneg (neg_nonneg.2 h)
  rw [truncate_neg, Int.floor_neg] at opposite
  exact Int.neg_inj.1 opposite

theorem truncate_nonneg_iff {q : Rat} : 0 ≤ truncate q ↔ -1 < q := by
  rcases le_total 0 q with h | h
  · have inside : -1 < q := by linarith
    rw [truncate_of_nonneg h]
    exact ⟨fun _ => inside, fun _ => Int.floor_nonneg.2 h⟩
  · have next : 0 ≤ ⌈q⌉ ↔ -1 < ⌈q⌉ := by omega
    rw [truncate_of_nonpos h, next, Int.lt_ceil, Int.cast_neg, Int.cast_one]

theorem truncate_lt_iff {q : Rat} {n : Int} (pos : 0 < n) : truncate q < n ↔ q < n := by
  rcases le_total 0 q with h | h
  · rw [truncate_of_nonneg h, Int.floor_lt]
  · have low : ⌈q⌉ ≤ 0 := Int.ceil_le.2 (by simpa using h)
    have positive : (0 : Rat) < n := Int.cast_pos.2 pos
    rw [truncate_of_nonpos h]
    exact ⟨fun _ => lt_of_le_of_lt h positive, fun _ => Int.lt_of_le_of_lt low pos⟩

theorem truncate_max_zero {q : Rat} (h : -1 < q) : truncate (max q 0) = truncate q := by
  rcases le_total 0 q with nonneg | nonpos
  · rw [max_eq_left nonneg]
  · have low : ⌈q⌉ ≤ 0 := Int.ceil_le.2 (by simpa using nonpos)
    have high : 0 ≤ truncate q := truncate_nonneg_iff.2 h
    rw [max_eq_right nonpos]
    rw [truncate_of_nonpos nonpos] at high ⊢
    exact Int.le_antisymm high low

/-- The point lies in the unit square of the cell, of which the left and the lower side belong to
it. -/
def Cell.Covers (c : Cell) (x y : Rat) : Prop := c.x ≤ x ∧ x < c.x + 1 ∧ c.y ≤ y ∧ y < c.y + 1

namespace Dashboard

theorem covers_iff {x y : Rat} (hx : 0 ≤ x) (hy : 0 ≤ y) {e : Cell} :
    e.Covers x y ↔ e = ⟨truncate x, truncate y⟩ := by
  obtain ⟨i, j⟩ := e
  rw [Cell.Covers, ← and_assoc, ← Int.floor_eq_iff, ← Int.floor_eq_iff, truncate_of_nonneg hx,
    truncate_of_nonneg hy, Cell.mk.injEq, eq_comm, @eq_comm _ j]

theorem hits_exact {d : Dashboard} {x y : Rat} {button : Int} {e : Cell} :
    d.Hits ⟨true, .exact x, .exact y, button⟩ e ↔
      e = ⟨truncate x, truncate y⟩ ∧ InRectangle (width d.settings) (height d.settings) e := by
  have cell : Click.cell ⟨true, .exact x, .exact y, button⟩ = .ok e ↔
      e = ⟨truncate x, truncate y⟩ :=
    ⟨fun same => (Except.ok.inj same).symm, fun same => congrArg Except.ok same.symm⟩
  rw [Hits, and_iff_right rfl, cell]

theorem truncated_inside_iff {d : Dashboard} {x y : Rat} :
    InRectangle (width d.settings) (height d.settings) ⟨truncate x, truncate y⟩ ↔
      (-1 < x ∧ x < width d.settings) ∧ -1 < y ∧ y < height d.settings := by
  rw [InRectangle, ← and_assoc]
  simp only [truncate_nonneg_iff, truncate_lt_iff d.settings.width_pos,
    truncate_lt_iff d.settings.height_pos, width, height]

theorem mem_clicked_of_ne {obstacles : CellSet} {c e : Cell} (h : e ≠ c) (button : Int) :
    e ∈ clicked obstacles c button ↔ e ∈ obstacles := by
  unfold clicked
  split
  · rw [CellSet.mem_erase, and_iff_left h]
  · split
    · rw [CellSet.mem_insert, or_iff_right h]
    · exact Iff.rfl

theorem mem_clicked_self {obstacles : CellSet} {c : Cell} {button : Int} :
    c ∈ clicked obstacles c button ↔ button = 1 ∨ button ≠ 3 ∧ c ∈ obstacles := by
  unfold clicked
  split
  · rename_i third
    simp [third]
  · rename_i other
    split
    · rename_i first
      simp [first]
    · rename_i neither
      simp [other, neither]

variable {d : Dashboard} {k : Click} {c : Cell}

theorem obstacles_click_of_held (held : d.commands ≠ []) :
    (d.click k).1.obstacles = d.obstacles := by
  by_cases target : ∃ c, d.Hits k c
  · obtain ⟨c, hit⟩ := target
    rw [click_of_held hit held]
    rfl
  · rw [click_of_miss (not_exists.1 target)]

theorem obstacles_click_of_free (hit : d.Hits k c) (free : d.commands = []) :
    (d.click k).1.obstacles = clicked d.obstacles c k.button := by
  rw [click_of_free hit free]
  exact (agree_redraw _).obstacles

theorem mem_obstacles_click_of_ne {e : Cell} (h : ¬d.Hits k e) :
    e ∈ (d.click k).1.obstacles ↔ e ∈ d.obstacles := by
  by_cases free : d.commands = []
  · by_cases target : ∃ c, d.Hits k c
    · obtain ⟨c, hit⟩ := target
      rw [obstacles_click_of_free hit free]
      refine mem_clicked_of_ne ?_ k.button
      rintro rfl
      exact h hit
    · rw [click_of_miss (not_exists.1 target)]
  · rw [obstacles_click_of_held free]

theorem click_congr {k' : Click} (cell : Click.cell k' = Click.cell k)
    (onGrid : k'.onGrid = k.onGrid) (button : k'.button = k.button) :
    d.click k' = d.click k := by
  simp only [Dashboard.click, onGrid, cell, button]

/-- A click on the grid's axes, in any state and with any button. In the grid only the cell under
the pointer may become an obstacle or cease to be one; as long as no commands are held the first
button makes it one and the third makes it none. Right of the grid and above it, and one cell or
more left of it or below it, the click does nothing at all. In the margin that is left between, the
click does what it would do at the nearest point of the grid. -/
theorem click_counts_in_margin (d : Dashboard) (x y : Rat) (button : Int) :
    let W : Rat := width d.settings
    let H : Rat := height d.settings
    let next := d.click ⟨true, .exact x, .exact y, button⟩
    (0 ≤ x ∧ x < W → 0 ≤ y ∧ y < H → ∀ e : Cell,
      (¬e.Covers x y → (e ∈ next.1.obstacles ↔ e ∈ d.obstacles)) ∧
      (e.Covers x y → d.commands = [] →
        (e ∈ next.1.obstacles ↔ button = 1 ∨ button ≠ 3 ∧ e ∈ d.obstacles))) ∧
    (x ≤ -1 ∨ W ≤ x ∨ y ≤ -1 ∨ H ≤ y → next = (d, none)) ∧
    (-1 < x ∧ x < W → -1 < y ∧ y < H →
      next = d.click ⟨true, .exact (max x 0), .exact (max y 0), button⟩) := by
  intro W H next
  refine ⟨fun across along e => ⟨fun apart => ?_, fun covers free => ?_⟩, fun outside => ?_,
    fun across along => ?_⟩
  · exact mem_obstacles_click_of_ne fun hit =>
      apart ((covers_iff across.1 along.1).2 (hits_exact.1 hit).1)
  · have inside := truncated_inside_iff (d := d) (x := x) (y := y).2
      ⟨⟨by linarith [across.1], across.2⟩, by linarith [along.1], along.2⟩
    have hit : d.Hits ⟨true, .exact x, .exact y, button⟩ ⟨truncate x, truncate y⟩ :=
      hits_exact.2 ⟨rfl, inside⟩
    rw [(covers_iff across.1 along.1).1 covers, obstacles_click_of_free hit free]
    exact mem_clicked_self
  · have beyond :
        ¬InRectangle (width d.settings) (height d.settings) ⟨truncate x, truncate y⟩ := by
      intro inside
      obtain ⟨⟨left, right⟩, below, above⟩ := truncated_inside_iff.1 inside
      rcases outside with h | h | h | h
      · exact absurd left (not_lt_of_ge h)
      · exact absurd right (not_lt_of_ge h)
      · exact absurd below (not_lt_of_ge h)
      · exact absurd above (not_lt_of_ge h)
    change d.click ⟨true, .exact x, .exact y, button⟩ = (d, none)
    simp only [Dashboard.click, Click.cell, Coordinate.truncated]
    exact if_pos beyond
  · have cell : (⟨truncate (max x 0), truncate (max y 0)⟩ : Cell) = ⟨truncate x, truncate y⟩ :=
      congrArg₂ Cell.mk (truncate_max_zero across.1) (truncate_max_zero along.1)
    have same : Click.cell ⟨true, .exact (max x 0), .exact (max y 0), button⟩ =
        Click.cell ⟨true, .exact x, .exact y, button⟩ := congrArg Except.ok cell
    exact (click_congr same rfl rfl).symm

/-- A click half a cell left of the grid, one in the grid and one above it. -/
theorem click_counts_in_margin_left_of_grid :
    let d := new .standard
    let within : Click := ⟨true, .exact (1 / 2), .exact (5 / 2), 1⟩
    d.click ⟨true, .exact (-1 / 2), .exact (5 / 2), 1⟩ =
        d.click ⟨true, .exact 0, .exact (5 / 2), 1⟩ ∧
      (⟨0, 2⟩ : Cell) ∈ (d.click within).1.obstacles ∧
      (⟨0, 1⟩ : Cell) ∉ (d.click within).1.obstacles ∧
      d.click ⟨true, .exact (1 / 2), .exact 5, 1⟩ = (d, none) := by
  intro d within
  have aside := (click_counts_in_margin d (-1 / 2) (5 / 2) 1).2.2
    (by decide +kernel) (by decide +kernel)
  have inside := (click_counts_in_margin d (1 / 2) (5 / 2) 1).1
    (by decide +kernel) (by decide +kernel)
  have above := (click_counts_in_margin d (1 / 2) 5 1).2.1
    (Or.inr (Or.inr (Or.inr (by decide +kernel))))
  refine ⟨?_, ?_, ?_, above⟩
  · rw [aside]
    exact click_congr (congrArg Except.ok (by decide +kernel)) rfl rfl
  · exact ((inside ⟨0, 2⟩).2 (by rw [Cell.Covers]; decide +kernel) rfl).2 (Or.inl rfl)
  · rw [(inside ⟨0, 1⟩).1 (by rw [Cell.Covers]; decide +kernel)]
    exact CellSet.not_mem_empty _

/-- A click outside the grid puts an obstacle on a cell of it, which is drawn and counted. -/
theorem click_left_of_grid_is_not_ignored :
    let d := new .standard
    let x : Rat := -1 / 2
    let y : Rat := 1 / 2
    let next := d.click ⟨true, .exact x, .exact y, 1⟩
    ¬(0 ≤ x ∧ x < width d.settings ∧ 0 ≤ y ∧ y < height d.settings) ∧
      d.obstacles.cells = [] ∧ next.1.obstacles.cells = [⟨0, 0⟩] ∧
      next.1.picture.obstacles.cells = [⟨0, 0⟩] ∧
      next.1.picture.title =
        "Tabletop 5x5 | Obstacles: 1 | Commands: 0
Robot: not placed" := by
  decide +kernel

end Dashboard
end RobotGrid
