import Mathlib.Algebra.Group.Int.Defs
import Mathlib.Algebra.Group.Nat.Defs
import RobotGrid.Proofs.Grammar
import RobotGrid.Robot

set_option autoImplicit false

/-!
# What can be written

An integer can be written if it is no farther from zero than one that can, and so can every
coordinate that a command names. If the sides of a board can be written, then so can every cell on
it and every cell beside one of these: what such a board refuses is always told.
-/
namespace RobotGrid
open Text.Numeral (isWritten)

/-- A signed integer of 32 bits, as a command can name it. -/
def Nameable (n : Int) : Prop := -2147483648 ≤ n ∧ n ≤ 2147483647

def Cell.Nameable (c : Cell) : Prop := RobotGrid.Nameable c.x ∧ RobotGrid.Nameable c.y

instance (n : Int) : Decidable (Nameable n) := inferInstanceAs (Decidable (_ ∧ _))

instance (c : Cell) : Decidable c.Nameable := inferInstanceAs (Decidable (_ ∧ _))

theorem isWritten_iff {n : Int} : isWritten n = true ↔ n.natAbs < 10 ^ Text.Numeral.digitLimit := by
  rw [isWritten, decide_eq_true_iff]
  exact Nat.length_toDigits_le_iff (by decide) (by decide)

theorem isWritten_of_natAbs_le {m n : Int} (h : m.natAbs ≤ n.natAbs)
    (written : isWritten n = true) : isWritten m = true :=
  isWritten_iff.2 (Nat.lt_of_le_of_lt h (isWritten_iff.1 written))

theorem isWritten_of_nameable {n : Int} (h : Nameable n) : isWritten n = true := by
  have small : isWritten 2147483648 = true := by decide
  refine isWritten_of_natAbs_le ?_ small
  simp only [Nameable] at h
  omega

theorem Cell.Nameable.written {c : Cell} (h : c.Nameable) : c.Written :=
  ⟨isWritten_of_nameable h.1, isWritten_of_nameable h.2⟩

/-- The least integer above zero that has too many digits. -/
@[irreducible] def unwritten : Int := 10 ^ Text.Numeral.digitLimit

theorem isWritten_iff_lt {n : Int} : isWritten n = true ↔ n.natAbs < unwritten.natAbs := by
  have size : ∀ k : Nat, ((10 : Int) ^ k).natAbs = 10 ^ k := fun k => Int.natAbs_pow 10 k
  rw [isWritten_iff, unwritten, size]

theorem not_isWritten_unwritten : ¬isWritten unwritten = true := by
  rw [isWritten_iff_lt]
  exact Nat.lt_irrefl _

theorem unwritten_pos : 0 < unwritten := by
  rw [unwritten]
  exact Int.pow_pos (by decide)

theorem lt_unwritten {n : Int} (h : isWritten n = true) : n < unwritten := by
  have pos := unwritten_pos
  have size := isWritten_iff_lt.1 h
  omega

namespace Instruction

theorem nameable_of_read {line : String} {i : Instruction} {c : Cell} (h : read line = .ok i)
    (named : i.cell? = some c) : c.Nameable := by
  have range : ∀ {text n}, Coordinate32 text n → RobotGrid.Nameable n := by
    rintro text n ⟨_, _, _, _, _, low, high⟩
    exact ⟨low, high⟩
  obtain ⟨lead, word, rest, l⟩ := exists_layout_of_read (by rw [h]; simp)
  cases meaning_of_read l h with
  | place _ _ hx hy _ =>
    cases named
    exact ⟨range hx, range hy⟩
  | obstacle _ _ hx hy =>
    cases named
    exact ⟨range hx, range hy⟩
  | move | left | right | report => cases named

end Instruction

namespace Board
variable {b : Board} {c : Cell}

theorem Written.of_near (h : b.Written) (left : -1 ≤ c.x) (right : c.x ≤ b.width)
    (below : -1 ≤ c.y) (above : c.y ≤ b.height) : c.Written := by
  have wide : 0 < b.corner.x := b.width_pos
  have high : 0 < b.corner.y := b.height_pos
  have right : c.x ≤ b.corner.x := right
  have above : c.y ≤ b.corner.y := above
  exact ⟨isWritten_of_natAbs_le (by omega) h.1, isWritten_of_natAbs_le (by omega) h.2⟩

theorem Written.of_contains (h : b.Written) (inside : b.Contains c) : c.Written := by
  obtain ⟨left, right, below, above⟩ := inside
  exact h.of_near (by omega) (by omega) (by omega) (by omega)

theorem Written.ahead (h : b.Written) (inside : b.Contains c) (o : Heading) :
    (c.ahead o).Written := by
  obtain ⟨left, right, below, above⟩ := inside
  cases o <;> refine h.of_near ?_ ?_ ?_ ?_ <;>
    simp only [Cell.ahead, Cell.shift, Heading.delta] <;> omega

theorem allow_cases (refused : ¬b.Free c) :
    (∃ written, ¬b.Contains c ∧ b.allow c = .error (.fault (.outOfBounds c written))) ∨
      (∃ written, b.Blocks c ∧ b.allow c = .error (.fault (.blocked c written))) ∨
      ¬c.Written ∧ b.allow c = .error (.oversized .written) := by
  by_cases inside : b.Contains c
  · have taken : b.Blocks c := Decidable.not_not.1 fun clear => refused ⟨inside, clear⟩
    rw [allow_of_blocks taken, Failure.blocked]
    by_cases written : c.Written
    · exact Or.inr (Or.inl ⟨written, taken, by rw [Failure.raise_of_writable written]⟩)
    · exact Or.inr (Or.inr ⟨written, by rw [Failure.raise_of_not_writable written]⟩)
  · rw [allow_of_not_contains inside, Failure.outOfBounds]
    by_cases written : c.Written
    · exact Or.inl ⟨written, inside, by rw [Failure.raise_of_writable written]⟩
    · exact Or.inr (Or.inr ⟨written, by rw [Failure.raise_of_not_writable written]⟩)

theorem written_of_allow {reason : Fault} (h : b.allow c = .error (.fault reason)) :
    c.Written := by
  have refused : ¬b.Free c := fun free => by
    rw [allow_eq_ok_iff.2 free] at h
    cases h
  rcases allow_cases refused with ⟨written, _⟩ | ⟨written, _⟩ | ⟨_, e⟩
  · exact written
  · exact written
  · rw [h] at e
    cases e

/-- What is refused with a fault on one board is not refused without one on another. -/
theorem exists_fault_of_allow {b' : Board} {reason : Fault}
    (h : b.allow c = .error (.fault reason)) (refused : ¬b'.Free c) :
    ∃ reason' : Fault, b'.allow c = .error (.fault reason') := by
  have written := written_of_allow h
  rcases allow_cases refused with ⟨_, _, e⟩ | ⟨_, _, e⟩ | ⟨unwritten, _⟩
  · exact ⟨_, e⟩
  · exact ⟨_, e⟩
  · exact absurd written unwritten

theorem unwritten_of_allow {o : Oversized} (h : b.allow c = .error (.oversized o)) :
    o = .written ∧ ¬c.Written := by
  have refused : ¬b.Free c := fun free => by
    rw [allow_eq_ok_iff.2 free] at h
    cases h
  rcases allow_cases refused with ⟨_, _, e⟩ | ⟨_, _, e⟩ | ⟨unwritten, e⟩
  · rw [h] at e
    cases e
  · rw [h] at e
    cases e
  · rw [h] at e
    cases e
    exact ⟨rfl, unwritten⟩

/-- A row of cells, of which the last has a coordinate that cannot be written. -/
def vast : Board where
  width := unwritten + 1
  height := 1
  obstacles := .empty
  width_pos := Int.lt_add_one_of_le (Int.le_of_lt unwritten_pos)
  height_pos := by decide
  inside := fun c hc => absurd hc (CellSet.not_mem_empty c)

theorem not_written_of_unwritten_le {n y : Int} (h : unwritten ≤ n) : ¬Cell.Written ⟨n, y⟩ := by
  have pos := unwritten_pos
  have near : unwritten.natAbs ≤ n.natAbs := by omega
  exact fun written => not_isWritten_unwritten (isWritten_of_natAbs_le near written.1)

theorem vast_not_written : ¬vast.Written :=
  not_written_of_unwritten_le (Int.le_add_one (Int.le_refl _))

theorem vast_free : vast.Free ⟨unwritten, 0⟩ :=
  ⟨⟨Int.le_of_lt unwritten_pos, Int.lt_add_one_of_le (Int.le_refl _), by decide, by decide⟩,
    CellSet.not_mem_empty _⟩

end Board

namespace Pose

theorem report_of_written {p : Pose} (h : p.cell.Written) :
    p.report = .ok s!"{p.cell.x},{p.cell.y},{p.heading.name}" := Cell.write_of_written h _

theorem eq_of_report {p : Pose} {text : String} (h : p.report = .ok text) :
    text = s!"{p.cell.x},{p.cell.y},{p.heading.name}" := by
  by_cases written : p.cell.Written
  · rw [report_of_written written] at h
    exact (Except.ok.inj h).symm
  · rw [report, Cell.write_of_not_written written] at h
    cases h

theorem report_of_not_written {p : Pose} (h : ¬p.cell.Written) : p.report = .error .written :=
  Cell.write_of_not_written h _

end Pose
end RobotGrid
