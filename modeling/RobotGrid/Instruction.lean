import RobotGrid.Cell
/-!
# Instructions

The six keywords and the instructions they begin, with the canonical text of an instruction: the
keyword, and after a space its arguments with commas between.
-/

set_option autoImplicit false

namespace RobotGrid

inductive Keyword where
  | place
  | obstacle
  | move
  | left
  | right
  | report
  deriving DecidableEq

namespace Keyword

def all : List Keyword := [.place, .obstacle, .move, .left, .right, .report]

def name : Keyword → String
  | .place => "PLACE"
  | .obstacle => "OBSTACLE"
  | .move => "MOVE"
  | .left => "LEFT"
  | .right => "RIGHT"
  | .report => "REPORT"

def ofChars? (word : List Char) : Option Keyword :=
  all.find? fun k => k.name.toList == Text.upper word

@[simp] theorem mem_all (k : Keyword) : k ∈ all := by cases k <;> decide

theorem name_injective {j k : Keyword} (e : j.name = k.name) : j = k := by
  cases j <;> cases k <;> simp [name] at e ⊢

/-- A word is a keyword exactly when its upper-case form is the keyword's name. -/
theorem ofChars?_eq_some_iff {word : List Char} {k : Keyword} :
    ofChars? word = some k ↔ Text.upper word = k.name.toList := by
  constructor
  · intro h
    have found := List.find?_some h
    exact (beq_iff_eq.1 found).symm
  · intro h
    cases e : ofChars? word with
    | none =>
      have absent := List.find?_eq_none.1 e k (mem_all k)
      simp [h] at absent
    | some j =>
      have found := List.find?_some e
      have same : j.name.toList = k.name.toList := (beq_iff_eq.1 found).trans h
      rw [name_injective (String.toList_inj.1 same)]

end Keyword

inductive Instruction where
  | place (cell : Cell) (heading : Heading)
  | obstacle (cell : Cell)
  | move
  | left
  | right
  | report
  deriving DecidableEq

namespace Instruction

def keyword : Instruction → Keyword
  | .place _ _ => .place
  | .obstacle _ => .obstacle
  | .move => .move
  | .left => .left
  | .right => .right
  | .report => .report

def cell? : Instruction → Option Cell
  | .place cell _ => some cell
  | .obstacle cell => some cell
  | _ => none

def heading? : Instruction → Option Heading
  | .place _ heading => some heading
  | _ => none

def render : Instruction → String
  | .place cell heading => s!"PLACE {cell.x},{cell.y},{heading.name}"
  | .obstacle cell => s!"OBSTACLE {cell.x},{cell.y}"
  | i => i.keyword.name

end Instruction
end RobotGrid
