import RobotGrid.Proofs.Rendering

set_option autoImplicit false

/-!
# The canonical text of an instruction

The canonical text has the keyword in capital letters and behind it the arguments without blanks,
coordinates in decimal without a zero in front. The keyword and the fields can be taken from the
text again, so no two instructions have one canonical text. It is read as its instruction whenever
the coordinates fit 32 bits, which those of a line that was read always do.
-/
namespace RobotGrid

/-- Digits without a zero in front, except for zero itself. -/
def PlainDigits (digits : List Char) : Prop :=
  Digits digits ∧ (digits.head? = some '0' → digits = ['0'])

/-- An integer in decimal, with a minus sign exactly if it is negative. -/
inductive PlainDecimal : Int → List Char → Prop where
  | natural {digits : List Char} (h : PlainDigits digits) : PlainDecimal (positional digits) digits
  | negative {digits : List Char} (h : PlainDigits digits) (some : 0 < positional digits) :
      PlainDecimal (-(positional digits : Int)) ('-' :: digits)

/-- An instruction is written as a text by the rules. -/
inductive Instruction.WrittenAs : Instruction → List Char → Prop where
  | place {c : Cell} {x y : List Char} (hx : PlainDecimal c.x x) (hy : PlainDecimal c.y y)
      (o : Heading) :
      WrittenAs (.place c o) ("PLACE ".toList ++ (x ++ ',' :: (y ++ ',' :: o.name.toList)))
  | obstacle {c : Cell} {x y : List Char} (hx : PlainDecimal c.x x) (hy : PlainDecimal c.y y) :
      WrittenAs (.obstacle c) ("OBSTACLE ".toList ++ (x ++ ',' :: y))
  | move : WrittenAs .move "MOVE".toList
  | left : WrittenAs .left "LEFT".toList
  | right : WrittenAs .right "RIGHT".toList
  | report : WrittenAs .report "REPORT".toList

theorem head?_toDigits_ne_zero {n : Nat} (some : 0 < n) :
    (Nat.toDigits 10 n).head? ≠ Option.some '0' := by
  induction n using Nat.strongRecOn with
  | ind n ih =>
    rw [Nat.toDigits_eq_if (by decide)]
    split
    · rename_i small
      have digit : ∀ n < 10, 0 < n → [n.digitChar].head? ≠ Option.some '0' := by decide
      exact digit n small some
    · have rest := ih (n / 10) (by omega) (by omega)
      cases e : Nat.toDigits 10 (n / 10) with
      | nil => exact absurd e Nat.toDigits_ne_nil
      | cons c digits =>
        rw [e] at rest
        exact rest

theorem plainDigits_toDigits (n : Nat) : PlainDigits (Nat.toDigits 10 n) := by
  refine ⟨⟨Nat.toDigits_ne_nil, fun c hc => ?_⟩, fun zero => ?_⟩
  · exact Nat.isDigit_of_mem_toDigits (by decide) (by decide) hc
  · rcases Nat.eq_zero_or_pos n with rfl | some
    · rfl
    · exact absurd zero (head?_toDigits_ne_zero some)

theorem positional_toDigits (n : Nat) : positional (Nat.toDigits 10 n) = n := by
  rw [← ofDigitChars_eq_positional, Nat.ofDigitChars_ten_toDigits]

theorem decimal_toString (n : Int) : PlainDecimal n (toString n).toList := by
  have plain := plainDigits_toDigits n.natAbs
  have value := positional_toDigits n.natAbs
  rw [Text.Numeral.toList_toString, Text.Numeral.ofInt]
  by_cases negative : n < 0
  · have size : n = -(positional (Nat.toDigits 10 n.natAbs) : Int) := by omega
    have shown := PlainDecimal.negative plain (by omega)
    rw [← size] at shown
    simpa [Text.Numeral.chars, negative] using shown
  · have size : n = (positional (Nat.toDigits 10 n.natAbs) : Int) := by omega
    have shown := PlainDecimal.natural plain
    rw [← size] at shown
    simpa [Text.Numeral.chars, negative] using shown

namespace Instruction

theorem writtenAs_render (i : Instruction) : WrittenAs i (render i).toList := by
  cases i with
  | place c o =>
    rw [render_place, toList_commandText]
    exact .place (decimal_toString c.x) (decimal_toString c.y) o
  | obstacle c =>
    rw [render_obstacle, toList_commandText]
    exact .obstacle (decimal_toString c.x) (decimal_toString c.y)
  | move => exact .move
  | left => exact .left
  | right => exact .right
  | report => exact .report

theorem head?_words_render (i : Instruction) :
    (Text.words (render i).toList).head? = some i.keyword.name.toList := by
  cases i with
  | place c o => rw [render_place, (layout_commandText _ _).words_eq]; rfl
  | obstacle c => rw [render_obstacle, (layout_commandText _ _).words_eq]; rfl
  | move | left | right | report => rfl

theorem keyword_eq_of_render_eq {i j : Instruction} (h : render i = render j) :
    i.keyword = j.keyword := by
  have words := head?_words_render i
  rw [h, head?_words_render j] at words
  exact (Keyword.name_injective (String.toList_inj.1 (Option.some.inj words))).symm

theorem commandText_injective {k : Keyword} {fs gs : List (List Char)}
    (h : commandText k fs = commandText k gs) : row fs = row gs := by
  have texts := congrArg String.toList h
  rw [toList_commandText, toList_commandText] at texts
  exact (List.cons.inj (List.append_cancel_left texts)).2

theorem render_injective {i j : Instruction} (h : render i = render j) : i = j := by
  have same := keyword_eq_of_render_eq h
  cases i with
  | place c o =>
    cases j with
    | place d o' =>
      rw [render_place, render_place] at h
      have fields := row_injective (commandText_injective h) (List.cons_ne_nil _ _) rfl
        (compact_placeFields c o) (compact_placeFields d o')
      obtain ⟨rfl, rfl⟩ := placeFields_injective fields
      rfl
    | obstacle | move | left | right | report => cases same
  | obstacle c =>
    cases j with
    | obstacle d =>
      rw [render_obstacle, render_obstacle] at h
      have fields := row_injective (commandText_injective h) (List.cons_ne_nil _ _) rfl
        (compact_obstacleFields c) (compact_obstacleFields d)
      rw [obstacleFields_injective fields]
    | place | move | left | right | report => cases same
  | move | left | right | report => cases j <;> first | rfl | cases same

/-- The canonical text of an instruction follows the rules, is read as the instruction if its
coordinates fit 32 bits, and is that of no other instruction. The coordinates of a line that was
read do fit, so what was read is read again from its canonical text. -/
theorem reading_undoes_rendering :
    (∀ i, WrittenAs i (render i).toList) ∧
    (∀ i, (∀ c, i.cell? = some c → c.Nameable) → read (render i) = .ok i) ∧
    (∀ line i, read line = .ok i →
      (∀ c, i.cell? = some c → c.Nameable) ∧ read (render i) = .ok i) ∧
    ∀ line other i j, read line = .ok i → read other = .ok j → (i = j ↔ render i = render j) := by
  refine ⟨writtenAs_render, fun i => read_render, fun line i h => ?_, ?_⟩
  · exact ⟨fun c => nameable_of_read h, read_render_of_read h⟩
  · intro line other i j _ _
    exact ⟨congrArg render, render_injective⟩

/-- The limits of 32 bits, and a line with a plus sign, a zero in front and a minus zero. -/
theorem reading_undoes_rendering_at_limits :
    let corner : Instruction := .place ⟨2147483647, -2147483648⟩ .west
    (∀ c, corner.cell? = some c → c.Nameable) ∧
    (render corner = "PLACE 2147483647,-2147483648,WEST" ∧ read (render corner) = .ok corner) ∧
    (read "obstacle +07 , -0, 3" = .ok (.obstacle ⟨7, 0⟩) ∧
      render (.obstacle ⟨7, 0⟩) = "OBSTACLE 7,0" ∧
      read "OBSTACLE 7,0" = .ok (.obstacle ⟨7, 0⟩)) ∧
    read "obstacle 0,7" = .ok (.obstacle ⟨0, 7⟩) ∧
      render (.obstacle ⟨7, 0⟩) ≠ render (.obstacle ⟨0, 7⟩) := by
  intro corner
  obtain ⟨_, back, again, apart⟩ := reading_undoes_rendering
  have fits : ∀ c, corner.cell? = some c → c.Nameable := by
    intro c hc
    cases hc
    decide
  have here : read "obstacle +07 , -0, 3" = .ok (.obstacle ⟨7, 0⟩) := rfl
  have there : read "obstacle 0,7" = .ok (.obstacle ⟨0, 7⟩) := rfl
  have text : render (.obstacle ⟨7, 0⟩) = "OBSTACLE 7,0" := by decide +kernel
  refine ⟨fits, ⟨by decide +kernel, back corner fits⟩, ⟨here, text, ?_⟩, there, ?_⟩
  · rw [← text]
    exact (again _ _ here).2
  · exact mt (apart _ _ _ _ here there).2 (by decide)

end Instruction
end RobotGrid
