import RobotGrid.Text.CaseTable
/-!
# Upper case

The full upper-case form of a text, letter by letter. Main statement: a text already in upper-case
ASCII is its own form.
-/

set_option autoImplicit false

namespace RobotGrid.Text

/-- The upper-case form of one character, which may be several characters. -/
def upperChar (c : Char) : List Char :=
  if c.toNat < 128 then [c.toUpper]
  else
    match caseExpansions.lookup c.toNat with
    | some codes => codes.map Char.ofNat
    | none =>
      match caseRuns.find? fun r => r.holds c.toNat with
      | some r => [Char.ofNat (r.apply c.toNat)]
      | none => [c]

def upper (s : List Char) : List Char := s.flatMap upperChar

def upperText (s : String) : String := String.ofList (upper s.toList)

@[simp] theorem upper_cons (c : Char) (s : List Char) :
    upper (c :: s) = upperChar c ++ upper s := by
  simp [upper]

theorem upperChar_ascii {c : Char} (h : c.toNat < 128) : upperChar c = [c.toUpper] := by
  simp [upperChar, h]

theorem upper_eq_self {s : List Char} (h : ∀ c ∈ s, c.toNat < 128 ∧ c.toUpper = c) :
    upper s = s := by
  induction s with
  | nil => rfl
  | cons c r ih =>
    have hc := h c (by simp)
    rw [upper_cons, upperChar_ascii hc.1, hc.2, ih fun d hd => h d (List.mem_cons_of_mem _ hd)]
    rfl

end RobotGrid.Text
