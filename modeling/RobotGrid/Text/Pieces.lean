/-!
# Pieces of a text between separators

The text cut at every separator, empty pieces kept, so that `n` separators give `n + 1` pieces.
Main statement: cutting respects concatenation around a separator.
-/

set_option autoImplicit false

namespace RobotGrid.Text

/-- The pieces between the characters that satisfy `p`. -/
def pieces (p : Char → Bool) : List Char → List (List Char)
  | [] => [[]]
  | c :: r =>
    if p c then [] :: pieces p r
    else
      match pieces p r with
      | [] => [[c]]
      | w :: ws => (c :: w) :: ws

theorem pieces_ne_nil (p : Char → Bool) (s : List Char) : pieces p s ≠ [] := by
  cases s with
  | nil => simp [pieces]
  | cons c r =>
    rw [pieces]
    split
    · simp
    · split <;> simp

theorem length_pieces (p : Char → Bool) (s : List Char) :
    (pieces p s).length = s.countP p + 1 := by
  induction s with
  | nil => rfl
  | cons c r ih =>
    rw [pieces]
    by_cases h : p c = true
    · simp [h, ih]
    · simp only [h, if_false, List.countP_cons, Bool.false_eq_true, Nat.add_zero]
      cases e : pieces p r with
      | nil => exact absurd e (pieces_ne_nil p r)
      | cons w ws => simpa [e] using ih

/-- A separator in the middle cuts the text into two independent halves. -/
theorem pieces_append_cons (p : Char → Bool) {c : Char} (h : p c = true) (a b : List Char) :
    pieces p (a ++ c :: b) = pieces p a ++ pieces p b := by
  induction a with
  | nil => simp [pieces, h]
  | cons d r ih =>
    simp only [List.cons_append, pieces, ih]
    split
    · rfl
    · cases e : pieces p r with
      | nil => exact absurd e (pieces_ne_nil p r)
      | cons w ws => rfl

theorem flatten_pieces (p : Char → Bool) (s : List Char) :
    (pieces p s).flatten = s.filter fun c => !p c := by
  induction s with
  | nil => rfl
  | cons c r ih =>
    rw [pieces]
    by_cases h : p c = true
    · simp [h, ih]
    · simp only [h, if_false, Bool.false_eq_true]
      cases e : pieces p r with
      | nil => exact absurd e (pieces_ne_nil p r)
      | cons w ws => simpa [e, h] using ih

theorem pieces_eq_singleton (p : Char → Bool) {s : List Char} (h : ∀ c ∈ s, p c = false) :
    pieces p s = [s] := by
  induction s with
  | nil => rfl
  | cons c r ih =>
    rw [pieces, ih fun d hd => h d (List.mem_cons_of_mem _ hd)]
    simp [h c (by simp)]

theorem mem_pieces {p : Char → Bool} {s w : List Char} (h : w ∈ pieces p s) :
    ∀ c ∈ w, p c = false := by
  induction s generalizing w with
  | nil => simp_all [pieces]
  | cons c r ih =>
    rw [pieces] at h
    split at h
    · rcases List.mem_cons.1 h with h | h
      · simp [h]
      · exact ih h
    · rename_i hc
      cases e : pieces p r with
      | nil => exact absurd e (pieces_ne_nil p r)
      | cons v vs =>
        rw [e] at h ih
        rcases List.mem_cons.1 h with h | h
        · subst h
          intro x hx
          rcases List.mem_cons.1 hx with hx | hx
          · subst hx
            simpa using hc
          · exact ih (by simp) x hx
        · exact ih (List.mem_cons_of_mem _ h)

end RobotGrid.Text
