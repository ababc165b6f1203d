import RobotGrid.Text.Pieces
/-!
# Blank characters, words and trimming

The white space of a command line, the words it separates, and the text left when both ends are
trimmed. Main statements: the words of a text are exactly its non-blank characters in order, each
word is non-empty, and none holds a blank.
-/

set_option autoImplicit false

namespace RobotGrid.Text

/-- White space: the controls from tab to return, the four separators, and Unicode's spaces. -/
def isBlank (c : Char) : Bool :=
  let n := c.toNat
  (decide (0x09 ≤ n) && decide (n ≤ 0x0D)) || (decide (0x1C ≤ n) && decide (n ≤ 0x20)) ||
    n == 0x85 || n == 0xA0 || n == 0x1680 || (decide (0x2000 ≤ n) && decide (n ≤ 0x200A)) ||
    n == 0x2028 || n == 0x2029 || n == 0x202F || n == 0x205F || n == 0x3000

def words (s : List Char) : List (List Char) := (pieces isBlank s).filter fun w => !w.isEmpty

def squeeze (s : List Char) : List Char := s.filter fun c => !isBlank c

def trimRight (s : List Char) : List Char := (s.reverse.dropWhile isBlank).reverse

def trim (s : List Char) : List Char := trimRight (s.dropWhile isBlank)

def trimmed (s : String) : String := String.ofList (trim s.toList)

def blankText (s : String) : Bool := s.toList.all isBlank

theorem flatten_filter_nonempty {α : Type} (l : List (List α)) :
    (l.filter fun w => !w.isEmpty).flatten = l.flatten := by
  induction l with
  | nil => rfl
  | cons w ws ih => cases w <;> simp [ih]

theorem flatten_words (s : List Char) : (words s).flatten = squeeze s := by
  rw [words, flatten_filter_nonempty, flatten_pieces, squeeze]

theorem mem_words {s w : List Char} (h : w ∈ words s) : w ≠ [] ∧ ∀ c ∈ w, isBlank c = false := by
  obtain ⟨inside, nonempty⟩ := List.mem_filter.1 h
  exact ⟨by simpa using nonempty, mem_pieces inside⟩

theorem words_eq_nil_iff {s : List Char} : words s = [] ↔ ∀ c ∈ s, isBlank c = true := by
  constructor
  · intro h c hc
    have none : squeeze s = [] := by rw [← flatten_words, h, List.flatten_nil]
    simpa using List.filter_eq_nil_iff.1 none c hc
  · intro h
    cases e : words s with
    | nil => rfl
    | cons w ws =>
      have empty : squeeze s = [] := List.filter_eq_nil_iff.2 fun c hc => by simp [h c hc]
      have split := flatten_words s
      rw [e, empty, List.flatten_cons, List.append_eq_nil_iff] at split
      exact absurd split.1 (mem_words (s := s) (e ▸ List.mem_cons_self)).1

/-- A blank in the middle cuts the words into two independent halves. -/
theorem words_append_cons {c : Char} (h : isBlank c = true) (a b : List Char) :
    words (a ++ c :: b) = words a ++ words b := by
  simp [words, pieces_append_cons _ h]

theorem words_eq_singleton {s : List Char} (ne : s ≠ []) (h : ∀ c ∈ s, isBlank c = false) :
    words s = [s] := by
  simp [words, pieces_eq_singleton _ h, ne]

end RobotGrid.Text
