/-!
# Signed decimal numerals

A numeral is an optional sign and at least one ASCII digit. A numeral with too many digits is
neither read nor written, and every text of an integer is made by the one writer that says so. Main
statements: what follows the sign reads exactly when it is made of such digits, and the written form
of an integer reads back as that integer.
-/

set_option autoImplicit false

namespace RobotGrid

/-- A numeral with more digits than are converted: one that is read, with the number of its digits,
or the one that an integer would be written as. -/
inductive Oversized where
  | read (digits : Nat)
  | written
  deriving DecidableEq

def Oversized.message : Oversized → String
  | .read digits =>
    "Exceeds the limit (4300 digits) for integer string conversion: value has " ++
      toString digits ++ " digits; use sys.set_int_max_str_digits() to increase the limit"
  | .written =>
    "Exceeds the limit (4300 digits) for integer string conversion; " ++
      "use sys.set_int_max_str_digits() to increase the limit"

end RobotGrid

namespace RobotGrid.Text

structure Numeral where
  negative : Bool
  digits : List Char
  deriving DecidableEq

namespace Numeral

def value (n : Numeral) : Int :=
  let magnitude : Int := Nat.ofDigitChars 10 n.digits 0
  if n.negative then -magnitude else magnitude

/-- The most digits that are converted to an integer, or written for one. -/
def digitLimit : Nat := 4300

def ofDigits? (negative : Bool) (digits : List Char) : Option Numeral :=
  if digits ≠ [] ∧ digits.all Char.isDigit then some ⟨negative, digits⟩ else none

def ofChars? : List Char → Option Numeral
  | '+' :: digits => ofDigits? false digits
  | '-' :: digits => ofDigits? true digits
  | digits => ofDigits? false digits

theorem ofDigits?_eq_some_iff {negative : Bool} {digits : List Char} {n : Numeral} :
    ofDigits? negative digits = some n ↔
      n = ⟨negative, digits⟩ ∧ digits ≠ [] ∧ ∀ c ∈ digits, c.isDigit = true := by
  simp only [ofDigits?]
  split
  · rename_i h
    simp only [Option.some.injEq]
    exact ⟨fun e => ⟨e.symm, h.1, by simpa using h.2⟩, fun e => e.1.symm⟩
  · rename_i h
    constructor
    · intro e
      cases e
    · intro e
      exact absurd ⟨e.2.1, by simpa using e.2.2⟩ h

def ofInt (i : Int) : Numeral := ⟨decide (i < 0), Nat.toDigits 10 i.natAbs⟩

def isWritten (i : Int) : Bool := decide ((ofInt i).digits.length ≤ digitLimit)

/-- The text of an integer that has no more digits than are written. -/
def text (i : Int) (_ : isWritten i = true) : String := toString i

def write (i : Int) : Except Oversized String :=
  if h : isWritten i = true then .ok (text i h) else .error .written

theorem write_of_isWritten {i : Int} (h : isWritten i = true) : write i = .ok (toString i) := by
  rw [write, dif_pos h, text]

def chars (n : Numeral) : List Char := if n.negative then '-' :: n.digits else n.digits

@[simp] theorem value_ofInt (i : Int) : (ofInt i).value = i := by
  simp only [value, ofInt, Nat.ofDigitChars_ten_toDigits, decide_eq_true_eq]
  split <;> omega

theorem toList_toString (i : Int) : (toString i).toList = (ofInt i).chars := by
  rw [Int.toString_eq_repr, Int.repr_eq_if]
  by_cases h : i < 0
  · have size : (-i).toNat = i.natAbs := by omega
    have sign : ¬0 ≤ i := by omega
    simp [chars, ofInt, h, sign, size]
  · have size : i.toNat = i.natAbs := by omega
    have sign : 0 ≤ i := by omega
    simp [chars, ofInt, h, sign, size]

theorem ofChars?_of_isDigit {c : Char} {r : List Char} (h : c.isDigit = true) :
    ofChars? (c :: r) = ofDigits? false (c :: r) := by
  have plus : c ≠ '+' := fun e => absurd (e ▸ h) (by decide)
  have minus : c ≠ '-' := fun e => absurd (e ▸ h) (by decide)
  simp [ofChars?, plus, minus]

theorem ofChars?_chars {n : Numeral} (ne : n.digits ≠ []) (h : ∀ c ∈ n.digits, c.isDigit = true) :
    ofChars? n.chars = some n := by
  obtain ⟨negative, digits⟩ := n
  cases negative with
  | true => exact ofDigits?_eq_some_iff.2 ⟨rfl, ne, h⟩
  | false =>
    cases digits with
    | nil => exact absurd rfl ne
    | cons c r =>
      change ofChars? (c :: r) = _
      rw [ofChars?_of_isDigit (h c List.mem_cons_self)]
      exact ofDigits?_eq_some_iff.2 ⟨rfl, ne, h⟩

theorem ofChars?_toString (i : Int) : ofChars? (toString i).toList = some (ofInt i) := by
  rw [toList_toString]
  refine ofChars?_chars Nat.toDigits_ne_nil ?_
  intro c hc
  exact Nat.isDigit_of_mem_toDigits (by decide) (by decide) hc

end Numeral
end RobotGrid.Text
