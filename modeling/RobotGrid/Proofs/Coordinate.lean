import RobotGrid.Reading

set_option autoImplicit false

/-!
# Coordinates of commands

A coordinate is a signed decimal numeral of bounded length whose value fits 32 bits. Reading one
field, and then two from the left, agrees with this on every text; a numeral beyond the digit limit
is told apart from all other texts that are no coordinate.
-/
namespace RobotGrid

def Digits (s : List Char) : Prop := s ≠ [] ∧ ∀ c ∈ s, c.isDigit = true

inductive Signed : List Char → Bool → List Char → Prop where
  | bare {digits : List Char} (h : Digits digits) : Signed digits false digits
  | plus {digits : List Char} (h : Digits digits) : Signed ('+' :: digits) false digits
  | minus {digits : List Char} (h : Digits digits) : Signed ('-' :: digits) true digits

def positional : List Char → Nat
  | [] => 0
  | c :: r => (c.toNat - '0'.toNat) * Nat.pow 10 r.length + positional r

def signedValue (negative : Bool) (digits : List Char) : Int :=
  if negative then -(positional digits : Int) else positional digits

/-- A signed numeral with at most 4300 digits that denotes an integer of 32 bits. -/
def Coordinate32 (text : List Char) (n : Int) : Prop :=
  ∃ negative digits, Signed text negative digits ∧ digits.length ≤ 4300 ∧
    n = signedValue negative digits ∧ -2147483648 ≤ n ∧ n ≤ 2147483647

/-- A signed numeral with `n` digits, which are more than 4300. -/
def Overlong (text : List Char) (n : Nat) : Prop :=
  ∃ negative digits, Signed text negative digits ∧ digits.length = n ∧ 4300 < n

/-- Of two fields read from the left, the first that is no coordinate is overlong. -/
def Overruns (f₁ f₂ : List Char) (n : Nat) : Prop :=
  Overlong f₁ n ∨ (∃ x, Coordinate32 f₁ x) ∧ Overlong f₂ n

theorem ofDigitChars_eq_positional (s : List Char) : Nat.ofDigitChars 10 s 0 = positional s := by
  induction s with
  | nil => rfl
  | cons c r ih =>
    rw [Nat.ofDigitChars_cons, Nat.ofDigitChars_eq_ofDigitChars_zero, ih]
    rw [Nat.mul_zero, Nat.zero_add, Nat.mul_comm]
    rfl

theorem Signed.ofChars?_iff {text digits : List Char} {negative : Bool} :
    Text.Numeral.ofChars? text = some ⟨negative, digits⟩ ↔ Signed text negative digits := by
  constructor
  · intro h
    unfold Text.Numeral.ofChars? at h
    split at h <;> obtain ⟨e, ne, all⟩ := Text.Numeral.ofDigits?_eq_some_iff.1 h <;> cases e
    · exact .plus ⟨ne, all⟩
    · exact .minus ⟨ne, all⟩
    · exact .bare ⟨ne, all⟩
  · intro h
    cases h with
    | bare d => exact Text.Numeral.ofChars?_chars (n := ⟨false, text⟩) d.1 d.2
    | plus d => exact Text.Numeral.ofDigits?_eq_some_iff.2 ⟨rfl, d.1, d.2⟩
    | minus d => exact Text.Numeral.ofDigits?_eq_some_iff.2 ⟨rfl, d.1, d.2⟩

theorem readCoordinate_of_signed {text digits : List Char} {negative : Bool}
    (h : Signed text negative digits) :
    readCoordinate text =
      if 4300 < digits.length then .error (.oversized (.read digits.length))
      else if -2147483648 ≤ signedValue negative digits ∧ signedValue negative digits ≤ 2147483647
        then .ok (signedValue negative digits)
      else .error (.fault (.outOfRange (String.ofList text))) := by
  have value : Text.Numeral.value ⟨negative, digits⟩ = signedValue negative digits := by
    simp only [Text.Numeral.value, signedValue, ofDigitChars_eq_positional]
  simp only [readCoordinate, Signed.ofChars?_iff.2 h, value]
  rfl

theorem readCoordinate_of_not_signed {text : List Char}
    (h : ∀ negative digits, ¬Signed text negative digits) :
    readCoordinate text = .error (.fault (.notInteger (String.ofList text))) := by
  unfold readCoordinate
  cases e : Text.Numeral.ofChars? text with
  | none => rfl
  | some numeral => exact absurd (Signed.ofChars?_iff.1 e) (h _ _)

theorem exists_signed_of_read {text : List Char}
    (h : readCoordinate text ≠ .error (.fault (.notInteger (String.ofList text)))) :
    ∃ negative digits, Signed text negative digits := by
  by_cases signed : ∃ negative digits, Signed text negative digits
  · exact signed
  · exact absurd (readCoordinate_of_not_signed fun b d s => signed ⟨b, d, s⟩) h

theorem readCoordinate_eq_ok_iff {text : List Char} {n : Int} :
    readCoordinate text = .ok n ↔ Coordinate32 text n := by
  constructor
  · intro h
    obtain ⟨negative, digits, signed⟩ := exists_signed_of_read (by rw [h]; simp)
    rw [readCoordinate_of_signed signed] at h
    split at h
    · cases h
    · rename_i short
      split at h
      · rename_i range
        cases h
        exact ⟨negative, digits, signed, by omega, rfl, range⟩
      · cases h
  · rintro ⟨negative, digits, signed, short, hn, range⟩
    rw [readCoordinate_of_signed signed, if_neg (by omega), ← hn, if_pos range]

theorem readCoordinate_eq_oversized_iff {text : List Char} {o : Oversized} :
    readCoordinate text = .error (.oversized o) ↔ ∃ n, o = .read n ∧ Overlong text n := by
  constructor
  · intro h
    obtain ⟨negative, digits, signed⟩ := exists_signed_of_read (by rw [h]; simp)
    rw [readCoordinate_of_signed signed] at h
    split at h
    · rename_i long
      cases h
      exact ⟨_, rfl, negative, digits, signed, rfl, long⟩
    · split at h <;> cases h
  · rintro ⟨n, rfl, negative, digits, signed, size, long⟩
    rw [readCoordinate_of_signed signed, if_pos (by omega), size]

theorem toNat_of_isDigit {c : Char} (h : c.isDigit = true) : 48 ≤ c.toNat ∧ c.toNat ≤ 57 := by
  simpa [Char.isDigit, UInt32.le_iff_toNat_le] using h

theorem Signed.forall_mem {P : Char → Prop} (digit : ∀ c : Char, c.isDigit = true → P c)
    (plus : P '+') (minus : P '-') {text digits : List Char} {negative : Bool}
    (h : Signed text negative digits) : ∀ c ∈ text, P c := by
  cases h with
  | bare d => exact fun c hc => digit c (d.2 c hc)
  | plus d => exact List.forall_mem_cons.2 ⟨plus, fun c hc => digit c (d.2 c hc)⟩
  | minus d => exact List.forall_mem_cons.2 ⟨minus, fun c hc => digit c (d.2 c hc)⟩

theorem Digits.comma_not_mem {s : List Char} (d : Digits s) : ',' ∉ s := by
  intro h
  exact absurd (d.2 ',' h) (by decide)

theorem readCell_eq_ok_iff {f₁ f₂ : List Char} {c : Cell} :
    readCell f₁ f₂ = .ok c ↔ Coordinate32 f₁ c.x ∧ Coordinate32 f₂ c.y := by
  rw [← readCoordinate_eq_ok_iff, ← readCoordinate_eq_ok_iff, readCell]
  cases hx : readCoordinate f₁ with
  | error e => simp [Except.bind]
  | ok x =>
    cases hy : readCoordinate f₂ with
    | error e => simp [Except.bind, Except.map]
    | ok y =>
      obtain ⟨cx, cy⟩ := c
      simp [Except.bind, Except.map]

theorem readCell_eq_oversized_iff {f₁ f₂ : List Char} {o : Oversized} :
    readCell f₁ f₂ = .error (.oversized o) ↔ ∃ n, o = .read n ∧ Overruns f₁ f₂ n := by
  have first : readCell f₁ f₂ = .error (.oversized o) ↔ readCoordinate f₁ = .error (.oversized o) ∨
      (∃ x, readCoordinate f₁ = .ok x) ∧ readCoordinate f₂ = .error (.oversized o) := by
    rw [readCell]
    cases hx : readCoordinate f₁ with
    | error e => simp [Except.bind]
    | ok x => cases hy : readCoordinate f₂ <;> simp [Except.bind, Except.map]
  rw [first, readCoordinate_eq_oversized_iff, readCoordinate_eq_oversized_iff]
  simp only [readCoordinate_eq_ok_iff, Overruns, and_or_left, exists_or]
  refine or_congr_right ⟨?_, ?_⟩
  · rintro ⟨reads, n, e, long⟩
    exact ⟨n, e, reads, long⟩
  · rintro ⟨n, e, reads, long⟩
    exact ⟨reads, n, e, long⟩

end RobotGrid
