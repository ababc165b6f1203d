import RobotGrid.Text.Lines

set_option autoImplicit false

/-!
# The first word of a line

A line that is not blank is cut at its first word: blanks before the word, and behind it nothing or
a text that opens with a blank. The words of the line are this word and the words of the rest, and
trimming leaves all of them. Trimmed is a text without blanks at its ends, and so is every command
of a typed text. Text between separators is cut in the same way, one piece at a time.
-/
namespace RobotGrid.Text

/-- A line as the blanks before its first word, the word, and the rest. -/
structure Layout (line lead word rest : List Char) : Prop where
  line_eq : line = lead ++ word ++ rest
  lead_blank : ∀ c ∈ lead, isBlank c = true
  word_ne_nil : word ≠ []
  word_solid : ∀ c ∈ word, isBlank c = false
  rest_opens : rest = [] ∨ ∃ c t, isBlank c = true ∧ rest = c :: t

theorem words_blank_append {lead : List Char} (h : ∀ c ∈ lead, isBlank c = true)
    (s : List Char) : words (lead ++ s) = words s := by
  induction lead with
  | nil => rfl
  | cons c lead ih =>
    have cut := words_append_cons (h c List.mem_cons_self) [] (lead ++ s)
    have rest := ih fun d hd => h d (List.mem_cons_of_mem c hd)
    change words (c :: (lead ++ s)) = words (lead ++ s) at cut
    exact cut.trans rest

theorem words_append_blank {tail : List Char} (h : ∀ c ∈ tail, isBlank c = true)
    (s : List Char) : words (s ++ tail) = words s := by
  cases tail with
  | nil => rw [List.append_nil]
  | cons c tail =>
    have behind : words tail = [] :=
      words_eq_nil_iff.2 fun d hd => h d (List.mem_cons_of_mem c hd)
    rw [words_append_cons (h c List.mem_cons_self), behind, List.append_nil]

theorem Layout.words_eq {line lead word rest : List Char} (l : Layout line lead word rest) :
    words line = word :: words rest := by
  have alone := words_eq_singleton l.word_ne_nil l.word_solid
  rw [l.line_eq, List.append_assoc, words_blank_append l.lead_blank]
  rcases l.rest_opens with e | ⟨c, t, hc, e⟩
  · rw [e, List.append_nil, alone]
    rfl
  · have behind : words (c :: t) = words t := words_append_cons hc [] t
    rw [e, words_append_cons hc, alone, behind]
    rfl

theorem exists_layout {line : List Char} (h : ∃ c ∈ line, isBlank c = false) :
    ∃ lead word rest, Layout line lead word rest := by
  induction line with
  | nil =>
    obtain ⟨c, hc, _⟩ := h
    cases hc
  | cons c line ih =>
    by_cases hc : isBlank c = true
    · have inside : ∃ d ∈ line, isBlank d = false := by
        obtain ⟨d, hd, solid⟩ := h
        rcases List.mem_cons.1 hd with e | hd
        · rw [e, hc] at solid
          cases solid
        · exact ⟨d, hd, solid⟩
      obtain ⟨lead, word, rest, l⟩ := ih inside
      refine ⟨c :: lead, word, rest, ?_, ?_, l.word_ne_nil, l.word_solid, l.rest_opens⟩
      · rw [l.line_eq]
        rfl
      · intro d hd
        rcases List.mem_cons.1 hd with e | hd
        · rw [e, hc]
        · exact l.lead_blank d hd
    · -- The word opens the line: it goes on up to the next blank.
      let solid : Char → Bool := fun d => !isBlank d
      refine ⟨[], c :: line.takeWhile solid, line.dropWhile solid, ?_, ?_, ?_, ?_, ?_⟩
      · simp
      · intro d hd
        cases hd
      · simp
      · intro d hd
        rcases List.mem_cons.1 hd with e | hd
        · rw [e]
          simpa using hc
        · have := List.all_takeWhile (p := solid) (l := line)
          simpa [solid] using List.all_eq_true.1 this d hd
      · cases e : line.dropWhile solid with
        | nil => exact Or.inl rfl
        | cons d t =>
          have stops := List.head?_dropWhile_not solid line
          rw [e] at stops
          exact Or.inr ⟨d, t, by simpa [solid] using stops, rfl⟩

theorem words_eq_cons_iff {line word : List Char} {ws : List (List Char)} :
    words line = word :: ws ↔ ∃ lead rest, Layout line lead word rest ∧ words rest = ws := by
  constructor
  · intro h
    have some : ∃ c ∈ line, isBlank c = false := by
      by_cases blank : ∀ c ∈ line, isBlank c = true
      · rw [words_eq_nil_iff.2 blank] at h
        cases h
      · simpa using blank
    obtain ⟨lead, first, rest, l⟩ := exists_layout some
    have same := l.words_eq.symm.trans h
    obtain ⟨e, e'⟩ := List.cons.inj same
    exact ⟨lead, rest, e ▸ l, e'⟩
  · rintro ⟨lead, rest, l, e⟩
    rw [l.words_eq, e]

theorem exists_trimRight_append (s : List Char) :
    ∃ tail, (∀ c ∈ tail, isBlank c = true) ∧ s = trimRight s ++ tail := by
  refine ⟨(s.reverse.takeWhile isBlank).reverse, ?_, ?_⟩
  · intro c hc
    exact List.all_eq_true.1 List.all_takeWhile c (List.mem_reverse.1 hc)
  · rw [trimRight, ← List.reverse_append, List.takeWhile_append_dropWhile, List.reverse_reverse]

theorem words_trim (s : List Char) : words (trim s) = words s := by
  have left : words (s.dropWhile isBlank) = words s := by
    conv => rhs; rw [← List.takeWhile_append_dropWhile (p := isBlank) (l := s)]
    exact (words_blank_append (List.all_eq_true.1 List.all_takeWhile) _).symm
  obtain ⟨tail, blank, whole⟩ := exists_trimRight_append (s.dropWhile isBlank)
  have right := words_append_blank blank (trim s)
  rw [← left, ← right]
  exact congrArg words whole.symm

/-- No blank stands at either end. -/
structure SolidEnds (s : List Char) : Prop where
  first : ∀ c, s.head? = some c → isBlank c = false
  last : ∀ c, s.getLast? = some c → isBlank c = false

theorem dropWhile_of_first {s : List Char} (h : ∀ c, s.head? = some c → isBlank c = false) :
    s.dropWhile isBlank = s := by
  cases s with
  | nil => rfl
  | cons c s => rw [List.dropWhile_cons, if_neg (by simp [h c rfl])]

theorem SolidEnds.trim_eq {s : List Char} (h : SolidEnds s) : trim s = s := by
  have back : s.reverse.dropWhile isBlank = s.reverse := by
    refine dropWhile_of_first fun c hc => h.last c ?_
    rw [← hc, List.head?_reverse]
  rw [trim, dropWhile_of_first h.first, trimRight, back, List.reverse_reverse]

theorem solidEnds_trim (s : List Char) : SolidEnds (trim s) := by
  constructor
  · intro c hc
    obtain ⟨tail, _, whole⟩ := exists_trimRight_append (s.dropWhile isBlank)
    have first : (s.dropWhile isBlank).head? = some c := by
      rw [whole, List.head?_append]
      change (trim s).head?.or _ = _
      rw [hc, Option.some_or]
    have stops := List.head?_dropWhile_not isBlank s
    rw [first] at stops
    simpa using stops
  · intro c hc
    have stops := List.head?_dropWhile_not isBlank (s.dropWhile isBlank).reverse
    rw [trim, trimRight, List.getLast?_reverse] at hc
    rw [hc] at stops
    simpa using stops

theorem trimmed_trimmed (s : String) : trimmed (trimmed s) = trimmed s := by
  have ends := solidEnds_trim s.toList
  rw [trimmed, trimmed, String.toList_ofList, ends.trim_eq]

theorem trimmed_of_mem_commandLines {text command : String} (h : command ∈ commandLines text) :
    trimmed command = command ∧ blankText command = false := by
  obtain ⟨w, hw, rfl⟩ := List.mem_map.1 h
  obtain ⟨piece, solid⟩ := List.mem_filter.1 hw
  obtain ⟨v, _, rfl⟩ := List.mem_map.1 piece
  have ends := solidEnds_trim v
  constructor
  · rw [trimmed, String.toList_ofList, ends.trim_eq]
  · cases e : trim v with
    | nil =>
      rw [e] at solid
      cases solid
    | cons c w =>
      have first := ends.first c (by rw [e]; rfl)
      rw [blankText, String.toList_ofList, List.all_cons, first, Bool.false_and]

theorem not_isBlank_of_mem_squeeze {s : List Char} {c : Char} (h : c ∈ squeeze s) :
    isBlank c = false := by
  simpa using (List.mem_filter.1 h).2

/-- Nothing follows a piece, or a separator and any text. -/
def Follows (p : Char → Bool) (tail : List Char) : Prop :=
  tail = [] ∨ ∃ c r, p c = true ∧ tail = c :: r

theorem exists_pieces_eq_cons_iff {p : Char → Bool} {s w : List Char} :
    (∃ ws, pieces p s = w :: ws) ↔
      (∀ c ∈ w, p c = false) ∧ ∃ tail, Follows p tail ∧ s = w ++ tail := by
  constructor
  · rintro ⟨ws, h⟩
    refine ⟨mem_pieces (h ▸ List.mem_cons_self), ?_⟩
    induction s generalizing w ws with
    | nil =>
      obtain ⟨e, _⟩ := List.cons.inj (show [] :: [] = w :: ws from h)
      exact ⟨[], Or.inl rfl, by rw [← e]; rfl⟩
    | cons c s ih =>
      rw [pieces] at h
      split at h
      · rename_i hc
        obtain ⟨e, _⟩ := List.cons.inj h
        exact ⟨c :: s, Or.inr ⟨c, s, hc, rfl⟩, by rw [← e]; rfl⟩
      · cases e : pieces p s with
        | nil => exact absurd e (pieces_ne_nil p s)
        | cons v vs =>
          rw [e] at h
          obtain ⟨hw, _⟩ := List.cons.inj h
          obtain ⟨tail, follows, hs⟩ := ih vs e
          exact ⟨tail, follows, by rw [← hw, hs]; rfl⟩
  · rintro ⟨solid, tail, follows, rfl⟩
    rcases follows with e | ⟨c, r, hc, e⟩
    · exact ⟨[], by rw [e, List.append_nil, pieces_eq_singleton p solid]⟩
    · exact ⟨pieces p r, by rw [e, pieces_append_cons p hc, pieces_eq_singleton p solid]; rfl⟩

theorem pieces_eq_cons_cons_iff {p : Char → Bool} {s w v : List Char} {vs : List (List Char)} :
    pieces p s = w :: v :: vs ↔
      (∀ c ∈ w, p c = false) ∧ ∃ c r, p c = true ∧ s = w ++ c :: r ∧ pieces p r = v :: vs := by
  constructor
  · intro h
    obtain ⟨solid, tail, follows, hs⟩ := exists_pieces_eq_cons_iff.1 ⟨v :: vs, h⟩
    refine ⟨solid, ?_⟩
    have alone := pieces_eq_singleton p solid
    rcases follows with e | ⟨c, r, hc, e⟩
    · rw [hs, e, List.append_nil, alone] at h
      cases h
    · rw [hs, e, pieces_append_cons p hc, alone] at h
      exact ⟨c, r, hc, e ▸ hs, (List.cons.inj h).2⟩
  · rintro ⟨solid, c, r, hc, rfl, h⟩
    rw [pieces_append_cons p hc, pieces_eq_singleton p solid, h]
    rfl

end RobotGrid.Text
