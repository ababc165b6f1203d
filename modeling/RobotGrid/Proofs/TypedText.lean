import RobotGrid.Proofs.Layout

set_option autoImplicit false

/-!
# The commands of a typed text

A typed text is cut at semicolons and at line ends. Its commands are the trimmed pieces that are not
blank, which are the trimmed lines that are not blank once each semicolon ends a line. Whether a
return and a line feed end one line or two makes no difference, since the line between them is
blank. So cutting keeps all characters but blanks and semicolons, a text can be cut in halves at any
separator, and commands that are joined again are cut into the same commands.
-/
namespace RobotGrid.Text

/-- The lines of a text. A return and a line feed behind it end one line, and behind the last line
end there is no line unless something follows. -/
def lines : List Char → List (List Char)
  | [] => []
  | '\r' :: '\n' :: r => [] :: lines r
  | c :: r =>
    if isLineEnd c then [] :: lines r
    else
      match lines r with
      | [] => [[c]]
      | w :: ws => (c :: w) :: ws

/-- The text with a line end in place of each semicolon. -/
def breakAtSemicolons (s : List Char) : List Char := s.map fun c => if c = ';' then '\n' else c

/-- The trimmed pieces that are not blank. -/
def solidPieces (ps : List (List Char)) : List (List Char) :=
  (ps.map trim).filter fun w => !w.isEmpty

/-- A trimmed text that is not blank and holds no separator. -/
structure Command (v : List Char) : Prop where
  ne_nil : v ≠ []
  ends : SolidEnds v
  whole : ∀ c ∈ v, separatesCommands c = false

theorem separatesCommands_eq_false_iff {c : Char} :
    separatesCommands c = false ↔ c ≠ ';' ∧ isLineEnd c = false := by
  simp [separatesCommands]

theorem separatesCommands_iff {c : Char} :
    separatesCommands c = true ↔ c = ';' ∨ isLineEnd c = true := by
  simp [separatesCommands]

theorem pieces_cons_of_separator {p : Char → Bool} {c : Char} (h : p c = true) (s : List Char) :
    pieces p (c :: s) = [] :: pieces p s := by
  rw [pieces, if_pos h]

theorem pieces_cons_of_other {p : Char → Bool} {c : Char} (h : ¬p c = true) {s v : List Char}
    {vs : List (List Char)} (e : pieces p s = v :: vs) : pieces p (c :: s) = (c :: v) :: vs := by
  rw [pieces, if_neg h, e]

theorem pieces_map {p q : Char → Bool} {f : Char → Char} (same : ∀ c, q (f c) = p c)
    (fixed : ∀ c, ¬p c = true → f c = c) (s : List Char) : pieces q (s.map f) = pieces p s := by
  induction s with
  | nil => rfl
  | cons c s ih =>
    obtain ⟨v, vs, e⟩ := List.exists_cons_of_ne_nil (pieces_ne_nil p s)
    rw [List.map_cons]
    by_cases h : p c = true
    · rw [pieces_cons_of_separator h, pieces_cons_of_separator ((same c).trans h), ih]
    · have other : ¬q (f c) = true := by rwa [same]
      rw [pieces_cons_of_other h e, pieces_cons_of_other other (ih.trans e), fixed c h]

theorem pieces_breakAtSemicolons (s : List Char) :
    pieces isLineEnd (breakAtSemicolons s) = pieces separatesCommands s := by
  refine pieces_map (fun c => ?_) (fun c h => ?_) s
  · by_cases semicolon : c = ';'
    · rw [semicolon]
      rfl
    · rw [if_neg semicolon, separatesCommands, beq_false_of_ne semicolon, Bool.false_or]
  · refine if_neg fun semicolon => h ?_
    rw [semicolon]
    rfl

theorem solidPieces_nil_cons (ps : List (List Char)) :
    solidPieces ([] :: ps) = solidPieces ps := rfl

theorem solidPieces_cons_congr {ps qs : List (List Char)} (v : List Char)
    (h : solidPieces ps = solidPieces qs) : solidPieces (v :: ps) = solidPieces (v :: qs) := by
  simp only [solidPieces, List.map_cons, List.filter_cons] at h ⊢
  rw [h]

/-- The lines and the pieces of a text begin alike, and then differ in blank ones only. -/
inductive LineByPiece : List (List Char) → List (List Char) → Prop where
  | empty : LineByPiece [] [[]]
  | cons {v : List Char} {ws vs : List (List Char)} (h : solidPieces ws = solidPieces vs) :
      LineByPiece (v :: ws) (v :: vs)

theorem LineByPiece.solidPieces_eq {ls ps : List (List Char)} (h : LineByPiece ls ps) :
    solidPieces ls = solidPieces ps := by
  cases h with
  | empty => rfl
  | cons h => exact solidPieces_cons_congr _ h

theorem lineByPiece (s : List Char) : LineByPiece (lines s) (pieces isLineEnd s) := by
  fun_induction lines s with
  | case1 => exact .empty
  | case2 r ih =>
    -- The empty piece between the return and the line feed is the one that is no line.
    rw [pieces_cons_of_separator rfl, pieces_cons_of_separator rfl]
    exact .cons (ih.solidPieces_eq.trans (solidPieces_nil_cons _).symm)
  | case3 c r notBoth h ih =>
    rw [pieces_cons_of_separator h]
    exact .cons ih.solidPieces_eq
  | case4 c r notBoth h none ih =>
    rw [none] at ih
    generalize e : pieces isLineEnd r = ps at ih
    cases ih with
    | empty =>
      rw [pieces_cons_of_other h e]
      exact .cons rfl
  | case5 c r notBoth h w ws some ih =>
    rw [some] at ih
    generalize e : pieces isLineEnd r = ps at ih
    cases ih with
    | cons solid =>
      rw [pieces_cons_of_other h e]
      exact .cons solid

/-- The commands are the trimmed lines that are not blank, once each semicolon ends a line. -/
theorem commandPieces_eq_solidPieces (s : List Char) :
    commandPieces s = solidPieces (lines (breakAtSemicolons s)) := by
  rw [(lineByPiece _).solidPieces_eq, pieces_breakAtSemicolons]
  rfl

example : lines (breakAtSemicolons ['a', '\r', ';', '\r', 'b', '\r']) = [['a'], [], ['b']] := by
  decide

theorem joined_cons_cons (c : Char) (v w : List Char) (vs : List (List Char)) :
    [c].intercalate (v :: w :: vs) = v ++ c :: [c].intercalate (w :: vs) := by
  rw [List.intercalate_cons_cons, List.append_assoc]
  rfl

theorem mem_joined {c d : Char} {vs : List (List Char)} (h : d ∈ [c].intercalate vs) :
    d = c ∨ ∃ v ∈ vs, d ∈ v := by
  induction vs with
  | nil => simp at h
  | cons v vs ih =>
    cases vs with
    | nil =>
      rw [List.intercalate_singleton] at h
      exact Or.inr ⟨v, List.mem_singleton_self v, h⟩
    | cons w vs =>
      rw [joined_cons_cons, List.mem_append, List.mem_cons] at h
      rcases h with h | h | h
      · exact Or.inr ⟨v, List.mem_cons_self, h⟩
      · exact Or.inl h
      · refine (ih h).imp_right ?_
        rintro ⟨u, mem, hu⟩
        exact ⟨u, List.mem_cons_of_mem v mem, hu⟩

theorem count_joined {c : Char} {vs : List (List Char)} (whole : ∀ v ∈ vs, c ∉ v) :
    ([c].intercalate vs).count c = vs.length - 1 := by
  induction vs with
  | nil => rfl
  | cons v vs ih =>
    obtain ⟨first, others⟩ := List.forall_mem_cons.1 whole
    cases vs with
    | nil => rw [List.intercalate_singleton, List.count_eq_zero.2 first]; rfl
    | cons w vs =>
      rw [joined_cons_cons, List.count_append, List.count_cons_self, ih others,
        List.count_eq_zero.2 first]
      simp only [List.length_cons]
      omega

theorem lines_cons_of_other {c : Char} (h : isLineEnd c = false) (s : List Char) :
    lines (c :: s) = (match lines s with | [] => [[c]] | w :: ws => (c :: w) :: ws) := by
  have apart : c ≠ '\r' := by
    rintro rfl
    cases h
  rw [lines, if_neg (by simp [h])]
  intro r e
  exact absurd e apart

theorem lines_of_whole {v : List Char} (ne : v ≠ []) (whole : ∀ c ∈ v, isLineEnd c = false) :
    lines v = [v] := by
  induction v with
  | nil => exact absurd rfl ne
  | cons c v ih =>
    obtain ⟨first, others⟩ := List.forall_mem_cons.1 whole
    rw [lines_cons_of_other first]
    cases v with
    | nil => rfl
    | cons d v => rw [ih (List.cons_ne_nil d v) others]

theorem lines_append_lineFeed {v : List Char} (whole : ∀ c ∈ v, isLineEnd c = false)
    (s : List Char) : lines (v ++ '\n' :: s) = v :: lines s := by
  induction v with
  | nil => rfl
  | cons c v ih =>
    obtain ⟨first, others⟩ := List.forall_mem_cons.1 whole
    rw [List.cons_append, lines_cons_of_other first, ih others]

theorem lines_joined {vs : List (List Char)} (ne : ∀ v ∈ vs, v ≠ [])
    (whole : ∀ v ∈ vs, ∀ c ∈ v, isLineEnd c = false) : lines (['\n'].intercalate vs) = vs := by
  induction vs with
  | nil => rfl
  | cons v vs ih =>
    obtain ⟨some, others⟩ := List.forall_mem_cons.1 ne
    obtain ⟨first, rest⟩ := List.forall_mem_cons.1 whole
    cases vs with
    | nil => rw [List.intercalate_singleton, lines_of_whole some first]
    | cons w vs => rw [joined_cons_cons, lines_append_lineFeed first, ih others rest]

theorem mem_of_mem_trim {s : List Char} {c : Char} (h : c ∈ trim s) : c ∈ s := by
  obtain ⟨tail, _, whole⟩ := exists_trimRight_append (s.dropWhile isBlank)
  have behind : c ∈ s.dropWhile isBlank := by
    rw [whole]
    exact List.mem_append_left tail h
  exact (List.dropWhile_sublist isBlank).subset behind

theorem squeeze_trim (s : List Char) : squeeze (trim s) = squeeze s := by
  rw [← flatten_words, ← flatten_words, words_trim]

theorem command_of_mem {s v : List Char} (h : v ∈ commandPieces s) : Command v := by
  obtain ⟨trimmed, solid⟩ := List.mem_filter.1 h
  obtain ⟨w, piece, rfl⟩ := List.mem_map.1 trimmed
  refine ⟨by simpa using solid, solidEnds_trim w, fun c hc => ?_⟩
  exact mem_pieces piece c (mem_of_mem_trim hc)

theorem Command.commandPieces_eq {v : List Char} (h : Command v) : commandPieces v = [v] := by
  rw [commandPieces, pieces_eq_singleton separatesCommands h.whole, List.map_singleton,
    h.ends.trim_eq]
  exact List.filter_cons_of_pos (by simpa using h.ne_nil)

theorem commandPieces_intercalate {c : Char} (separator : separatesCommands c = true)
    {vs : List (List Char)} (commands : ∀ v ∈ vs, Command v) :
    commandPieces ([c].intercalate vs) = vs := by
  induction vs with
  | nil => rfl
  | cons v vs ih =>
    obtain ⟨first, others⟩ := List.forall_mem_cons.1 commands
    cases vs with
    | nil =>
      rw [List.intercalate_singleton]
      exact first.commandPieces_eq
    | cons w vs =>
      rw [joined_cons_cons, commandPieces_append_cons separator, first.commandPieces_eq, ih others]
      rfl

theorem not_isLineEnd_of_solid {c : Char} (h : isBlank c = false) : isLineEnd c = false := by
  refine Bool.eq_false_iff.2 fun ends => ?_
  rw [isBlank_of_isLineEnd ends] at h
  cases h

theorem squeeze_flatten (ps : List (List Char)) :
    squeeze ps.flatten = (ps.map squeeze).flatten := List.filter_flatten

/-- Blanks and semicolons are all that commands lack of their text. -/
theorem squeeze_commandPieces (s : List Char) :
    squeeze (commandPieces s).flatten = (squeeze s).filter (· != ';') := by
  have trimmed : ((pieces separatesCommands s).map trim).map squeeze =
      (pieces separatesCommands s).map squeeze := by
    rw [List.map_map]
    exact List.map_congr_left fun p _ => squeeze_trim p
  rw [commandPieces, flatten_filter_nonempty, squeeze_flatten, trimmed, ← squeeze_flatten,
    flatten_pieces, squeeze, squeeze, List.filter_filter, List.filter_filter]
  refine List.filter_congr fun c _ => ?_
  -- A line end is a blank, so it is left out on both sides.
  cases blank : isBlank c with
  | true => simp
  | false => simp [separatesCommands, not_isLineEnd_of_solid blank, bne]

theorem commandLines_append {c : Char} (separator : separatesCommands c = true) (a b : String) :
    commandLines (a ++ String.singleton c ++ b) = commandLines a ++ commandLines b := by
  simp only [commandLines, String.toList_append, String.toList_singleton, List.append_assoc,
    List.singleton_append, commandPieces_append_cons separator, List.map_append]

theorem toList_commandLines (t : String) :
    (commandLines t).map String.toList = commandPieces t.toList := by
  rw [commandLines, List.map_map]
  exact (List.map_congr_left fun v _ => String.toList_ofList).trans (List.map_id _)

theorem commandLines_intercalate {c : Char} (separator : separatesCommands c = true) (t : String) :
    commandLines ((String.singleton c).intercalate (commandLines t)) = commandLines t := by
  rw [commandLines, String.toList_intercalate, toList_commandLines, String.toList_singleton,
    commandPieces_intercalate separator fun v => command_of_mem]
  rfl

theorem command_of_mem_commandLines {t w : String} (h : w ∈ commandLines t) : Command w.toList := by
  obtain ⟨v, mem, rfl⟩ := List.mem_map.1 h
  rw [String.toList_ofList]
  exact command_of_mem mem

/-- The commands of a typed text are its trimmed lines that are not blank, where a semicolon ends a
line as well. None is empty, has a blank at an end, or holds a semicolon or a line end. Together
they have all characters of the text in order, but for blanks and semicolons. A text in two halves
around a separator has the commands of both, whatever stands beside the separator, and commands that
are joined with a separator are the commands of what they are joined to. -/
theorem cutting_loses_nothing (t : String) :
    commandLines t = (solidPieces (lines (breakAtSemicolons t.toList))).map String.ofList ∧
    (∀ w ∈ commandLines t, w ≠ "" ∧ SolidEnds w.toList ∧
      ∀ c ∈ w.toList, c ≠ ';' ∧ isLineEnd c = false) ∧
    squeeze ((commandLines t).map String.toList).flatten = (squeeze t.toList).filter (· != ';') ∧
    ∀ s : Char, s = ';' ∨ isLineEnd s = true →
      (∀ a b, commandLines (a ++ String.singleton s ++ b) = commandLines a ++ commandLines b) ∧
      commandLines ((String.singleton s).intercalate (commandLines t)) = commandLines t := by
  refine ⟨?_, fun w mem => ?_, ?_, fun s h => ?_⟩
  · rw [commandLines, commandPieces_eq_solidPieces]
  · have command := command_of_mem_commandLines mem
    refine ⟨fun empty => command.ne_nil ?_, command.ends, fun c hc => ?_⟩
    · rw [empty]
      rfl
    · exact separatesCommands_eq_false_iff.1 (command.whole c hc)
  · rw [toList_commandLines, squeeze_commandPieces]
  · have separator := separatesCommands_iff.2 h
    exact ⟨commandLines_append separator, commandLines_intercalate separator t⟩

/-- A text that ends with a return, and a line feed behind it. -/
theorem cutting_loses_nothing_around_return :
    let t := " PLACE 0,0,NORTH;\u2028; MOVE \x85\r"
    let commands := ["PLACE 0,0,NORTH", "MOVE"]
    isLineEnd '\n' = true ∧ commandLines t = commands ∧
      commandLines (t ++ "\n" ++ "\nREPORT") = commands ++ ["REPORT"] ∧
      commandLines ("\n".intercalate commands) = commands := by
  intro t commands
  have ends : isLineEnd '\n' = true := by decide
  have cut : commandLines t = commands := by decide +kernel
  have rest : commandLines "\nREPORT" = ["REPORT"] := by decide +kernel
  obtain ⟨halves, joined⟩ := (cutting_loses_nothing t).2.2.2 '\n' (Or.inr ends)
  have behind := halves t "\nREPORT"
  rw [cut, rest] at behind
  rw [cut] at joined
  exact ⟨ends, cut, behind, joined⟩

end RobotGrid.Text
