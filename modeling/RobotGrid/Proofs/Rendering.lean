import RobotGrid.Proofs.Writing

set_option autoImplicit false

/-!
# Written commands

A command that is written out from a cell and a heading has these for its fields: a written integer
and a name hold neither commas nor blanks. So reading gives back what was written, unless a
coordinate is one that no command can name, and that is refused as out of range.
-/
namespace RobotGrid
open Text (Layout)

theorem readCoordinate_of_nameable {n : Int} (h : Nameable n) :
    readCoordinate (toString n).toList = .ok n := by
  have short : ¬Text.Numeral.digitLimit < (Text.Numeral.ofInt n).digits.length :=
    Nat.not_lt.2 (of_decide_eq_true (isWritten_of_nameable h))
  have range : coordinateMin ≤ n ∧ n ≤ coordinateMax := h
  simp only [readCoordinate, Text.Numeral.ofChars?_toString, Text.Numeral.value_ofInt, if_neg short,
    if_pos range]

theorem readCoordinate_of_written {n : Int} (h : Text.Numeral.isWritten n = true)
    (outside : ¬Nameable n) :
    readCoordinate (toString n).toList = .error (.fault (.outOfRange (toString n))) := by
  have short : ¬Text.Numeral.digitLimit < (Text.Numeral.ofInt n).digits.length :=
    Nat.not_lt.2 (of_decide_eq_true h)
  have range : ¬(coordinateMin ≤ n ∧ n ≤ coordinateMax) := outside
  simp only [readCoordinate, Text.Numeral.ofChars?_toString, Text.Numeral.value_ofInt, if_neg short,
    if_neg range, String.ofList_toList]

theorem readCell_of_nameable {c : Cell} (h : c.Nameable) :
    readCell (toString c.x).toList (toString c.y).toList = .ok c := by
  rw [readCell, readCoordinate_of_nameable h.1, readCoordinate_of_nameable h.2]
  rfl

theorem readCell_of_not_nameable {c : Cell} (h : ¬c.Nameable) (written : c.Written) : ∃ text,
    readCell (toString c.x).toList (toString c.y).toList = .error (.fault (.outOfRange text)) := by
  rw [readCell]
  by_cases hx : Nameable c.x
  · have hy : ¬Nameable c.y := fun hy => h ⟨hx, hy⟩
    rw [readCoordinate_of_nameable hx, readCoordinate_of_written written.2 hy]
    exact ⟨_, rfl⟩
  · rw [readCoordinate_of_written written.1 hx]
    exact ⟨_, rfl⟩

/-- A field as it is written: neither a comma nor a blank. -/
def Compact (s : List Char) : Prop := ∀ c ∈ s, c ≠ ',' ∧ Text.isBlank c = false

theorem compact_of_isDigit {c : Char} (h : c.isDigit = true) :
    c ≠ ',' ∧ Text.isBlank c = false := by
  have range := toNat_of_isDigit h
  refine ⟨fun e => absurd (e ▸ h) (by decide), ?_⟩
  simp only [Text.isBlank, Bool.or_eq_false_iff, Bool.and_eq_false_iff, decide_eq_false_iff_not,
    beq_eq_false_iff_ne]
  omega

theorem Signed.compact {text digits : List Char} {negative : Bool}
    (h : Signed text negative digits) : Compact text :=
  h.forall_mem (fun _ => compact_of_isDigit) (by decide) (by decide)

theorem compact_toString (n : Int) : Compact (toString n).toList :=
  (Signed.ofChars?_iff.1 (Text.Numeral.ofChars?_toString n)).compact

theorem compact_of_all {s : List Char}
    (h : (s.all fun c => c != ',' && !Text.isBlank c) = true) : Compact s := by
  intro c hc
  have each := List.all_eq_true.1 h c hc
  simpa using each

theorem compact_name (o : Heading) : Compact o.name.toList := by
  cases o <;> exact compact_of_all rfl

theorem compact_keyword (k : Keyword) : Compact k.name.toList := by
  cases k <;> exact compact_of_all rfl

theorem Compact.comma_not_mem {s : List Char} (h : Compact s) : ',' ∉ s :=
  fun mem => (h ',' mem).1 rfl

def row : List (List Char) → List Char
  | [] => []
  | [f] => f
  | f :: g :: fs => f ++ ',' :: row (g :: fs)

theorem opens_row {fs : List (List Char)} (ne : fs ≠ []) (h : ∀ f ∈ fs, Compact f) :
    Opens fs (row fs) := by
  induction fs with
  | nil => exact absurd rfl ne
  | cons f fs ih =>
    obtain ⟨first, others⟩ := List.forall_mem_cons.1 h
    cases fs with
    | nil =>
      have alone : Opens [f] (f ++ []) := .last first.comma_not_mem (Or.inl rfl)
      rw [List.append_nil] at alone
      exact alone
    | cons g fs => exact .next first.comma_not_mem (ih (List.cons_ne_nil g fs) others)

theorem solid_row {fs : List (List Char)} (h : ∀ f ∈ fs, Compact f) :
    ∀ c ∈ row fs, Text.isBlank c = false := by
  induction fs with
  | nil =>
    intro c hc
    cases hc
  | cons f fs ih =>
    obtain ⟨first, others⟩ := List.forall_mem_cons.1 h
    intro c hc
    cases fs with
    | nil => exact (first c hc).2
    | cons g fs =>
      rcases List.mem_append.1 hc with hc | hc
      · exact (first c hc).2
      · rcases List.mem_cons.1 hc with rfl | hc
        · decide
        · exact ih others c hc

def commandText (k : Keyword) (fs : List (List Char)) : String :=
  String.ofList (k.name.toList ++ ' ' :: row fs)

theorem toList_commandText (k : Keyword) (fs : List (List Char)) :
    (commandText k fs).toList = k.name.toList ++ ' ' :: row fs := String.toList_ofList

theorem layout_commandText (k : Keyword) (fs : List (List Char)) :
    Layout (commandText k fs).toList [] k.name.toList (' ' :: row fs) := by
  have some : k.name.toList ≠ [] := by cases k <;> decide
  refine ⟨toList_commandText k fs, ?_, some, fun c hc => (compact_keyword k c hc).2, ?_⟩
  · intro c hc
    cases hc
  · exact Or.inr ⟨' ', row fs, rfl, rfl⟩

theorem read_commandText {k : Keyword} {fs : List (List Char)} (h : ∀ f ∈ fs, Compact f) :
    Instruction.read (commandText k fs) =
      Instruction.ofFields k (Text.pieces (· == ',') (row fs)) := by
  have upper : Text.upper k.name.toList = k.name.toList := by cases k <;> decide
  have squeezed : Text.squeeze (' ' :: row fs) = row fs := by
    have solid : ∀ c ∈ row fs, (!Text.isBlank c) = true := by
      intro c hc
      rw [solid_row h c hc]
      rfl
    exact List.filter_eq_self.2 solid
  rw [Instruction.read_of_layout (layout_commandText k fs) upper, squeezed]

theorem trimmed_commandText {k : Keyword} {fs : List (List Char)} (h : ∀ f ∈ fs, Compact f)
    (some : row fs ≠ []) : Text.trimmed (commandText k fs) = commandText k fs := by
  have ends : Text.SolidEnds (commandText k fs).toList := by
    rw [toList_commandText]
    constructor
    · intro c hc
      have first : k.name.toList.head? = .some c := by
        cases k <;> exact hc
      exact (compact_keyword k c (List.mem_of_mem_head? first)).2
    · intro c hc
      have last := List.getLast?_eq_some_getLast some
      rw [List.append_cons, List.getLast?_append, last, Option.some_or] at hc
      exact solid_row h c (List.mem_of_getLast? (last.trans hc))
  rw [Text.trimmed, ends.trim_eq, String.ofList_toList]

namespace Instruction

def placeFields (c : Cell) (o : Heading) : List (List Char) :=
  [(toString c.x).toList, (toString c.y).toList, o.name.toList]

def obstacleFields (c : Cell) : List (List Char) := [(toString c.x).toList, (toString c.y).toList]

theorem compact_placeFields (c : Cell) (o : Heading) : ∀ f ∈ placeFields c o, Compact f := by
  intro f hf
  simp only [placeFields, List.mem_cons, List.not_mem_nil, or_false] at hf
  rcases hf with rfl | rfl | rfl
  · exact compact_toString c.x
  · exact compact_toString c.y
  · exact compact_name o

theorem compact_obstacleFields (c : Cell) : ∀ f ∈ obstacleFields c, Compact f := by
  intro f hf
  simp only [obstacleFields, List.mem_cons, List.not_mem_nil, or_false] at hf
  rcases hf with rfl | rfl
  · exact compact_toString c.x
  · exact compact_toString c.y

theorem render_place (c : Cell) (o : Heading) :
    render (.place c o) = commandText .place (placeFields c o) := by
  apply String.toList_inj.1
  simp only [render, commandText, String.toList_append, String.toList_ofList, List.append_assoc]
  rfl

theorem render_obstacle (c : Cell) :
    render (.obstacle c) = commandText .obstacle (obstacleFields c) := by
  apply String.toList_inj.1
  simp only [render, commandText, String.toList_append, String.toList_ofList, List.append_assoc]
  rfl

theorem read_render_place (c : Cell) (o : Heading) : read (render (.place c o)) =
    (readPlacement (toString c.x).toList (toString c.y).toList o.name.toList).mapError
      (FieldFailure.within .place) := by
  have opens : Opens (placeFields c o) (row (placeFields c o)) :=
    opens_row (List.cons_ne_nil _ _) (compact_placeFields c o)
  rw [render_place, read_commandText (compact_placeFields c o)]
  exact ofFields_place_of_opens opens

theorem read_render_obstacle (c : Cell) : read (render (.obstacle c)) =
    ((readCell (toString c.x).toList (toString c.y).toList).map .obstacle).mapError
      (FieldFailure.within .obstacle) := by
  have opens : Opens (obstacleFields c) (row (obstacleFields c)) :=
    opens_row (List.cons_ne_nil _ _) (compact_obstacleFields c)
  rw [render_obstacle, read_commandText (compact_obstacleFields c)]
  exact ofFields_obstacle_of_opens opens

theorem ofChars?_name (o : Heading) : Heading.ofChars? o.name.toList = some o := by
  have upper : Text.upper o.name.toList = o.name.toList := by cases o <;> decide
  have solid : ∀ c ∈ o.name.toList, Text.isBlank c = false := fun c hc => (compact_name o c hc).2
  rw [Heading.ofChars?_eq_some_iff, trim_eq_self solid, upper]

theorem read_place_of_nameable {c : Cell} (h : c.Nameable) (o : Heading) :
    read (render (.place c o)) = .ok (.place c o) := by
  rw [read_render_place, readPlacement_of_heading (readCell_of_nameable h) (ofChars?_name o)]
  rfl

theorem read_place_of_not_nameable {c : Cell} (h : ¬c.Nameable) (written : c.Written)
    (o : Heading) : ∃ cause,
      read (render (.place c o)) = .error (.fault (.invalidArguments "PLACE" cause)) := by
  obtain ⟨text, e⟩ := readCell_of_not_nameable h written
  rw [read_render_place, readPlacement_of_error e]
  exact ⟨_, rfl⟩

theorem read_obstacle_of_nameable {c : Cell} (h : c.Nameable) :
    read (render (.obstacle c)) = .ok (.obstacle c) := by
  rw [read_render_obstacle, readCell_of_nameable h]
  rfl

theorem trimmed_render_place (c : Cell) (o : Heading) :
    Text.trimmed (render (.place c o)) = render (.place c o) := by
  have some : row (placeFields c o) ≠ [] :=
    List.append_ne_nil_of_right_ne_nil _ (List.cons_ne_nil _ _)
  rw [render_place, trimmed_commandText (compact_placeFields c o) some]

theorem trimmed_render_obstacle (c : Cell) :
    Text.trimmed (render (.obstacle c)) = render (.obstacle c) := by
  have some : row (obstacleFields c) ≠ [] :=
    List.append_ne_nil_of_right_ne_nil _ (List.cons_ne_nil _ _)
  rw [render_obstacle, trimmed_commandText (compact_obstacleFields c) some]

theorem trimmed_keyword (k : Keyword) : Text.trimmed k.name = k.name := by
  have solid : ∀ c ∈ k.name.toList, Text.isBlank c = false := fun c hc => (compact_keyword k c hc).2
  rw [Text.trimmed, trim_eq_self solid, String.ofList_toList]

theorem trimmed_render (i : Instruction) : Text.trimmed (render i) = render i := by
  cases i with
  | place c o => exact trimmed_render_place c o
  | obstacle c => exact trimmed_render_obstacle c
  | move | left | right | report => exact trimmed_keyword _

theorem read_render {i : Instruction} (named : ∀ c, i.cell? = some c → c.Nameable) :
    read (render i) = .ok i := by
  cases i with
  | place c o => exact read_place_of_nameable (named c rfl) o
  | obstacle c => exact read_obstacle_of_nameable (named c rfl)
  | move | left | right | report => rfl

/-- The canonical text of an instruction that a line reads as is read as this instruction. -/
theorem read_render_of_read {line : String} {i : Instruction} (h : read line = .ok i) :
    read (render i) = .ok i :=
  read_render fun _ => nameable_of_read h

end Instruction

theorem toString_injective {n m : Int} (h : toString n = toString m) : n = m := by
  have same : some (Text.Numeral.ofInt n) = some (Text.Numeral.ofInt m) := by
    rw [← Text.Numeral.ofChars?_toString, ← Text.Numeral.ofChars?_toString, h]
  have value := congrArg Text.Numeral.value (Option.some.inj same)
  rw [Text.Numeral.value_ofInt, Text.Numeral.value_ofInt] at value
  exact value

theorem row_injective {fs gs : List (List Char)} (h : row fs = row gs) (ne : fs ≠ [])
    (size : fs.length = gs.length) (hf : ∀ f ∈ fs, Compact f) (hg : ∀ g ∈ gs, Compact g) :
    fs = gs := by
  have ne' : gs ≠ [] := fun e => ne (List.eq_nil_of_length_eq_zero (by rw [size, e]; rfl))
  obtain ⟨ws, e⟩ := (opens_iff ne).1 (opens_row ne hf)
  obtain ⟨ws', e'⟩ := (opens_iff ne').1 (opens_row ne' hg)
  rw [h, e'] at e
  exact (List.append_inj e.symm size).1

theorem obstacleFields_injective {c d : Cell}
    (h : Instruction.obstacleFields c = Instruction.obstacleFields d) : c = d := by
  obtain ⟨hx, rest⟩ := List.cons.inj h
  obtain ⟨hy, _⟩ := List.cons.inj rest
  have x := toString_injective (String.toList_inj.1 hx)
  have y := toString_injective (String.toList_inj.1 hy)
  cases c
  cases d
  simp_all

theorem placeFields_injective {c d : Cell} {o o' : Heading}
    (h : Instruction.placeFields c o = Instruction.placeFields d o') : c = d ∧ o = o' := by
  have split : Instruction.obstacleFields c ++ [o.name.toList] =
      Instruction.obstacleFields d ++ [o'.name.toList] := h
  obtain ⟨cells, names⟩ := List.append_inj split rfl
  have name := String.toList_inj.1 (List.singleton_inj.1 names)
  exact ⟨obstacleFields_injective cells, Heading.name_injective name⟩

end RobotGrid
