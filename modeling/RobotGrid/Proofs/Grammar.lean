import RobotGrid.Proofs.Coordinate
import RobotGrid.Proofs.Layout

set_option autoImplicit false

/-!
# The grammar of command lines

What a line means is told here without an algorithm: by its first word, and by the fields that the
text behind the word opens with once its blanks are gone. Reading agrees with it on every line, and
the one way in which reading ends without a fault is told in the same terms.
-/
namespace RobotGrid
open Text (Layout Follows)

/-- A text opens with the given fields: they hold no comma and stand between single commas, and
nothing or a comma and any text follows the last. -/
inductive Opens : List (List Char) → List Char → Prop where
  | last {f tail : List Char} (h : ',' ∉ f) (e : tail = [] ∨ ∃ r, tail = ',' :: r) :
      Opens [f] (f ++ tail)
  | next {f g : List Char} {fs : List (List Char)} (h : ',' ∉ f) (more : Opens fs g) :
      Opens (f :: fs) (f ++ ',' :: g)

/-- The meaning of a first word and the blanks-free text behind it. -/
inductive Meaning (word g : List Char) : Instruction → Prop where
  | place {f₁ f₂ f₃ : List Char} {x y : Int} {o : Heading}
      (k : Text.upper word = "PLACE".toList) (fields : Opens [f₁, f₂, f₃] g)
      (hx : Coordinate32 f₁ x) (hy : Coordinate32 f₂ y) (ho : Text.upper f₃ = o.name.toList) :
      Meaning word g (.place ⟨x, y⟩ o)
  | obstacle {f₁ f₂ : List Char} {x y : Int}
      (k : Text.upper word = "OBSTACLE".toList) (fields : Opens [f₁, f₂] g)
      (hx : Coordinate32 f₁ x) (hy : Coordinate32 f₂ y) : Meaning word g (.obstacle ⟨x, y⟩)
  | move (k : Text.upper word = "MOVE".toList) : Meaning word g .move
  | left (k : Text.upper word = "LEFT".toList) : Meaning word g .left
  | right (k : Text.upper word = "RIGHT".toList) : Meaning word g .right
  | report (k : Text.upper word = "REPORT".toList) : Meaning word g .report

/-- A first word and the text behind it hold an overlong numeral where a coordinate is read. -/
inductive Excess (word g : List Char) (n : Nat) : Prop where
  | place {f₁ f₂ f₃ : List Char} (k : Text.upper word = "PLACE".toList)
      (fields : Opens [f₁, f₂, f₃] g) (runs : Overruns f₁ f₂ n) : Excess word g n
  | obstacle {f₁ f₂ : List Char} (k : Text.upper word = "OBSTACLE".toList)
      (fields : Opens [f₁, f₂] g) (runs : Overruns f₁ f₂ n) : Excess word g n

theorem opens_iff {fs : List (List Char)} {g : List Char} (ne : fs ≠ []) :
    Opens fs g ↔ ∃ ws, Text.pieces (· == ',') g = fs ++ ws := by
  have solid : ∀ f : List Char, ',' ∉ f ↔ ∀ c ∈ f, (c == ',') = false := by
    intro f
    constructor
    · intro h c hc
      exact beq_eq_false_iff_ne.2 fun e => h (e ▸ hc)
    · intro h hc
      exact absurd (h ',' hc) (by decide)
  constructor
  · intro h
    induction h with
    | @last f tail hf e =>
      have follows : Follows (· == ',') tail := by
        rcases e with e | ⟨r, e⟩
        · exact Or.inl e
        · exact Or.inr ⟨',', r, rfl, e⟩
      exact Text.exists_pieces_eq_cons_iff.2 ⟨(solid f).1 hf, tail, follows, rfl⟩
    | @next f g fs hf more ih =>
      have some : fs ≠ [] := by
        cases more <;> simp
      obtain ⟨ws, h⟩ := ih some
      refine ⟨ws, ?_⟩
      rw [Text.pieces_append_cons _ rfl, Text.pieces_eq_singleton _ ((solid f).1 hf), h]
      rfl
  · rintro ⟨ws, h⟩
    induction fs generalizing g with
    | nil => exact absurd rfl ne
    | cons f fs ih =>
      cases fs with
      | nil =>
        obtain ⟨hf, tail, follows, e⟩ := Text.exists_pieces_eq_cons_iff.1 ⟨ws, h⟩
        rw [e]
        refine .last ((solid f).2 hf) ?_
        rcases follows with e | ⟨c, r, hc, e⟩
        · exact Or.inl e
        · exact Or.inr ⟨r, by rw [e, beq_iff_eq.1 hc]⟩
      | cons f' fs =>
        obtain ⟨hf, c, r, hc, e, h⟩ := Text.pieces_eq_cons_cons_iff.1 h
        rw [e, beq_iff_eq.1 hc]
        exact .next ((solid f).2 hf) (ih (by simp) h)

theorem Opens.mem {fs : List (List Char)} {g f : List Char} (h : Opens fs g) (hf : f ∈ fs) :
    ∀ c ∈ f, c ∈ g := by
  intro c hc
  induction h with
  | @last f' tail _ _ =>
    cases List.mem_singleton.1 hf
    exact List.mem_append_left tail hc
  | @next f' g fs _ _ ih =>
    rcases List.mem_cons.1 hf with e | hf
    · exact List.mem_append_left _ (e ▸ hc)
    · exact List.mem_append_right f' (List.mem_cons_of_mem ',' (ih hf))

theorem Heading.ofChars?_eq_some_iff {s : List Char} {o : Heading} :
    Heading.ofChars? s = some o ↔ Text.upper (Text.trim s) = o.name.toList := by
  constructor
  · intro h
    have found := List.find?_some h
    exact (beq_iff_eq.1 found).symm
  · intro h
    cases e : Heading.ofChars? s with
    | none =>
      have absent := List.find?_eq_none.1 e o (Heading.mem_all o)
      simp [h] at absent
    | some o' =>
      have found := List.find?_some e
      have same : o'.name.toList = o.name.toList := (beq_iff_eq.1 found).trans h
      rw [Heading.name_injective (String.toList_inj.1 same)]

theorem trim_eq_self {s : List Char} (h : ∀ c ∈ s, Text.isBlank c = false) : Text.trim s = s := by
  have ends : Text.SolidEnds s :=
    ⟨fun c hc => h c (List.mem_of_mem_head? hc), fun c hc => h c (List.mem_of_getLast? hc)⟩
  exact ends.trim_eq

theorem readPlacement_of_heading {f₁ f₂ f₃ : List Char} {c : Cell} {o : Heading}
    (hc : readCell f₁ f₂ = .ok c) (ho : Heading.ofChars? f₃ = some o) :
    readPlacement f₁ f₂ f₃ = .ok (.place c o) := by
  simp only [readPlacement, readHeading, hc, ho]
  rfl

theorem readPlacement_of_no_heading {f₁ f₂ f₃ : List Char} {c : Cell}
    (hc : readCell f₁ f₂ = .ok c) (ho : Heading.ofChars? f₃ = none) :
    readPlacement f₁ f₂ f₃ = .error (.fault (.unknownHeading (String.ofList f₃))) := by
  simp only [readPlacement, readHeading, hc, ho]
  rfl

theorem readPlacement_of_error {f₁ f₂ : List Char} {e : FieldFailure}
    (h : readCell f₁ f₂ = .error e) (f₃ : List Char) : readPlacement f₁ f₂ f₃ = .error e := by
  rw [readPlacement, h]
  rfl

theorem readPlacement_eq_ok_iff {f₁ f₂ f₃ : List Char} {i : Instruction} :
    readPlacement f₁ f₂ f₃ = .ok i ↔
      ∃ c o, readCell f₁ f₂ = .ok c ∧ Heading.ofChars? f₃ = some o ∧ i = .place c o := by
  constructor
  · intro h
    cases hc : readCell f₁ f₂ with
    | error e =>
      rw [readPlacement_of_error hc] at h
      cases h
    | ok c =>
      cases ho : Heading.ofChars? f₃ with
      | none =>
        rw [readPlacement_of_no_heading hc ho] at h
        cases h
      | some o =>
        rw [readPlacement_of_heading hc ho] at h
        exact ⟨c, o, rfl, rfl, (Except.ok.inj h).symm⟩
  · rintro ⟨c, o, hc, ho, rfl⟩
    exact readPlacement_of_heading hc ho

theorem readPlacement_eq_oversized_iff {f₁ f₂ f₃ : List Char} {o : Oversized} :
    readPlacement f₁ f₂ f₃ = .error (.oversized o) ↔ readCell f₁ f₂ = .error (.oversized o) := by
  cases hc : readCell f₁ f₂ with
  | error e =>
    rw [readPlacement_of_error hc]
    simp
  | ok c =>
    cases ho : Heading.ofChars? f₃ with
    | none =>
      rw [readPlacement_of_no_heading hc ho]
      simp
    | some o =>
      rw [readPlacement_of_heading hc ho]
      simp

theorem mapError_within_eq_ok_iff {k : Keyword} {r : Except FieldFailure Instruction}
    {i : Instruction} : r.mapError (FieldFailure.within k) = .ok i ↔ r = .ok i := by
  cases r with
  | error e => exact ⟨fun h => (by cases h), fun h => (by cases h)⟩
  | ok j => exact ⟨fun h => (by cases h; rfl), fun h => (by cases h; rfl)⟩

theorem mapError_within_eq_oversized_iff {k : Keyword} {r : Except FieldFailure Instruction}
    {o : Oversized} :
    r.mapError (FieldFailure.within k) = .error (.oversized o) ↔ r = .error (.oversized o) := by
  cases r with
  | error e =>
    cases e with
    | fault f => exact ⟨fun h => (by cases h), fun h => (by cases h)⟩
    | oversized o' => exact ⟨fun h => (by cases h; rfl), fun h => (by cases h; rfl)⟩
  | ok i => exact ⟨fun h => (by cases h), fun h => (by cases h)⟩

theorem Meaning.upper_word {word g : List Char} {i : Instruction} (h : Meaning word g i) :
    Text.upper word = i.keyword.name.toList := by
  cases h <;> assumption

namespace Instruction

theorem ofFields_place_of_opens {f₁ f₂ f₃ g : List Char} (h : Opens [f₁, f₂, f₃] g) :
    ofFields .place (Text.pieces (· == ',') g) =
      (readPlacement f₁ f₂ f₃).mapError (FieldFailure.within .place) := by
  obtain ⟨ws, e⟩ := (opens_iff (by simp)).1 h
  rw [e]
  rfl

theorem ofFields_place_of_not_opens {g : List Char} (h : ∀ f₁ f₂ f₃, ¬Opens [f₁, f₂, f₃] g) :
    ofFields .place (Text.pieces (· == ',') g) =
      .error (.fault (.incompleteArguments "PLACE")) := by
  match e : Text.pieces (· == ',') g with
  | [] => rfl
  | [_] => rfl
  | [_, _] => rfl
  | f₁ :: f₂ :: f₃ :: ws => exact absurd ((opens_iff (by simp)).2 ⟨ws, e⟩) (h f₁ f₂ f₃)

theorem ofFields_obstacle_of_opens {f₁ f₂ g : List Char} (h : Opens [f₁, f₂] g) :
    ofFields .obstacle (Text.pieces (· == ',') g) =
      ((readCell f₁ f₂).map .obstacle).mapError (FieldFailure.within .obstacle) := by
  obtain ⟨ws, e⟩ := (opens_iff (by simp)).1 h
  rw [e]
  rfl

theorem ofFields_obstacle_of_not_opens {g : List Char} (h : ∀ f₁ f₂, ¬Opens [f₁, f₂] g) :
    ofFields .obstacle (Text.pieces (· == ',') g) =
      .error (.fault (.incompleteArguments "OBSTACLE")) := by
  match e : Text.pieces (· == ',') g with
  | [] => rfl
  | [_] => rfl
  | f₁ :: f₂ :: ws => exact absurd ((opens_iff (by simp)).2 ⟨ws, e⟩) (h f₁ f₂)

theorem read_of_layout {line : String} {lead word rest : List Char} {k : Keyword}
    (l : Layout line.toList lead word rest) (hk : Text.upper word = k.name.toList) :
    read line = ofFields k (Text.pieces (· == ',') (Text.squeeze rest)) := by
  have known : Keyword.ofChars? word = some k := Keyword.ofChars?_eq_some_iff.2 hk
  simp only [read, l.words_eq, known, fields, Text.flatten_words]

theorem read_of_meaning {line : String} {lead word rest : List Char} {i : Instruction}
    (l : Layout line.toList lead word rest) (h : Meaning word (Text.squeeze rest) i) :
    read line = .ok i := by
  rw [read_of_layout l h.upper_word]
  cases h with
  | @place f₁ f₂ f₃ x y o k fields hx hy ho =>
    have solid : ∀ c ∈ f₃, Text.isBlank c = false := fun c hc =>
      Text.not_isBlank_of_mem_squeeze (fields.mem (by simp) c hc)
    have heading : Heading.ofChars? f₃ = some o := by
      rw [Heading.ofChars?_eq_some_iff, trim_eq_self solid, ho]
    change ofFields .place _ = _
    rw [ofFields_place_of_opens fields, mapError_within_eq_ok_iff, readPlacement_eq_ok_iff]
    exact ⟨⟨x, y⟩, o, readCell_eq_ok_iff.2 ⟨hx, hy⟩, heading, rfl⟩
  | @obstacle f₁ f₂ x y k fields hx hy =>
    have cell : readCell f₁ f₂ = .ok ⟨x, y⟩ := readCell_eq_ok_iff.2 ⟨hx, hy⟩
    change ofFields .obstacle _ = _
    rw [ofFields_obstacle_of_opens fields, mapError_within_eq_ok_iff, cell]
    rfl
  | move => rfl
  | left => rfl
  | right => rfl
  | report => rfl

theorem read_of_excess {line : String} {lead word rest : List Char} {n : Nat}
    (l : Layout line.toList lead word rest) (h : Excess word (Text.squeeze rest) n) :
    read line = .error (.oversized (.read n)) := by
  cases h with
  | @place f₁ f₂ f₃ k fields runs =>
    rw [read_of_layout (k := .place) l k, ofFields_place_of_opens fields,
      mapError_within_eq_oversized_iff, readPlacement_eq_oversized_iff, readCell_eq_oversized_iff]
    exact ⟨n, rfl, runs⟩
  | @obstacle f₁ f₂ k fields runs =>
    have cell := readCell_eq_oversized_iff.2 ⟨n, rfl, runs⟩
    rw [read_of_layout (k := .obstacle) l k, ofFields_obstacle_of_opens fields,
      mapError_within_eq_oversized_iff, cell]
    rfl

/-- Four ways to go on behind a known word: enough fields for a placement or for an obstacle, a
command without arguments, or too few fields. -/
theorem ofFields_cases (k : Keyword) (g : List Char) :
    (k = .place ∧ ∃ f₁ f₂ f₃, Opens [f₁, f₂, f₃] g) ∨ (k = .obstacle ∧ ∃ f₁ f₂, Opens [f₁, f₂] g) ∨
      (k ≠ .place ∧ k ≠ .obstacle) ∨
      ofFields k (Text.pieces (· == ',') g) = .error (.fault (.incompleteArguments k.name)) := by
  by_cases hp : k = .place
  · subst hp
    by_cases fields : ∃ f₁ f₂ f₃, Opens [f₁, f₂, f₃] g
    · exact Or.inl ⟨rfl, fields⟩
    · refine Or.inr (Or.inr (Or.inr (ofFields_place_of_not_opens ?_)))
      intro f₁ f₂ f₃ o
      exact fields ⟨f₁, f₂, f₃, o⟩
  · by_cases ho : k = .obstacle
    · subst ho
      by_cases fields : ∃ f₁ f₂, Opens [f₁, f₂] g
      · exact Or.inr (Or.inl ⟨rfl, fields⟩)
      · refine Or.inr (Or.inr (Or.inr (ofFields_obstacle_of_not_opens ?_)))
        intro f₁ f₂ o
        exact fields ⟨f₁, f₂, o⟩
    · exact Or.inr (Or.inr (Or.inl ⟨hp, ho⟩))

theorem read_of_unknown {line : String} {lead word rest : List Char}
    (l : Layout line.toList lead word rest) (h : ∀ k : Keyword, Text.upper word ≠ k.name.toList) :
    read line = .error (.fault (.unrecognizedCommand (String.ofList word))) := by
  have none : Keyword.ofChars? word = none := by
    cases e : Keyword.ofChars? word with
    | none => rfl
    | some k => exact absurd (Keyword.ofChars?_eq_some_iff.1 e) (h k)
  simp only [read, l.words_eq, none]

theorem exists_keyword_of_read {line : String} {lead word rest : List Char}
    (l : Layout line.toList lead word rest)
    (h : read line ≠ .error (.fault (.unrecognizedCommand (String.ofList word)))) :
    ∃ k : Keyword, Text.upper word = k.name.toList := by
  by_cases known : ∃ k : Keyword, Text.upper word = k.name.toList
  · exact known
  · exact absurd (read_of_unknown l fun k e => known ⟨k, e⟩) h

theorem meaning_of_read {line : String} {lead word rest : List Char} {i : Instruction}
    (l : Layout line.toList lead word rest) (h : read line = .ok i) :
    Meaning word (Text.squeeze rest) i := by
  obtain ⟨k, hk⟩ := exists_keyword_of_read l (by rw [h]; simp)
  rw [read_of_layout l hk] at h
  rcases ofFields_cases k (Text.squeeze rest) with
    ⟨rfl, f₁, f₂, f₃, fields⟩ | ⟨rfl, f₁, f₂, fields⟩ | ⟨hp, ho⟩ | short
  · rw [ofFields_place_of_opens fields, mapError_within_eq_ok_iff, readPlacement_eq_ok_iff] at h
    obtain ⟨c, o, hc, ho, rfl⟩ := h
    obtain ⟨hx, hy⟩ := readCell_eq_ok_iff.1 hc
    have solid : ∀ c ∈ f₃, Text.isBlank c = false := fun c hc =>
      Text.not_isBlank_of_mem_squeeze (fields.mem (by simp) c hc)
    rw [Heading.ofChars?_eq_some_iff, trim_eq_self solid] at ho
    exact .place hk fields hx hy ho
  · rw [ofFields_obstacle_of_opens fields, mapError_within_eq_ok_iff] at h
    cases hc : readCell f₁ f₂ with
    | error e =>
      rw [hc] at h
      cases h
    | ok c =>
      rw [hc] at h
      cases h
      obtain ⟨hx, hy⟩ := readCell_eq_ok_iff.1 hc
      exact .obstacle hk fields hx hy
  · cases k with
    | place => exact absurd rfl hp
    | obstacle => exact absurd rfl ho
    | move => cases h; exact .move hk
    | left => cases h; exact .left hk
    | right => cases h; exact .right hk
    | report => cases h; exact .report hk
  · rw [short] at h
    cases h

theorem excess_of_read {line : String} {lead word rest : List Char} {o : Oversized}
    (l : Layout line.toList lead word rest) (h : read line = .error (.oversized o)) :
    ∃ n, o = .read n ∧ Excess word (Text.squeeze rest) n := by
  obtain ⟨k, hk⟩ := exists_keyword_of_read l (by rw [h]; simp)
  rw [read_of_layout l hk] at h
  rcases ofFields_cases k (Text.squeeze rest) with
    ⟨rfl, f₁, f₂, f₃, fields⟩ | ⟨rfl, f₁, f₂, fields⟩ | ⟨hp, ho⟩ | short
  · rw [ofFields_place_of_opens fields, mapError_within_eq_oversized_iff,
      readPlacement_eq_oversized_iff, readCell_eq_oversized_iff] at h
    obtain ⟨n, e, runs⟩ := h
    exact ⟨n, e, .place hk fields runs⟩
  · rw [ofFields_obstacle_of_opens fields, mapError_within_eq_oversized_iff] at h
    cases hc : readCell f₁ f₂ with
    | error e =>
      rw [hc] at h
      cases h
      obtain ⟨n, e, runs⟩ := readCell_eq_oversized_iff.1 hc
      exact ⟨n, e, .obstacle hk fields runs⟩
    | ok c =>
      rw [hc] at h
      cases h
  · cases k with
    | place => exact absurd rfl hp
    | obstacle => exact absurd rfl ho
    | move => cases h
    | left => cases h
    | right => cases h
    | report => cases h
  · rw [short] at h
    cases h

theorem read_of_no_words {line : String} (h : Text.words line.toList = []) :
    read line = .error (.fault (.malformedCommand line)) := by
  simp only [read, h]

theorem read_of_no_layout {line : String}
    (h : ∀ lead word rest, ¬Layout line.toList lead word rest) :
    read line = .error (.fault (.malformedCommand line)) := by
  cases e : Text.words line.toList with
  | nil => exact read_of_no_words e
  | cons word ws =>
    obtain ⟨lead, rest, l, _⟩ := Text.words_eq_cons_iff.1 e
    exact absurd l (h lead word rest)

theorem exists_layout_of_read {line : String}
    (h : read line ≠ .error (.fault (.malformedCommand line))) :
    ∃ lead word rest, Layout line.toList lead word rest := by
  by_cases some : ∃ lead word rest, Layout line.toList lead word rest
  · exact some
  · exact absurd (read_of_no_layout fun lead word rest l => some ⟨lead, word, rest, l⟩) h

/-- Reading accepts exactly the lines that mean an instruction, and as what they mean. -/
theorem read_accepts_grammar (line : String) :
    (∀ lead word rest, Layout line.toList lead word rest →
      ∀ i, read line = .ok i ↔ Meaning word (Text.squeeze rest) i) ∧
    ((∃ f, read line = .error f) ↔
      ∀ lead word rest, Layout line.toList lead word rest →
        ∀ i, ¬Meaning word (Text.squeeze rest) i) := by
  refine ⟨fun lead word rest l i => ⟨meaning_of_read l, read_of_meaning l⟩, ?_, ?_⟩
  · rintro ⟨f, h⟩ lead word rest l i m
    rw [read_of_meaning l m] at h
    cases h
  · intro none
    cases e : read line with
    | error f => exact ⟨f, rfl⟩
    | ok i =>
      obtain ⟨lead, word, rest, l⟩ := exists_layout_of_read (by rw [e]; simp)
      exact absurd (meaning_of_read l e) (none lead word rest l i)

/-- A line on which a numeral of `n` digits, too many to convert, is reached. -/
def Excessive (line : String) (n : Nat) : Prop :=
  ∃ lead word rest, Layout line.toList lead word rest ∧ Excess word (Text.squeeze rest) n

theorem read_eq_oversized_iff {line : String} {o : Oversized} :
    read line = .error (.oversized o) ↔ ∃ n, o = .read n ∧ Excessive line n := by
  constructor
  · intro h
    obtain ⟨lead, word, rest, l⟩ := exists_layout_of_read (by rw [h]; simp)
    obtain ⟨n, e, excess⟩ := excess_of_read l h
    exact ⟨n, e, lead, word, rest, l, excess⟩
  · rintro ⟨n, rfl, lead, word, rest, l, excess⟩
    exact read_of_excess l excess

theorem excessive_iff {line : String} {n : Nat} :
    Excessive line n ↔ read line = .error (.oversized (.read n)) := by
  simp [read_eq_oversized_iff]

theorem read_of_blank {line : String} (h : Text.blankText line = true) :
    read line = .error (.fault (.malformedCommand line)) :=
  read_of_no_words (Text.words_eq_nil_iff.2 (List.all_eq_true.1 h))

theorem not_excessive_of_blank {line : String} (h : Text.blankText line = true) (n : Nat) :
    ¬Excessive line n := by
  intro excess
  have oversized := excessive_iff.1 excess
  rw [read_of_blank h] at oversized
  cases oversized

theorem words_trimmed (line : String) :
    Text.words (Text.trimmed line).toList = Text.words line.toList := by
  rw [Text.trimmed, String.toList_ofList, Text.words_trim]

/-- Blanks at the ends of a line count only if there is nothing else. -/
theorem read_trimmed_cases (line : String) : read (Text.trimmed line) = read line ∨
    read (Text.trimmed line) = .error (.fault (.malformedCommand (Text.trimmed line))) ∧
      read line = .error (.fault (.malformedCommand line)) := by
  have same := words_trimmed line
  cases e : Text.words line.toList with
  | nil => exact Or.inr ⟨read_of_no_words (same.trans e), read_of_no_words e⟩
  | cons word ws =>
    rw [e] at same
    exact Or.inl (by simp only [read, same, e])

theorem read_trimmed_eq_ok_iff {line : String} {i : Instruction} :
    read (Text.trimmed line) = .ok i ↔ read line = .ok i := by
  rcases read_trimmed_cases line with same | ⟨e, e'⟩
  · rw [same]
  · simp [e, e']

theorem read_trimmed_fails_iff {line : String} :
    (∃ f, read (Text.trimmed line) = .error f) ↔ ∃ f, read line = .error f := by
  rcases read_trimmed_cases line with same | ⟨e, e'⟩
  · rw [same]
  · simp [e, e']

theorem excessive_trimmed_iff {line : String} {n : Nat} :
    Excessive (Text.trimmed line) n ↔ Excessive line n := by
  rw [excessive_iff, excessive_iff]
  rcases read_trimmed_cases line with same | ⟨e, e'⟩
  · rw [same]
  · simp [e, e']

end Instruction
end RobotGrid
