import Mathlib.Data.List.Forall2
import RobotGrid.Proofs.Grammar

set_option autoImplicit false

/-!
# Lines that are spelled differently

The case of a line and the blanks in it do not matter. Upper case makes no comma, no sign and no
digit of another character, so a line in upper case is cut at the same commas, and a numeral is the
only text that has its upper-case form. Hence lines with the same words in upper case, where those
behind the first count as one, have the same fields but for case, and each field reads as the same
value or fails with the same kind of complaint. Where not even the case differs, the lines are read
as the very same.
-/
namespace RobotGrid
open Text (Layout)

namespace Text

/-- The characters of ASCII before its letters; digits, signs and the comma are among them. -/
def Uncased (c : Char) : Prop := 0 < c.toNat ∧ c.toNat < 65

instance (c : Char) : Decidable (Uncased c) := inferInstanceAs (Decidable (_ ∧ _))

theorem toUpper_cases {c : Char} (h : c.toNat < 128) :
    c.toUpper = c ∨ ¬Uncased c ∧ ¬Uncased c.toUpper := by
  have all : ∀ n < 128, (Char.ofNat n).toUpper = Char.ofNat n ∨
      ¬Uncased (Char.ofNat n) ∧ ¬Uncased (Char.ofNat n).toUpper := by decide
  have here := all c.toNat h
  rw [Char.ofNat_toNat] at here
  exact here

theorem not_uncased_ofNat {n : Nat} (h : 65 ≤ n) : ¬Uncased (Char.ofNat n) := by
  have code : (Char.ofNat n).toNat = n ∨ (Char.ofNat n).toNat = 0 := by
    by_cases valid : n.isValidChar
    · exact Or.inl (congrArg Char.toNat (dif_pos valid))
    · exact Or.inr (congrArg Char.toNat (dif_neg valid))
  unfold Uncased
  omega

theorem caseExpansions_large : ∀ e ∈ caseExpansions, e.2 ≠ [] ∧ ∀ n ∈ e.2, 65 ≤ n := by
  decide +kernel

theorem caseRuns_large : ∀ r ∈ caseRuns, 65 ≤ r.image := by decide +kernel

theorem upperChar_cases (c : Char) :
    upperChar c = [c] ∨ upperChar c ≠ [] ∧ ∀ d ∈ upperChar c, ¬Uncased d := by
  unfold upperChar
  split
  · rename_i ascii
    rcases toUpper_cases ascii with same | ⟨_, large⟩
    · exact Or.inl (by rw [same])
    · exact Or.inr ⟨List.cons_ne_nil _ _, List.forall_mem_singleton.2 large⟩
  · split
    · rename_i codes found
      obtain ⟨before, behind, split, _⟩ := List.lookup_eq_some_iff.1 found
      obtain ⟨some, large⟩ := caseExpansions_large (c.toNat, codes) (by rw [split]; simp)
      refine Or.inr ⟨mt List.map_eq_nil_iff.1 some, fun d hd => ?_⟩
      obtain ⟨n, hn, rfl⟩ := List.mem_map.1 hd
      exact not_uncased_ofNat (large n hn)
    · split
      · rename_i r found
        have large := caseRuns_large r (List.mem_of_find?_eq_some found)
        refine Or.inr ⟨List.cons_ne_nil _ _, List.forall_mem_singleton.2 ?_⟩
        apply not_uncased_ofNat
        exact Nat.le_trans large (Nat.le_add_right _ _)
      · exact Or.inl rfl

theorem upper_of_uncased {s : List Char} (h : ∀ c ∈ s, Uncased c) : upper s = s := by
  apply upper_eq_self
  intro c hc
  have ascii : c.toNat < 128 := by
    have := (h c hc).2
    omega
  exact ⟨ascii, (toUpper_cases ascii).resolve_right fun large => large.1 (h c hc)⟩

theorem eq_of_upper_eq {s t : List Char} (uncased : ∀ c ∈ s, Uncased c) (h : upper t = upper s) :
    t = s := by
  rw [upper_of_uncased uncased] at h
  induction t generalizing s with
  | nil => exact h
  | cons c t ih =>
    rw [upper_cons] at h
    rcases upperChar_cases c with same | ⟨some, large⟩
    · have rest : ∀ d ∈ upper t, Uncased d := by
        intro d hd
        apply uncased
        rw [← h]
        exact List.mem_append_right _ hd
      rw [← h, same, ← ih rest rfl]
      rfl
    · obtain ⟨d, hd⟩ := List.exists_mem_of_ne_nil _ some
      have there : d ∈ s := h ▸ List.mem_append_left _ hd
      exact absurd (uncased d there) (large d hd)

theorem pieces_solid_append {p : Char → Bool} {w s v : List Char} {vs : List (List Char)}
    (solid : ∀ c ∈ w, p c = false) (h : pieces p s = v :: vs) :
    pieces p (w ++ s) = (w ++ v) :: vs := by
  induction w with
  | nil => exact h
  | cons c w ih =>
    obtain ⟨first, others⟩ := List.forall_mem_cons.1 solid
    rw [List.cons_append, pieces, first, if_neg Bool.false_ne_true, ih others]
    rfl

/-- A text in upper case is cut at the same commas. -/
theorem pieces_upper (s : List Char) :
    pieces (· == ',') (upper s) = (pieces (· == ',') s).map upper := by
  have comma : upperChar ',' = [','] := rfl
  induction s with
  | nil => rfl
  | cons c s ih =>
    rw [upper_cons]
    by_cases hc : c = ','
    · rw [hc, comma, List.singleton_append, pieces, pieces, ih]
      rfl
    · have solid : ∀ d ∈ upperChar c, (d == ',') = false := by
        intro d hd
        apply beq_eq_false_iff_ne.2
        rintro rfl
        rcases upperChar_cases c with same | ⟨_, large⟩
        · rw [same, List.mem_singleton] at hd
          exact hc hd.symm
        · exact large ',' hd (by decide)
      have alone : ∀ d ∈ [c], (d == ',') = false :=
        List.forall_mem_singleton.2 (beq_eq_false_iff_ne.2 hc)
      cases e : pieces (· == ',') s with
      | nil => exact absurd e (pieces_ne_nil _ s)
      | cons v vs =>
        have plain : pieces (· == ',') (c :: s) = (c :: v) :: vs := pieces_solid_append alone e
        rw [e] at ih
        rw [pieces_solid_append solid ih, plain, List.map_cons, upper_cons]

theorem mem_of_mem_pieces {p : Char → Bool} {s w : List Char} {c : Char} (h : w ∈ pieces p s)
    (hc : c ∈ w) : c ∈ s := by
  have inside : c ∈ (pieces p s).flatten := List.mem_flatten_of_mem h hc
  rw [flatten_pieces] at inside
  exact List.mem_of_mem_filter inside

end Text

theorem Signed.uncased {text digits : List Char} {negative : Bool}
    (h : Signed text negative digits) : ∀ c ∈ text, Text.Uncased c := by
  refine h.forall_mem (fun c digit => ?_) (by decide) (by decide)
  have range := toNat_of_isDigit digit
  unfold Text.Uncased
  omega

/-- Two readings of fields are the same, or both complain with the same kind. -/
inductive FieldsAlike {α : Type} : Except FieldFailure α → Except FieldFailure α → Prop where
  | same (r : Except FieldFailure α) : FieldsAlike r r
  | faults {f g : FieldFault} (kind : (Fault.field f).kind = (Fault.field g).kind) :
      FieldsAlike (.error (.fault f)) (.error (.fault g))

/-- Two lines are read as the same instruction, with faults of one kind that have causes of one
kind, or up to numerals with equally many digits. -/
inductive SameOutcome : Except Failure Instruction → Except Failure Instruction → Prop where
  | accepted (i : Instruction) : SameOutcome (.ok i) (.ok i)
  | refused {f g : Fault} (kind : f.kind = g.kind)
      (cause : f.cause.map Fault.kind = g.cause.map Fault.kind) :
      SameOutcome (.error (.fault f)) (.error (.fault g))
  | ended (o : Oversized) : SameOutcome (.error (.oversized o)) (.error (.oversized o))

theorem SameOutcome.refl (r : Except Failure Instruction) : SameOutcome r r := by
  cases r with
  | ok i => exact .accepted i
  | error failure =>
    cases failure with
    | fault f => exact .refused rfl rfl
    | oversized o => exact .ended o

namespace FieldsAlike
variable {α β : Type}

theorem bind {r s : Except FieldFailure α} {k l : α → Except FieldFailure β}
    (h : FieldsAlike r s) (next : ∀ a, FieldsAlike (k a) (l a)) :
    FieldsAlike (r.bind k) (s.bind l) := by
  cases h with
  | same r =>
    cases r with
    | ok a => exact next a
    | error e => exact .same _
  | faults kind => exact .faults kind

theorem map (f : α → β) {r s : Except FieldFailure α} (h : FieldsAlike r s) :
    FieldsAlike (r.map f) (s.map f) := by
  cases h with
  | same r => exact .same _
  | faults kind => exact .faults kind

theorem within (k : Keyword) {r s : Except FieldFailure Instruction} (h : FieldsAlike r s) :
    SameOutcome (r.mapError (FieldFailure.within k)) (s.mapError (FieldFailure.within k)) := by
  cases h with
  | same r => exact .refl _
  | faults kind => exact .refused rfl (congrArg some kind)

end FieldsAlike

section
variable {s t s₁ s₂ s₃ t₁ t₂ t₃ : List Char}

theorem readCoordinate_alike (h : Text.upper s = Text.upper t) :
    FieldsAlike (readCoordinate s) (readCoordinate t) := by
  by_cases here : ∃ negative digits, Signed s negative digits
  · obtain ⟨negative, digits, signed⟩ := here
    rw [Text.eq_of_upper_eq signed.uncased h.symm]
    exact .same _
  by_cases there : ∃ negative digits, Signed t negative digits
  · obtain ⟨negative, digits, signed⟩ := there
    rw [Text.eq_of_upper_eq signed.uncased h]
    exact .same _
  · rw [readCoordinate_of_not_signed fun b d signed => here ⟨b, d, signed⟩,
      readCoordinate_of_not_signed fun b d signed => there ⟨b, d, signed⟩]
    -- By `rfl` the two texts would be compared first, code by code.
    refine .faults ?_
    simp only [Fault.kind, Fault.complaint, FieldFault.complaint, Complaint.kind]

theorem readCell_alike (x : Text.upper s₁ = Text.upper t₁) (y : Text.upper s₂ = Text.upper t₂) :
    FieldsAlike (readCell s₁ s₂) (readCell t₁ t₂) :=
  (readCoordinate_alike x).bind fun _ => (readCoordinate_alike y).map _

theorem readHeading_alike (h : Text.upper s = Text.upper t)
    (solid : ∀ c ∈ s, Text.isBlank c = false) (solid' : ∀ c ∈ t, Text.isBlank c = false) :
    FieldsAlike ((readHeading s).mapError .fault) ((readHeading t).mapError .fault) := by
  have same : Heading.ofChars? s = Heading.ofChars? t := by
    simp only [Heading.ofChars?, trim_eq_self solid, trim_eq_self solid', h]
  rw [readHeading, readHeading, same]
  cases Heading.ofChars? t with
  | some o => exact .same _
  | none => exact .faults rfl

theorem readPlacement_alike (x : Text.upper s₁ = Text.upper t₁)
    (y : Text.upper s₂ = Text.upper t₂) (o : Text.upper s₃ = Text.upper t₃)
    (solid : ∀ c ∈ s₃, Text.isBlank c = false) (solid' : ∀ c ∈ t₃, Text.isBlank c = false) :
    FieldsAlike (readPlacement s₁ s₂ s₃) (readPlacement t₁ t₂ t₃) :=
  (readCell_alike x y).bind fun _ => (readHeading_alike o solid solid').map _

end

/-- The first words have one upper-case form, and so have the words behind them when joined. -/
def SpelledAlike (line other : String) : Prop :=
  (Text.words line.toList).head?.map Text.upper = (Text.words other.toList).head?.map Text.upper ∧
    Text.upper (Text.words line.toList).tail.flatten =
      Text.upper (Text.words other.toList).tail.flatten

instance (line other : String) : Decidable (SpelledAlike line other) :=
  inferInstanceAs (Decidable (_ ∧ _))

theorem fields_alike {args args' : List (List Char)}
    (h : Text.upper args.flatten = Text.upper args'.flatten) :
    List.Forall₂ (fun f g => Text.upper f = Text.upper g) (fields args) (fields args') := by
  have same : (fields args).map Text.upper = (fields args').map Text.upper := by
    rw [fields, fields, ← Text.pieces_upper, ← Text.pieces_upper, h]
  rw [← List.forall₂_eq_eq_eq, List.forall₂_map_left_iff, List.forall₂_map_right_iff] at same
  exact same

theorem solid_fields {args : List (List Char)}
    (h : ∀ w ∈ args, ∀ c ∈ w, Text.isBlank c = false) :
    ∀ f ∈ fields args, ∀ c ∈ f, Text.isBlank c = false := by
  intro f hf c hc
  obtain ⟨w, hw, hc⟩ := List.mem_flatten.1 (Text.mem_of_mem_pieces hf hc)
  exact h w hw c hc

namespace Instruction

theorem ofFields_alike (k : Keyword) {fs gs : List (List Char)}
    (h : List.Forall₂ (fun f g => Text.upper f = Text.upper g) fs gs)
    (solid : ∀ f ∈ fs, ∀ c ∈ f, Text.isBlank c = false)
    (solid' : ∀ g ∈ gs, ∀ c ∈ g, Text.isBlank c = false) :
    SameOutcome (ofFields k fs) (ofFields k gs) := by
  cases k with
  | move | left | right | report => exact .refl _
  | place =>
    match fs, gs, h with
    | _, _, .nil | _, _, .cons _ .nil | _, _, .cons _ (.cons _ .nil) => exact .refl _
    | _, _, .cons x (.cons y (.cons o _)) =>
      exact (readPlacement_alike x y o (solid _ (by simp)) (solid' _ (by simp))).within .place
  | obstacle =>
    match fs, gs, h with
    | _, _, .nil | _, _, .cons _ .nil => exact .refl _
    | _, _, .cons x (.cons y _) => exact ((readCell_alike x y).map .obstacle).within .obstacle

theorem read_of_spelledAlike {line other : String} (h : SpelledAlike line other) :
    SameOutcome (read line) (read other) := by
  obtain ⟨first, rest⟩ := h
  unfold read
  cases e : Text.words line.toList with
  | nil =>
    cases e' : Text.words other.toList with
    | nil => exact .refused rfl rfl
    | cons word args =>
      rw [e, e'] at first
      cases first
  | cons word args =>
    cases e' : Text.words other.toList with
    | nil =>
      rw [e, e'] at first
      cases first
    | cons word' args' =>
      rw [e, e'] at first rest
      have upper : Text.upper word = Text.upper word' := Option.some.inj first
      have known : Keyword.ofChars? word = Keyword.ofChars? word' := by
        simp only [Keyword.ofChars?, upper]
      have solid : ∀ w ∈ args, ∀ c ∈ w, Text.isBlank c = false := fun w hw =>
        (Text.mem_words (e ▸ List.mem_cons_of_mem word hw)).2
      have solid' : ∀ w ∈ args', ∀ c ∈ w, Text.isBlank c = false := fun w hw =>
        (Text.mem_words (e' ▸ List.mem_cons_of_mem word' hw)).2
      simp only [known]
      cases Keyword.ofChars? word' with
      | none => exact .refused rfl rfl
      | some k =>
        exact ofFields_alike k (fields_alike rest) (solid_fields solid) (solid_fields solid')

theorem spelledAlike_trimmed (line : String) : SpelledAlike (Text.trimmed line) line := by
  rw [SpelledAlike, words_trimmed]
  exact ⟨rfl, rfl⟩

theorem read_of_same_characters {line other : String} {lead lead' word rest rest' : List Char}
    (l : Layout line.toList lead word rest) (l' : Layout other.toList lead' word rest')
    (h : Text.squeeze rest = Text.squeeze rest') : read line = read other := by
  rw [read, read, l.words_eq, l'.words_eq]
  simp only [fields, Text.flatten_words, h]

/-- Lines that are spelled alike have the same outcome. A trimmed line has the outcome of the line,
down to the message. And behind the first word blanks may be put in and taken out anywhere: as long
as the other characters are the same, the lines are read as the very same. -/
theorem spelling_does_not_matter :
    (∀ line other, SpelledAlike line other → SameOutcome (read line) (read other)) ∧
    (∀ line, SameOutcome (read (Text.trimmed line)) (read line) ∧
      (read (Text.trimmed line)).mapError Failure.message =
        (read line).mapError Failure.message) ∧
    ∀ line other lead lead' word rest rest', Layout (String.toList line) lead word rest →
      Layout (String.toList other) lead' word rest' → Text.squeeze rest = Text.squeeze rest' →
        read line = read other := by
  refine ⟨fun line other => read_of_spelledAlike, fun line => ⟨?_, ?_⟩, ?_⟩
  · exact read_of_spelledAlike (spelledAlike_trimmed line)
  · rcases read_trimmed_cases line with same | ⟨e, e'⟩
    · rw [same]
    · rw [e, e']
      rfl
  · intro line other lead lead' word rest rest'
    exact read_of_same_characters

/-- The st ligature and the long s stand for capital letters; blanks stand inside a number and
inside a name. -/
theorem spelling_does_not_matter_with_ligature :
    let line := "place 1 0 , 2,we\ufb06"
    let other := "PLACE 10,2,WEST"
    let wrong := "ob\u017ftacle 1 ,ten"
    let spaced := "place 10, 2,we st"
    (SpelledAlike line other ∧ read other = .ok (.place ⟨10, 2⟩ .west) ∧
      SameOutcome (read line) (read other)) ∧
    (SpelledAlike wrong "OBSTACLE 1,TEN" ∧ SameOutcome (read wrong) (read "OBSTACLE 1,TEN") ∧
      read "OBSTACLE 1,TEN" = .error (.fault (.invalidArguments "OBSTACLE" (.notInteger "TEN")))) ∧
    (∃ lead lead' word rest rest', Layout spaced.toList lead word rest ∧
      Layout "place 10,2,west".toList lead' word rest' ∧ Text.squeeze rest = Text.squeeze rest') ∧
    read spaced = read "place 10,2,west" := by
  intro line other wrong spaced
  obtain ⟨alike, _, same⟩ := spelling_does_not_matter
  have spelled : SpelledAlike line other := by decide +kernel
  have spelled' : SpelledAlike wrong "OBSTACLE 1,TEN" := by decide +kernel
  have words : Text.words spaced.toList =
      ["place".toList, "10,".toList, "2,we".toList, "st".toList] := by decide +kernel
  have words' : Text.words "place 10,2,west".toList = ["place".toList, "10,2,west".toList] := by
    decide +kernel
  obtain ⟨lead, rest, l, behind⟩ := Text.words_eq_cons_iff.1 words
  obtain ⟨lead', rest', l', behind'⟩ := Text.words_eq_cons_iff.1 words'
  have characters : Text.squeeze rest = Text.squeeze rest' := by
    rw [← Text.flatten_words, ← Text.flatten_words, behind, behind']
    rfl
  refine ⟨⟨spelled, by decide +kernel, alike line other spelled⟩,
    ⟨spelled', alike wrong _ spelled', by decide +kernel⟩,
    ⟨lead, lead', _, rest, rest', l, l', characters⟩, ?_⟩
  exact same spaced _ lead lead' _ rest rest' l l' characters

end Instruction
end RobotGrid
