import RobotGrid.Proofs.Grammar

set_option autoImplicit false

/-!
# Why a line does not read

A line has a reason not to read if it is blank, if its first word is no keyword, if the text behind
the keyword is cut by too few commas, or if one of the fields that the keyword asks for is bad. Of
bad fields the leftmost is the reason, and what stands behind the fields asked for is none. A line
fails exactly with its reason. So an overlong numeral ends the reading only where all fields before
it read, and a bad field before it hides it.
-/
namespace RobotGrid
open Text (Layout)

inductive FieldKind where
  | coordinate
  | heading
  deriving DecidableEq

def Keyword.form : Keyword → List FieldKind
  | .place => [.coordinate, .coordinate, .heading]
  | .obstacle => [.coordinate, .coordinate]
  | .move | .left | .right | .report => []

namespace FieldKind

def Reads : FieldKind → List Char → Prop
  | .coordinate, text => ∃ n, Coordinate32 text n
  | .heading, text => ∃ o : Heading, Text.upper text = o.name.toList

/-- The ways in which a field does not read. -/
inductive Bad : FieldKind → List Char → FieldFailure → Prop where
  | notInteger {text : List Char} (h : ∀ negative digits, ¬Signed text negative digits) :
      Bad .coordinate text (.fault (.notInteger (String.ofList text)))
  | outOfRange {text digits : List Char} {negative : Bool} (h : Signed text negative digits)
      (short : digits.length ≤ 4300) (outside : ¬(-2147483648 ≤ signedValue negative digits ∧
        signedValue negative digits ≤ 2147483647)) :
      Bad .coordinate text (.fault (.outOfRange (String.ofList text)))
  | overlong {text : List Char} {n : Nat} (h : Overlong text n) :
      Bad .coordinate text (.oversized (.read n))
  | unknownHeading {text : List Char} (h : ∀ o : Heading, Text.upper text ≠ o.name.toList) :
      Bad .heading text (.fault (.unknownHeading (String.ofList text)))

/-- The kind of the fault that a bad field is complained about with. -/
def complaint : FieldKind → String
  | .coordinate => "ParseError"
  | .heading => "UnknownOrientation"

theorem Bad.kind {kind : FieldKind} {text : List Char} {cause : FieldFault}
    (h : kind.Bad text (.fault cause)) : (Fault.field cause).kind = kind.complaint := by
  cases h <;> rfl

end FieldKind

/-- All fields before the leftmost bad one read. -/
inductive LeftmostBad : List FieldKind → List (List Char) → FieldFailure → Prop where
  | here {kind : FieldKind} {kinds : List FieldKind} {text : List Char} {texts : List (List Char)}
      {e : FieldFailure} (h : kind.Bad text e) : LeftmostBad (kind :: kinds) (text :: texts) e
  | later {kind : FieldKind} {kinds : List FieldKind} {text : List Char} {texts : List (List Char)}
      {e : FieldFailure} (h : kind.Reads text) (more : LeftmostBad kinds texts e) :
      LeftmostBad (kind :: kinds) (text :: texts) e

/-- Why a line does not read, and what it fails with. -/
inductive Reason (line : String) : Failure → Prop where
  | blank (h : ∀ c ∈ line.toList, Text.isBlank c = true) :
      Reason line (.fault (.malformedCommand line))
  | unknown {lead word rest : List Char} (l : Layout line.toList lead word rest)
      (h : ∀ k : Keyword, Text.upper word ≠ k.name.toList) :
      Reason line (.fault (.unrecognizedCommand (String.ofList word)))
  | few {lead word rest : List Char} {k : Keyword} (l : Layout line.toList lead word rest)
      (hk : Text.upper word = k.name.toList) (form : k.form ≠ [])
      (h : Text.squeeze rest = [] ∨ (Text.squeeze rest).count ',' < k.form.length - 1) :
      Reason line (.fault (.incompleteArguments k.name))
  | field {lead word rest : List Char} {k : Keyword} {fields : List (List Char)} {e : FieldFailure}
      (l : Layout line.toList lead word rest) (hk : Text.upper word = k.name.toList)
      (size : fields.length = k.form.length) (opens : Opens fields (Text.squeeze rest))
      (h : LeftmostBad k.form fields e) : Reason line (e.within k)

theorem leftmostBad_nil {texts : List (List Char)} {e : FieldFailure} :
    ¬LeftmostBad [] texts e := nofun

theorem leftmostBad_cons {kind : FieldKind} {kinds : List FieldKind} {text : List Char}
    {texts : List (List Char)} {e : FieldFailure} :
    LeftmostBad (kind :: kinds) (text :: texts) e ↔
      kind.Bad text e ∨ kind.Reads text ∧ LeftmostBad kinds texts e := by
  constructor
  · intro h
    cases h with
    | here bad => exact Or.inl bad
    | later reads more => exact Or.inr ⟨reads, more⟩
  · rintro (bad | ⟨reads, more⟩)
    · exact .here bad
    · exact .later reads more

theorem readCoordinate_eq_error_iff {text : List Char} {e : FieldFailure} :
    readCoordinate text = .error e ↔ FieldKind.coordinate.Bad text e := by
  constructor
  · intro h
    by_cases signed : ∃ negative digits, Signed text negative digits
    · obtain ⟨negative, digits, signed⟩ := signed
      rw [readCoordinate_of_signed signed] at h
      split at h
      · rename_i long
        cases h
        exact .overlong ⟨negative, digits, signed, rfl, long⟩
      · rename_i short
        split at h
        · cases h
        · rename_i outside
          cases h
          exact .outOfRange signed (Nat.le_of_not_lt short) outside
    · have none : ∀ negative digits, ¬Signed text negative digits :=
        fun negative digits h => signed ⟨negative, digits, h⟩
      rw [readCoordinate_of_not_signed none] at h
      cases h
      exact .notInteger none
  · intro h
    cases h with
    | notInteger none => exact readCoordinate_of_not_signed none
    | outOfRange signed short outside =>
      rw [readCoordinate_of_signed signed, if_neg (Nat.not_lt.2 short), if_neg outside]
    | overlong long => exact readCoordinate_eq_oversized_iff.2 ⟨_, rfl, long⟩

theorem ofChars?_eq_none_iff {text : List Char} (solid : ∀ c ∈ text, Text.isBlank c = false) :
    Heading.ofChars? text = none ↔ ∀ o : Heading, Text.upper text ≠ o.name.toList := by
  rw [Option.eq_none_iff_forall_ne_some]
  refine forall_congr' fun o => not_congr ?_
  rw [Heading.ofChars?_eq_some_iff, trim_eq_self solid]

theorem readCell_eq_error_iff {f₁ f₂ : List Char} {e : FieldFailure} :
    readCell f₁ f₂ = .error e ↔ LeftmostBad [.coordinate, .coordinate] [f₁, f₂] e := by
  simp only [leftmostBad_cons, leftmostBad_nil, and_false, or_false]
  rw [← readCoordinate_eq_error_iff, ← readCoordinate_eq_error_iff, FieldKind.Reads]
  simp only [← readCoordinate_eq_ok_iff]
  rw [readCell]
  cases hx : readCoordinate f₁ with
  | error e' => simp [Except.bind]
  | ok x =>
    cases hy : readCoordinate f₂ with
    | error e' => simp [Except.bind, Except.map]
    | ok y => simp [Except.bind, Except.map]

theorem exists_readCell_iff {f₁ f₂ : List Char} : (∃ c, readCell f₁ f₂ = .ok c) ↔
    FieldKind.coordinate.Reads f₁ ∧ FieldKind.coordinate.Reads f₂ := by
  simp only [readCell_eq_ok_iff]
  constructor
  · rintro ⟨c, hx, hy⟩
    exact ⟨⟨c.x, hx⟩, c.y, hy⟩
  · rintro ⟨⟨x, hx⟩, y, hy⟩
    exact ⟨⟨x, y⟩, hx, hy⟩

theorem readPlacement_eq_error_iff {f₁ f₂ f₃ : List Char} {e : FieldFailure}
    (solid : ∀ c ∈ f₃, Text.isBlank c = false) : readPlacement f₁ f₂ f₃ = .error e ↔
      LeftmostBad [.coordinate, .coordinate, .heading] [f₁, f₂, f₃] e := by
  have cellFirst : LeftmostBad [.coordinate, .coordinate, .heading] [f₁, f₂, f₃] e ↔
      readCell f₁ f₂ = .error e ∨
        (∃ c, readCell f₁ f₂ = .ok c) ∧ FieldKind.heading.Bad f₃ e := by
    rw [readCell_eq_error_iff, exists_readCell_iff]
    simp only [leftmostBad_cons, leftmostBad_nil, and_false, or_false, and_or_left, or_assoc,
      and_assoc]
  rw [cellFirst]
  cases hc : readCell f₁ f₂ with
  | error e' =>
    rw [readPlacement_of_error hc]
    simp
  | ok c =>
    cases ho : Heading.ofChars? f₃ with
    | some o =>
      rw [readPlacement_of_heading hc ho]
      rw [Heading.ofChars?_eq_some_iff, trim_eq_self solid] at ho
      refine ⟨nofun, ?_⟩
      rintro (h | ⟨_, bad⟩)
      · cases h
      · cases bad with
        | unknownHeading none => exact absurd ho (none o)
    | none =>
      rw [readPlacement_of_no_heading hc ho]
      rw [ofChars?_eq_none_iff solid] at ho
      constructor
      · intro h
        cases h
        exact Or.inr ⟨⟨c, rfl⟩, .unknownHeading ho⟩
      · rintro (h | ⟨_, bad⟩)
        · cases h
        · cases bad
          rfl

theorem exists_opens_iff {n : Nat} (some : 0 < n) {g : List Char} :
    (∃ fields, fields.length = n ∧ Opens fields g) ↔ n ≤ g.count ',' + 1 := by
  have pieces : (Text.pieces (· == ',') g).length = g.count ',' + 1 := Text.length_pieces _ g
  rw [← pieces]
  constructor
  · rintro ⟨fields, size, opens⟩
    obtain ⟨more, e⟩ := (opens_iff (List.ne_nil_of_length_pos (size ▸ some))).1 opens
    rw [e, List.length_append]
    omega
  · intro enough
    let fields := (Text.pieces (· == ',') g).take n
    let more := (Text.pieces (· == ',') g).drop n
    have size : fields.length = n := List.length_take_of_le enough
    refine ⟨fields, size, (opens_iff (List.ne_nil_of_length_pos (size ▸ some))).2 ⟨more, ?_⟩⟩
    exact (List.take_append_drop n _).symm

theorem Opens.solid {fields : List (List Char)} {rest : List Char}
    (h : Opens fields (Text.squeeze rest)) :
    ∀ text ∈ fields, ∀ c ∈ text, Text.isBlank c = false := fun _ mem c hc =>
  Text.not_isBlank_of_mem_squeeze (h.mem mem c hc)

namespace Instruction
variable {line : String} {lead word rest : List Char} {k : Keyword}

theorem mapError_within_eq_error_iff {r : Except FieldFailure Instruction} {f : Failure} :
    r.mapError (FieldFailure.within k) = .error f ↔ ∃ e, r = .error e ∧ f = e.within k := by
  cases r with
  | ok i => exact ⟨nofun, fun ⟨_, h, _⟩ => (by cases h)⟩
  | error e =>
    constructor
    · intro h
      cases h
      exact ⟨e, rfl, rfl⟩
    · rintro ⟨e', h, rfl⟩
      cases h
      rfl

theorem read_of_no_form (l : Layout line.toList lead word rest)
    (hk : Text.upper word = k.name.toList) (none : k.form = []) : ∃ i, read line = .ok i := by
  rw [read_of_layout l hk]
  cases k with
  | place | obstacle => cases none
  | move | left | right | report => exact ⟨_, rfl⟩

theorem read_of_few (l : Layout line.toList lead word rest)
    (hk : Text.upper word = k.name.toList) (form : k.form ≠ [])
    (few : ∀ fields, fields.length = k.form.length → ¬Opens fields (Text.squeeze rest)) :
    read line = .error (.fault (.incompleteArguments k.name)) := by
  rw [read_of_layout l hk]
  cases k with
  | place => exact ofFields_place_of_not_opens fun f₁ f₂ f₃ => few [f₁, f₂, f₃] rfl
  | obstacle => exact ofFields_obstacle_of_not_opens fun f₁ f₂ => few [f₁, f₂] rfl
  | move | left | right | report => exact absurd rfl form

theorem read_of_opens {fields : List (List Char)} (l : Layout line.toList lead word rest)
    (hk : Text.upper word = k.name.toList) (size : fields.length = k.form.length)
    (opens : Opens fields (Text.squeeze rest)) : read line = ofFields k fields := by
  rw [read_of_layout l hk]
  cases k with
  | place =>
    match fields, size with
    | [f₁, f₂, f₃], _ => exact ofFields_place_of_opens opens
  | obstacle =>
    match fields, size with
    | [f₁, f₂], _ => exact ofFields_obstacle_of_opens opens
  | move | left | right | report => rfl

theorem ofFields_eq_error_iff {fields : List (List Char)} {f : Failure}
    (size : fields.length = k.form.length)
    (solid : ∀ text ∈ fields, ∀ c ∈ text, Text.isBlank c = false) :
    ofFields k fields = .error f ↔ ∃ e, LeftmostBad k.form fields e ∧ f = e.within k := by
  cases k with
  | place =>
    match fields, size with
    | [f₁, f₂, f₃], _ =>
      change (readPlacement f₁ f₂ f₃).mapError _ = _ ↔ _
      rw [mapError_within_eq_error_iff]
      refine exists_congr fun e => and_congr_left fun _ => ?_
      exact readPlacement_eq_error_iff (solid f₃ (by simp))
  | obstacle =>
    match fields, size with
    | [f₁, f₂], _ =>
      change ((readCell f₁ f₂).map _).mapError _ = _ ↔ _
      rw [mapError_within_eq_error_iff]
      refine exists_congr fun e => and_congr_left fun _ => ?_
      rw [Keyword.form, ← readCell_eq_error_iff]
      cases readCell f₁ f₂ <;> simp [Except.map]
  | move | left | right | report => exact ⟨nofun, fun ⟨_, h, _⟩ => absurd h leftmostBad_nil⟩

theorem few_iff (form : k.form ≠ []) {g : List Char} :
    (∀ fields, fields.length = k.form.length → ¬Opens fields g) ↔
      g = [] ∨ g.count ',' < k.form.length - 1 := by
  have none : (∀ fields, fields.length = k.form.length → ¬Opens fields g) ↔
      ¬∃ fields, fields.length = k.form.length ∧ Opens fields g := by simp
  have two : 2 ≤ k.form.length := by
    cases k with
    | place | obstacle => decide
    | move | left | right | report => exact absurd rfl form
  rw [none, exists_opens_iff (by omega)]
  constructor
  · intro short
    exact Or.inr (by omega)
  · rintro (rfl | short)
    · rw [List.count_nil]
      omega
    · omega

theorem read_of_reason {f : Failure} (h : Reason line f) : read line = .error f := by
  cases h with
  | blank h => exact read_of_no_words (Text.words_eq_nil_iff.2 h)
  | unknown l h => exact read_of_unknown l h
  | few l hk form h => exact read_of_few l hk form ((few_iff form).2 h)
  | field l hk size opens h =>
    rw [read_of_opens l hk size opens, ofFields_eq_error_iff size opens.solid]
    exact ⟨_, h, rfl⟩

theorem reason_of_read {f : Failure} (h : read line = .error f) : Reason line f := by
  -- The reasons are excluded in the order in which one hides the next.
  by_cases blank : ∀ c ∈ line.toList, Text.isBlank c = true
  · rw [read_of_no_words (Text.words_eq_nil_iff.2 blank)] at h
    cases h
    exact .blank blank
  obtain ⟨lead, word, rest, l⟩ := Text.exists_layout (by simpa using blank)
  by_cases unknown : ∀ k : Keyword, Text.upper word ≠ k.name.toList
  · rw [read_of_unknown l unknown] at h
    cases h
    exact .unknown l unknown
  obtain ⟨k, hk⟩ : ∃ k : Keyword, Text.upper word = k.name.toList := by simpa using unknown
  by_cases form : k.form = []
  · obtain ⟨i, accepted⟩ := read_of_no_form l hk form
    rw [accepted] at h
    cases h
  by_cases few : ∀ fields, fields.length = k.form.length → ¬Opens fields (Text.squeeze rest)
  · rw [read_of_few l hk form few] at h
    cases h
    exact .few l hk form ((few_iff form).1 few)
  obtain ⟨fields, size, opens⟩ :
      ∃ fields, fields.length = k.form.length ∧ Opens fields (Text.squeeze rest) := by
    simpa using few
  rw [read_of_opens l hk size opens, ofFields_eq_error_iff size opens.solid] at h
  obtain ⟨e, bad, rfl⟩ := h
  exact .field l hk size opens bad

/-- A line fails exactly with a reason that it has. An overlong numeral ends the reading only as the
leftmost bad field. Lines with one keyword that open with the same fields are read alike, whatever
stands behind the fields. What is wrong with a field is told by the kind of the cause. -/
theorem reading_fails_for_reason (line : String) :
    (∀ f, read line = .error f ↔ Reason line f) ∧
    (∀ o, read line = .error (.oversized o) ↔ ∃ lead word rest, ∃ k : Keyword, ∃ fields,
      Layout line.toList lead word rest ∧ Text.upper word = k.name.toList ∧
      fields.length = k.form.length ∧ Opens fields (Text.squeeze rest) ∧
      LeftmostBad k.form fields (.oversized o)) ∧
    (∀ other lead word rest lead' word' rest', ∀ k : Keyword, ∀ fields,
      Layout line.toList lead word rest → Layout (String.toList other) lead' word' rest' →
      Text.upper word = k.name.toList → Text.upper word' = k.name.toList →
      fields.length = k.form.length → Opens fields (Text.squeeze rest) →
      Opens fields (Text.squeeze rest') → read line = read other) ∧
    ∀ (kind : FieldKind) text cause, kind.Bad text (.fault cause) →
      (Fault.field cause).kind = kind.complaint := by
  refine ⟨fun f => ⟨reason_of_read, read_of_reason⟩, fun o => ⟨fun h => ?_, ?_⟩, ?_,
    fun kind text cause => FieldKind.Bad.kind⟩
  · have reason := reason_of_read h
    generalize same : Failure.oversized o = f at reason
    cases reason with
    | blank | unknown | few => cases same
    | @field _ _ _ _ _ e l hk size opens h =>
      cases e with
      | fault cause => cases same
      | oversized o' =>
        cases same
        exact ⟨_, _, _, _, _, l, hk, size, opens, h⟩
  · rintro ⟨lead, word, rest, k, fields, l, hk, size, opens, h⟩
    exact read_of_reason (.field l hk size opens h)
  · intro other lead word rest lead' word' rest' k fields l l' hk hk' size opens opens'
    rw [read_of_opens l hk size opens, read_of_opens l' hk' size opens']

/-- The second field is out of range, which hides the heading behind it that names nothing; the
fields behind the third do not count, and neither do blanks. -/
theorem reading_fails_for_reason_in_second_field :
    let line := "place 1 , 9999999999, up, 5"
    let other := "PLACE 1,9999999999,up"
    (∃ lead word rest, ∃ k : Keyword, ∃ fields, Layout line.toList lead word rest ∧
      Text.upper word = k.name.toList ∧ fields.length = k.form.length ∧
      Opens fields (Text.squeeze rest) ∧
      FieldKind.heading.Bad "up".toList (.fault (.unknownHeading "up"))) ∧
    read line = .error (.fault (.invalidArguments "PLACE" (.outOfRange "9999999999"))) ∧
    read other = read line := by
  intro line other
  have words : Text.words line.toList = ["place".toList, "1".toList, ",".toList,
    "9999999999,".toList, "up,".toList, "5".toList] := by decide +kernel
  have words' : Text.words other.toList = ["PLACE".toList, "1,9999999999,up".toList] := by
    decide +kernel
  obtain ⟨_, rest, l, behind⟩ := Text.words_eq_cons_iff.1 words
  obtain ⟨_, rest', l', behind'⟩ := Text.words_eq_cons_iff.1 words'
  let fields := ["1".toList, "9999999999".toList, "up".toList]
  have opens : Opens fields (Text.squeeze rest) := by
    rw [← Text.flatten_words, behind]
    exact .next (by decide) (.next (by decide) (.last (by decide) (Or.inr ⟨['5'], rfl⟩)))
  have opens' : Opens fields (Text.squeeze rest') := by
    rw [← Text.flatten_words, behind']
    exact .next (by decide) (.next (by decide) (.last (by decide) (Or.inl rfl)))
  have first : FieldKind.coordinate.Reads "1".toList := ⟨1, readCoordinate_eq_ok_iff.1 rfl⟩
  have second : FieldKind.coordinate.Bad "9999999999".toList (.fault (.outOfRange "9999999999")) :=
    readCoordinate_eq_error_iff.1 rfl
  have third : FieldKind.heading.Bad "up".toList (.fault (.unknownHeading "up")) :=
    .unknownHeading fun o => by cases o <;> decide
  have known : Text.upper "place".toList = Keyword.place.name.toList := by decide
  have known' : Text.upper "PLACE".toList = Keyword.place.name.toList := by decide
  obtain ⟨reason, _, alike, _⟩ := reading_fails_for_reason line
  refine ⟨⟨_, _, _, .place, fields, l, known, rfl, opens, third⟩, ?_, ?_⟩
  · exact (reason _).2 (.field l known rfl opens (.later first (.here second)))
  · exact (alike other _ _ _ _ _ _ .place fields l l' known known' rfl opens opens').symm

end Instruction
end RobotGrid
