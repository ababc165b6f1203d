import RobotGrid.Proofs.Companion
import RobotGrid.Proofs.Posting
import RobotGrid.Proofs.Rendering
import RobotGrid.Proofs.Verdict

set_option autoImplicit false

/-!
# What a command is

The service reads a command on its own or within a simulation, and both times it takes the command
for the same, whatever came before. A command that is refused on its own is refused in a simulation
as unreadable, with the same text, and leaves no trace. One that is read on its own may be exchanged
for the canonical text that is made from the answer.
-/
namespace RobotGrid
open Instruction (Excessive)

namespace Session

theorem exists_course_around {s : Session} {line : String} {earlier later : List String}
    (legible : s.Legible) (answered : ∀ l ∈ earlier ++ line :: later, ∀ n, ¬Excessive l n) :
    let before := s.after earlier
    ∃ first r rest last, Course s (spoken earlier) first before ∧
      (before.evaluate line).answer = .ok r ∧
      Course (before.evaluate line).session (spoken later) rest last := by
  intro before
  obtain ⟨ahead, others⟩ := List.forall_mem_append.1 answered
  obtain ⟨here, behind⟩ := List.forall_mem_cons.1 others
  have told : before.Legible := legible.after earlier
  obtain ⟨first, middle, opening⟩ := exists_course_iff.2
    (follows_spoken.2 (legible.follows_iff.2 ahead))
  have same : middle = before := opening.last_eq_after.trans (after_spoken s earlier)
  obtain ⟨r, e⟩ := answer_eq_ok_iff.2 (told.hears_iff.2 here)
  obtain ⟨rest, last, ending⟩ := exists_course_iff.2
    (follows_spoken.2 ((told.evaluate line).follows_iff.2 behind))
  exact ⟨first, r, rest, last, same ▸ opening, e, ending⟩

theorem Course.around {s before last : Session} {line : String} {earlier later : List String}
    {first rest : List CommandResult} {r : CommandResult}
    (opening : Course s (spoken earlier) first before) (solid : Text.blankText line = false)
    (e : (before.evaluate line).answer = .ok r)
    (ending : Course (before.evaluate line).session (spoken later) rest last) :
    Course s (spoken (earlier ++ line :: later)) (first ++ r :: rest) last := by
  rw [spoken_append, spoken_cons_of_solid solid]
  exact course_append_iff.2 ⟨first, r :: rest, before, opening, .cons e ending, rfl⟩

theorem Course.without {s before last : Session} {earlier later : List String}
    {first rest : List CommandResult} (opening : Course s (spoken earlier) first before)
    (ending : Course before (spoken later) rest last) :
    Course s (spoken (earlier ++ later)) (first ++ rest) last := by
  rw [spoken_append]
  exact course_append_iff.2 ⟨first, rest, before, opening, ending, rfl⟩

theorem category_eq_parse_iff {s : Session} {line : String} {r : CommandResult}
    (h : (s.evaluate line).answer = .ok r) :
    r.category = some .parse ↔ ∃ f, Instruction.read line = .error f := by
  constructor
  · intro category
    have refused : r.ok = false := by
      cases ok : r.ok with
      | false => rfl
      | true =>
        rw [r.category_eq_none_iff.2 ok] at category
        cases category
    obtain ⟨g, told, holds⟩ := Ground.exists_of_refused h refused
    have same : g.category = .parse := Option.some.inj (told.2.symm.trans category)
    cases g with
    | unread => exact holds
    | offBoard | late | unplaced | barred => cases same
  · intro unread
    exact (Ground.told_of_holds (g := .unread) h unread).2

theorem evaluate_render {s : Session} {line : String} {i : Instruction} {r : CommandResult}
    (reads : Instruction.read line = .ok i) (h : (s.evaluate line).answer = .ok r) :
    let e := s.evaluate (Instruction.render i)
    e.session = (s.evaluate line).session ∧
      e.answer = .ok { r with command := Instruction.render i } := by
  obtain ⟨session, answer⟩ := evaluate_of_read (s := s) reads
  obtain ⟨session', answer'⟩ := evaluate_of_read (s := s) (Instruction.read_render_of_read reads)
  rw [answer] at h
  rw [Instruction.trimmed_render] at answer'
  have told := (answered_eq_ok_iff.1 h).2
  exact ⟨session'.trans session.symm, answer'.trans (answered_eq_ok_iff.2 ⟨rfl, told⟩)⟩

end Session

theorem Instruction.solid_of_read {line : String} {i : Instruction} (h : read line = .ok i) :
    Text.blankText line = false := by
  cases blank : Text.blankText line with
  | false => rfl
  | true =>
    rw [read_of_blank blank] at h
    cases h

namespace Service
open Session (Course spoken)

/-- The canonical text of an instruction that is told by its kind, its coordinates and its
orientation. -/
def canonicalText (answer : Json) : Option String :=
  match answer.member? "kind", answer.member? "x", answer.member? "y",
    answer.member? "orientation" with
  | some (.scalar (.text kind)), some (.scalar (.int x)), some (.scalar (.int y)),
    some (.scalar (.text o)) => some s!"{kind} {x},{y},{o}"
  | some (.scalar (.text kind)), some (.scalar (.int x)), some (.scalar (.int y)),
    some (.scalar .absent) => some s!"{kind} {x},{y}"
  | some (.scalar (.text kind)), some (.scalar .absent), some (.scalar .absent),
    some (.scalar .absent) => some kind
  | _, _, _, _ => none

theorem canonicalText_instructionJson (i : Instruction) :
    canonicalText (instructionJson i) = some i.render := by
  cases i with
  | place c o => rfl
  | obstacle c => rfl
  | move | left | right | report => rfl

theorem answerParse_cases {c : String} (answered : ∀ n, ¬Excessive c n) :
    (∃ i, Instruction.read c = .ok i ∧ answerParse c = ⟨200, .value (instructionJson i)⟩) ∨
    ∃ f, Instruction.read c = .error (.fault f) ∧ answerParse c = explained 400 f.message := by
  cases reading : Instruction.read c with
  | ok i => exact Or.inl ⟨i, rfl, by simp only [answerParse, reading]⟩
  | error failure =>
    cases failure with
    | fault f => exact Or.inr ⟨f, rfl, by simp only [answerParse, reading]⟩
    | oversized o =>
      obtain ⟨n, _, excess⟩ := Instruction.read_eq_oversized_iff.1 reading
      exact absurd excess (answered n)

theorem legible_of_start {input : SimulationInput} {s : Session} (written : input.Written)
    (start : Session.start (.int input.width) (.int input.height) input.obstacles = .ok s) :
    s.Legible := by
  obtain ⟨b, made, rfl⟩ := Session.start_eq_ok start
  obtain ⟨width, height, _⟩ := Board.create_eq_ok made
  rw [Scalar.int.injEq] at width height
  have sides : Text.Numeral.isWritten b.width = true ∧ Text.Numeral.isWritten b.height = true :=
    ⟨width ▸ written.width, height ▸ written.height⟩
  exact Session.legible_of_bare rfl sides

variable {settings : LegibleSettings}

theorem respond_of_course {input : SimulationInput} {s last : Session} {body : Option Body}
    {results : List CommandResult}
    (checked : checkBody (simulationInput settings) body = .ok input)
    (start : Session.start (.int input.width) (.int input.height) input.obstacles = .ok s)
    (course : Course s (spoken input.commands) results last) :
    respond ⟨"POST", "/simulate", body⟩ settings =
      ⟨200, .value (Simulation.toJson ⟨results, last.pose?⟩)⟩ := by
  have done : simulate (.int input.width) (.int input.height) input.obstacles input.commands =
      .ok ⟨results, last.pose?⟩ := (Session.simulate_iff_course start).2 ⟨last, course, rfl⟩
  rw [respond_simulate checked]
  simp only [answerSimulation, done]

/-- In a batch that is answered, a command that is not blank has a result of the parse category if
and only if the command alone is answered by status 400. Then the text is the same, and the command
leaves no trace in the session or in the batch. Otherwise the status is 200, and where the canonical
text made from the answer stands in for the command, nothing changes but the text that is repeated.
-/
theorem endpoints_agree_on_commands {input : SimulationInput} {s : Session}
    {earlier later : List String} {c : String} {asked posted : Option Body}
    (start : Session.start (.int input.width) (.int input.height) input.obstacles = .ok s)
    (list : input.commands = earlier ++ c :: later)
    (answered : ∀ line ∈ input.commands, ∀ n, ¬Excessive line n)
    (solid : Text.blankText c = false) (reads : checkBody parseInput asked = .ok c)
    (checked : checkBody (simulationInput settings) posted = .ok input) :
    let simulated (body : Option Body) : Response := respond ⟨"POST", "/simulate", body⟩ settings
    let parsed := respond ⟨"POST", "/parse", asked⟩ settings
    let before := s.after earlier
    let behind := (before.evaluate c).session
    ∃ first r rest final,
      let answer (results : List CommandResult) : Response :=
        ⟨200, .value (Simulation.toJson ⟨results, final⟩)⟩
      simulated posted = answer (first ++ r :: rest) ∧
      first.length = (spoken earlier).length ∧ (before.evaluate c).answer = .ok r ∧
      (parsed.status = 400 ∨ parsed.status = 200) ∧
      (r.category = some .parse ↔ parsed.status = 400) ∧
      (parsed.status = 400 → ∃ text, r.message = some text ∧ parsed = explained 400 text ∧
        behind = before ∧ ∀ posted', checkBody (simulationInput settings) posted' =
            .ok { input with commands := earlier ++ later } →
          simulated posted' = answer (first ++ rest)) ∧
      (parsed.status = 200 → ∃ j text, parsed = ⟨200, .value j⟩ ∧ canonicalText j = some text ∧
        let r' : CommandResult := { r with command := text }
        (before.evaluate text).answer = .ok r' ∧ (before.evaluate text).session = behind ∧
        ∀ posted', checkBody (simulationInput settings) posted' =
            .ok { input with commands := earlier ++ text :: later } →
          simulated posted' = answer (first ++ r' :: rest)) := by
  intro simulated parsed before behind
  rw [list] at answered
  obtain ⟨first, r, rest, last, opening, e, ending⟩ :=
    Session.exists_course_around (legible_of_start (written_of_checkBody checked) start) answered
  have whole := opening.around solid e ending
  rw [← list] at whole
  have unread := Session.category_eq_parse_iff e
  have asks : parsed = answerParse c := respond_parse reads
  rw [asks]
  refine ⟨first, r, rest, last.pose?, respond_of_course checked start whole, opening.length_eq, e,
    ?_⟩
  rcases answerParse_cases (answered c (by simp)) with ⟨i, reading, told⟩ | ⟨f, reading, told⟩
  · rw [told]
    have fine : r.category ≠ some .parse := by
      intro parse
      obtain ⟨_, fails⟩ := unread.1 parse
      rw [reading] at fails
      cases fails
    have text := Instruction.solid_of_read (Instruction.read_render_of_read reading)
    obtain ⟨session, answer⟩ := Session.evaluate_render reading e
    refine ⟨Or.inr rfl, ⟨fun parse => absurd parse fine, fun status => absurd status (by simp)⟩,
      fun status => absurd status (by simp), fun _ => ⟨_, _, rfl, canonicalText_instructionJson i,
        answer, session, fun posted' checked' => ?_⟩⟩
    -- The same session is behind the canonical text, so what comes later is the same.
    rw [← session] at ending
    exact respond_of_course checked' start (opening.around text answer ending)
  · rw [told]
    -- A simulation trims the command first, and only a blank one is read otherwise then.
    have trimmed := (Instruction.read_trimmed_of_solid solid).trans reading
    obtain ⟨session, answer⟩ := Session.evaluate_of_error (s := before) trimmed
    have result : r = ⟨Text.trimmed c, .error f⟩ := Except.ok.inj (e.symm.trans answer)
    refine ⟨Or.inl rfl, ⟨fun _ => rfl, fun _ => unread.2 ⟨_, reading⟩⟩,
      fun _ => ⟨f.message, ?_, rfl, session, fun posted' checked' => ?_⟩,
      fun status => absurd status (by simp [explained])⟩
    · rw [result]
      rfl
    · rw [session] at ending
      exact respond_of_course checked' start (opening.without ending)

/-- A line that stops short is left out, and one with blanks in it is written out. -/
theorem endpoints_agree_on_commands_beside_obstacle :
    let simulation (lines : List String) : Response :=
      respond ⟨"POST", "/simulate", Body.of? (.object [("width", .int 2), ("height", .int 2),
        ("commands", .list (lines.map .text))])⟩
    let alone (line : String) : Response :=
      respond ⟨"POST", "/parse", Body.of? (.object [("command", .text line)])⟩
    let done (results : List CommandResult) (final : Option Pose) : Response :=
      ⟨200, .value (Simulation.toJson ⟨results, final⟩)⟩
    ((alone "PLACE 9").status = 400 ∧ ∃ first r rest final, first.length = 1 ∧
      r.category = some .parse ∧
      simulation ["OBSTACLE 1,1", "PLACE 9", "REPORT"] = done (first ++ r :: rest) final ∧
      simulation ["OBSTACLE 1,1", "REPORT"] = done (first ++ rest) final) ∧
    ((alone " place 0 , 1,north").status = 200 ∧ ∃ first r rest final, first.length = 2 ∧
      r.category ≠ some .parse ∧
      simulation ["OBSTACLE 1,1", " ", "MOVE", " place 0 , 1,north", "REPORT"] =
        done (first ++ r :: rest) final ∧
      simulation ["OBSTACLE 1,1", " ", "MOVE", "PLACE 0,1,NORTH", "REPORT"] =
        done (first ++ { r with command := "PLACE 0,1,NORTH" } :: rest) final) := by
  intro simulation alone done
  let board : Board := ⟨2, 2, .empty, by decide, by decide, fun c h => absurd h (by simp)⟩
  have start : Session.start (.int 2) (.int 2) [] = .ok ⟨board, none⟩ := rfl
  have legible : (Session.mk board none).Legible := Session.legible_of_bare rfl (by decide)
  constructor
  · let lines := ["OBSTACLE 1,1"] ++ "PLACE 9" :: ["REPORT"]
    have checked : checkBody (simulationInput .standard) (Body.of? (.object [("width", .int 2),
        ("height", .int 2), ("commands", .list (lines.map .text))])) = .ok ⟨2, 2, [], lines⟩ := rfl
    have heard : ∀ line ∈ lines, ∀ n, ¬Excessive line n :=
      legible.follows_iff.1 (by decide +kernel)
    have asked : checkBody parseInput (Body.of? (.object [("command", .text "PLACE 9")])) =
      .ok "PLACE 9" := rfl
    have told : alone "PLACE 9" = explained 400 _ := rfl
    have status : (alone "PLACE 9").status = 400 := congrArg Response.status told
    obtain ⟨first, r, rest, final, whole, size, _, _, parse, refused, _⟩ :=
      endpoints_agree_on_commands start rfl heard (by decide) asked checked
    obtain ⟨_, _, _, _, without⟩ := refused status
    exact ⟨status, first, r, rest, final, size, parse.2 status, whole, without _ rfl⟩
  · let lines := ["OBSTACLE 1,1", " ", "MOVE"] ++ " place 0 , 1,north" :: ["REPORT"]
    have checked : checkBody (simulationInput .standard) (Body.of? (.object [("width", .int 2),
        ("height", .int 2), ("commands", .list (lines.map .text))])) = .ok ⟨2, 2, [], lines⟩ := rfl
    have heard : ∀ line ∈ lines, ∀ n, ¬Excessive line n :=
      legible.follows_iff.1 (by decide +kernel)
    have asked : checkBody parseInput (Body.of? (.object
        [("command", .text " place 0 , 1,north")])) = .ok " place 0 , 1,north" := rfl
    have told : alone " place 0 , 1,north" =
        ⟨200, .value (instructionJson (.place ⟨0, 1⟩ .north))⟩ := rfl
    have status : (alone " place 0 , 1,north").status = 200 := congrArg Response.status told
    obtain ⟨first, r, rest, final, whole, size, _, _, parse, _, read⟩ :=
      endpoints_agree_on_commands start rfl heard (by decide) asked checked
    obtain ⟨j, text, answer, canonical, _, _, exchanged⟩ := read status
    have same : text = "PLACE 0,1,NORTH" := by
      cases told.symm.trans answer
      exact (Option.some.inj canonical).symm
    subst same
    refine ⟨status, first, r, rest, final, size, fun category => ?_, whole, exchanged _ rfl⟩
    exact absurd ((parse.1 category).symm.trans status) (by decide)

end Service
end RobotGrid
