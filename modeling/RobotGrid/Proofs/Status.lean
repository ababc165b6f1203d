import Mathlib.Logic.Basic
import RobotGrid.Proofs.Declaration
import RobotGrid.Proofs.Posting

set_option autoImplicit false

/-!
# How a simulation is answered

A simulation that is asked for is answered in one of three ways. The sides and the declared
obstacles alone decide whether the set-up is refused, and with which words. If it is not, a numeral
with too many digits that is reached on a command line ends the simulation, and without one it is
carried out and answered. A command that is refused does none of this, so it is all the same to the
status whether it is there.
-/
namespace RobotGrid
open Instruction (Excessive)

theorem exists_first_outside {width height : Int} {cells : List Cell}
    (h : ∃ c ∈ cells, ¬InRectangle width height c) :
    ∃ before c after, cells = before ++ c :: after ∧
      (∀ d ∈ before, InRectangle width height d) ∧ ¬InRectangle width height c := by
  obtain ⟨c, hc, outside⟩ := h
  let out : Cell → Bool := fun c => !decide (InRectangle width height c)
  have found : (cells.find? out).isSome = true :=
    List.find?_isSome.2 ⟨c, hc, by simp [out, outside]⟩
  obtain ⟨first, e⟩ := Option.isSome_iff_exists.1 found
  obtain ⟨isOut, before, after, list, others⟩ := List.find?_eq_some_iff_append.1 e
  refine ⟨before, first, after, list, fun d hd => ?_, by simpa [out] using isOut⟩
  simpa [out] using others d hd

namespace Session

theorem simulate_of_start_error {width height : Scalar} {cells : List Cell} {f : Failure}
    (start : start width height cells = .error f) (commands : List String) :
    simulate width height cells commands = .error f := by
  rw [simulate, start]

theorem start_of_not_positive {width height : Int} (h : ¬(0 < width ∧ 0 < height))
    (cells : List Cell) : start (.int width) (.int height) cells =
      .error (.invalidDimensions (.int width) (.int height)) := by
  rw [start_eq, Board.create, Board.bare_of_not_positive h]
  rfl

theorem start_of_outside {width height : Int} (wide : 0 < width) (high : 0 < height)
    {before after : List Cell} {c : Cell} (inside : ∀ d ∈ before, InRectangle width height d)
    (outside : ¬InRectangle width height c) :
    start (.int width) (.int height) (before ++ c :: after) = .error (.obstacleOutOfBounds c) := by
  rw [start_eq, Board.create_of_outside wide high inside outside]
  rfl

end Session

namespace Service

namespace SimulationInput

/-- The sides are positive and the declared obstacles lie between them. -/
def Sound (input : SimulationInput) : Prop :=
  0 < input.width ∧ 0 < input.height ∧
    ∀ c ∈ input.obstacles, InRectangle input.width input.height c

def Overruns (input : SimulationInput) : Prop := ∃ line ∈ input.commands, ∃ n, Excessive line n

theorem not_sound_iff {input : SimulationInput} : ¬input.Sound ↔
    input.width ≤ 0 ∨ input.height ≤ 0 ∨
      ∃ c ∈ input.obstacles, ¬InRectangle input.width input.height c := by
  simp only [Sound, not_and_or, Int.not_lt, not_forall, exists_prop]

end SimulationInput

variable {input : SimulationInput}

theorem answer_of_sides (written : input.Written) (h : input.width ≤ 0 ∨ input.height ≤ 0) :
    answerSimulation input = explained 400
      s!"Tabletop dimensions need to be positive integers, got {input.width}x{input.height}." := by
  have sides : ¬(0 < input.width ∧ 0 < input.height) := by omega
  have told : Failure.invalidDimensions (.int input.width) (.int input.height) = .fault
      (.invalidDimensions (.int input.width) (.int input.height)
        ⟨written.width, written.height⟩) := Failure.raise_of_writable _
  rw [answerSimulation, Session.simulate_of_start_error (Session.start_of_not_positive sides _),
    told]
  rfl

theorem answer_of_outside (written : input.Written) (wide : 0 < input.width)
    (high : 0 < input.height) {before after : List Cell} {c : Cell}
    (list : input.obstacles = before ++ c :: after)
    (inside : ∀ d ∈ before, InRectangle input.width input.height d)
    (outside : ¬InRectangle input.width input.height c) :
    answerSimulation input = explained 400 s!"Position ({c.x}, {c.y}) is out of bounds." := by
  have cell : c.Written := written.obstacles c (by simp [list])
  have told : Failure.obstacleOutOfBounds c = .fault (.obstacleOutOfBounds c cell) :=
    Failure.raise_of_writable cell
  rw [answerSimulation, list,
    Session.simulate_of_start_error (Session.start_of_outside wide high inside outside), told]
  rfl

theorem answer_of_sound (written : input.Written) (sound : input.Sound) :
    (∃ line ∈ input.commands, ∃ n, Excessive line n ∧
      answerSimulation input = explained 500 (Oversized.read n).message) ∨
    (¬input.Overruns ∧ ∃ sim, simulate (.int input.width) (.int input.height) input.obstacles
      input.commands = .ok sim ∧ answerSimulation input = ⟨200, .value sim.toJson⟩) := by
  obtain ⟨wide, high, inside⟩ := sound
  have sides : (Board.ofCells wide high inside).Written := ⟨written.width, written.height⟩
  rw [answerSimulation]
  rcases simulate_cases (Session.start_ofCells wide high inside) sides input.commands
    with ⟨line, mem, n, excess, e⟩ | ⟨heard, sim, e, _⟩
  · exact Or.inl ⟨line, mem, n, excess, by rw [e]⟩
  · refine Or.inr ⟨?_, sim, e, by rw [e]⟩
    rintro ⟨line, mem, n, excess⟩
    exact heard line mem n excess

theorem status_of_not_sound (written : input.Written) (h : ¬input.Sound) :
    (answerSimulation input).status = 400 := by
  by_cases sides : input.width ≤ 0 ∨ input.height ≤ 0
  · rw [answer_of_sides written sides]
    rfl
  · have wide : 0 < input.width := by omega
    have high : 0 < input.height := by omega
    have some : ∃ c ∈ input.obstacles, ¬InRectangle input.width input.height c := by
      rcases SimulationInput.not_sound_iff.1 h with bad | bad | some
      · exact absurd (Or.inl bad) sides
      · exact absurd (Or.inr bad) sides
      · exact some
    obtain ⟨before, c, after, list, inside, outside⟩ := exists_first_outside some
    rw [answer_of_outside written wide high list inside outside]
    rfl

theorem status_of_overruns (written : input.Written) (sound : input.Sound) (h : input.Overruns) :
    (answerSimulation input).status = 500 := by
  rcases answer_of_sound written sound with ⟨_, _, _, _, ended⟩ | ⟨answered, _⟩
  · rw [ended]
    rfl
  · exact absurd h answered

theorem status_of_answered (written : input.Written) (sound : input.Sound) (h : ¬input.Overruns) :
    (answerSimulation input).status = 200 := by
  rcases answer_of_sound written sound with ⟨line, mem, n, excess, _⟩ | ⟨_, _, _, done⟩
  · exact absurd ⟨line, mem, n, excess⟩ h
  · rw [done]

theorem status_eq_400_iff (written : input.Written) :
    (answerSimulation input).status = 400 ↔ ¬input.Sound := by
  refine ⟨fun status sound => ?_, status_of_not_sound written⟩
  by_cases overruns : input.Overruns
  · rw [status_of_overruns written sound overruns] at status
    exact absurd status (by decide)
  · rw [status_of_answered written sound overruns] at status
    exact absurd status (by decide)

theorem status_eq_500_iff (written : input.Written) (sound : input.Sound) :
    (answerSimulation input).status = 500 ↔ input.Overruns := by
  refine ⟨fun status => ?_, status_of_overruns written sound⟩
  by_cases overruns : input.Overruns
  · exact overruns
  · rw [status_of_answered written sound overruns] at status
    exact absurd status (by decide)

theorem status_congr {input' : SimulationInput} (written : input.Written)
    (written' : input'.Written) (sound : input.Sound ↔ input'.Sound)
    (overruns : input.Overruns ↔ input'.Overruns) :
    (answerSimulation input).status = (answerSimulation input').status := by
  by_cases h : input.Sound
  · by_cases h' : input.Overruns
    · rw [status_of_overruns written h h',
        status_of_overruns written' (sound.1 h) (overruns.1 h')]
    · rw [status_of_answered written h h',
        status_of_answered written' (sound.1 h) (mt overruns.2 h')]
  · rw [status_of_not_sound written h, status_of_not_sound written' (mt sound.2 h)]

theorem overruns_insert_iff {before after : List String} {line : String}
    (answered : ∀ n, ¬Excessive line n) (list : input.commands = before ++ line :: after) :
    SimulationInput.Overruns { input with commands := before ++ after } ↔ input.Overruns := by
  simp only [SimulationInput.Overruns, list, List.mem_append, List.mem_cons]
  constructor
  · rintro ⟨other, mem, excess⟩
    exact ⟨other, mem.imp_right Or.inr, excess⟩
  · rintro ⟨other, mem | rfl | mem, n, excess⟩
    · exact ⟨other, Or.inl mem, n, excess⟩
    · exact absurd excess (answered n)
    · exact ⟨other, Or.inr mem, n, excess⟩

theorem toJson_eq (results : List CommandResult) (final : Option Pose) :
    Simulation.toJson ⟨results, final⟩ = .object [
      ("results", .list (results.map fun r => .object [("command", .text r.command),
        ("ok", .flag r.ok), ("message", .optionalText r.message), ("error", .optionalText r.error),
        ("category", .optionalText (r.category.map Category.name))])),
      ("reports", .list ((reports results).map .text)),
      ("final", final.elim .null fun p => .object [("x", .int p.cell.x), ("y", .int p.cell.y),
        ("orientation", .text p.heading.name)])] := by
  cases final <;> rfl

/-- A simulation whose input passes the checks has status 400 if and only if a side is not positive
or a declared obstacle lies off the board: then it names the sides, or else the first such obstacle,
whatever the commands are. On a sound set-up it has status 500 if and only if an overlong numeral is
reached on a command line, and otherwise status 200 with all that the simulation leaves. Leaving out
a command that is answered somewhere, such as a refused one, keeps the status. -/
theorem simulation_has_three_answers {settings : LegibleSettings} {body : Option Body}
    {input : SimulationInput} (checked : checkBody (simulationInput settings) body = .ok input) :
    let w := input.width
    let h := input.height
    let r := respond ⟨"POST", "/simulate", body⟩ settings
    (r.status = 400 ↔ w ≤ 0 ∨ h ≤ 0 ∨ ∃ c ∈ input.obstacles, ¬InRectangle w h c) ∧
    (w ≤ 0 ∨ h ≤ 0 →
      r = explained 400 s!"Tabletop dimensions need to be positive integers, got {w}x{h}.") ∧
    (0 < w → 0 < h → ∀ before c after, input.obstacles = before ++ c :: after →
      (∀ d ∈ before, InRectangle w h d) → ¬InRectangle w h c →
        r = explained 400 s!"Position ({c.x}, {c.y}) is out of bounds.") ∧
    (r.status ≠ 400 →
      (r.status = 500 ↔ ∃ line ∈ input.commands, ∃ n, Excessive line n) ∧
      (r.status = 500 → ∃ line ∈ input.commands, ∃ n, Excessive line n ∧
        r = explained 500 (Oversized.read n).message) ∧
      (r.status ≠ 500 → ∃ results final,
        simulate (.int w) (.int h) input.obstacles input.commands = .ok ⟨results, final⟩ ∧
        r = ⟨200, .value (.object [
          ("results", .list (results.map fun r => .object [("command", .text r.command),
            ("ok", .flag r.ok), ("message", .optionalText r.message),
            ("error", .optionalText r.error),
            ("category", .optionalText (r.category.map Category.name))])),
          ("reports", .list ((reports results).map .text)),
          ("final", final.elim .null fun p => .object [("x", .int p.cell.x),
            ("y", .int p.cell.y), ("orientation", .text p.heading.name)])])⟩)) ∧
    ∀ before line after, input.commands = before ++ line :: after →
      (∃ (s : Session) (result : CommandResult), (s.evaluate line).answer = .ok result) →
      ∀ body', checkBody (simulationInput settings) body' =
          .ok { input with commands := before ++ after } →
        (respond ⟨"POST", "/simulate", body'⟩ settings).status = r.status := by
  intro w h r
  have written := written_of_checkBody checked
  have e : r = answerSimulation input := respond_simulate checked
  rw [e]
  refine ⟨(status_eq_400_iff written).trans SimulationInput.not_sound_iff, answer_of_sides written,
    fun wide high _ _ _ => answer_of_outside written wide high, fun accepted => ?_, ?_⟩
  · have sound : input.Sound := by
      by_cases sound : input.Sound
      · exact sound
      · exact absurd (status_of_not_sound written sound) accepted
    refine ⟨status_eq_500_iff written sound, fun status => ?_, fun status => ?_⟩
    · rcases answer_of_sound written sound with ended | ⟨answered, _⟩
      · exact ended
      · exact absurd ((status_eq_500_iff written sound).1 status) answered
    · rcases answer_of_sound written sound with ⟨line, mem, n, excess, _⟩ | ⟨_, sim, done, told⟩
      · exact absurd ((status_eq_500_iff written sound).2 ⟨line, mem, n, excess⟩) status
      · obtain ⟨results, final⟩ := sim
        rw [toJson_eq] at told
        exact ⟨results, final, done, told⟩
  · rintro before line after list ⟨s, result, answer⟩ body' checked'
    have heard : s.Hears line := Session.answer_eq_ok_iff.1 ⟨result, answer⟩
    rw [respond_simulate checked']
    exact status_congr (written_of_checkBody checked') written Iff.rfl
      (overruns_insert_iff heard.1 list)

/-- The set-up is looked at first, an obstacle that a command line puts off the board is no part of
it, and an overlong numeral is met only behind it. -/
theorem simulation_has_three_answers_beside_edge :
    let spot (x y : Int) : Json := .object [("x", .int x), ("y", .int y)]
    let body (width : Int) (spots : List Json) (lines : List String) : Option Body :=
      Body.of? (.object [("width", .int width), ("height", .int 2), ("obstacles", .list spots),
        ("commands", .list (lines.map .text))])
    let post (body : Option Body) : Response := respond ⟨"POST", "/simulate", body⟩
    ∃ long, Excessive long 4301 ∧
      post (body 0 [spot 9 9] [long]) =
        explained 400 "Tabletop dimensions need to be positive integers, got 0x2." ∧
      post (body 3 [spot 1 1, spot 3 0, spot 9 9] [long]) =
        explained 400 "Position (3, 0) is out of bounds." ∧
      (post (body 3 [spot 1 1] ["OBSTACLE 9,9", "REPORT", long])).status = 500 ∧
      (post (body 3 [spot 1 1] ["REPORT", long])).status = 500 ∧
      (post (body 3 [spot 1 1] ["OBSTACLE 9,9", "REPORT"])).status = 200 := by
  intro spot body post
  obtain ⟨long, excess⟩ : ∃ long, Excessive long 4301 :=
    ⟨_, Session.excessive_onesLine (by decide)⟩
  let check (body : Option Body) : Checked SimulationInput :=
    checkBody (simulationInput .standard) body
  have noSides : check (body 0 [spot 9 9] [long]) = .ok ⟨0, 2, [⟨9, 9⟩], [long]⟩ := rfl
  have offBoard : check (body 3 [spot 1 1, spot 3 0, spot 9 9] [long]) =
      .ok ⟨3, 2, [⟨1, 1⟩, ⟨3, 0⟩, ⟨9, 9⟩], [long]⟩ := rfl
  have ending : check (body 3 [spot 1 1] ["OBSTACLE 9,9", "REPORT", long]) =
      .ok ⟨3, 2, [⟨1, 1⟩], ["OBSTACLE 9,9", "REPORT", long]⟩ := rfl
  have shorter : check (body 3 [spot 1 1] ["REPORT", long]) =
      .ok ⟨3, 2, [⟨1, 1⟩], ["REPORT", long]⟩ := rfl
  have answered : check (body 3 [spot 1 1] ["OBSTACLE 9,9", "REPORT"]) =
      .ok ⟨3, 2, [⟨1, 1⟩], ["OBSTACLE 9,9", "REPORT"]⟩ := rfl
  have sound : ¬((3 : Int) ≤ 0 ∨ (2 : Int) ≤ 0 ∨ ∃ c ∈ [Cell.mk 1 1], ¬InRectangle 3 2 c) := by
    decide
  obtain ⟨_, sides, _⟩ := simulation_has_three_answers noSides
  obtain ⟨_, _, first, _⟩ := simulation_has_three_answers offBoard
  obtain ⟨refused, _, _, status, left⟩ := simulation_has_three_answers ending
  obtain ⟨refused', _, _, status', _⟩ := simulation_has_three_answers answered
  have stops : (post (body 3 [spot 1 1] ["OBSTACLE 9,9", "REPORT", long])).status = 500 :=
    (status (mt refused.1 sound)).1.2 ⟨long, by simp, 4301, excess⟩
  refine ⟨long, excess, sides (Or.inl (Int.le_refl 0)), ?_, stops, ?_, ?_⟩
  · have wide : (0 : Int) < 3 := by decide
    have high : (0 : Int) < 2 := by decide
    have board : ∀ d ∈ [Cell.mk 1 1], InRectangle 3 2 d := by decide
    have off : ¬InRectangle 3 2 ⟨3, 0⟩ := by decide
    exact first wide high [⟨1, 1⟩] ⟨3, 0⟩ [⟨9, 9⟩] rfl board off
  · have off : ∃ (s : Session) (result : CommandResult),
        (s.evaluate "OBSTACLE 9,9").answer = .ok result :=
      ⟨⟨⟨3, 2, .empty, by decide, by decide, fun c h => absurd h (by simp)⟩, none⟩, _, rfl⟩
    exact (left [] "OBSTACLE 9,9" ["REPORT", long] rfl off _ shorter).trans stops
  · let s : Session := ⟨⟨3, 2, .empty, by decide, by decide, fun c h => absurd h (by simp)⟩, none⟩
    have legible : s.Legible := Session.legible_of_bare rfl (by decide)
    have heard : s.Follows ["OBSTACLE 9,9", "REPORT"] := by decide +kernel
    obtain ⟨ended, _, done⟩ := status' (mt refused'.1 sound)
    have free : (post (body 3 [spot 1 1] ["OBSTACLE 9,9", "REPORT"])).status ≠ 500 := by
      intro stopped
      obtain ⟨line, mem, n, excessive⟩ := ended.1 stopped
      exact legible.follows_iff.1 heard line mem n excessive
    obtain ⟨_, _, _, whole⟩ := done free
    exact congrArg Response.status whole

end Service
end RobotGrid
