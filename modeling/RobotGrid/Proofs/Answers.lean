import RobotGrid.Proofs.SetupPhase

set_option autoImplicit false

/-!
# Which lines are answered

A line has no answer for one of two reasons. A numeral with too many digits is reached while it is
read, or an integer with too many digits would have to be written: a side of the board when the
robot is made, or a coordinate that the robot reports or is refused. The second reason is one of
large boards. If the sides of the board can be written, then so can every cell that comes up, and
that survives whatever is done with the session (`Legible`).
-/
namespace RobotGrid
open Instruction (Excessive)

namespace Session

/-- The line makes the robot on a board with a side that cannot be written, or the robot is
muted. -/
inductive Speechless (s : Session) (line : String) : Prop where
  | making (bare : s.robot = none) (needs : NeedsRobot line) (h : ¬s.table.Written)
  | telling {r : Robot} {i : Instruction} (robot : s.robot = some r)
      (reads : Instruction.read line = .ok i) (h : r.Muted i)

/-- No overlong numeral is reached on the line, and what it leads to can be told. -/
def Hears (s : Session) (line : String) : Prop := (∀ n, ¬Excessive line n) ∧ ¬s.Speechless line

/-- Each line is heard by the session behind the lines before it. -/
def Follows (s : Session) (lines : List String) : Prop :=
  ∀ before line after, lines = before ++ line :: after → (s.after before).Hears line

theorem create_not_muted (b : Board) {i : Instruction} (named : ∀ c, i.cell? = some c → c.Written) :
    ¬(Robot.create b).Muted i := by
  rintro (⟨t, ht, _, unwritten⟩ | ⟨rfl, p, hp, _⟩)
  · cases i with
    | place c o =>
      cases ht
      exact unwritten (named c rfl)
    | move | obstacle | left | right | report => cases ht
  · cases hp

variable {s : Session} {line : String}

theorem speechless_of_robot {r : Robot} {i : Instruction} (robot : s.robot = some r)
    (reads : Instruction.read line = .ok i) : s.Speechless line ↔ r.Muted i := by
  refine ⟨fun h => ?_, .telling robot reads⟩
  cases h with
  | making bare =>
    rw [robot] at bare
    cases bare
  | telling robot' reads' h =>
    rw [robot] at robot'
    rw [reads] at reads'
    cases robot'
    cases reads'
    exact h

theorem speechless_of_bare (bare : s.robot = none) :
    s.Speechless line ↔ NeedsRobot line ∧ ¬s.table.Written := by
  refine ⟨fun h => ?_, fun h => .making bare h.1 h.2⟩
  cases h with
  | making _ needs h => exact ⟨needs, h⟩
  | telling robot =>
    rw [bare] at robot
    cases robot

theorem act_eq_oversized_iff {i : Instruction} {o : Oversized}
    (reads : Instruction.read line = .ok i) :
    (s.act i).2 = .error (.oversized o) ↔ o = .written ∧ s.Speechless line := by
  have named : ∀ c, i.cell? = some c → c.Written := fun c hc =>
    (Instruction.nameable_of_read reads hc).written
  cases robot : s.robot with
  | some r =>
    rw [act_of_some robot, speechless_of_robot robot reads]
    exact Robot.execute_eq_oversized_iff
  | none =>
    rw [speechless_of_bare robot, needsRobot_of_read reads]
    by_cases needs : i.keyword ≠ .obstacle
    · rw [act_of_none robot needs]
      by_cases written : s.table.Written
      · -- The robot has just been made, and the line names no cell that it could not tell.
        rw [if_pos written]
        have told : ¬(Robot.create s.table).Muted i := create_not_muted _ named
        simp [Robot.execute_eq_oversized_iff, told, written]
      · simp [written, needs, eq_comm]
    · cases i with
      | place | move | left | right | report => exact absurd (by simp [Instruction.keyword]) needs
      | obstacle c =>
        refine ⟨fun h => ?_, fun h => absurd h.2.1 needs⟩
        cases e : s.table.declare c with
        | ok t =>
          rw [act_obstacle_of_ok robot e] at h
          cases h
        | error f =>
          have outside := (Board.declare_eq_error_iff.1 e).1
          rw [act_obstacle_of_outside robot outside, Failure.obstacleOutOfBounds,
            Failure.raise_of_writable (named c rfl)] at h
          cases h

theorem not_speechless_of_unread {f : Failure} (h : Instruction.read line = .error f) :
    ¬s.Speechless line := by
  intro speechless
  cases speechless with
  | making _ needs => exact not_needsRobot_of_error h needs
  | telling _ reads =>
    rw [h] at reads
    cases reads

theorem answer_eq_error_iff {o : Oversized} : (s.evaluate line).answer = .error o ↔
    (∃ n, o = .read n ∧ Excessive line n) ∨ o = .written ∧ s.Speechless line := by
  cases e : Instruction.read line with
  | ok i =>
    have read : ∀ n, ¬Excessive line n := fun n excess => by
      rw [Instruction.excessive_iff.1 excess] at e
      cases e
    rw [(evaluate_of_read e).2, answered_eq_error_iff, act_eq_oversized_iff e]
    simp [read]
  | error f =>
    have heard : ¬s.Speechless line := not_speechless_of_unread e
    obtain ⟨f', e'⟩ := Instruction.read_trimmed_fails_iff.2 ⟨f, e⟩
    have excess : (∃ n, o = .read n ∧ Excessive line n) ↔ f' = .oversized o := by
      simp only [← @Instruction.excessive_trimmed_iff line]
      rw [← Instruction.read_eq_oversized_iff, e', Except.error.injEq]
    rw [(evaluate_of_error e').2, answered_eq_error_iff, Except.error.injEq, excess]
    simp [heard]

theorem answer_eq_ok_iff : (∃ r, (s.evaluate line).answer = .ok r) ↔ s.Hears line := by
  cases e : (s.evaluate line).answer with
  | error o =>
    refine ⟨fun ⟨r, h⟩ => (by cases h), fun ⟨read, told⟩ => ?_⟩
    rcases answer_eq_error_iff.1 e with ⟨n, _, excess⟩ | ⟨_, speechless⟩
    · exact absurd excess (read n)
    · exact absurd speechless told
  | ok r =>
    refine ⟨fun _ => ⟨fun n excess => ?_, fun speechless => ?_⟩, fun _ => ⟨r, rfl⟩⟩
    · rw [answer_eq_error_iff.2 (Or.inl ⟨n, rfl, excess⟩)] at e
      cases e
    · rw [answer_eq_error_iff.2 (Or.inr ⟨rfl, speechless⟩)] at e
      cases e

theorem run_cons_of_speechless (solid : Text.blankText line = false) (h : s.Speechless line)
    (lines : List String) : s.run (line :: lines) = ((s.evaluate line).session, .error .written) :=
  run_cons_of_error solid (answer_eq_error_iff.2 (Or.inr ⟨rfl, h⟩)) lines

instance (s : Session) (line : String) : Decidable (s.Hears line) :=
  match e : (s.evaluate line).answer with
  | .ok r => .isTrue (answer_eq_ok_iff.1 ⟨r, e⟩)
  | .error _ => .isFalse fun h => by
    obtain ⟨r, told⟩ := answer_eq_ok_iff.2 h
    rw [e] at told
    cases told

theorem follows_nil (s : Session) : s.Follows [] := by
  rintro before line after split
  simp at split

theorem follows_cons {lines : List String} :
    s.Follows (line :: lines) ↔ s.Hears line ∧ (s.evaluate line).session.Follows lines := by
  constructor
  · intro h
    refine ⟨h [] line lines rfl, fun before next after split => ?_⟩
    rw [← after_cons]
    exact h (line :: before) next after (by rw [split]; rfl)
  · rintro ⟨first, others⟩ before next after split
    cases before with
    | nil =>
      cases split
      exact first
    | cons head before =>
      cases split
      rw [after_cons]
      exact others before next after rfl

instance decidableFollows : (s : Session) → (lines : List String) → Decidable (s.Follows lines)
  | s, [] => .isTrue (follows_nil s)
  | s, line :: lines =>
    have := decidableFollows (s.evaluate line).session lines
    decidable_of_iff _ follows_cons.symm

theorem evaluate_blank (h : Text.blankText line = true) (s : Session) :
    (s.evaluate line).session = s ∧ s.Hears line := by
  have fault := Instruction.read_of_blank h
  exact ⟨evaluate_of_unread fault, Instruction.not_excessive_of_blank h,
    not_speechless_of_unread fault⟩

theorem follows_spoken {lines : List String} : s.Follows (spoken lines) ↔ s.Follows lines := by
  induction lines generalizing s with
  | nil => rfl
  | cons line lines ih =>
    cases blank : Text.blankText line with
    | true =>
      obtain ⟨same, heard⟩ := evaluate_blank blank s
      rw [spoken_cons_of_blank blank, follows_cons, same, ih]
      simp [heard]
    | false => rw [spoken_cons_of_solid blank, follows_cons, follows_cons, ih]

theorem exists_course_iff {lines : List String} :
    (∃ results last, Course s lines results last) ↔ s.Follows lines := by
  induction lines generalizing s with
  | nil => exact ⟨fun _ => follows_nil s, fun _ => ⟨[], s, .nil s⟩⟩
  | cons line lines ih =>
    rw [follows_cons]
    constructor
    · rintro ⟨results, last, h⟩
      cases h with
      | cons e more => exact ⟨answer_eq_ok_iff.1 ⟨_, e⟩, ih.1 ⟨_, _, more⟩⟩
    · rintro ⟨first, others⟩
      obtain ⟨r, e⟩ := answer_eq_ok_iff.2 first
      obtain ⟨results, last, more⟩ := ih.2 others
      exact ⟨r :: results, last, .cons e more⟩

theorem run_answers_iff {lines : List String} :
    (∃ results, (s.run lines).2 = .ok results) ↔ s.Follows lines := by
  rw [← follows_spoken, ← exists_course_iff]
  constructor
  · rintro ⟨results, h⟩
    exact ⟨results, (s.run lines).1, run_eq_ok_iff.1 (Prod.ext rfl h)⟩
  · rintro ⟨results, last, course⟩
    exact ⟨results, by rw [run_eq_ok_iff.2 course]⟩

/-- Whatever the driver can be asked for can be told. -/
def Legible (s : Session) : Prop := s.driver.Legible

theorem legible_of_bare (bare : s.robot = none) (h : s.table.Written) : s.Legible := by
  rw [Legible, driver_of_none bare]
  exact ⟨h, fun p hp => by cases hp⟩

theorem Legible.table (h : s.Legible) (bare : s.robot = none) : s.table.Written := by
  rw [Legible, driver_of_none bare] at h
  exact h.board

theorem Legible.not_speechless (h : s.Legible) (line : String) : ¬s.Speechless line := by
  intro speechless
  cases speechless with
  | making bare _ unwritten => exact unwritten (h.table bare)
  | telling robot reads muted =>
    rw [Legible, driver_of_some robot] at h
    exact h.not_muted (fun c hc => (Instruction.nameable_of_read reads hc).written) muted

theorem Legible.hears_iff (h : s.Legible) : s.Hears line ↔ ∀ n, ¬Excessive line n :=
  ⟨And.left, fun read => ⟨read, h.not_speechless line⟩⟩

theorem legible_of_declare {b t : Board} {c : Cell} (h : b.declare c = .ok t) (l : b.Written) :
    t.Written := by
  obtain ⟨_, width, height, _⟩ := Board.declare_eq_ok h
  rw [Board.Written, Board.corner, width, height]
  exact l

theorem Legible.evaluate (h : s.Legible) (line : String) : (s.evaluate line).session.Legible := by
  cases e : Instruction.read line with
  | error f =>
    rw [evaluate_of_unread e]
    exact h
  | ok i =>
    have acts := s.acts i
    rw [(evaluate_of_read e).1]
    generalize (s.act i).1 = s' at acts
    generalize (s.act i).2 = a at acts
    cases acts with
    | setUp bare taken => exact legible_of_bare bare (legible_of_declare taken (h.table bare))
    | offBoard => exact h
    | driven _ executes => exact executes.legible h
    | unwritten bare _ unwritten => exact absurd (h.table bare) unwritten

theorem Legible.declare (h : s.Legible) (c : Cell) : (s.declare c).1.Legible := by
  rw [Session.declare]
  split
  · rename_i t taken
    cases robot : s.robot with
    | none => exact legible_of_bare rfl (legible_of_declare taken (h.table robot))
    | some r =>
      rw [Legible, driver_of_some robot] at h
      exact h
  · exact h

theorem Legible.callAll (h : s.Legible) (calls : List Call) : (s.callAll calls).Legible := by
  induction calls generalizing s with
  | nil => exact h
  | cons c calls ih =>
    rw [callAll_cons]
    cases c with
    | evaluate line => exact ih (h.evaluate line)
    | declare c => exact ih (h.declare c)

theorem Legible.follows_iff (h : s.Legible) {lines : List String} :
    s.Follows lines ↔ ∀ line ∈ lines, ∀ n, ¬Excessive line n := by
  induction lines generalizing s with
  | nil => exact ⟨fun _ line hl => (by cases hl), fun _ => follows_nil s⟩
  | cons line lines ih => rw [follows_cons, h.hears_iff, ih (h.evaluate line), List.forall_mem_cons]

theorem Legible.excessive_of_run (h : s.Legible) {lines : List String} {o : Oversized}
    (e : (s.run lines).2 = .error o) : ∃ line ∈ lines, ∃ n, o = .read n ∧ Excessive line n := by
  induction lines generalizing s with
  | nil => cases e
  | cons line lines ih =>
    cases blank : Text.blankText line with
    | true =>
      rw [run_cons_of_blank blank] at e
      obtain ⟨found, mem, excess⟩ := ih h e
      exact ⟨found, List.mem_cons_of_mem line mem, excess⟩
    | false =>
      cases answer : (s.evaluate line).answer with
      | error o' =>
        -- Here the run ends, and a legible session ends at nothing but an overlong numeral.
        rw [run_cons_of_error blank answer] at e
        rcases answer_eq_error_iff.1 answer with ⟨n, read, excess⟩ | ⟨_, speechless⟩
        · exact ⟨line, List.mem_cons_self, n, Except.error.inj e ▸ read, excess⟩
        · exact absurd speechless (h.not_speechless line)
      | ok r =>
        rw [run_cons_of_ok blank answer] at e
        cases tail : ((s.evaluate line).session.run lines).2 with
        | ok results =>
          simp only [tail, Except.map] at e
          cases e
        | error o' =>
          simp only [tail, Except.map] at e
          obtain ⟨found, mem, excess⟩ := ih (h.evaluate line) (tail.trans e)
          exact ⟨found, List.mem_cons_of_mem line mem, excess⟩

theorem Legible.after (h : s.Legible) (lines : List String) : (s.after lines).Legible :=
  after_of_step (fun _ line h => h.evaluate line) h lines

theorem Legible.written (h : s.Legible) {p : Pose} (placed : s.pose? = some p) : p.cell.Written :=
  h.board.of_contains (h.stands p ((driver_pose s).trans placed)).1

theorem legible_of_start {width height : Scalar} {cells : List Cell}
    (start : Session.start width height cells = .ok s) (h : s.table.Written) : s.Legible := by
  obtain ⟨b, _, rfl⟩ := start_eq_ok start
  exact legible_of_bare rfl h

/-- A line is answered unless an overlong numeral is reached on it or the session is speechless;
what is wrong with an answered line is told by its result. A batch is answered line by line if each
line is heard by the session behind those before it, and otherwise not at all. A session on a board
with sides that can be written is never speechless, whatever has been done with it. -/
theorem answers_unless_oversized (s : Session) :
    (∀ line, (∃ r, (s.evaluate line).answer = .ok r) ↔
      (∀ n, ¬Excessive line n) ∧ ¬s.Speechless line) ∧
    (∀ line r, (s.evaluate line).answer = .ok r → r.command = Text.trimmed line ∧
      (r.ok = false ↔ (∃ f, Instruction.read (Text.trimmed line) = .error f) ∨
        ∃ i f, Instruction.read (Text.trimmed line) = .ok i ∧ (s.act i).2 = .error f)) ∧
    (∀ lines, (∃ results, (s.run lines).2 = .ok results) ↔
      ∀ before line after, lines = before ++ line :: after →
        (∀ n, ¬Excessive line n) ∧ ¬(s.after before).Speechless line) ∧
    (∀ lines results, (s.run lines).2 = .ok results →
      Course s (spoken lines) results (s.run lines).1 ∧
        results.map CommandResult.command = (spoken lines).map Text.trimmed) ∧
    ∀ width height cells, Session.start width height cells = .ok s → s.table.Written →
      ∀ calls line, ¬(s.callAll calls).Speechless line := by
  refine ⟨fun _ => answer_eq_ok_iff, ?_, fun _ => run_answers_iff, ?_, ?_⟩
  · intro line r h
    exact ⟨answer_command h, ok_eq_false_iff h⟩
  · intro lines results h
    have course : Course s (spoken lines) results (s.run lines).1 :=
      run_eq_ok_iff.1 (Prod.ext rfl h)
    exact ⟨course, course.commands⟩
  · intro width height cells start written calls line
    exact ((legible_of_start start written).callAll calls).not_speechless line

def onesLine (n : Nat) : String :=
  String.ofList ("PLACE ".toList ++ List.replicate n '1' ++ ",0,NORTH".toList)

theorem excessive_onesLine {n : Nat} (h : 4300 < n) : Excessive (onesLine n) n := by
  let ones := List.replicate n '1'
  have digits : Digits ones := by
    refine ⟨?_, fun c hc => ?_⟩
    · intro e
      rw [List.replicate_eq_nil_iff] at e
      omega
    · rw [List.eq_of_mem_replicate hc]
      rfl
  have layout : Text.Layout (onesLine n).toList [] "PLACE".toList
      (' ' :: (ones ++ ",0,NORTH".toList)) := by
    have solid : "PLACE".toList.all (fun c => !Text.isBlank c) = true := by decide
    refine ⟨?_, ?_, by decide, ?_, Or.inr ⟨' ', _, rfl, rfl⟩⟩
    · unfold onesLine
      simp [ones]
    · intro c hc
      cases hc
    · intro c hc
      simpa using List.all_eq_true.1 solid c hc
  have behind : Text.squeeze (' ' :: (ones ++ ",0,NORTH".toList)) =
      ones ++ ',' :: ("0".toList ++ ',' :: ("NORTH".toList ++ [])) := by
    have solid : Text.squeeze ones = ones := List.filter_replicate_of_pos rfl
    change Text.squeeze (ones ++ ",0,NORTH".toList) = _
    rw [Text.squeeze, List.filter_append]
    exact congrArg (· ++ ",0,NORTH".toList) solid
  have fields : Opens [ones, "0".toList, "NORTH".toList]
      (ones ++ ',' :: ("0".toList ++ ',' :: ("NORTH".toList ++ []))) :=
    .next digits.comma_not_mem (.next (by decide) (.last (by decide) (Or.inl rfl)))
  refine ⟨[], "PLACE".toList, _, layout, .place (by decide) (behind ▸ fields) (Or.inl ?_)⟩
  exact ⟨false, ones, .bare digits, List.length_replicate, h⟩

/-- One line of ones has no result, and takes the results of its batch with it. -/
theorem no_answer_at_ones : ∃ s, Session.start (.int 5) (.int 5) [] = .ok s ∧
    (s.evaluate (onesLine 4301)).answer = .error (.read 4301) ∧
    ∀ results, (s.run ["PLACE 0,0,NORTH", onesLine 4301, "REPORT"]).2 ≠ .ok results := by
  have excess : Excessive (onesLine 4301) 4301 := excessive_onesLine (by decide)
  refine ⟨_, rfl, answer_eq_error_iff.2 (Or.inl ⟨4301, rfl, excess⟩), fun results h => ?_⟩
  exact (run_answers_iff.1 ⟨results, h⟩ ["PLACE 0,0,NORTH"] _ _ rfl).1 4301 excess

end Session
end RobotGrid
