import RobotGrid.Proofs.Grammar
import RobotGrid.Simulation

set_option autoImplicit false

/-!
# Evaluating lines

One line of a session in two steps: it is read, and then the session acts on the instruction. A run
is the evaluation of the lines that are not blank, one after the other. Every fault of either step
ends as a result; the results of a run are a `Course`.
-/
namespace RobotGrid

section
variable {α ε ε' : Type} (f : ε → ε')

@[simp] theorem mapError_ok (a : α) : (Except.ok a : Except ε α).mapError f = .ok a := rfl

@[simp] theorem mapError_error (e : ε) :
    (Except.error e : Except ε α).mapError f = .error (f e) := rfl

end

namespace Session

/-- What a session does with an instruction, its log left aside. -/
def act (s : Session) (i : Instruction) : Session × Except Failure (Option String) :=
  match s.robot, i with
  | none, .obstacle c =>
    match s.table.declare c with
    | .ok table => ({ s with table }, .ok none)
    | .error f => (s, .error f)
  | none, i =>
    let r := Robot.create s.table
    if s.table.Written then ({ s with robot := some (r.execute i).1 }, (r.execute i).2)
    else ({ s with robot := some r }, .error (.oversized .written))
  | some r, i => ({ s with robot := some (r.execute i).1 }, (r.execute i).2)

/-- The answer to a line with a given outcome. -/
def answered (command : String) : Except Failure (Option String) → Except Oversized CommandResult
  | .ok m => .ok ⟨command, .ok m⟩
  | .error (.fault f) => .ok ⟨command, .error f⟩
  | .error (.oversized o) => .error o

theorem answered_eq_ok_iff {command : String} {outcome : Except Failure (Option String)}
    {r : CommandResult} : answered command outcome = .ok r ↔
      r.command = command ∧ outcome = r.outcome.mapError .fault := by
  obtain ⟨command', told⟩ := r
  cases outcome with
  | ok m => cases told <;> simp [answered, eq_comm]
  | error f => cases f <;> cases told <;> simp [answered, eq_comm]

theorem answered_eq_error_iff {command : String} {outcome : Except Failure (Option String)}
    {o : Oversized} : answered command outcome = .error o ↔ outcome = .error (.oversized o) := by
  cases outcome with
  | ok m => simp [answered]
  | error f => cases f <;> simp [answered]

theorem failed_eq (s : Session) (entries : List Entry) (command : String) (f : Failure) :
    (s.failed entries command f).session = s ∧
      (s.failed entries command f).answer = answered command (.error f) := by
  cases f <;> exact ⟨rfl, rfl⟩

theorem setUp_eq {s : Session} (h : s.robot = none) (command : String) (c : Cell) :
    (s.setUp command c).session = (s.act (.obstacle c)).1 ∧
      (s.setUp command c).answer = answered command (s.act (.obstacle c)).2 := by
  obtain ⟨table, robot⟩ := s
  subst h
  unfold setUp act
  cases e : table.declare c with
  | ok t => simp only [e]; exact ⟨rfl, rfl⟩
  | error f => simp only [e]; exact failed_eq _ _ _ _

theorem drive_eq (s : Session) (before : List Entry) (command : String) (r : Robot)
    (i : Instruction) :
    (s.drive before command r i).session = { s with robot := some (r.execute i).1 } ∧
      (s.drive before command r i).answer = answered command (r.execute i).2 := by
  unfold drive
  cases e : r.execute i with
  | mk next answer =>
    cases answer with
    | ok m => exact ⟨rfl, rfl⟩
    | error f => exact failed_eq _ _ _ _

theorem perform_of_some {s : Session} {r : Robot} (h : s.robot = some r) (command : String)
    (i : Instruction) : s.perform command i = s.drive [] command r i := by
  obtain ⟨table, robot⟩ := s
  subst h
  cases i <;> rfl

theorem perform_of_none {s : Session} {i : Instruction} (h : s.robot = none)
    (needs : i.keyword ≠ .obstacle) (command : String) : s.perform command i =
      if h : s.table.Written then
        s.drive [.copy s.table, .record (.robotCreated s.table h)] command (Robot.create s.table) i
      else ⟨{ s with robot := some (Robot.create s.table) }, [.copy s.table], .error .written⟩ := by
  obtain ⟨table, robot⟩ := s
  subst h
  cases i with
  | obstacle c => exact absurd rfl needs
  | place | move | left | right | report => rfl

theorem perform_obstacle {s : Session} (h : s.robot = none) (command : String) (c : Cell) :
    s.perform command (.obstacle c) = s.setUp command c := by
  obtain ⟨table, robot⟩ := s
  subst h
  rfl

theorem act_of_some {s : Session} {r : Robot} (h : s.robot = some r) (i : Instruction) :
    s.act i = ({ s with robot := some (r.execute i).1 }, (r.execute i).2) := by
  obtain ⟨table, robot⟩ := s
  subst h
  cases i <;> rfl

theorem act_of_none {s : Session} {i : Instruction} (h : s.robot = none)
    (needs : i.keyword ≠ .obstacle) : s.act i =
      if s.table.Written then
        ({ s with robot := some ((Robot.create s.table).execute i).1 },
          ((Robot.create s.table).execute i).2)
      else ({ s with robot := some (Robot.create s.table) }, .error (.oversized .written)) := by
  obtain ⟨table, robot⟩ := s
  subst h
  cases i with
  | obstacle c => exact absurd rfl needs
  | place | move | left | right | report => rfl

theorem perform_eq (s : Session) (command : String) (i : Instruction) :
    (s.perform command i).session = (s.act i).1 ∧
      (s.perform command i).answer = answered command (s.act i).2 := by
  cases h : s.robot with
  | some r =>
    rw [perform_of_some h, act_of_some h]
    exact drive_eq _ _ _ _ _
  | none =>
    by_cases needs : i.keyword ≠ .obstacle
    · rw [perform_of_none h needs, act_of_none h needs]
      split
      · exact drive_eq _ _ _ _ _
      · exact ⟨rfl, rfl⟩
    · cases i with
      | obstacle c =>
        rw [perform_obstacle h]
        exact setUp_eq h command c
      | place | move | left | right | report => exact absurd (by simp [Instruction.keyword]) needs

theorem evaluate_of_ok {s : Session} {line : String} {i : Instruction}
    (h : Instruction.read (Text.trimmed line) = .ok i) :
    (s.evaluate line).session = (s.act i).1 ∧
      (s.evaluate line).answer = answered (Text.trimmed line) (s.act i).2 := by
  simp only [evaluate, h]
  exact s.perform_eq _ i

theorem evaluate_of_error {s : Session} {line : String} {f : Failure}
    (h : Instruction.read (Text.trimmed line) = .error f) :
    (s.evaluate line).session = s ∧
      (s.evaluate line).answer = answered (Text.trimmed line) (.error f) := by
  simp only [evaluate, h]
  exact failed_eq _ _ _ _

/-- An answered line does not read and is answered by the fault, or it reads and is answered by what
the session does. -/
theorem answer_cases {s : Session} {line : String} {r : CommandResult}
    (h : (s.evaluate line).answer = .ok r) :
    (∃ f, Instruction.read (Text.trimmed line) = .error (.fault f) ∧
      r = ⟨Text.trimmed line, .error f⟩) ∨
    ∃ i outcome, Instruction.read (Text.trimmed line) = .ok i ∧
      (s.act i).2 = outcome.mapError .fault ∧ r = ⟨Text.trimmed line, outcome⟩ := by
  obtain ⟨command, outcome⟩ := r
  cases e : Instruction.read (Text.trimmed line) with
  | ok i =>
    rw [(evaluate_of_ok e).2] at h
    obtain ⟨rfl, told⟩ := answered_eq_ok_iff.1 h
    exact Or.inr ⟨i, outcome, rfl, told, rfl⟩
  | error failure =>
    rw [(evaluate_of_error e).2] at h
    obtain ⟨rfl, told⟩ := answered_eq_ok_iff.1 h
    cases outcome with
    | ok m => cases told
    | error f =>
      cases told
      exact Or.inl ⟨f, rfl, rfl⟩

theorem answer_command {s : Session} {line : String} {r : CommandResult}
    (h : (s.evaluate line).answer = .ok r) : r.command = Text.trimmed line := by
  rcases answer_cases h with ⟨f, _, rfl⟩ | ⟨i, outcome, _, _, rfl⟩ <;> rfl

theorem ok_eq_false_iff {s : Session} {line : String} {r : CommandResult}
    (h : (s.evaluate line).answer = .ok r) :
    r.ok = false ↔ (∃ f, Instruction.read (Text.trimmed line) = .error f) ∨
      ∃ i f, Instruction.read (Text.trimmed line) = .ok i ∧ (s.act i).2 = .error f := by
  rcases answer_cases h with ⟨f, e, rfl⟩ | ⟨i, outcome, e, told, rfl⟩
  · simp [e, CommandResult.ok]
  · cases outcome <;> simp [e, told, CommandResult.ok]

/-- The results of lines that are evaluated one after the other, and the session behind them. -/
inductive Course : Session → List String → List CommandResult → Session → Prop where
  | nil (s : Session) : Course s [] [] s
  | cons {s last : Session} {line : String} {lines : List String} {r : CommandResult}
      {results : List CommandResult} (h : (s.evaluate line).answer = .ok r)
      (more : Course (s.evaluate line).session lines results last) :
      Course s (line :: lines) (r :: results) last

def spoken (lines : List String) : List String := lines.filter fun line => !Text.blankText line

theorem spoken_cons_of_blank {line : String} (h : Text.blankText line = true)
    (lines : List String) : spoken (line :: lines) = spoken lines :=
  List.filter_cons_of_neg (by simp [h])

theorem spoken_cons_of_solid {line : String} (h : Text.blankText line = false)
    (lines : List String) : spoken (line :: lines) = line :: spoken lines :=
  List.filter_cons_of_pos (by simp [h])

theorem spoken_append (lines more : List String) :
    spoken (lines ++ more) = spoken lines ++ spoken more := List.filter_append lines more

theorem run_cons_of_blank {line : String} (h : Text.blankText line = true) (s : Session)
    (lines : List String) : s.run (line :: lines) = s.run lines := by
  rw [run, if_pos h]

theorem run_cons_of_error {s : Session} {line : String} {o : Oversized}
    (h : Text.blankText line = false) (e : (s.evaluate line).answer = .error o)
    (lines : List String) : s.run (line :: lines) = ((s.evaluate line).session, .error o) := by
  rw [run, if_neg (by simp [h])]
  simp only [e]

theorem run_cons_of_ok {s : Session} {line : String} {r : CommandResult}
    (h : Text.blankText line = false) (e : (s.evaluate line).answer = .ok r)
    (lines : List String) :
    s.run (line :: lines) = (((s.evaluate line).session.run lines).1,
      ((s.evaluate line).session.run lines).2.map (r :: ·)) := by
  rw [run, if_neg (by simp [h])]
  simp only [e]

theorem run_eq_ok_iff {s last : Session} {lines : List String} {results : List CommandResult} :
    s.run lines = (last, .ok results) ↔ Course s (spoken lines) results last := by
  induction lines generalizing s last results with
  | nil =>
    constructor
    · intro h
      obtain ⟨e, e'⟩ := Prod.mk.inj (show (s, Except.ok []) = (last, .ok results) from h)
      rw [← e, ← Except.ok.inj e']
      exact .nil s
    · intro h
      cases h
      rfl
  | cons line lines ih =>
    cases blank : Text.blankText line with
    | true =>
      rw [run_cons_of_blank blank, spoken_cons_of_blank blank, ih]
    | false =>
      rw [spoken_cons_of_solid blank]
      cases e : (s.evaluate line).answer with
      | error o =>
        rw [run_cons_of_error blank e]
        constructor
        · intro h
          have second := (Prod.mk.inj h).2
          cases second
        · intro h
          cases h with
          | cons h more =>
            rw [h] at e
            cases e
      | ok r =>
        rw [run_cons_of_ok blank e]
        constructor
        · intro h
          cases tail : (s.evaluate line).session.run lines with
          | mk final answer =>
            rw [tail] at h
            cases answer with
            | error o =>
              have second := (Prod.mk.inj h).2
              cases second
            | ok rest =>
              change (final, Except.ok (r :: rest)) = (last, Except.ok results) at h
              obtain ⟨behind, all⟩ := Prod.mk.inj h
              rw [← Except.ok.inj all, ← behind]
              exact .cons e (ih.1 tail)
        · intro h
          cases h with
          | cons h more =>
            rw [h] at e
            cases e
            rw [ih.2 more]
            rfl

theorem run_append {s middle : Session} {lines : List String} {first : List CommandResult}
    (h : s.run lines = (middle, .ok first)) (more : List String) :
    s.run (lines ++ more) = ((middle.run more).1, (middle.run more).2.map (first ++ ·)) := by
  induction lines generalizing s first with
  | nil =>
    cases h
    change middle.run more = _
    cases middle.run more with
    | mk last answer => cases answer <;> rfl
  | cons line lines ih =>
    rw [List.cons_append]
    cases blank : Text.blankText line with
    | true =>
      rw [run_cons_of_blank blank] at h ⊢
      exact ih h
    | false =>
      cases e : (s.evaluate line).answer with
      | error o =>
        rw [run_cons_of_error blank e] at h
        cases congrArg Prod.snd h
      | ok r =>
        rw [run_cons_of_ok blank e] at h ⊢
        cases tail : (s.evaluate line).session.run lines with
        | mk final answer =>
          rw [tail] at h
          cases answer with
          | error o => cases congrArg Prod.snd h
          | ok rest =>
            cases h
            rw [ih tail]
            cases (final.run more).2 <;> rfl

theorem spoken_of_solid {lines : List String}
    (h : ∀ line ∈ lines, Text.blankText line = false) : spoken lines = lines := by
  refine List.filter_eq_self.2 fun line hl => ?_
  rw [h line hl]
  rfl

theorem Course.commands {s last : Session} {lines : List String} {results : List CommandResult}
    (h : Course s lines results last) :
    results.map CommandResult.command = lines.map Text.trimmed := by
  induction h with
  | nil => rfl
  | cons e _ ih => rw [List.map_cons, List.map_cons, ih, answer_command e]

theorem Course.length_eq {s last : Session} {lines : List String} {results : List CommandResult}
    (h : Course s lines results last) : results.length = lines.length := by
  have commands := congrArg List.length h.commands
  rw [List.length_map, List.length_map] at commands
  exact commands

theorem course_append_iff {s last : Session} {lines more : List String}
    {results : List CommandResult} :
    Course s (lines ++ more) results last ↔ ∃ first second middle,
      Course s lines first middle ∧ Course middle more second last ∧ results = first ++ second := by
  constructor
  · intro h
    induction lines generalizing s results with
    | nil => exact ⟨[], results, s, .nil s, h, rfl⟩
    | cons line lines ih =>
      cases h with
      | cons e rest =>
        obtain ⟨first, second, middle, before, behind, whole⟩ := ih rest
        exact ⟨_ :: first, second, middle, .cons e before, behind, by rw [whole]; rfl⟩
  · rintro ⟨first, second, middle, before, behind, rfl⟩
    induction before with
    | nil => exact behind
    | cons e _ ih => exact .cons e (ih behind)

theorem Course.unique {s last last' : Session} {lines : List String}
    {results results' : List CommandResult} (h : Course s lines results last)
    (h' : Course s lines results' last') : results = results' ∧ last = last' := by
  induction h generalizing results' with
  | nil =>
    cases h'
    exact ⟨rfl, rfl⟩
  | cons e _ ih =>
    cases h' with
    | cons e' more =>
      obtain ⟨rest, same⟩ := ih more
      rw [Except.ok.inj (e.symm.trans e'), rest]
      exact ⟨rfl, same⟩

theorem simulate_of_run {width height : Scalar} {cells : List Cell} {s last : Session}
    {commands : List String} {answer : Except Oversized (List CommandResult)}
    (start : Session.start width height cells = .ok s) (e : s.run commands = (last, answer)) :
    simulate width height cells commands =
      (answer.mapError .oversized).map fun results => ⟨results, last.pose?⟩ := by
  simp only [simulate, start, e]
  cases answer with
  | error o => rfl
  | ok results => rfl

theorem simulate_iff_course {width height : Scalar} {cells : List Cell} {s : Session}
    {commands : List String} {sim : Simulation}
    (start : Session.start width height cells = .ok s) :
    simulate width height cells commands = .ok sim ↔
      ∃ last, Course s (spoken commands) sim.results last ∧ sim.final = last.pose? := by
  constructor
  · intro h
    cases e : s.run commands with
    | mk last answer =>
      rw [simulate_of_run start e] at h
      cases answer with
      | error o => cases h
      | ok results =>
        cases h
        exact ⟨last, run_eq_ok_iff.1 e, rfl⟩
  · rintro ⟨last, course, final⟩
    rw [simulate_of_run start (run_eq_ok_iff.2 course)]
    change Except.ok (Simulation.mk sim.results last.pose?) = Except.ok sim
    rw [← final]

end Session
end RobotGrid
