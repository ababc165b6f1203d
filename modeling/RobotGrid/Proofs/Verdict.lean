import RobotGrid.Proofs.Answers

set_option autoImplicit false

/-!
# What the result of a line tells

A session refuses a line on one of five grounds, and each ground has its kinds of fault and its
category. No kind belongs to two grounds, so a result tells its ground, which is the one that holds
for the line and the session. Whether a result has a message follows from the same cases.
-/
namespace RobotGrid

namespace Instruction

theorem fault_of_mapError_within {k : Keyword} {r : Except FieldFailure Instruction} {f : Fault}
    (h : r.mapError (FieldFailure.within k) = .error (.fault f)) :
    ∃ cause, f = .invalidArguments k.name cause := by
  cases r with
  | ok i => cases h
  | error e =>
    cases e with
    | fault cause => exact ⟨cause, (Failure.fault.inj (Except.error.inj h)).symm⟩
    | oversized o => cases h

theorem fault_of_ofFields {k : Keyword} {fs : List (List Char)} {f : Fault}
    (h : ofFields k fs = .error (.fault f)) :
    f = .incompleteArguments k.name ∨ ∃ cause, f = .invalidArguments k.name cause := by
  unfold ofFields at h
  split at h
  · exact Or.inr (fault_of_mapError_within h)
  · exact Or.inr (fault_of_mapError_within h)
  · cases h
  · cases h
  · cases h
  · cases h
  · exact Or.inl (Failure.fault.inj (Except.error.inj h)).symm

/-- The faults that reading a line can end with. -/
inductive ReadFault (line : String) : Fault → Prop where
  | malformed : ReadFault line (.malformedCommand line)
  | unrecognized (token : String) : ReadFault line (.unrecognizedCommand token)
  | incomplete (command : String) : ReadFault line (.incompleteArguments command)
  | invalid (command : String) (cause : FieldFault) :
      ReadFault line (.invalidArguments command cause)

theorem readFault_of_read {line : String} {f : Fault} (h : read line = .error (.fault f)) :
    ReadFault line f := by
  unfold read at h
  split at h
  · cases h
    exact .malformed
  · split at h
    · cases h
      exact .unrecognized _
    · rcases fault_of_ofFields h with rfl | ⟨cause, rfl⟩
      · exact .incomplete _
      · exact .invalid _ cause

end Instruction

namespace Robot

theorem keyword_of_target {r : Robot} {i : Instruction} {t : Pose} (h : r.target? i = some t) :
    i.keyword ≠ .obstacle := by
  cases i with
  | obstacle c => cases h
  | place | move | left | right | report => simp [Instruction.keyword]

end Robot

/-- The reasons for which a session refuses a line. -/
inductive Ground where
  | unread
  | offBoard
  | late
  | unplaced
  | barred
  deriving DecidableEq

/-- The cell that a line asks the board for. -/
inductive AsksFor (s : Session) (line : String) : Cell → Prop where
  | place {c : Cell} {o : Heading} (h : Instruction.read line = .ok (.place c o)) :
      AsksFor s line c
  | move {p : Pose} (h : Instruction.read line = .ok .move) (placed : s.pose? = some p) :
      AsksFor s line (p.cell.ahead p.heading)

namespace Ground

def kinds : Ground → List String
  | .unread =>
    ["MalformedCommand", "UnrecognizedCommand", "IncompleteArguments", "InvalidArguments"]
  | .offBoard => ["ObstacleOutOfBounds"]
  | .late => ["UnsupportedInContext"]
  | .unplaced => ["NotPlaced"]
  | .barred => ["PlacementRejected"]

def category : Ground → Category
  | .unread => .parse
  | .offBoard => .config
  | .late => .sequencing
  | .unplaced => .sequencing
  | .barred => .placement

/-- The ground holds for a line that a session hears. -/
def Holds (s : Session) (line : String) : Ground → Prop
  | .unread => ∃ f, Instruction.read line = .error f
  | .offBoard => s.robot = none ∧
      ∃ c, Instruction.read line = .ok (.obstacle c) ∧ ¬s.table.Contains c
  | .late => s.robot ≠ none ∧ ∃ c, Instruction.read line = .ok (.obstacle c)
  | .unplaced => s.pose? = none ∧
      ∃ i ∈ [.move, .left, .right, .report], Instruction.read line = .ok i
  | .barred => ∃ c, AsksFor s line c ∧ (¬s.driver.board.Contains c ∨ s.driver.board.Blocks c)

/-- A result tells a ground by its kind and its category. -/
def Told (r : CommandResult) (g : Ground) : Prop :=
  (∃ kind ∈ g.kinds, r.error = some kind) ∧ r.category = some g.category

theorem eq_of_mem_kinds {g g' : Ground} {kind : String} (h : kind ∈ g.kinds)
    (h' : kind ∈ g'.kinds) : g = g' := by
  have apart : ∀ kind ∈ g.kinds, kind ∈ g'.kinds → g = g' := by
    cases g <;> cases g' <;> decide
  exact apart kind h h'

theorem Told.unique {r : CommandResult} {g g' : Ground} (h : g.Told r) (h' : g'.Told r) :
    g = g' := by
  obtain ⟨⟨kind, mem, e⟩, _⟩ := h
  obtain ⟨⟨kind', mem', e'⟩, _⟩ := h'
  have same : kind = kind' := Option.some.inj (e.symm.trans e')
  exact eq_of_mem_kinds mem (same ▸ mem')

theorem Told.ok_eq_false {r : CommandResult} {g : Ground} (h : g.Told r) : r.ok = false := by
  obtain ⟨⟨kind, _, e⟩, _⟩ := h
  obtain ⟨command, outcome⟩ := r
  cases outcome with
  | ok m => cases e
  | error f => rfl

theorem told_unread {line command : String} {f : Fault} (h : Instruction.ReadFault line f) :
    unread.Told ⟨command, .error f⟩ := by
  cases h with
  | malformed => exact ⟨⟨"MalformedCommand", by decide, rfl⟩, rfl⟩
  | unrecognized token => exact ⟨⟨"UnrecognizedCommand", by decide, rfl⟩, rfl⟩
  | incomplete k => exact ⟨⟨"IncompleteArguments", by decide, rfl⟩, rfl⟩
  | invalid k cause => exact ⟨⟨"InvalidArguments", by decide, rfl⟩, rfl⟩

theorem not_free_iff {b : Board} {c : Cell} : ¬b.Free c ↔ ¬b.Contains c ∨ b.Blocks c := by
  rw [Board.Free, Decidable.not_and_iff_not_or_not, Decidable.not_not]

theorem asksFor_iff {s : Session} {line : String} {c : Cell} : AsksFor s line c ↔
    ∃ i t, Instruction.read line = .ok i ∧ s.driver.target? i = some t ∧ t.cell = c := by
  constructor
  · rintro (⟨e⟩ | ⟨e, placed⟩)
    · exact ⟨_, _, e, rfl, rfl⟩
    · have target : s.driver.target? .move = some _ :=
        Option.map_eq_some_iff.2 ⟨_, (Session.driver_pose s).trans placed, rfl⟩
      exact ⟨.move, _, e, target, rfl⟩
  · rintro ⟨i, t, e, target, rfl⟩
    cases i with
    | place c o =>
      cases target
      exact .place e
    | move =>
      obtain ⟨p, placed, rfl⟩ := Option.map_eq_some_iff.1 target
      rw [Session.driver_pose] at placed
      exact .move e placed
    | obstacle | left | right | report => cases target

theorem exists_of_act {s : Session} {line command : String} {i : Instruction} {f : Fault}
    (e : Instruction.read line = .ok i) (h : (s.act i).2 = .error (.fault f)) :
    ∃ g : Ground, g.Told ⟨command, .error f⟩ ∧ g.Holds s line := by
  have acts := s.acts i
  generalize (s.act i).1 = s' at acts
  generalize (s.act i).2 = a at acts h
  cases acts with
  | setUp => cases h
  | @offBoard c bare outside =>
    obtain ⟨_, rfl⟩ := Failure.raise_eq_fault (Except.error.inj h)
    exact ⟨.offBoard, ⟨⟨_, List.mem_singleton_self _, rfl⟩, rfl⟩, bare, c, e, outside⟩
  | driven ready executes =>
    cases executes with
    | taken | left | right | report | muted => cases h
    | @barred _ t reason target refused =>
      cases h
      have taken : ¬s.driver.board.Free t.cell := by
        rw [← Board.allow_eq_ok_iff, refused]
        simp
      exact ⟨.barred, ⟨⟨_, List.mem_singleton_self _, rfl⟩, rfl⟩, t.cell,
        asksFor_iff.2 ⟨i, t, e, target, rfl⟩, not_free_iff.1 taken⟩
    | @obstacle c =>
      cases h
      -- Only a robot that is there already is driven with an obstacle.
      have robot : s.robot ≠ none := ready.resolve_right fun other => other.1 rfl
      exact ⟨.late, ⟨⟨_, List.mem_singleton_self _, rfl⟩, rfl⟩, robot, c, e⟩
    | unplaced none place obstacle =>
      cases h
      rw [Session.driver_pose] at none
      refine ⟨.unplaced, ⟨⟨_, List.mem_singleton_self _, rfl⟩, rfl⟩, none, i, ?_, e⟩
      cases i with
      | place c o => exact absurd rfl place
      | obstacle c => exact absurd rfl obstacle
      | move | left | right | report => decide
  | unwritten => cases h

theorem exists_of_refused {s : Session} {line : String} {r : CommandResult}
    (h : (s.evaluate line).answer = .ok r) (refused : r.ok = false) :
    ∃ g : Ground, g.Told r ∧ g.Holds s line := by
  rcases Session.answer_cases h with ⟨f, e, rfl⟩ | ⟨i, outcome, e, told, rfl⟩
  · have unread := Instruction.read_trimmed_fails_iff.1 ⟨_, e⟩
    exact ⟨.unread, told_unread (Instruction.readFault_of_read e), unread⟩
  · cases outcome with
    | error f => exact exists_of_act (Instruction.read_trimmed_eq_ok_iff.1 e) told
    | ok m => cases refused

/-- Every fault of the failure tells the ground. -/
def Gives (g : Ground) (failure : Failure) : Prop :=
  ∀ f, failure = .fault f → f.kind ∈ g.kinds ∧ f.category = g.category

theorem gives_fault {g : Ground} {f : Fault} (kind : f.kind ∈ g.kinds)
    (category : f.category = g.category) : g.Gives (.fault f) := by
  rintro _ ⟨⟩
  exact ⟨kind, category⟩

theorem told_of_act {s : Session} {line : String} {r : CommandResult} {i : Instruction}
    {failure : Failure} {g : Ground} (h : (s.evaluate line).answer = .ok r)
    (e : Instruction.read line = .ok i) (verdict : (s.act i).2 = .error failure)
    (gives : g.Gives failure) : g.Told r := by
  rw [(Session.evaluate_of_read e).2, verdict] at h
  obtain ⟨_, told⟩ := Session.answered_eq_ok_iff.1 h
  obtain ⟨command, outcome⟩ := r
  cases outcome with
  | ok m => cases told
  | error f =>
    obtain ⟨kind, category⟩ := gives f (Except.error.inj told)
    exact ⟨⟨f.kind, kind, rfl⟩, congrArg some category⟩

theorem told_of_execute {s : Session} {line : String} {r : CommandResult} {i : Instruction}
    {failure : Failure} {g : Ground} (h : (s.evaluate line).answer = .ok r)
    (e : Instruction.read line = .ok i) (needs : s.robot ≠ none ∨ i.keyword ≠ .obstacle)
    (verdict : (s.driver.execute i).2 = .error failure) (gives : g.Gives failure) : g.Told r := by
  have answer := h
  rw [(Session.evaluate_of_read e).2] at answer
  have told := (Session.answered_eq_ok_iff.1 answer).2
  have acts : (s.act i).2 = .error failure := by
    rw [Session.act_eq_execute_of_told told needs]
    exact verdict
  exact told_of_act h e acts gives

theorem told_of_holds {s : Session} {line : String} {r : CommandResult} {g : Ground}
    (h : (s.evaluate line).answer = .ok r) (holds : g.Holds s line) : g.Told r := by
  cases g with
  | unread =>
    obtain ⟨failure, unread⟩ := Instruction.read_trimmed_fails_iff.2 holds
    rcases Session.answer_cases h with ⟨f, e, rfl⟩ | ⟨i, _, e, _⟩
    · exact told_unread (Instruction.readFault_of_read e)
    · rw [unread] at e
      cases e
  | offBoard =>
    obtain ⟨bare, c, e, outside⟩ := holds
    have verdict := congrArg Prod.snd (Session.act_obstacle_of_outside bare outside)
    refine told_of_act h e verdict fun f raised => ?_
    obtain ⟨_, rfl⟩ := Failure.raise_eq_fault raised
    exact ⟨List.mem_singleton_self _, rfl⟩
  | late =>
    obtain ⟨robot, c, e⟩ := holds
    exact told_of_execute h e (Or.inl robot) rfl (gives_fault (List.mem_singleton_self _) rfl)
  | unplaced =>
    obtain ⟨none, i, mem, e⟩ := holds
    have apart : ∀ i ∈ [Instruction.move, .left, .right, .report],
        i.keyword ≠ .place ∧ i.keyword ≠ .obstacle := by decide
    obtain ⟨place, obstacle⟩ := apart i mem
    have verdict := Robot.execute_of_unplaced ((Session.driver_pose s).trans none) place obstacle
    exact told_of_execute h e (Or.inr obstacle) verdict
      (gives_fault (List.mem_singleton_self _) rfl)
  | barred =>
    obtain ⟨c, asks, taken⟩ := holds
    obtain ⟨i, t, e, target, rfl⟩ := asksFor_iff.1 asks
    obtain ⟨reason, _, refused⟩ := Robot.occupy_of_not_free (not_free_iff.2 taken)
    have verdict : (s.driver.execute i).2 = .error (reason.chain .placementRejected) := by
      rw [Robot.execute_of_target target, refused]
    have needs : s.robot ≠ none ∨ i.keyword ≠ .obstacle := Or.inr (Robot.keyword_of_target target)
    refine told_of_execute h e needs verdict ?_
    cases reason with
    | fault reason => exact gives_fault (List.mem_singleton_self _) rfl
    | oversized o =>
      rintro f ⟨⟩

theorem told_iff {s : Session} {line : String} {r : CommandResult} {g : Ground}
    (h : (s.evaluate line).answer = .ok r) : g.Told r ↔ g.Holds s line := by
  constructor
  · intro told
    obtain ⟨g', told', holds⟩ := exists_of_refused h told.ok_eq_false
    rw [told.unique told']
    exact holds
  · exact told_of_holds h

end Ground

namespace CommandResult

theorem error_eq_none_iff (r : CommandResult) : r.error = none ↔ r.ok = true := by
  obtain ⟨command, outcome⟩ := r
  cases outcome <;> simp [error, ok]

theorem category_eq_none_iff (r : CommandResult) : r.category = none ↔ r.ok = true := by
  obtain ⟨command, outcome⟩ := r
  cases outcome <;> simp [category, ok]

theorem message_of_refused {r : CommandResult} (h : r.ok = false) : r.message ≠ none := by
  obtain ⟨command, outcome⟩ := r
  cases outcome with
  | ok m => cases h
  | error f => exact Option.some_ne_none _

end CommandResult

namespace Session

theorem Acts.message {s s' : Session} {i : Instruction} {m : Option String}
    (h : Acts s i s' (.ok m)) : m ≠ none ↔ i = .report := by
  cases h with
  | setUp => simp
  | driven _ executes =>
    cases executes with
    | taken target =>
      refine ⟨fun h => absurd rfl h, fun h => ?_⟩
      subst h
      cases target
    | left | right | report => simp

theorem message_of_accepted {s : Session} {line : String} {r : CommandResult}
    (h : (s.evaluate line).answer = .ok r) (ok : r.ok = true) :
    r.message ≠ none ↔ Instruction.read line = .ok .report := by
  obtain ⟨i, m, e, verdict, rfl⟩ := accepted_of_ok h ok
  have acts := s.acts i
  rw [verdict] at acts
  rw [e, Except.ok.injEq]
  exact acts.message

theorem driver_board_evaluate {s : Session} (h : s.driver.board = s.table) (line : String) :
    (s.evaluate line).session.driver.board = (s.evaluate line).session.table := by
  by_cases needed : s.robot ≠ none ∨ NeedsRobot line
  · obtain ⟨table, r, robot, board⟩ := evaluate_keeps_boards needed
    rw [driver_of_some robot, table, board, h]
  · obtain ⟨bare, quiet⟩ := not_or.1 needed
    have setUp := setUpBy_evaluate (Decidable.not_not.1 bare) quiet
    rw [driver_of_none setUp.robot, Robot.create]

theorem placed_evaluate {s : Session} (h : s.pose? ≠ none) (line : String) :
    (s.evaluate line).session.pose? ≠ none := by
  cases e : Instruction.read line with
  | error f =>
    rw [evaluate_of_unread e]
    exact h
  | ok i =>
    have robot : s.robot ≠ none := by
      intro bare
      rw [pose?, bare] at h
      exact h rfl
    rw [(evaluate_of_read e).1, act_eq_execute (Or.inl robot)]
    rw [← driver_pose] at h
    exact (s.driver.executes i).placed h

end Session

/-- The result of a line carries the trimmed line; it has a kind and a category exactly if the line
is refused, and then a message. The message of an accepted line is missing unless the line is a
report. A refused line has one ground, and the kind and the category tell which. As long as a
session only hears lines, the board that its robot asks is its own, and a robot once placed stays
so. -/
theorem results_tell_grounds :
    (∀ (s : Session) (line : String) (r : CommandResult), (s.evaluate line).answer = .ok r →
      r.command = Text.trimmed line ∧
      (r.ok = true ↔ r.error = none) ∧ (r.error = none ↔ r.category = none) ∧
      (r.ok = true → (r.message ≠ none ↔ Instruction.read line = .ok .report)) ∧
      (r.ok = false → r.message ≠ none ∧ ∃ g : Ground, g.Told r) ∧
      ∀ g : Ground, g.Told r ↔ g.Holds s line) ∧
    (∀ width height cells s, Session.start width height cells = .ok s → ∀ lines,
      (s.after lines).driver.board = (s.after lines).table) ∧
    ∀ (s : Session), s.pose? ≠ none → ∀ lines, (s.after lines).pose? ≠ none := by
  refine ⟨?_, ?_, ?_⟩
  · intro s line r h
    refine ⟨Session.answer_command h, r.error_eq_none_iff.symm, ?_, Session.message_of_accepted h,
      fun refused => ⟨CommandResult.message_of_refused refused, ?_⟩, fun g => Ground.told_iff h⟩
    · rw [r.error_eq_none_iff, r.category_eq_none_iff]
    · obtain ⟨g, told, _⟩ := Ground.exists_of_refused h refused
      exact ⟨g, told⟩
  · intro width height cells s start lines
    obtain ⟨b, _, rfl⟩ := Session.start_eq_ok start
    exact Session.after_of_step (P := fun s => s.driver.board = s.table)
      (fun _ line h => Session.driver_board_evaluate h line) rfl lines
  · intro s placed lines
    exact Session.after_of_step (P := fun s => s.pose? ≠ none)
      (fun _ line h => Session.placed_evaluate h line) placed lines

/-- A robot that looks off the board is told so, and one that is not placed is told this. -/
theorem results_tell_grounds_of_moves :
    let board : Board := ⟨3, 2, .empty, by decide, by decide, fun c h => absurd h (by simp)⟩
    let fresh : Session := ⟨board, none⟩
    let placed := fresh.after ["PLACE 2,1,EAST"]
    (Session.start (.int 3) (.int 2) [] = .ok fresh ∧ placed.driver.board = placed.table) ∧
      (placed.pose? ≠ none ∧ (placed.after ["LEFT", "MOVE"]).pose? ≠ none) ∧
      ∃ r r', (placed.evaluate " move").answer = .ok r ∧ (fresh.evaluate " move").answer = .ok r' ∧
        r.command = "move" ∧ Ground.barred.Told r ∧ Ground.unplaced.Told r' := by
  intro board fresh placed
  obtain ⟨results, boards, poses⟩ := results_tell_grounds
  have start : Session.start (.int 3) (.int 2) [] = .ok fresh := rfl
  have stands : placed.pose? = some ⟨⟨2, 1⟩, .east⟩ := by decide +kernel
  have onBoard : placed.pose? ≠ none := by
    rw [stands]
    exact Option.some_ne_none _
  have reads : Instruction.read " move" = .ok .move := rfl
  have trimmed : Text.trimmed " move" = "move" := by decide +kernel
  have barred : Ground.barred.Holds placed " move" :=
    ⟨_, .move reads stands, Or.inl (by decide +kernel)⟩
  have unplaced : Ground.unplaced.Holds fresh " move" := ⟨rfl, .move, by decide, reads⟩
  have heard : placed.Hears " move" := by decide +kernel
  have heard' : fresh.Hears " move" := by decide +kernel
  obtain ⟨r, answer⟩ := Session.answer_eq_ok_iff.2 heard
  obtain ⟨r', answer'⟩ := Session.answer_eq_ok_iff.2 heard'
  obtain ⟨command, _, _, _, _, told⟩ := results placed " move" _ answer
  obtain ⟨_, _, _, _, _, told'⟩ := results fresh " move" _ answer'
  exact ⟨⟨start, boards _ _ _ fresh start _⟩, ⟨onBoard, poses placed onBoard _⟩, r, r', answer,
    answer', command.trans trimmed, (told _).2 barred, (told' _).2 unplaced⟩

end RobotGrid
