import RobotGrid.Proofs.Declaration
import RobotGrid.Proofs.Verdict

set_option autoImplicit false

/-!
# What a simulation says in the end

The results say what was accepted, and nothing else changes a session that is only told lines. So
the accepted commands account for the final pose and for the obstacles on the board, and the reports
are what the robot has said from cells that are still free in the end: once it speaks, the board is
complete.
-/
namespace RobotGrid

namespace CommandResult

/-- The instruction of an accepted command. -/
def accepted? (r : CommandResult) : Option Instruction :=
  if r.ok then (Instruction.read r.command).toOption else none

theorem accepted?_of_refused {r : CommandResult} (h : r.ok = false) : r.accepted? = none := by
  rw [accepted?, h, if_neg Bool.false_ne_true]

theorem report?_of_refused {r : CommandResult} (h : r.ok = false) : r.report? = none := by
  obtain ⟨command, outcome⟩ := r
  cases outcome with
  | ok m => cases h
  | error f => rfl

end CommandResult

namespace Session

/-- An answered line is refused, and at most the robot is new; or its instruction is accepted, and
the session acts on it. -/
theorem answered_cases {s : Session} {line : String} {r : CommandResult}
    (h : (s.evaluate line).answer = .ok r) :
    (r.accepted? = none ∧ r.report? = none ∧ Shadows s (s.evaluate line).session) ∨
      ∃ i m, r.accepted? = some i ∧ r.message = m ∧ r.report? = m ∧
        Acts s i (s.evaluate line).session (.ok m) := by
  cases ok : r.ok with
  | false =>
    have twins : Shadows s (s.evaluate line).session :=
      Shadows.refused (Or.inl rfl) h ok
    exact Or.inl ⟨CommandResult.accepted?_of_refused ok, CommandResult.report?_of_refused ok, twins⟩
  | true =>
    obtain ⟨i, m, e, verdict, rfl⟩ := accepted_of_ok h ok
    have again : Instruction.read (Text.trimmed line) = .ok i :=
      Instruction.read_trimmed_eq_ok_iff.2 e
    have acts := s.acts i
    rw [verdict, ← (evaluate_of_read e).1] at acts
    refine Or.inr ⟨i, m, ?_, rfl, rfl, acts⟩
    rw [CommandResult.accepted?, ok, if_pos rfl, again]
    rfl

theorem Acts.pose?_eq_none_iff {s s' : Session} {i : Instruction} {m : Option String}
    (h : Acts s i s' (.ok m)) :
    s'.pose? = none ↔ s.pose? = none ∧ ∀ c o, i ≠ .place c o := by
  cases h with
  | setUp bare declared => exact ⟨fun unplaced => ⟨unplaced, by simp⟩, And.left⟩
  | @driven _ r _ ready executes =>
    rw [← driver_pose s]
    change r.pose = none ↔ _
    cases executes with
    | @taken _ t target free =>
      refine ⟨fun unplaced => (by cases unplaced), fun ⟨unplaced, other⟩ => ?_⟩
      cases i with
      | place c o => exact absurd rfl (other c o)
      | move =>
        obtain ⟨p, placed, _⟩ := Option.map_eq_some_iff.1 target
        rw [unplaced] at placed
        cases placed
      | obstacle | left | right | report => cases target
    | left placed | right placed | report placed => simp [placed]

theorem Acts.table {s s' : Session} {i : Instruction} {m : Option String}
    (h : Acts s i s' (.ok m)) :
    s'.table.width = s.table.width ∧ s'.table.height = s.table.height ∧
      ∀ c, s'.table.Blocks c ↔ s.table.Blocks c ∨ i = .obstacle c := by
  cases h with
  | @setUp d t bare declared =>
    obtain ⟨_, width, height, _⟩ := Board.declare_eq_ok declared
    refine ⟨width, height, fun c => ?_⟩
    rw [Board.blocks_of_declare declared, Instruction.obstacle.injEq, eq_comm]
  | driven ready executes =>
    refine ⟨rfl, rfl, fun c => ⟨Or.inl, ?_⟩⟩
    rintro (old | rfl)
    · exact old
    -- A robot accepts no obstacle.
    · cases executes with
      | taken target free => cases target

theorem Acts.says {s s' : Session} {i : Instruction} {t : String}
    (h : Acts s i s' (.ok (some t))) :
    i = .report ∧ ∃ p, s.pose? = some p ∧ p.report = .ok t := by
  cases h with
  | driven ready executes =>
    cases executes with
    | @report p _ placed said =>
      rw [driver_pose] at placed
      exact ⟨rfl, p, placed, said⟩

/-- The accepted results account for a pose that is new and for the obstacles that are. -/
structure Accounts (s : Session) (results : List CommandResult) (last : Session) : Prop where
  pose : last.pose? = none ↔
    s.pose? = none ∧ ∀ r ∈ results, ∀ c o, r.accepted? ≠ some (.place c o)
  width : last.table.width = s.table.width
  height : last.table.height = s.table.height
  blocks : ∀ c, last.table.Blocks c ↔
    s.table.Blocks c ∨ ∃ r ∈ results, r.accepted? = some (.obstacle c)

theorem accounts_nil (s : Session) : Accounts s [] s := ⟨by simp, rfl, rfl, by simp⟩

theorem Accounts.cons {s middle last : Session} {r : CommandResult} {results : List CommandResult}
    (h : Accounts s [r] middle) (h' : Accounts middle results last) :
    Accounts s (r :: results) last := by
  refine ⟨?_, h'.width.trans h.width, h'.height.trans h.height, fun c => ?_⟩
  · rw [h'.pose, h.pose, and_assoc, List.forall_mem_singleton, List.forall_mem_cons]
  · rw [h'.blocks, h.blocks, or_assoc]
    simp only [List.mem_cons, List.not_mem_nil, or_false, exists_eq_or_imp, exists_eq_left]

theorem accounts_evaluate {s : Session} {line : String} {r : CommandResult}
    (h : (s.evaluate line).answer = .ok r) : Accounts s [r] (s.evaluate line).session := by
  rcases answered_cases h with ⟨accepted, _, twins⟩ | ⟨i, m, accepted, _, _, acts⟩
  · have table : (s.evaluate line).session.table = s.table := by
      rcases twins with same | ⟨_, equipped⟩
      · rw [same]
      · rw [equipped, equip]
    refine ⟨?_, by rw [table], by rw [table], by simp [table, accepted]⟩
    rw [← twins.pose?_eq]
    simp [accepted]
  · obtain ⟨width, height, blocks⟩ := acts.table
    refine ⟨?_, width, height, fun c => ?_⟩
    · rw [acts.pose?_eq_none_iff]
      simp [accepted]
    · rw [blocks]
      simp [accepted]

theorem Course.accounts {s last : Session} {lines : List String} {results : List CommandResult}
    (h : Course s lines results last) : Accounts s results last := by
  induction h with
  | nil s => exact accounts_nil s
  | cons e more ih => exact (accounts_evaluate e).cons ih

theorem Course.reports_eq {s last : Session} {lines : List String} {results : List CommandResult}
    (h : Course s lines results last) : (reports results).map some =
      (results.filter fun r => r.accepted? = some .report).map CommandResult.message := by
  induction h with
  | nil => rfl
  | @cons s last line lines r results e more ih =>
    rcases answered_cases e with ⟨accepted, silent, _⟩ | ⟨i, m, accepted, message, said, acts⟩
    · rw [List.filter_cons_of_neg (by simp [accepted]), ← ih, reports, List.filterMap_cons, silent]
      rfl
    · cases m with
      | none =>
        have other : i ≠ .report := fun h => acts.message.2 h rfl
        rw [List.filter_cons_of_neg (by simp [accepted, other]), ← ih, reports,
          List.filterMap_cons, said]
        rfl
      | some t =>
        obtain ⟨rfl, _⟩ := acts.says
        rw [List.filter_cons_of_pos (by simp [accepted]), List.map_cons, ← ih, message, reports,
          List.filterMap_cons, said]
        rfl

/-- The driver of a session is on the session's board, and on a free cell if it is placed. -/
structure Sound (s : Session) : Prop where
  board : s.driver.board = s.table
  stands : s.driver.Stands

theorem sound_of_bare (b : Board) : Sound ⟨b, none⟩ := by
  refine ⟨rfl, fun p hp => ?_⟩
  cases hp

theorem Sound.evaluate {s : Session} (h : s.Sound) (line : String) :
    (s.evaluate line).session.Sound := by
  refine ⟨driver_board_evaluate h.board line, ?_⟩
  cases e : Instruction.read line with
  | error f =>
    rw [evaluate_of_unread e]
    exact h.stands
  | ok i =>
    rw [(evaluate_of_read e).1]
    have acts := s.acts i
    generalize (s.act i).1 = s' at acts
    generalize (s.act i).2 = a at acts
    cases acts with
    | @setUp c t bare declared =>
      have driver : ({ s with table := t } : Session).driver = Robot.create t :=
        driver_of_none bare
      rw [driver]
      exact (sound_of_bare t).stands
    | offBoard => exact h.stands
    | driven ready executes => exact executes.stands h.stands
    | unwritten bare => exact h.stands

theorem Course.table_of_robot {s last : Session} {lines : List String}
    {results : List CommandResult} (h : Course s lines results last) (robot : s.robot ≠ none) :
    last.table = s.table := by
  obtain ⟨r, e⟩ := Option.ne_none_iff_exists'.1 robot
  have frozen : Frozen r.board s := ⟨r, e, rfl⟩
  rw [h.last_eq_after]
  exact table_callAll frozen (by simp)

theorem robot_of_pose? {s : Session} {p : Pose} (h : s.pose? = some p) : s.robot ≠ none := by
  obtain ⟨r, e, _⟩ := Option.bind_eq_some_iff.1 h
  rw [e]
  exact Option.some_ne_none r

theorem Course.reports_free {s last : Session} {lines : List String}
    {results : List CommandResult} (h : Course s lines results last) (sound : s.Sound) :
    ∀ t ∈ reports results, ∃ p : Pose, p.report = .ok t ∧ last.table.Free p.cell := by
  induction h with
  | nil =>
    intro t ht
    cases ht
  | @cons s last line lines r results e more ih =>
    have others := ih (sound.evaluate line)
    intro t ht
    obtain ⟨r', mem, said⟩ := List.mem_filterMap.1 ht
    rcases List.mem_cons.1 mem with rfl | later
    · rcases answered_cases e with ⟨_, silent, _⟩ | ⟨i, m, _, _, same, acts⟩
      · rw [silent] at said
        cases said
      · obtain rfl : m = some t := same.symm.trans said
        obtain ⟨_, p, placed, told⟩ := acts.says
        have free := sound.stands p ((driver_pose s).trans placed)
        have table := (Course.cons e more).table_of_robot (robot_of_pose? placed)
        rw [sound.board, ← table] at free
        exact ⟨p, told, free⟩
    · exact others t (List.mem_filterMap.2 ⟨r', later, said⟩)

theorem Legible.answer_of_read {s : Session} {line : String} {i : Instruction} (h : s.Legible)
    (reads : Instruction.read line = .ok i) : ∃ outcome, (s.act i).2 = outcome.mapError .fault ∧
      (s.evaluate line).answer = .ok ⟨Text.trimmed line, outcome⟩ := by
  have read : ∀ n, ¬Instruction.Excessive line n := fun n excess => by
    rw [Instruction.excessive_iff.1 excess] at reads
    cases reads
  obtain ⟨r, answer⟩ := answer_eq_ok_iff.2 (h.hears_iff.2 read)
  have told := answer
  rw [(evaluate_of_read reads).2] at told
  obtain ⟨command, outcome⟩ := r
  obtain ⟨rfl, said⟩ := answered_eq_ok_iff.1 told
  exact ⟨outcome, said, answer⟩

theorem Legible.act_report {s : Session} (h : s.Legible) :
    s.act .report = (s.equip, s.driver.report.map some) := by
  have ready : s.robot ≠ none ∨ Instruction.report.keyword ≠ .obstacle ∧ s.table.Written := by
    cases robot : s.robot with
    | none => exact Or.inr ⟨by decide, h.table robot⟩
    | some r => exact Or.inl (Option.some_ne_none r)
  rw [act_eq_execute ready]
  cases placed : s.driver.pose with
  | none => simp only [Robot.execute, Robot.report, placed, equip]; rfl
  | some p => simp only [Robot.execute, Robot.report, placed, equip]

theorem Legible.course_report {s : Session} (h : s.Legible) : ∃ outcome,
    Course s ["REPORT"] [⟨"REPORT", outcome⟩] s.equip ∧
      (s.pose? = none → outcome = .error (.notPlaced "REPORT")) ∧
      ∀ p, s.pose? = some p →
        outcome = .ok (some s!"{p.cell.x},{p.cell.y},{p.heading.name}") := by
  have reads : Instruction.read "REPORT" = .ok .report := rfl
  have trimmed : Text.trimmed "REPORT" = "REPORT" := by decide +kernel
  obtain ⟨outcome, told, answer⟩ := h.answer_of_read reads
  have session : (s.evaluate "REPORT").session = s.equip := by
    rw [(evaluate_of_read reads).1, h.act_report]
  rw [trimmed] at answer
  rw [h.act_report] at told
  refine ⟨outcome, session ▸ .cons answer (.nil _), fun none => ?_, fun p placed => ?_⟩
  · have silent : s.driver.report = .error (.fault (.notPlaced "REPORT")) := by
      simp only [Robot.report, (driver_pose s).trans none]
      rfl
    rw [silent] at told
    cases outcome <;> cases told
    rfl
  · rw [← driver_pose] at placed
    have written : p.cell.Written := h.board.of_contains (h.stands p placed).1
    rw [Robot.report, placed] at told
    simp only [Pose.report_of_written written] at told
    cases outcome <;> cases told
    rfl

theorem Course.bare_of_unwritten {s last : Session} {lines : List String}
    {results : List CommandResult} (h : Course s lines results last) (bare : s.robot = none)
    (unwritten : ¬s.table.Written) : last.robot = none ∧ ¬last.table.Written := by
  induction h with
  | nil => exact ⟨bare, unwritten⟩
  | @cons s last line lines r results e more ih =>
    have told := (answer_eq_ok_iff.1 ⟨r, e⟩).2
    rw [speechless_of_bare bare] at told
    have setUp := setUpBy_evaluate bare fun needs => told ⟨needs, unwritten⟩
    refine ih setUp.robot ?_
    rw [Board.Written, Board.corner, setUp.width, setUp.height]
    exact unwritten

end Session

theorem Session.course_of_simulate {width height : Scalar} {cells : List Cell}
    {commands : List String} {sim : Simulation}
    (h : simulate width height cells commands = .ok sim) :
    ∃ s last, start width height cells = .ok s ∧ Course s (spoken commands) sim.results last ∧
      sim.final = last.pose? := by
  cases opened : start width height cells with
  | error f =>
    simp only [simulate, opened] at h
    cases h
  | ok s =>
    obtain ⟨last, course, final⟩ := (simulate_iff_course opened).1 h
    exact ⟨s, last, rfl, course, final⟩

theorem Simulation.finalJson_eq_null_iff (sim : Simulation) :
    sim.finalJson = .null ↔ sim.final = none := by
  rw [finalJson]
  cases sim.final <;> simp [Json.null, Pose.toJson]

/-- The final pose is missing exactly if no placement was accepted. The reports are the messages of
the accepted reports in their order, and each tells a cell of the grid that is not listed and has
not been declared by an accepted command. If the sides of the board can be written, then one report
more is answered with the final pose, or by the fault that there is none, and leaves all else as it
is. If not, there is no pose, and one report more leaves no answer at all. -/
theorem summary_is_faithful {width height : Scalar} {cells : List Cell} {commands : List String}
    {sim : Simulation} (simulated : simulate width height cells commands = .ok sim) :
    (sim.finalJson = .null ↔
      ∀ r ∈ sim.results, ∀ c o, r.accepted? ≠ some (.place c o)) ∧
    sim.reports.map some =
      (sim.results.filter fun r => r.accepted? = some .report).map CommandResult.message ∧
    (∀ t ∈ sim.reports, ∃ w h c o, width = .int w ∧ height = .int h ∧ InRectangle w h c ∧
      t = s!"{c.x},{c.y},{Heading.name o}" ∧ c ∉ cells ∧
      ∀ r ∈ sim.results, r.accepted? ≠ some (.obstacle c)) ∧
    (width.isWritten = true ∧ height.isWritten = true →
      ∃ longer r, simulate width height cells (commands ++ ["REPORT"]) = .ok longer ∧
        longer.results = sim.results ++ [r] ∧ longer.final = sim.final ∧ r.command = "REPORT" ∧
        (sim.finalJson = .null → r.ok = false ∧ r.error = some "NotPlaced") ∧
        (sim.finalJson ≠ .null → ∃ x y o, sim.finalJson =
            .object [("x", .int x), ("y", .int y), ("orientation", .text o)] ∧
          r.ok = true ∧ r.message = some s!"{x},{y},{o}")) ∧
    (¬(width.isWritten = true ∧ height.isWritten = true) → sim.finalJson = .null ∧
      simulate width height cells (commands ++ ["REPORT"]) = .error (.oversized .written)) := by
  obtain ⟨s, last, start, course, final⟩ := Session.course_of_simulate simulated
  obtain ⟨b, created, rfl⟩ := Session.start_eq_ok start
  obtain ⟨rfl, rfl, listed⟩ := Board.create_eq_ok created
  have accounts := course.accounts
  have word : Session.spoken ["REPORT"] = ["REPORT"] := by decide +kernel
  refine ⟨?_, course.reports_eq, fun t ht => ?_, fun written => ?_, fun unwritten => ?_⟩
  · rw [sim.finalJson_eq_null_iff, final, accounts.pose]
    exact and_iff_right rfl
  · obtain ⟨p, told, inside, clear⟩ := course.reports_free (Session.sound_of_bare b) t ht
    rw [accounts.blocks, listed, not_or] at clear
    rw [Board.Contains, accounts.width, accounts.height] at inside
    exact ⟨b.width, b.height, p.cell, p.heading, rfl, rfl, inside, p.eq_of_report told, clear.1,
      fun r hr accepted => clear.2 ⟨r, hr, accepted⟩⟩
  · have legible : last.Legible := by
      rw [course.last_eq_after]
      exact (Session.legible_of_bare (s := ⟨b, none⟩) rfl written).callAll _
    obtain ⟨outcome, report, missing, present⟩ := legible.course_report
    have longer : Session.Course ⟨b, none⟩ (Session.spoken (commands ++ ["REPORT"]))
        (sim.results ++ [⟨"REPORT", outcome⟩]) last.equip := by
      rw [Session.spoken_append, word]
      exact Session.course_append_iff.2 ⟨_, _, _, course, report, rfl⟩
    refine ⟨⟨sim.results ++ [⟨"REPORT", outcome⟩], sim.final⟩, ⟨"REPORT", outcome⟩,
      (Session.simulate_iff_course start).2 ⟨_, longer, ?_⟩, rfl, rfl, rfl, fun null => ?_,
      fun some => ?_⟩
    · rw [Session.pose?_equip]
      exact final
    · rw [sim.finalJson_eq_null_iff, final] at null
      rw [missing null]
      exact ⟨rfl, rfl⟩
    · rw [ne_eq, sim.finalJson_eq_null_iff] at some
      obtain ⟨p, placed⟩ := Option.ne_none_iff_exists'.1 some
      rw [present p (final.symm.trans placed), Simulation.finalJson, placed]
      exact ⟨p.cell.x, p.cell.y, p.heading.name, rfl, rfl, rfl⟩
  · -- A course on such a board has made no robot, so the report would make the first one.
    obtain ⟨bare, unwritten⟩ := course.bare_of_unwritten rfl unwritten
    have silent : last.Speechless "REPORT" := .making bare ⟨.report, rfl, by decide⟩ unwritten
    have ends := Session.run_cons_of_speechless (by decide) silent []
    have runs := Session.run_append (Session.run_eq_ok_iff.2 course) ["REPORT"]
    refine ⟨?_, ?_⟩
    · rw [sim.finalJson_eq_null_iff, final, Session.pose?, bare]
      rfl
    · rw [Session.simulate_of_run start runs, ends]
      rfl

/-- The robot reports where an obstacle has stopped it, and does so again; where no placement is
accepted there is nothing to report. -/
theorem summary_is_faithful_beside_obstacle :
    let commands := ["OBSTACLE 1,1", "report", "PLACE 1,0,NORTH", "MOVE", " ", "REPORT"]
    (∃ sim longer r, simulate (.int 2) (.int 2) [⟨0, 1⟩] commands = .ok sim ∧
      sim.finalJson ≠ .null ∧ sim.reports = ["1,0,NORTH"] ∧
      (∃ (c : Cell) (o : Heading), "1,0,NORTH" = s!"{c.x},{c.y},{o.name}" ∧
        c ≠ ⟨0, 1⟩ ∧ c ≠ ⟨1, 1⟩) ∧
      simulate (.int 2) (.int 2) [⟨0, 1⟩] (commands ++ ["REPORT"]) = .ok longer ∧
      longer.results = sim.results ++ [r] ∧ r.message = some "1,0,NORTH") ∧
    ∃ sim longer r, simulate (.int 2) (.int 2) [⟨0, 1⟩] ["PLACE 0,1,EAST"] = .ok sim ∧
      (∀ r ∈ sim.results, ∀ c o, r.accepted? ≠ some (.place c o)) ∧
      simulate (.int 2) (.int 2) [⟨0, 1⟩] ["PLACE 0,1,EAST", "REPORT"] = .ok longer ∧
      longer.results = sim.results ++ [r] ∧ r.error = some "NotPlaced" := by
  intro commands
  constructor
  · let sim : Simulation := ⟨[⟨"OBSTACLE 1,1", .ok none⟩, ⟨"report", .error (.notPlaced "REPORT")⟩,
      ⟨"PLACE 1,0,NORTH", .ok none⟩,
      ⟨"MOVE", .error (.placementRejected (.blocked ⟨1, 1⟩ (by decide)))⟩,
      ⟨"REPORT", .ok (some "1,0,NORTH")⟩], some ⟨⟨1, 0⟩, .north⟩⟩
    have simulated : simulate (.int 2) (.int 2) [⟨0, 1⟩] commands = .ok sim := rfl
    obtain ⟨_, _, told, more, _⟩ := summary_is_faithful simulated
    obtain ⟨longer, r, again, results, _, _, _, present⟩ := more (by decide)
    have final : sim.finalJson =
      .object [("x", .int 1), ("y", .int 0), ("orientation", .text "NORTH")] := rfl
    have there : sim.finalJson ≠ .null := by simp [final, Json.null]
    refine ⟨sim, longer, r, simulated, there, rfl, ?_, again, results, ?_⟩
    · obtain ⟨_, _, c, o, _, _, _, text, unlisted, undeclared⟩ :=
        told "1,0,NORTH" (List.mem_singleton_self _)
      have first : sim.results[0].accepted? = some (.obstacle ⟨1, 1⟩) := by decide +kernel
      refine ⟨c, o, text, fun e => unlisted ?_, fun e => ?_⟩
      · rw [e]
        exact List.mem_singleton_self _
      · rw [e] at undeclared
        exact undeclared _ (List.getElem_mem _) first
    · obtain ⟨x, y, o, shown, _, message⟩ := present there
      rw [final] at shown
      cases shown
      exact message
  · have simulated : simulate (.int 2) (.int 2) [⟨0, 1⟩] ["PLACE 0,1,EAST"] = .ok _ := rfl
    obtain ⟨final, _, _, more, _⟩ := summary_is_faithful simulated
    obtain ⟨longer, r, again, results, _, _, missing, _⟩ := more (by decide)
    exact ⟨_, longer, r, simulated, final.1 rfl, again, results, (missing rfl).2⟩

/-- On a vast board a simulation without commands answers, and with a report it does not. -/
theorem summary_of_vast_board_bears_no_report :
    (∃ sim, simulate (.int Board.vast.width) (.int Board.vast.height) [] [] = .ok sim ∧
      sim.finalJson = .null) ∧
    simulate (.int Board.vast.width) (.int Board.vast.height) [] ["REPORT"] =
      .error (.oversized .written) := by
  have start := Session.start_cells .vast
  have simulated : simulate (.int Board.vast.width) (.int Board.vast.height) [] [] =
      .ok ⟨[], none⟩ := (Session.simulate_iff_course start).2 ⟨_, .nil _, rfl⟩
  have silent : Session.Speechless ⟨.vast, none⟩ "REPORT" :=
    .making rfl ⟨.report, rfl, by decide⟩ Board.vast_not_written
  have ends := Session.run_cons_of_speechless (by decide) silent []
  refine ⟨⟨_, simulated, rfl⟩, ?_⟩
  exact Session.simulate_of_run start ends

end RobotGrid
