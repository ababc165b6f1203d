import RobotGrid.Proofs.Summary
import RobotGrid.Session.Trace

set_option autoImplicit false

/-!
# What the log tells

The records of a line are those of what it makes and then those that close it. While the session is
set up a line makes an obstacle that it declares with success, and the first line that needs a robot
makes the robot, with a copy of the board; later lines make nothing. An accepted line is not closed
by any record, a refused one by its refusal, and ahead of that comes the reason if it is a placement
that is refused. So the log can be told from the lines and their results alone.
-/
namespace RobotGrid

theorem Fault.kind_eq_placementRejected_iff {f : Fault} :
    f.kind = "PlacementRejected" ↔ ∃ reason, f = .placementRejected reason := by
  cases f with
  | placementRejected reason => exact ⟨fun _ => ⟨reason, rfl⟩, fun _ => rfl⟩
  | field fault =>
    cases fault <;>
      simp [kind, complaint, FieldFault.complaint, Complaint.kind, Category.generalKind]
  | _ => simp [kind, complaint, Complaint.kind, Cell.framed]

namespace Record

def tally (event : String) (records : List Record) : Nat := (records.map Record.event).count event

theorem tally_append (event : String) (records more : List Record) :
    tally event (records ++ more) = tally event records + tally event more := by
  rw [tally, List.map_append, List.count_append]
  rfl

theorem tally_obstacleAdded {event : String} (other : event ≠ "obstacle_added")
    (cells : List Cell) : tally event (cells.map .obstacleAdded) = 0 := by
  rw [tally, List.map_map]
  refine List.count_eq_zero.2 fun mem => ?_
  obtain ⟨c, _, e⟩ := List.mem_map.1 mem
  exact other e.symm

end Record

namespace Session
open Record (tally)

/-- The records of what a line makes: an obstacle, if the board is being set up, or the robot and
before it the obstacles of its copy of the board. -/
inductive Makes (setup : Prop) (b : Board) (line : String) (r : CommandResult) :
    List Record → Prop where
  | obstacle {c : Cell} (early : setup) (reads : Instruction.read line = .ok (.obstacle c))
      (ok : r.ok = true) : Makes setup b line r [.obstacleAdded c]
  | robot {cells : List Cell} {written : b.Written} (early : setup) (needs : NeedsRobot line)
      (distinct : cells.Nodup) (all : ∀ c, c ∈ cells ↔ b.Blocks c) :
      Makes setup b line r (cells.map .obstacleAdded ++ [.robotCreated b written])
  | nothing (late : setup → ¬NeedsRobot line ∧
      ∀ c, Instruction.read line = .ok (.obstacle c) → r.ok = false) : Makes setup b line r []

/-- The records that close a line with a given result. -/
inductive Closes : CommandResult → List Record → Prop where
  | accepted {command : String} {m : Option String} : Closes ⟨command, .ok m⟩ []
  | refused {command : String} {f : Fault} (other : ∀ reason, f ≠ .placementRejected reason) :
      Closes ⟨command, .error f⟩ [.commandRejected command f]
  | barred {command : String} {target : Pose} {written : target.cell.Written} {reason : Fault} :
      Closes ⟨command, .error (.placementRejected reason)⟩
        [.placementRejected target written reason,
          .commandRejected command (.placementRejected reason)]

section Account
variable {setup : Prop} {b : Board} {line : String} {r : CommandResult} {records : List Record}

theorem Makes.of_iff {setup' : Prop} {b' : Board} (h : Makes setup b line r records)
    (phase : setup ↔ setup') (board : setup → NeedsRobot line → b' = b) :
    Makes setup' b' line r records := by
  cases h with
  | obstacle early reads ok => exact .obstacle (phase.1 early) reads ok
  | robot early needs distinct all =>
    obtain rfl := board early needs
    exact .robot (phase.1 early) needs distinct all
  | nothing late => exact .nothing fun early => late (phase.2 early)

theorem Makes.tally [Decidable setup] (h : Makes setup b line r records) :
    tally "command_rejected" records = 0 ∧ tally "placement_rejected" records = 0 ∧
      tally "robot_created" records = if setup ∧ NeedsRobot line then 1 else 0 := by
  cases h with
  | @obstacle c early reads ok =>
    have quiet : ¬NeedsRobot line := fun needs => (needsRobot_of_read reads).1 needs rfl
    rw [if_neg fun h => quiet h.2]
    exact ⟨rfl, rfl, rfl⟩
  | @robot cells written early needs distinct all =>
    have alone : ∀ event ≠ "obstacle_added",
        Record.tally event (cells.map .obstacleAdded ++ [.robotCreated b written]) =
          Record.tally event [.robotCreated b written] := by
      intro event other
      rw [Record.tally_append, Record.tally_obstacleAdded other, Nat.zero_add]
    rw [alone _ (by decide), alone _ (by decide), alone _ (by decide), if_pos ⟨early, needs⟩]
    exact ⟨rfl, rfl, rfl⟩
  | nothing late =>
    rw [if_neg fun h => (late h.1).1 h.2]
    exact ⟨rfl, rfl, rfl⟩

theorem Closes.tally (h : Closes r records) :
    tally "command_rejected" records = (if r.ok then 0 else 1) ∧
      tally "placement_rejected" records =
        (if r.error = some "PlacementRejected" then 1 else 0) ∧
      tally "robot_created" records = 0 := by
  cases h with
  | accepted => exact ⟨rfl, rfl, rfl⟩
  | @refused command f other =>
    have kind : some f.kind ≠ some "PlacementRejected" := fun h => by
      obtain ⟨reason, e⟩ := Fault.kind_eq_placementRejected_iff.1 (Option.some.inj h)
      exact other reason e
    exact ⟨rfl, (if_neg kind).symm, rfl⟩
  | barred => exact ⟨rfl, rfl, rfl⟩

/-- The records of a line, as its result and the line itself account for them. -/
structure Account (setup : Prop) [Decidable setup] (b : Board) (line : String) (r : CommandResult)
    (records : List Record) : Prop where
  whole : ∃ made closing, records = made ++ closing ∧ Makes setup b line r made ∧ Closes r closing
  refusals : tally "command_rejected" records = if r.ok then 0 else 1
  barriers : tally "placement_rejected" records =
    if r.error = some "PlacementRejected" then 1 else 0
  robots : tally "robot_created" records = if setup ∧ NeedsRobot line then 1 else 0
  last : r.ok = false → ∃ record error reason, records.getLast? = some record ∧
    r.error = some error ∧ r.message = some reason ∧ record.event = "command_rejected" ∧
    record.fields = [("command", .text r.command), ("error", .text error), ("reason", .text reason)]

theorem Makes.account [Decidable setup] {closing : List Record} (h : Makes setup b line r records)
    (closes : Closes r closing) : Account setup b line r (records ++ closing) := by
  obtain ⟨refusals, barriers, robots⟩ := h.tally
  obtain ⟨refusals', barriers', robots'⟩ := closes.tally
  refine ⟨⟨_, closing, rfl, h, closes⟩, ?_, ?_, ?_, fun refused => ?_⟩
  · rw [Record.tally_append, refusals, refusals', Nat.zero_add]
  · rw [Record.tally_append, barriers, barriers', Nat.zero_add]
  · rw [Record.tally_append, robots, robots', Nat.add_zero]
  · cases closes with
    | accepted => cases refused
    | @refused command f other =>
      exact ⟨_, f.kind, f.message, List.getLast?_concat, rfl, rfl, rfl, rfl⟩
    | @barred command target written reason =>
      exact ⟨_, _, _, by simp; rfl, rfl, rfl, rfl, rfl⟩

end Account

theorem drive_entries (s : Session) (command : String) (before : List Entry) {r : Robot}
    {i : Instruction} {outcome : Except Fault (Option String)}
    (told : (r.execute i).2 = outcome.mapError .fault) : ∃ closing,
      (s.drive before command r i).entries = before ++ closing.map .record ∧
        Closes ⟨command, outcome⟩ closing := by
  have executes := r.executes i
  unfold drive
  generalize r.execute i = both at executes told
  obtain ⟨next, answer⟩ := both
  change answer = _ at told
  subst told
  cases outcome with
  | ok m => exact ⟨[], (List.append_nil before).symm, .accepted⟩
  | error f =>
    by_cases other : ∀ reason, f ≠ .placementRejected reason
    · have silent : placementEntries r i (.fault f) = [] := by
        unfold placementEntries
        split
        · rename_i reason e
          exact absurd (Failure.fault.inj e) (other reason)
        · rfl
      refine ⟨[.commandRejected command f], ?_, .refused other⟩
      simp only [mapError_error, failed, refused, silent, List.append_nil]
      rfl
    · cases executes with
      | @barred _ t reason target barrier =>
        have written := Board.written_of_allow barrier
        refine ⟨[.placementRejected t written reason,
          .commandRejected command (.placementRejected reason)], ?_, .barred⟩
        simp [failed, refused, placementEntries, target, written]
      | obstacle | unplaced => exact absurd (by simp) other

theorem setUp_entries {s : Session} (h : s.robot = none) (command : String) {c : Cell}
    {outcome : Except Fault (Option String)}
    (told : (s.act (.obstacle c)).2 = outcome.mapError .fault) : ∃ closing,
      (s.setUp command c).entries =
        (if s.table.Contains c then [Record.obstacleAdded c] else []).map .record ++
          closing.map .record ∧ Closes ⟨command, outcome⟩ closing := by
  unfold setUp
  cases e : s.table.declare c with
  | ok t =>
    rw [act_obstacle_of_ok h e] at told
    rw [if_pos (Board.declare_eq_ok e).1]
    cases outcome with
    | error f => cases told
    | ok m => exact ⟨[], rfl, .accepted⟩
  | error f =>
    obtain ⟨outside, rfl⟩ := Board.declare_eq_error_iff.1 e
    rw [act_obstacle_of_outside h outside] at told
    rw [if_neg outside]
    cases outcome with
    | ok m => cases told
    | error f =>
      have fault : Failure.obstacleOutOfBounds c = .fault f := Except.error.inj told
      obtain ⟨_, rfl⟩ := Failure.raise_eq_fault fault
      rw [fault]
      exact ⟨_, rfl, .refused (by simp)⟩

theorem records_of_entries {order : Iteration} {e : Evaluation} {before : List Entry}
    {closing : List Record} (h : e.entries = before ++ closing.map .record) :
    e.records order = before.flatMap (Entry.records order) ++ closing := by
  rw [Evaluation.records, h, List.flatMap_append, List.flatMap_map]
  exact congrArg _ (List.flatMap_singleton' closing)

theorem evaluate_records {s : Session} {line : String} {r : CommandResult} (order : Iteration)
    (h : (s.evaluate line).answer = .ok r) : ∃ made closing,
      (s.evaluate line).records order = made ++ closing ∧
      Makes (s.robot = none) s.table line r made ∧ Closes r closing := by
  rcases answer_cases h with ⟨f, unread, rfl⟩ | ⟨i, outcome, reads, told, rfl⟩
  · obtain ⟨f', e⟩ := Instruction.read_trimmed_fails_iff.1 ⟨_, unread⟩
    refine ⟨[], [.commandRejected (Text.trimmed line) f], ?_, .nothing fun _ => ?_, .refused ?_⟩
    · simp only [evaluate, unread, failed, refused]
      rfl
    · exact ⟨not_needsRobot_of_error e, fun c reads => (by rw [e] at reads; cases reads)⟩
    · rintro reason rfl
      cases Instruction.readFault_of_read unread
  · have e := Instruction.read_trimmed_eq_ok_iff.1 reads
    simp only [evaluate, reads]
    cases robot : s.robot with
    | some r =>
      rw [act_of_some robot] at told
      obtain ⟨closing, entries, closes⟩ :=
        s.drive_entries (Text.trimmed line) [] told
      rw [perform_of_some robot]
      exact ⟨[], closing, records_of_entries entries, .nothing fun none => (by cases none), closes⟩
    | none =>
      by_cases needs : i.keyword ≠ .obstacle
      · rw [act_of_none robot needs] at told
        rw [perform_of_none robot needs]
        by_cases written : s.table.Written
        · rw [if_pos written] at told
          rw [dif_pos written]
          obtain ⟨closing, entries, closes⟩ := s.drive_entries (Text.trimmed line)
            [.copy s.table, .record (.robotCreated s.table written)] told
          have cells := order.perm s.table.obstacles
          exact ⟨_, closing, records_of_entries entries,
            .robot rfl ((needsRobot_of_read e).2 needs)
              (cells.nodup_iff.2 s.table.obstacles.nodup) fun c => cells.mem_iff, closes⟩
        -- Without the text of the board there is no answer.
        · rw [if_neg written] at told
          cases outcome <;> cases told
      · cases i with
        | obstacle c =>
          obtain ⟨closing, entries, closes⟩ :=
            setUp_entries robot (Text.trimmed line) told
          rw [perform_obstacle robot]
          refine ⟨_, closing, records_of_entries entries, ?_, closes⟩
          rw [List.flatMap_map]
          split
          · rename_i inside
            obtain ⟨t, declared, _⟩ := Board.declare_of_contains inside
            rw [act_obstacle_of_ok robot declared] at told
            refine .obstacle rfl e ?_
            cases outcome with
            | ok m => rfl
            | error f => cases told
          · rename_i outside
            rw [act_obstacle_of_outside robot outside] at told
            refine .nothing fun _ => ⟨fun robot => needs ((needsRobot_of_read e).1 robot), ?_⟩
            intro d _
            cases outcome with
            | ok m => cases told
            | error f => rfl
        | place | move | left | right | report => exact absurd (by simp [Instruction.keyword]) needs

theorem furnish_records {b t : Board} {cells : List Cell} (h : (furnish b cells).2 = .ok t) :
    (furnish b cells).1 = cells.map .obstacleAdded := by
  induction cells generalizing b with
  | nil => rfl
  | cons c cells ih =>
    unfold furnish at h ⊢
    cases e : b.declare c with
    | error f =>
      simp only [e] at h
      cases h
    | ok u =>
      simp only [e] at h ⊢
      rw [ih h, List.map_cons]

theorem openRecorded_of_start {width height : Scalar} {cells : List Cell} {s : Session}
    (h : Session.start width height cells = .ok s) :
    openRecorded width height cells = (cells.map .obstacleAdded, .ok s) := by
  unfold Session.start at h
  refine Prod.ext ?_ h
  unfold openRecorded at h ⊢
  cases e : Board.bare width height with
  | error f =>
    simp only [e] at h
    cases h
  | ok b =>
    simp only [e] at h ⊢
    cases made : (furnish b cells).2 with
    | error f =>
      rw [made] at h
      cases h
    | ok t => exact furnish_records made

theorem trace_of_start {width height : Scalar} {cells : List Cell} {s : Session}
    (h : Session.start width height cells = .ok s) (least : Level) (lines : List String)
    (order : Iteration) : trace least width height cells lines order =
      ⟨none, least.keep (cells.map .obstacleAdded),
        (s.recordsOf order lines).map least.keep⟩ := by
  rw [trace, openRecorded_of_start h]

theorem recordsOf_append (s : Session) (order : Iteration) (lines more : List String) :
    s.recordsOf order (lines ++ more) =
      s.recordsOf order lines ++ (s.after lines).recordsOf order more := by
  induction lines generalizing s with
  | nil => rfl
  | cons line lines ih =>
    rw [List.cons_append, recordsOf, recordsOf, after_cons, ih]
    rfl

theorem evaluate_robot {s : Session} {line : String} :
    (s.evaluate line).session.robot = none ↔ s.robot = none ∧ ¬NeedsRobot line := by
  constructor
  · intro bare
    have undriven : ¬(s.robot ≠ none ∨ NeedsRobot line) := fun driven => by
      obtain ⟨_, r, robot, _⟩ := evaluate_keeps_boards driven
      rw [bare] at robot
      cases robot
    obtain ⟨robot, quiet⟩ := not_or.1 undriven
    exact ⟨Decidable.not_not.1 robot, quiet⟩
  · exact fun ⟨bare, quiet⟩ => (setUpBy_evaluate bare quiet).robot

theorem after_robot {s : Session} {lines : List String} :
    (s.after lines).robot = none ↔ s.robot = none ∧ ∀ line ∈ lines, ¬NeedsRobot line := by
  induction lines generalizing s with
  | nil => simp [after, callAll]
  | cons line lines ih => rw [after_cons, ih, evaluate_robot, List.forall_mem_cons, and_assoc]

/-- Each line of a session is accounted for by its result, and by whether the session has its robot
by then; the board that the robot gets is the one that the session ends with. -/
theorem Course.account {s last : Session} {before behind : List String} {line : String}
    {results : List CommandResult} (order : Iteration)
    (h : Course s (before ++ line :: behind) results last)
    (bare : s.robot = none) : ∃ r, results[before.length]? = some r ∧
      Account (∀ earlier ∈ before, ¬NeedsRobot earlier) last.table line r
        (((s.after before).evaluate line).records order) := by
  obtain ⟨first, second, middle, course, rest, rfl⟩ := course_append_iff.1 h
  have reached := course.last_eq_after
  subst reached
  cases rest with
  | @cons _ _ _ _ r others answer more =>
    obtain ⟨made, closing, records, makes, closes⟩ := evaluate_records order answer
    refine ⟨r, ?_, ?_⟩
    · rw [← course.length_eq, List.getElem?_append_right (Nat.le_refl _), Nat.sub_self]
      rfl
    · rw [records]
      refine Makes.account (makes.of_iff ?_ fun _ needs => ?_) closes
      · exact after_robot.trans (and_iff_right bare)
      · have driven : (s.after before).robot ≠ none ∨ NeedsRobot line := Or.inr needs
        obtain ⟨table, r', robot, _⟩ := evaluate_keeps_boards driven
        rw [more.table_of_robot (by simp [robot]), table]

theorem Course.tally_robots {s last : Session} {lines : List String}
    {results : List CommandResult} (order : Iteration) (h : Course s lines results last) :
    tally "robot_created" (s.recordsOf order lines).flatten =
      if s.robot = none ∧ ∃ line ∈ lines, NeedsRobot line then 1 else 0 := by
  induction h with
  | nil => simp [recordsOf, tally]
  | @cons s last line lines r results answer more ih =>
    obtain ⟨made, closing, records, makes, closes⟩ := evaluate_records order answer
    have robots := (makes.account closes).robots
    rw [recordsOf, List.flatten_cons, Record.tally_append, ih, records, robots]
    simp only [evaluate_robot]
    by_cases bare : s.robot = none <;> by_cases needs : NeedsRobot line <;> simp [bare, needs]

/-- The log of a session tells its obstacles in the order in which they are listed, and of each line
what the line has made and what it is answered: a refusal is the last record, and one of a placement
has its reason before it. An obstacle is recorded as it is put on the board; the robot is made once,
by the first line that needs one, and has the obstacles of the whole session, in whatever order they
are met. A log of a level has the records that are not below it. -/
theorem log_accounts_for_session {width height : Scalar} {cells : List Cell} {s last : Session}
    {lines : List String} {results : List CommandResult}
    (start : Session.start width height cells = .ok s) (course : Course s lines results last)
    (order : Iteration) :
    let log := trace .debug width height cells lines order
    log.failure = none ∧ log.opening = cells.map .obstacleAdded ∧
    log.lines.length = lines.length ∧
    (∀ before line behind, lines = before ++ line :: behind → ∃ r records,
      results[before.length]? = some r ∧ log.lines[before.length]? = some records ∧
      Account (∀ earlier ∈ before, ¬NeedsRobot earlier) last.table line r records) ∧
    tally "robot_created" (log.opening ++ log.lines.flatten) =
      (if ∃ line ∈ lines, NeedsRobot line then 1 else 0) ∧
    ∀ least : Level, trace least width height cells lines order =
      let pass := List.filter fun record : Record => least.rank ≤ record.level.rank
      ⟨none, pass log.opening, log.lines.map pass⟩ := by
  intro log
  obtain ⟨b, created, rfl⟩ := start_eq_ok start
  have whole : log = ⟨none, cells.map .obstacleAdded, recordsOf ⟨b, none⟩ order lines⟩ := by
    have all : Level.debug.keep = id := funext Level.keep_debug
    refine (trace_of_start start .debug lines order).trans ?_
    rw [all, List.map_id, id_eq]
  rw [whole]
  refine ⟨rfl, rfl, length_recordsOf _ order lines, ?_, ?_,
    fun least => trace_of_start start least lines order⟩
  · rintro before line behind rfl
    obtain ⟨r, result, account⟩ := course.account order rfl
    refine ⟨r, _, result, ?_, account⟩
    rw [recordsOf_append, ← length_recordsOf ⟨b, none⟩ order before,
      List.getElem?_append_right (Nat.le_refl _), Nat.sub_self]
    rfl
  · rw [Record.tally_append, Record.tally_obstacleAdded (by decide), course.tally_robots order,
      Nat.zero_add]
    simp

/-- The robot is made by a placement that is refused: its log has the three obstacles of the session
once each, whichever was listed twice, and then why the robot stays off the board. -/
theorem log_accounts_for_refused_placement :
    let cells : List Cell := [⟨2, 2⟩, ⟨0, 1⟩, ⟨2, 2⟩]
    let lines := ["OBSTACLE 1,1", "OBSTACLE 9,9", "PLACE 1,1,NORTH", "OBSTACLE 0,0", "REPORT"]
    let log := trace .debug (.int 3) (.int 3) cells lines
    ∃ s results last, Session.start (.int 3) (.int 3) cells = .ok s ∧
      Course s lines results last ∧ log.opening = cells.map .obstacleAdded ∧
      tally "robot_created" (log.opening ++ log.lines.flatten) = 1 ∧
      (∃ r records, results[2]? = some r ∧ log.lines[2]? = some records ∧
        r.error = some "PlacementRejected" ∧ tally "placement_rejected" records = 1 ∧
        tally "obstacle_added" records = 3) ∧
      (trace .info (.int 3) (.int 3) cells lines).lines.map List.length = [0, 1, 1, 1, 1] := by
  intro cells lines log
  have run : Session.run ⟨⟨3, 3, .ofList [⟨2, 2⟩, ⟨0, 1⟩, ⟨2, 2⟩], by decide, by decide, by decide⟩,
      none⟩ ["OBSTACLE 1,1", "OBSTACLE 9,9", "PLACE 1,1,NORTH", "OBSTACLE 0,0", "REPORT"] = (_, .ok
      [⟨"OBSTACLE 1,1", .ok none⟩,
        ⟨"OBSTACLE 9,9", .error (.obstacleOutOfBounds ⟨9, 9⟩ (by decide))⟩,
        ⟨"PLACE 1,1,NORTH", .error (.placementRejected (.blocked ⟨1, 1⟩ (by decide)))⟩,
        ⟨"OBSTACLE 0,0", .error (.unsupportedInContext "OBSTACLE")⟩,
        ⟨"REPORT", .error (.notPlaced "REPORT")⟩]) := rfl
  have start : Session.start (.int 3) (.int 3) cells = .ok ⟨⟨3, 3, .ofList cells, by decide,
    by decide, by decide⟩, none⟩ := rfl
  have spoken : spoken lines = lines := by decide +kernel
  have course := run_eq_ok_iff.1 run
  rw [show Session.spoken _ = _ from spoken] at course
  obtain ⟨_, opening, _, told, robots, _⟩ := log_accounts_for_session start course .sorted
  obtain ⟨r, records, result, line, account⟩ :=
    told ["OBSTACLE 1,1", "OBSTACLE 9,9"] "PLACE 1,1,NORTH" ["OBSTACLE 0,0", "REPORT"] rfl
  have copied : (log.lines[2]?.map (tally "obstacle_added")) = some 3 := by decide +kernel
  have needed : ∃ line ∈ lines, NeedsRobot line := by decide +kernel
  cases result
  rw [show log.lines[2]? = some records from line] at copied
  exact ⟨_, _, _, start, course, opening, robots.trans (if_pos needed),
    ⟨_, records, rfl, line, rfl, account.barriers, Option.some.inj copied⟩, by decide +kernel⟩

end Session
end RobotGrid
