import RobotGrid.Proofs.Conduct
import RobotGrid.Proofs.LastClick
import RobotGrid.Proofs.Picture
import RobotGrid.Proofs.Reasons
import RobotGrid.Proofs.TypedText
import RobotGrid.Proofs.Verdict

set_option autoImplicit false

/-!
# What the status shows

The status has a line for each of the last results. A command that is held was cut from a typed
text, so no line ends inside it. A message of a session quotes nothing but a word of the command,
coordinates and names, so none ends inside a message either (`Text.Unbroken`). Hence the lines of
the status are those that it was joined from.
-/
namespace RobotGrid
open Session (Course)

namespace Text

/-- No character of the text ends a line. -/
def Unbroken (s : String) : Prop := ∀ c ∈ s.toList, isLineEnd c = false

instance (s : String) : Decidable (Unbroken s) :=
  List.decidableBAll (fun c => isLineEnd c = false) s.toList

theorem Unbroken.append {s t : String} (hs : Unbroken s) (ht : Unbroken t) : Unbroken (s ++ t) := by
  intro c hc
  rw [String.toList_append] at hc
  exact (List.mem_append.1 hc).elim (hs c) (ht c)

theorem unbroken_of_solid {s : List Char} (h : ∀ c ∈ s, isBlank c = false) :
    Unbroken (String.ofList s) := by
  intro c hc
  rw [String.toList_ofList] at hc
  exact not_isLineEnd_of_solid (h c hc)

theorem unbroken_toString (n : Int) : Unbroken (toString n) :=
  fun c hc => not_isLineEnd_of_solid (compact_toString n c hc).2

theorem unbroken_padding (n : Nat) : Unbroken (String.ofList (List.replicate n ' ')) := by
  intro c hc
  rw [String.toList_ofList] at hc
  rw [List.eq_of_mem_replicate hc]
  decide

/-- Texts on one line each are the lines of what they are joined to with line feeds. -/
theorem lines_of_unbroken {ls : List String} (unbroken : ∀ l ∈ ls, Unbroken l)
    (some : ∀ l ∈ ls, l ≠ "") :
    let s := ("\n".intercalate ls).toList
    (∀ c ∈ s, isLineEnd c = true → c = '\n') ∧ s.count '\n' = ls.length - 1 ∧
      lines s = ls.map String.toList := by
  intro s
  have joined : s = ['\n'].intercalate (ls.map String.toList) := String.toList_intercalate
  have whole : ∀ v ∈ ls.map String.toList, ∀ c ∈ v, isLineEnd c = false := by
    intro v hv
    obtain ⟨l, hl, rfl⟩ := List.mem_map.1 hv
    exact unbroken l hl
  have apart : ∀ v ∈ ls.map String.toList, '\n' ∉ v := fun v hv mem =>
    Bool.noConfusion (whole v hv _ mem)
  have ne : ∀ v ∈ ls.map String.toList, v ≠ [] := by
    intro v hv
    obtain ⟨l, hl, rfl⟩ := List.mem_map.1 hv
    exact fun empty => some l hl (String.toList_eq_nil_iff.1 empty)
  rw [joined]
  refine ⟨fun c hc ends => ?_, ?_, lines_joined ne whole⟩
  · rcases mem_joined hc with feed | ⟨v, hv, mem⟩
    · exact feed
    · rw [whole v hv c mem] at ends
      cases ends
  · rw [count_joined apart, List.length_map]

end Text

open Text (Unbroken unbroken_toString)

theorem unbroken_keyword (k : Keyword) : Unbroken k.name := by cases k <;> decide

theorem unbroken_heading (o : Heading) : Unbroken o.name := by cases o <;> decide

theorem unbroken_report {p : Pose} {text : String} (told : p.report = .ok text) :
    Unbroken text := by
  have comma : Unbroken "," := by decide
  rw [Pose.eq_of_report told]
  have cell := (((unbroken_toString p.cell.x).append comma).append (unbroken_toString p.cell.y))
  exact (cell.append comma).append (unbroken_heading p.heading)

theorem unbroken_around {before behind t : String} (frame : Unbroken before ∧ Unbroken behind)
    (h : Unbroken t) : Unbroken (before ++ t ++ behind) := (frame.1.append h).append frame.2

theorem unbroken_aboutCell {behind : String} (h : Unbroken behind) (c : Cell) :
    Unbroken ("Position (" ++ toString c.x ++ ", " ++ toString c.y ++ behind) := by
  have opens : Unbroken "Position (" ∧ Unbroken ", " := by decide
  exact ((unbroken_around opens (unbroken_toString c.x)).append (unbroken_toString c.y)).append h

theorem unbroken_aboutKeyword {before behind : String} (frame : Unbroken before ∧ Unbroken behind)
    (k : Keyword) : Unbroken (before ++ k.name ++ behind) :=
  unbroken_around frame (unbroken_keyword k)

theorem unbroken_of_allow {b : Board} {c : Cell} {f : Fault} (h : b.allow c = .error (.fault f)) :
    Unbroken f.message := by
  unfold Board.allow at h
  split at h
  · obtain ⟨_, rfl⟩ := Failure.raise_eq_fault (Except.error.inj h)
    exact unbroken_aboutCell (by decide) c
  · split at h
    · obtain ⟨_, rfl⟩ := Failure.raise_eq_fault (Except.error.inj h)
      exact unbroken_aboutCell (by decide) c
    · cases h

theorem unbroken_of_reason {line : String} {f : Fault} (h : Reason line (.fault f)) :
    Unbroken f.message := by
  generalize same : Failure.fault f = failure at h
  cases h with
  | blank =>
    cases same
    exact (by decide : Unbroken "Command was empty or malformed.")
  | @unknown _ word _ l =>
    cases same
    exact unbroken_around (by decide) (Text.unbroken_of_solid l.word_solid)
  | @few _ _ _ k =>
    cases same
    exact unbroken_aboutKeyword (by decide) k
  | @field _ _ _ k _ e =>
    cases e with
    | oversized o => cases same
    | fault cause =>
      cases same
      exact unbroken_aboutKeyword (by decide) k

theorem Session.Acts.unbroken {s s' : Session} {i : Instruction} {f : Fault}
    {a : Except Failure (Option String)} (h : Acts s i s' a) (refused : a = .error (.fault f)) :
    Unbroken f.message := by
  cases h with
  | setUp | unwritten => cases refused
  | @offBoard c =>
    obtain ⟨_, rfl⟩ := Failure.raise_eq_fault (Except.error.inj refused)
    exact unbroken_aboutCell (by decide) c
  | driven _ executes =>
    cases executes with
    | taken | left | right | report | muted => cases refused
    | barred _ barred =>
      cases refused
      have opens : Unbroken "Robot cannot be placed there: " := by decide
      exact opens.append (unbroken_of_allow barred)
    | obstacle =>
      cases refused
      exact unbroken_aboutKeyword (by decide) .obstacle
    | unplaced =>
      cases refused
      exact unbroken_aboutKeyword (by decide) _

theorem unbroken_kinds (g : Ground) : ∀ kind ∈ g.kinds, Unbroken kind := by
  cases g <;> decide

theorem Pose.report_ne_empty {p : Pose} {text : String} (told : p.report = .ok text) :
    text ≠ "" := by
  have comma : toString "," ≠ "" := by decide
  rw [eq_of_report told]
  simp [comma]

namespace CommandResult

/-- What the status shows of a result behind its command: a report or `ok`, or the kind of the fault
and its message. -/
inductive Shows (r : CommandResult) : String → Prop where
  | silent (ok : r.ok = true) (none : r.message = none) : Shows r "ok"
  | report {p : Pose} {text : String} (ok : r.ok = true) (told : p.report = .ok text)
      (some : r.message = some text) : Shows r text
  | fault {kind message : String} (refused : r.ok = false) (hk : r.error = some kind)
      (hm : r.message = some message) : Shows r (kind ++ ": " ++ message)

theorem Shows.verdict_eq {r : CommandResult} {text : String} (h : r.Shows text) :
    r.verdict = text := by
  obtain ⟨command, outcome⟩ := r
  cases outcome with
  | error f =>
    cases h with
    | silent ok | report ok => cases ok
    | fault _ hk hm =>
      cases hk
      cases hm
      rfl
  | ok m =>
    cases h with
    | silent _ none =>
      cases none
      rfl
    | report _ told some =>
      cases some
      exact if_neg (mt String.isEmpty_iff.1 (Pose.report_ne_empty told))
    | fault refused => cases refused

end CommandResult

namespace Session

theorem shows_of_evaluate {s : Session} {line : String} {r : CommandResult}
    (h : (s.evaluate line).answer = .ok r) : ∃ text, r.Shows text ∧ Unbroken text := by
  have silent : Unbroken "ok" := by decide
  cases ok : r.ok with
  | true =>
    obtain ⟨i, m, _, verdict, rfl⟩ := accepted_of_ok h ok
    have acts := s.acts i
    rw [verdict] at acts
    generalize (s.act i).1 = s' at acts
    cases acts with
    | setUp => exact ⟨"ok", .silent rfl rfl, silent⟩
    | driven _ executes =>
      cases executes with
      | report _ told => exact ⟨_, .report rfl told rfl, unbroken_report told⟩
      | taken | left | right => exact ⟨"ok", .silent rfl rfl, silent⟩
  | false =>
    obtain ⟨g, ⟨⟨kind, known, hk⟩, _⟩, _⟩ := Ground.exists_of_refused h ok
    have opens := (unbroken_kinds g kind known).append (by decide : Unbroken ": ")
    rcases answer_cases h with ⟨f, unread, rfl⟩ | ⟨i, outcome, _, told, rfl⟩
    · have whole := unbroken_of_reason (Instruction.reason_of_read unread)
      exact ⟨_, .fault rfl hk rfl, opens.append whole⟩
    · cases outcome with
      | ok m => cases ok
      | error f => exact ⟨_, .fault rfl hk rfl, opens.append ((s.acts i).unbroken told)⟩

theorem Course.exists_evaluation {s last : Session} {lines : List String}
    {results : List CommandResult} (h : Course s lines results last) :
    ∀ r ∈ results, ∃ s' : Session, ∃ line ∈ lines, (s'.evaluate line).answer = .ok r := by
  induction h with
  | nil => simp
  | @cons s last line lines r results e more ih =>
    intro r' mem
    rcases List.mem_cons.1 mem with rfl | mem
    · exact ⟨s, line, List.mem_cons_self, e⟩
    · obtain ⟨s', line', there, e'⟩ := ih r' mem
      exact ⟨s', line', List.mem_cons_of_mem line there, e'⟩

end Session

namespace Dashboard

variable {settings : LegibleSettings} {d : Dashboard} {steps : List Step} {text : String}

/-- The command was cut from a typed text. -/
def Typed (command : String) : Prop := ∃ text, command ∈ Text.commandLines text

theorem Typed.unbroken {command : String} (h : Typed command) : Unbroken command := by
  obtain ⟨text, mem⟩ := h
  intro c hc
  have whole := (Text.command_of_mem_commandLines mem).whole c hc
  exact (Text.separatesCommands_eq_false_iff.1 whole).2

theorem Typed.clean {command : String} (h : Typed command) :
    Text.trimmed command = command ∧ Text.blankText command = false := by
  obtain ⟨text, mem⟩ := h
  exact Text.trimmed_of_mem_commandLines mem

theorem typed_append (h : ∀ c ∈ d.commands, Typed c) (text : String) :
    ∀ c ∈ d.commands ++ Text.commandLines text, Typed c := by
  intro c hc
  rcases List.mem_append.1 hc with hc | hc
  · exact h c hc
  · exact ⟨text, hc⟩

theorem typed_step (h : ∀ c ∈ d.commands, Typed c) (s : Step) :
    ∀ c ∈ (d.step s).dashboard.commands, Typed c := by
  rw [(d.step_keeps s).2]
  cases s with
  | click k => exact h
  | clear => simp [record]
  | submit text reply? =>
    rw [record]
    split
    · exact typed_append h text
    · exact h

theorem typed_after (h : ∀ c ∈ d.commands, Typed c) (steps : List Step) :
    ∀ c ∈ (d.after steps).commands, Typed c := by
  induction steps generalizing d with
  | nil => exact h
  | cons s steps ih => exact ih (typed_step h s)

theorem redraw_status (d : Dashboard) :
    d.redraw.1.status = d.status ∧ d.redraw.1.colour = d.colour := by
  unfold redraw
  cases draw d.settings d.obstacles d.commands d.final
  exact ⟨rfl, rfl⟩

theorem paint_eq_red_iff {results : List CommandResult} :
    paint results = .red ↔ ∃ r, results.getLast? = some r ∧ r.ok = false := by
  unfold paint
  cases results.getLast? with
  | none => simp
  | some r => cases ok : r.ok <;> simp [ok]

theorem submit_of_success (typed : Text.commandLines text ≠ [])
    (inside : ∀ c ∈ d.obstacles, InRectangle (width d.settings) (height d.settings) c)
    (success : (d.replyTo text none).Succeeds) :
    let commands := d.commands ++ Text.commandLines text
    let next := (d.step (.submit text none)).dashboard
    ∃ sim, simulate (.int (width d.settings)) (.int (height d.settings)) d.obstacles.cells
        commands = .ok sim ∧
      next.obstacles = d.obstacles ∧ next.commands = commands ∧ next.results = sim.resultsJson ∧
      next.status = "\n".intercalate ((lastShown sim.results).map statusLine) ∧
      next.colour = paint sim.results := by
  let b := boardOf d.settings d.obstacles inside
  have written : b.Written := ⟨d.settings.width_written, d.settings.height_written⟩
  intro commands next
  rcases serviceReply_cases written commands with ⟨sim, shown, e, _, reply⟩ | ⟨shown, body, reply⟩
  · have taken : next = (d.takeAnswer commands sim.toJson).1 := by
      have step := step_submit (d := d) typed none
      rw [show d.replyTo text none = _ from reply] at step
      exact step
    rw [taken, takeAnswer_toJson]
    have same := agree_redraw { d with
      commands
      results := sim.resultsJson
      final := sim.finalJson
      status := "\n".intercalate ((lastShown sim.results).map statusLine)
      colour := paint sim.results }
    exact ⟨sim, e, same.obstacles, same.commands, same.results, redraw_status _⟩
  · rw [show d.replyTo text none = _ from reply] at success
    simp [Reply.Succeeds] at success

theorem course_of_submit (typed : Text.commandLines text ≠ [])
    (inside : ∀ c ∈ d.obstacles, InRectangle (width d.settings) (height d.settings) c)
    (held : ∀ c ∈ d.commands, Typed c) (success : (d.replyTo text none).Succeeds) :
    let next := (d.step (.submit text none)).dashboard
    (∀ c ∈ next.commands, Typed c) ∧
    ∃ sim, simulate (.int (width d.settings)) (.int (height d.settings)) next.obstacles.cells
        next.commands = .ok sim ∧
      (∃ s last, Course s next.commands sim.results last) ∧ next.results = sim.resultsJson ∧
      next.status = "\n".intercalate ((lastShown sim.results).map statusLine) ∧
      next.colour = paint sim.results := by
  have all := typed_step held (.submit text none)
  obtain ⟨sim, e, obstacles, commands, shown⟩ := submit_of_success typed inside success
  rw [← commands] at e
  obtain ⟨last, course, _⟩ := simulate_eq_ok_iff (b := boardOf d.settings d.obstacles inside).1 e
  rw [spoken_of_clean fun c hc => (all c hc).clean] at course
  rw [← obstacles] at e
  exact ⟨all, sim, e, ⟨_, last, course⟩, shown⟩

theorem commands_of_typed {s last : Session} {commands : List String}
    {results : List CommandResult} (h : Course s commands results last)
    (typed : ∀ c ∈ commands, Typed c) : results.map CommandResult.command = commands := by
  rw [h.commands]
  exact (List.map_congr_left fun c hc => (typed c hc).clean.1).trans (List.map_id _)

theorem unbroken_statusLine {r : CommandResult} {tail : String} (command : Unbroken r.command)
    (shows : r.Shows tail) (whole : Unbroken tail) : Unbroken (statusLine r) := by
  have space : Unbroken " " := by decide
  have padded := command.append (Text.unbroken_padding (commandWidth - r.command.length))
  rw [statusLine, shows.verdict_eq]
  exact (padded.append space).append whole

theorem statusLine_ne_empty (r : CommandResult) : statusLine r ≠ "" := by
  have space : " " ≠ "" := by decide
  simp [statusLine, space]

theorem shows_of_course {s last : Session} {commands : List String} {results : List CommandResult}
    (h : Course s commands results last) (typed : ∀ c ∈ commands, Typed c) :
    ∀ r ∈ results, ∃ tail, r.Shows tail ∧ Unbroken (statusLine r) := by
  intro r hr
  obtain ⟨s', line, mem, e⟩ := h.exists_evaluation r hr
  obtain ⟨tail, shows, whole⟩ := Session.shows_of_evaluate e
  have command : r.command = line := (Session.answer_command e).trans (typed line mem).clean.1
  have unbroken : Unbroken r.command := by
    rw [command]
    exact (typed line mem).unbroken
  exact ⟨tail, shows, unbroken_statusLine unbroken shows whole⟩

theorem length_lastShown (results : List CommandResult) :
    (lastShown results).length = min 6 results.length := by
  rw [lastShown, List.length_drop, shownResults]
  omega

theorem getElem?_lastShown (results : List CommandResult) (i : Nat) :
    (lastShown results)[i]? = results[results.length - min 6 results.length + i]? := by
  have start : results.length - 6 = results.length - min 6 results.length := by omega
  rw [lastShown, List.getElem?_drop, shownResults, start]

theorem lines_of_results {results : List CommandResult}
    (shows : ∀ r ∈ results, ∃ tail, r.Shows tail ∧ Unbroken (statusLine r)) :
    let status := ("\n".intercalate ((lastShown results).map statusLine)).toList
    (∀ c ∈ status, Text.isLineEnd c = true → c = '\n') ∧
      status.count '\n' = min 6 results.length - 1 ∧
      Text.lines status = (lastShown results).map fun r => (statusLine r).toList := by
  have unbroken : ∀ l ∈ (lastShown results).map statusLine, Unbroken l := by
    intro l hl
    obtain ⟨r, hr, rfl⟩ := List.mem_map.1 hl
    obtain ⟨_, _, unbroken⟩ := shows r (List.mem_of_mem_drop hr)
    exact unbroken
  have some : ∀ l ∈ (lastShown results).map statusLine, l ≠ "" := by
    intro l hl
    obtain ⟨r, _, rfl⟩ := List.mem_map.1 hl
    exact statusLine_ne_empty r
  obtain ⟨ends, count, lines⟩ := Text.lines_of_unbroken unbroken some
  rw [List.length_map, length_lastShown] at count
  rw [List.map_map] at lines
  exact ⟨ends, count, lines⟩

/-- Behind a submit that the service answers with success, whatever came before: the status is one
line for each of the last six results, or for all if there are fewer, and no line end stands in it
but the line feeds between them. Each line is the command that is held at that place, filled up to
twenty characters, and behind a blank the report or `ok`, or the kind and the message of the fault.
The status is red exactly if the last result is a refusal. -/
theorem status_shows_last_results {settings : LegibleSettings} {steps : List Step} {text : String}
    (typed : Text.commandLines text ≠ [])
    (success : (((new settings).after steps).replyTo text none).Succeeds) :
    let d := (((new settings).after steps).step (.submit text none)).dashboard
    let n := d.commands.length
    let m := min 6 n
    let shown := Text.lines d.status.toList
    ∃ sim, simulate (.int (width settings)) (.int (height settings)) d.obstacles.cells d.commands =
        .ok sim ∧ d.results = sim.resultsJson ∧
      sim.results.map CommandResult.command = d.commands ∧
      (∀ c ∈ d.status.toList, Text.isLineEnd c = true → c = '\n') ∧
      d.status.toList.count '\n' = m - 1 ∧ shown.length = m ∧
      (∀ i < m, ∃ r tail, sim.results[n - m + i]? = some r ∧ r.Shows tail ∧
        d.commands[n - m + i]? = some r.command ∧
        shown[i]? = some (r.command ++ String.ofList (List.replicate (20 - r.command.length) ' ') ++
          " " ++ tail).toList) ∧
      (d.colour = .red ↔ ∃ r, sim.results.getLast? = some r ∧ r.ok = false) := by
  intro d n m shown
  let before := (new settings).after steps
  have kept : before.settings = settings := settings_after (new settings) steps
  have inside := inside_after settings steps
  have held : ∀ c ∈ before.commands, Typed c := typed_after (by simp [new]) steps
  obtain ⟨all, sim, e, ⟨_, _, course⟩, results, status, colour⟩ :=
    course_of_submit (d := before) typed (by rw [kept]; exact inside) held success
  rw [kept] at e
  have aligned := commands_of_typed course all
  have size : sim.results.length = n := course.length_eq
  have shows := shows_of_course course all
  obtain ⟨ends, count, lines⟩ := lines_of_results shows
  rw [size, ← status] at count
  rw [← status] at ends lines
  refine ⟨sim, e, results, aligned, ends, count, ?_, fun i hi => ?_, ?_⟩
  · change (Text.lines d.status.toList).length = m
    rw [lines, List.length_map, length_lastShown, size]
  · have below : n - m + i < sim.results.length := by omega
    have result := List.getElem?_eq_getElem below
    obtain ⟨tail, tells, _⟩ := shows _ (List.getElem_mem below)
    refine ⟨_, tail, result, tells, ?_, ?_⟩
    · rw [← aligned, List.getElem?_map, result]
      rfl
    · change (Text.lines d.status.toList)[i]? = _
      rw [lines, List.getElem?_map, getElem?_lastShown, size, result, Option.map_some, statusLine,
        tells.verdict_eq]
      rfl
  · rw [colour]
    exact paint_eq_red_iff

/-- Of eight commands the last six are shown. The robot is sent off the board at last. -/
theorem status_shows_last_results_of_eight :
    let steps : List Step := [.submit "PLACE 0,0,NORTH;LEFT" none,
      .submit "MOVE" (some (.unreachable "refused"))]
    let text := "RIGHT\u2028report\x0b; jump\r\nup ; LEFT;\x85MOVE"
    let d := (((new .standard).after steps).step (.submit text none)).dashboard
    let shown := Text.lines d.status.toList
    Text.commandLines text ≠ [] ∧ (((new .standard).after steps).replyTo text none).Succeeds ∧
      d.commands.length = 8 ∧ shown.length = 6 ∧ d.status.toList.count '\n' = 5 ∧ d.colour = .red ∧
      ∃ tail, shown[1]? =
        some ("report" ++ String.ofList (List.replicate 14 ' ') ++ " " ++ tail).toList := by
  intro steps text d shown
  have typed : Text.commandLines text ≠ [] := by decide +kernel
  have success : (((new .standard).after steps).replyTo text none).Succeeds := by decide +kernel
  have held : d.commands.length = 8 ∧ d.commands[3]? = some "report" ∧ d.colour = .red := by
    decide +kernel
  obtain ⟨size, fourth, red⟩ := held
  obtain ⟨_, _, _, _, _, count, length, lines, _⟩ := status_shows_last_results typed success
  simp only [d] at size fourth
  rw [size] at count length lines
  obtain ⟨r, tail, _, _, command, line⟩ := lines 1 (by decide)
  have report : some "report" = some r.command := fourth.symm.trans command
  rw [← Option.some.inj report] at line
  exact ⟨typed, success, size, length, count, red, tail, line⟩

end Dashboard
end RobotGrid
