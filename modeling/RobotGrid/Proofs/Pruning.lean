import RobotGrid.Proofs.Answers

set_option autoImplicit false

/-!
# Sessions without their refused commands

A refused command may make the robot, and so end the setup of the board, but nothing that is
accepted later depends on this. `Shadows` relates a session to the one that has heard the accepted
commands only: they agree, or the robot that the first has made is still missing in the second. A
refused command is a step that only the first makes, and an accepted one is the same step of both.
-/
namespace RobotGrid
namespace Session

/-- The second session is the first, or the first once its robot exists. -/
def Shadows (t s : Session) : Prop := s = t ∨ t.table.Written ∧ s = t.equip

theorem act_equip {s : Session} {i : Instruction} (written : s.table.Written)
    (h : i.keyword ≠ .obstacle) : s.equip.act i = s.act i := by
  have same : s.equip.driver = s.driver := driver_of_some rfl
  have ready : s.robot ≠ none ∨ i.keyword ≠ .obstacle ∧ s.table.Written := Or.inr ⟨h, written⟩
  rw [act_eq_execute ready, ← same]
  exact act_eq_execute (Or.inl (Option.some_ne_none _))

theorem keyword_of_accepted {s : Session} {i : Instruction} {m : Option String}
    (robot : s.robot ≠ none) (h : (s.act i).2 = .ok m) : i.keyword ≠ .obstacle := by
  cases i with
  | obstacle c =>
    rw [act_eq_execute (Or.inl robot)] at h
    cases h
  | place | move | left | right | report => simp [Instruction.keyword]

/-- An instruction that a session accepts has the same effect on each session that it shadows. -/
theorem Shadows.act_eq {s t : Session} {i : Instruction} {m : Option String} (twins : Shadows t s)
    (h : (s.act i).2 = .ok m) : t.act i = s.act i := by
  rcases twins with rfl | ⟨written, rfl⟩
  · rfl
  · exact (act_equip written (keyword_of_accepted (Option.some_ne_none _) h)).symm

theorem pose?_equip (s : Session) : s.equip.pose? = s.pose? := driver_pose s

theorem Shadows.pose?_eq {s t : Session} (twins : Shadows t s) : t.pose? = s.pose? := by
  rcases twins with rfl | ⟨_, rfl⟩
  · rfl
  · exact (pose?_equip t).symm

theorem Shadows.refused {s t : Session} {line : String} {r : CommandResult} (twins : Shadows t s)
    (h : (s.evaluate line).answer = .ok r) (refused : r.ok = false) :
    Shadows t (s.evaluate line).session := by
  rw [evaluate_of_fails (fails_of_refused h refused)]
  split
  · rename_i needs
    rcases twins with rfl | ⟨written, rfl⟩
    · cases robot : s.robot with
      | none =>
        -- The robot is made, and the answer shows that its board could be written for it.
        have told := (answer_eq_ok_iff.1 ⟨r, h⟩).2
        rw [speechless_of_bare robot] at told
        exact Or.inr ⟨Decidable.not_not.1 fun unwritten => told ⟨needs, unwritten⟩, rfl⟩
      | some r => exact Or.inl (equip_of_robot (robot ▸ Option.some_ne_none r))
    · exact Or.inr ⟨written, t.equip_equip⟩
  · exact twins

theorem Shadows.accepted {s t : Session} {line : String} {r : CommandResult} (twins : Shadows t s)
    (h : (s.evaluate line).answer = .ok r) (ok : r.ok = true) :
    (t.evaluate r.command).answer = .ok r ∧
      (t.evaluate r.command).session = (s.evaluate line).session := by
  obtain ⟨i, m, e, verdict, rfl⟩ := accepted_of_ok h ok
  have again : Instruction.read (Text.trimmed line) = .ok i :=
    Instruction.read_trimmed_eq_ok_iff.2 e
  obtain ⟨session, answer⟩ := evaluate_of_read (s := t) again
  have same := twins.act_eq verdict
  rw [same] at session answer
  rw [Text.trimmed_trimmed, verdict] at answer
  exact ⟨answer, session.trans (evaluate_of_read e).1.symm⟩

theorem Course.prune {s t last : Session} {lines : List String} {results : List CommandResult}
    (h : Course s lines results last) (twins : Shadows t s) :
    ∃ last', Course t ((results.filter CommandResult.ok).map CommandResult.command)
      (results.filter CommandResult.ok) last' ∧ Shadows last' last := by
  -- Along the course, `t` changes only at accepted lines: there the sessions become equal, and at a
  -- refused line `s` alone may get its robot.
  induction h generalizing t with
  | nil => exact ⟨t, .nil t, twins⟩
  | @cons s last line lines r results e more ih =>
    cases verdict : r.ok with
    | true =>
      obtain ⟨answer, session⟩ := twins.accepted e verdict
      obtain ⟨last', course, twins'⟩ := ih (Or.inl session.symm)
      rw [List.filter_cons_of_pos verdict, List.map_cons]
      exact ⟨last', .cons answer course, twins'⟩
    | false =>
      rw [List.filter_cons_of_neg (by simp [verdict])]
      exact ih (twins.refused e verdict)

theorem Course.solid_of_ok {s last : Session} {lines : List String} {results : List CommandResult}
    (h : Course s lines results last) (ok : ∀ r ∈ results, r.ok = true) :
    ∀ line ∈ lines, Text.blankText line = false := by
  induction h with
  | nil => simp
  | @cons s last line lines r results e more ih =>
    obtain ⟨first, others⟩ := List.forall_mem_cons.1 ok
    refine List.forall_mem_cons.2 ⟨?_, ih others⟩
    obtain ⟨i, m, reads, _⟩ := accepted_of_ok e first
    cases blank : Text.blankText line with
    | false => rfl
    | true =>
      rw [Instruction.read_of_blank blank] at reads
      cases reads

end Session

theorem reports_filter_ok (results : List CommandResult) :
    reports (results.filter CommandResult.ok) = reports results := by
  rw [reports, reports, List.filterMap_filter]
  congr 1
  funext r
  obtain ⟨command, outcome⟩ := r
  cases outcome <;> rfl

def Simulation.accepted (sim : Simulation) : List CommandResult :=
  sim.results.filter CommandResult.ok

/-- A session of which every line is answered leaves the same when it is simulated again with the
accepted commands only: just the accepted results, the same reports and the same final pose. -/
theorem refusals_leave_no_trace {width height : Scalar} {cells : List Cell} {s : Session}
    (start : Session.start width height cells = .ok s) {commands : List String}
    (answered : s.Follows commands) :
    ∃ sim again, simulate width height cells commands = .ok sim ∧
      simulate width height cells (sim.accepted.map CommandResult.command) = .ok again ∧
      again.results = sim.accepted ∧ again.reports = sim.reports ∧ again.final = sim.final := by
  obtain ⟨results, last, course⟩ :=
    Session.exists_course_iff.2 (Session.follows_spoken.2 answered)
  let sim : Simulation := ⟨results, last.pose?⟩
  have first : simulate width height cells commands = .ok sim :=
    (Session.simulate_iff_course start).2 ⟨last, course, rfl⟩
  obtain ⟨last', pruned, twins⟩ := course.prune (t := s) (Or.inl rfl)
  let kept := sim.accepted.map CommandResult.command
  have solid : Session.spoken kept = kept :=
    Session.spoken_of_solid (pruned.solid_of_ok fun r hr => (List.mem_filter.1 hr).2)
  have heard : Session.Course s (Session.spoken kept) sim.accepted last' := by
    rw [solid]
    exact pruned
  have second : simulate width height cells kept = .ok ⟨sim.accepted, last'.pose?⟩ :=
    (Session.simulate_iff_course start).2 ⟨last', heard, rfl⟩
  exact ⟨sim, _, first, second, rfl, reports_filter_ok results, twins.pose?_eq⟩

/-- A refused move ends the setup, and so the second obstacle is refused; when both are left out the
robot still passes the cell that this obstacle was meant for. -/
theorem refusals_leave_no_trace_of_late_obstacle :
    ∃ s, Session.start (.int 2) (.int 2) [⟨1, 0⟩] = .ok s ∧
      let commands := ["OBSTACLE 1,1", "MOVE", "OBSTACLE 0,1", "PLACE 0,0,NORTH", "MOVE", "REPORT"]
      s.Follows commands ∧ ∃ sim again, simulate (.int 2) (.int 2) [⟨1, 0⟩] commands = .ok sim ∧
        simulate (.int 2) (.int 2) [⟨1, 0⟩]
          ["OBSTACLE 1,1", "PLACE 0,0,NORTH", "MOVE", "REPORT"] = .ok again ∧
        again.results = sim.accepted ∧ again.reports = sim.reports ∧ again.final = sim.final := by
  have start : Session.start (.int 2) (.int 2) [⟨1, 0⟩] =
    .ok ⟨⟨2, 2, .ofList [⟨1, 0⟩], by decide, by decide, by decide⟩, none⟩ := rfl
  have answered : Session.Follows
      ⟨⟨2, 2, .ofList [⟨1, 0⟩], by decide, by decide, by decide⟩, none⟩
      ["OBSTACLE 1,1", "MOVE", "OBSTACLE 0,1", "PLACE 0,0,NORTH", "MOVE", "REPORT"] := by
    decide +kernel
  obtain ⟨sim, again, first, second, same⟩ := refusals_leave_no_trace start answered
  refine ⟨_, start, answered, sim, again, first, ?_, same⟩
  cases first
  exact second

end RobotGrid
