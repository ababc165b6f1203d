import RobotGrid.Proofs.Conduct
import RobotGrid.Proofs.Rendering

set_option autoImplicit false

/-!
# Reports that are fed back

A robot that is told to go where its own report says it is stays there: the cell is one that the
board admits, since the robot stands on it. Only the numerals can be in the way, for a robot moves
past the largest coordinate that a command can name. Reports tell poses apart at any distance.
-/
namespace RobotGrid

namespace Pose

theorem report_eq_ok_iff {p : Pose} {text : String} : p.report = .ok text ↔
    p.cell.Written ∧ text.toList = row (Instruction.placeFields p.cell p.heading) := by
  by_cases written : p.cell.Written
  · have shown : (s!"{p.cell.x},{p.cell.y},{p.heading.name}").toList =
        row (Instruction.placeFields p.cell p.heading) := by
      simp only [String.toList_append, List.append_assoc]
      rfl
    rw [report_of_written written, Except.ok.injEq, ← shown, String.toList_inj]
    simp [written, eq_comm]
  · simp [report_of_not_written written, written]

theorem report_injective {p q : Pose} {text : String} (h : p.report = .ok text)
    (h' : q.report = .ok text) : p = q := by
  have rows := (report_eq_ok_iff.1 h).2.symm.trans (report_eq_ok_iff.1 h').2
  have fields := row_injective rows (List.cons_ne_nil _ _) rfl
    (Instruction.compact_placeFields p.cell p.heading)
    (Instruction.compact_placeFields q.cell q.heading)
  obtain ⟨cell, heading⟩ := placeFields_injective fields
  cases p
  cases q
  simp_all

theorem place_report {p : Pose} {text : String} (h : p.report = .ok text) :
    "PLACE " ++ text = Instruction.render (.place p.cell p.heading) := by
  apply String.toList_inj.1
  rw [Instruction.render_place, toList_commandText, String.toList_append, (report_eq_ok_iff.1 h).2]
  rfl

end Pose

namespace Robot

/-- A robot as it comes out of its own operations, in any order. -/
inductive Reachable : Robot → Prop where
  | created (b : Board) : Reachable (create b)
  | executed {r : Robot} (i : Instruction) (h : Reachable r) : Reachable (r.execute i).1
  | evaluated {r : Robot} (line : String) (h : Reachable r) : Reachable (r.evaluate line).1

theorem Reachable.stands {r : Robot} (h : Reachable r) : r.Stands := by
  induction h with
  | created b =>
    intro p hp
    cases hp
  | @executed r i _ ih => exact (r.executes i).stands ih
  | @evaluated r line _ ih =>
    rcases r.evaluate_fst line with same | ⟨i, moved⟩
    · rw [same]
      exact ih
    · rw [moved]
      exact (r.executes i).stands ih

theorem execute_own_pose {r : Robot} {p : Pose} (placed : r.pose = some p)
    (free : r.board.Free p.cell) : r.execute (.place p.cell p.heading) = (r, .ok none) := by
  have taken : r.execute (.place p.cell p.heading) = ({ r with pose := some p }, .ok none) :=
    occupy_of_free free
  rw [taken, ← placed]

theorem nameable_iff_of_free {b : Board} {c : Cell} (h : b.Free c) :
    c.Nameable ↔ c.x ≤ 2147483647 ∧ c.y ≤ 2147483647 := by
  obtain ⟨⟨left, _, below, _⟩, _⟩ := h
  simp only [Cell.Nameable, Nameable]
  omega

theorem report_of_placed {r : Robot} {p : Pose} (h : r.pose = some p) :
    r.report = p.report.mapError .oversized := by
  simp only [report, h]

/-- A placed robot that is fed its own report stays as it is if the coordinates are ones that a
command can name, as they are on every board with sides up to their number. If not, the report is
told to be invalid; only where it would have more digits than are written there is none to feed. No
two poses have the same report. -/
theorem report_recalls_pose :
    (∀ (r : Robot) (p : Pose), r.Reachable → r.pose = some p →
      let near := p.cell.x ≤ 2147483647 ∧ p.cell.y ≤ 2147483647
      (near → ∃ text, r.report = .ok text ∧ r.evaluate ("PLACE " ++ text) = (r, .ok none)) ∧
      (¬near → p.cell.Written → ∃ text cause, r.report = .ok text ∧
        r.evaluate ("PLACE " ++ text) =
          (r, .error (.fault (.invalidArguments "PLACE" cause)))) ∧
      (¬p.cell.Written → ¬near ∧ r.report = .error (.oversized .written)) ∧
      (r.board.width ≤ 2147483648 → r.board.height ≤ 2147483648 → near)) ∧
    ∀ (p q : Pose) (text : String), p.report = .ok text → q.report = .ok text → p = q := by
  refine ⟨?_, fun p q text => Pose.report_injective⟩
  intro r p reachable placed near
  have free := reachable.stands p placed
  have named : p.cell.Nameable ↔ near := nameable_iff_of_free free
  have told : ∀ text, p.report = .ok text → r.report = .ok text := by
    intro text e
    rw [report_of_placed placed, e]
    rfl
  -- Two limits cut the coordinates: what a command can name, and far beyond it what can be written.
  refine ⟨fun inside => ?_, fun outside written => ?_, fun unwritten => ⟨?_, ?_⟩,
    fun wide high => ?_⟩
  · have report := Pose.report_of_written (named.2 inside).written
    have e := Instruction.read_place_of_nameable (named.2 inside) p.heading
    rw [← Pose.place_report report] at e
    refine ⟨_, told _ report, ?_⟩
    rw [evaluate_of_read e, execute_own_pose placed free]
  · have report := Pose.report_of_written written
    obtain ⟨cause, e⟩ :=
      Instruction.read_place_of_not_nameable (fun h => outside (named.1 h)) written p.heading
    rw [← Pose.place_report report] at e
    exact ⟨_, cause, told _ report, evaluate_of_unread e⟩
  · exact fun inside => unwritten (named.2 inside).written
  · rw [report_of_placed placed, Pose.report_of_not_written unwritten]
    rfl
  · obtain ⟨⟨_, right, _, above⟩, _⟩ := free
    change p.cell.x ≤ 2147483647 ∧ p.cell.y ≤ 2147483647
    omega

/-- A robot far out on a vast board has no report at all. -/
theorem no_report_far_out :
    let r := ((create .vast).execute (.place ⟨unwritten, 0⟩ .north)).1
    r.Reachable ∧ r.pose = some ⟨⟨unwritten, 0⟩, .north⟩ ∧ ∀ text, r.report ≠ .ok text := by
  intro r
  have executed : (create .vast).execute (.place ⟨unwritten, 0⟩ .north) =
      (⟨.vast, some ⟨⟨unwritten, 0⟩, .north⟩⟩, .ok none) := occupy_of_free Board.vast_free
  have placed : r.pose = some ⟨⟨unwritten, 0⟩, .north⟩ := by
    change ((create .vast).execute _).1.pose = _
    rw [executed]
  refine ⟨.executed _ (.created _), placed, fun text told => ?_⟩
  rw [report_of_placed placed,
    Pose.report_of_not_written (Board.not_written_of_unwritten_le (Int.le_refl _))] at told
  cases told

/-- At the largest coordinate that a command can name the report is accepted, and one step further
it is not. -/
theorem report_recalls_pose_up_to_limit :
    let long : Board := ⟨2147483649, 1, .empty, by decide, by decide, fun c h => absurd h (by simp)⟩
    let short : Board := ⟨2, 1, .empty, by decide, by decide, fun c h => absurd h (by simp)⟩
    let last := ((create long).evaluate "PLACE 2147483647,0,EAST").1
    let past := (last.execute .move).1
    let home := ((create short).execute (.place ⟨1, 0⟩ .west)).1
    (last.pose = some ⟨⟨2147483647, 0⟩, .east⟩ ∧ ∃ text, last.report = .ok text ∧
      last.evaluate ("PLACE " ++ text) = (last, .ok none)) ∧
    (past.pose = some ⟨⟨2147483648, 0⟩, .east⟩ ∧ ∃ text cause, past.report = .ok text ∧
      past.evaluate ("PLACE " ++ text) =
        (past, .error (.fault (.invalidArguments "PLACE" cause)))) ∧
    (home.pose = some ⟨⟨1, 0⟩, .west⟩ ∧ home.evaluate "PLACE 1,0,WEST" = (home, .ok none)) ∧
    ∀ q : Pose, q.report = .ok "1,0,WEST" → home.pose = some q := by
  intro long short last past home
  obtain ⟨recalls, injective⟩ := report_recalls_pose
  have atLast : last.pose = some ⟨⟨2147483647, 0⟩, .east⟩ := by decide +kernel
  have atPast : past.pose = some ⟨⟨2147483648, 0⟩, .east⟩ := by decide +kernel
  have atHome : home.pose = some ⟨⟨1, 0⟩, .west⟩ := by decide +kernel
  have made : last.Reachable := .evaluated _ (.created long)
  have moved : past.Reachable := .executed .move made
  have placed : home.Reachable := .executed _ (.created short)
  have report : Pose.report ⟨⟨1, 0⟩, .west⟩ = .ok "1,0,WEST" := rfl
  refine ⟨⟨atLast, (recalls last _ made atLast).1 (by decide)⟩,
    ⟨atPast, (recalls past _ moved atPast).2.1 (by decide) (by decide +kernel)⟩, ⟨atHome, ?_⟩, ?_⟩
  · have near := (recalls home _ placed atHome).2.2.2 (by decide) (by decide)
    obtain ⟨text, told, fed⟩ := (recalls home _ placed atHome).1 near
    rw [report_of_placed atHome, report] at told
    cases told
    exact fed
  · intro q told
    rw [atHome, injective _ q _ report told]

end Robot
end RobotGrid
