import RobotGrid.Proofs.Footing

set_option autoImplicit false

/-!
# A robot and the boards that its caller holds

The caller holds the source board and is shown copies of the robot's board. As long as the boards
are apart, what the robot answers depends on the robot alone, so of a run it notices nothing but the
steps that ask it. The source only grows: it has taken the cells on it that were named since. Hence
it differs from the robot's board as soon as one of them was free when the robot was made.
-/
namespace RobotGrid

namespace Handling

/-- The step puts an obstacle on a board that the caller holds. -/
def declares : Handling → Bool
  | .declareOnSource _ => true
  | .declareOnView _ _ => true
  | _ => false

/-- The step is answered by the robot. -/
def asksRobot : Handling → Bool
  | .evaluate _ => true
  | .execute _ => true
  | .report => true
  | _ => false

theorem asksRobot_of_declares {h : Handling} (declares : h.declares = true) :
    h.asksRobot = false := by
  cases h with
  | declareOnSource | declareOnView => rfl
  | evaluate | execute | report | look | compare | recreate => cases declares

end Handling

namespace Workbench

/-- Each step that the robot answers, with its answer and the robot behind it. -/
def told (w : Workbench) : List Handling → List (Handling × Except Failure ShelfAnswer × Robot)
  | [] => []
  | h :: steps =>
    let (next, answer) := w.handle h
    if h.asksRobot then (h, answer, next.robot) :: next.told steps else next.told steps

theorem told_cons_of_asks {h : Handling} (asks : h.asksRobot = true) (w : Workbench)
    (steps : List Handling) : w.told (h :: steps) =
      (h, (w.handle h).2, (w.handle h).1.robot) :: (w.handle h).1.told steps := by
  rw [told]
  exact if_pos asks

theorem told_cons_of_quiet {h : Handling} (quiet : h.asksRobot = false) (w : Workbench)
    (steps : List Handling) : w.told (h :: steps) = (w.handle h).1.told steps := by
  rw [told]
  exact if_neg (by simp [quiet])

theorem handle_of_asks {w w' : Workbench} (same : w.robot = w'.robot) {h : Handling}
    (asks : h.asksRobot = true) :
    (w.handle h).2 = (w'.handle h).2 ∧ (w.handle h).1.robot = (w'.handle h).1.robot := by
  cases h with
  | evaluate line => simp only [handle, same, put_robot, and_self]
  | execute i => simp only [handle, same, put_robot, and_self]
  | report => simp only [handle, same, and_self]
  | declareOnSource | look | declareOnView | compare | recreate => cases asks

theorem Apart.robot_of_quiet {w : Workbench} (apart : w.Apart) {h : Handling}
    (quiet : h.asksRobot = false) (kept : h ≠ .recreate) : (w.handle h).1.robot = w.robot := by
  cases h with
  | evaluate | execute | report => cases quiet
  | declareOnSource c => exact request_robot fun d => by simp [apart.source.symm]
  | look => exact w.look_robot
  | declareOnView view c => exact apart.view_robot view c
  | compare => exact w.compare_robot
  | recreate => exact absurd rfl kept

/-- Benches with the same robot tell the same, also if one is left with the robot's steps alone. -/
theorem told_filter {w w' : Workbench} (apart : w.Apart) (apart' : w'.Apart)
    (same : w.robot = w'.robot) {steps : List Handling} (kept : Handling.recreate ∉ steps) :
    w'.told (steps.filter Handling.asksRobot) = w.told steps ∧
      (w'.handleAll (steps.filter Handling.asksRobot)).robot = (w.handleAll steps).robot := by
  induction steps generalizing w w' with
  | nil => exact ⟨rfl, same.symm⟩
  | cons h steps ih =>
    have first : h ≠ .recreate := fun e => kept (e ▸ List.mem_cons_self)
    have others : Handling.recreate ∉ steps := fun e => kept (List.mem_cons_of_mem h e)
    -- A step that the robot answers is made on both benches, any other on the first alone.
    cases asks : h.asksRobot with
    | true =>
      obtain ⟨answer, robot⟩ := handle_of_asks same asks
      obtain ⟨rest, last⟩ := ih (apart.handle h) (apart'.handle h) robot others
      rw [List.filter_cons_of_pos asks, told_cons_of_asks asks, told_cons_of_asks asks, rest,
        answer, robot]
      exact ⟨rfl, last⟩
    | false =>
      rw [List.filter_cons_of_neg (by simp [asks]), told_cons_of_quiet asks, handleAll_cons]
      exact ih (apart.handle h) apart' ((apart.robot_of_quiet asks first).trans same) others

theorem Apart.told_eq {w : Workbench} (apart : w.Apart) {steps less : List Handling}
    (kept : Handling.recreate ∉ steps) (kept' : Handling.recreate ∉ less)
    (same : less.filter Handling.asksRobot = steps.filter Handling.asksRobot) :
    w.told less = w.told steps ∧ (w.handleAll less).robot = (w.handleAll steps).robot := by
  obtain ⟨whole, last⟩ := told_filter apart apart rfl kept
  obtain ⟨part, last'⟩ := told_filter apart apart rfl kept'
  rw [← whole, ← last, ← part, ← last', same]
  exact ⟨rfl, rfl⟩

theorem filter_asksRobot_undeclared (steps : List Handling) :
    (steps.filter fun h => !h.declares).filter Handling.asksRobot =
      steps.filter Handling.asksRobot := by
  rw [List.filter_filter]
  refine List.filter_congr fun h _ => ?_
  cases declares : h.declares with
  | true => rw [Handling.asksRobot_of_declares declares]; rfl
  | false => simp

theorem request_sourceBoard (w : Workbench) (q : ShelfRequest) :
    w.sourceBoard.Gains (fun c => q = .declare w.source c) (w.request q).1.sourceBoard := by
  obtain ⟨t, there, gains⟩ := Shelf.gains_handle w.getElem?_source q
  rw [show t = (w.request q).1.sourceBoard from
    Option.some.inj (there.symm.trans (w.request q).1.getElem?_source)] at gains
  exact gains

theorem put_sourceBoard {w : Workbench} {r : Robot} (same : r.board = w.robot.board) :
    (w.put r).sourceBoard = w.sourceBoard := by
  have there := (w.put r).getElem?_source
  rw [put_shelf same] at there
  exact Option.some.inj (there.symm.trans w.getElem?_source)

theorem Apart.source_handle {w : Workbench} (apart : w.Apart) (h : Handling) :
    w.sourceBoard.Gains (fun c => h = .declareOnSource c) (w.handle h).1.sourceBoard := by
  have still : ∀ {t : Board}, t = w.sourceBoard → (∀ c, h ≠ .declareOnSource c) →
      w.sourceBoard.Gains (fun c => h = .declareOnSource c) t := by
    rintro t rfl other
    exact w.sourceBoard.gains_self fun c named => other c named.1
  have quiet : ∀ {q}, (∀ c, q ≠ .declare w.source c) →
      (w.request q).1.sourceBoard = w.sourceBoard := fun {q} unnamed =>
    ((w.request_sourceBoard q).eq_iff.2 fun c named => absurd named (unnamed c)).symm
  cases h with
  | evaluate line => exact still (put_sourceBoard (w.robot.evaluate_board line)) (by simp)
  | execute i => exact still (put_sourceBoard (w.robot.execute_board i)) (by simp)
  | report => exact still rfl (by simp)
  | declareOnSource c => exact (w.request_sourceBoard _).congr fun d => by simp
  | look => exact still (quiet (q := .copy w.own) (by simp)) (by simp)
  | declareOnView view c =>
    refine still ?_ (by simp)
    rw [Workbench.handle]
    split
    · rfl
    · rename_i n found
      obtain ⟨_, _, source⟩ := apart.views n (List.mem_of_getElem? found)
      exact quiet fun d => by simp [source]
  | compare =>
    refine still ?_ (by simp)
    have copied := quiet (q := .copy w.own) (by simp)
    refine Eq.trans ?_ copied
    exact (((w.request (.copy w.own)).1.request_sourceBoard _).eq_iff.2 fun c named => by
      simp at named).symm
  | recreate => exact still (quiet (q := .copy w.source) (by simp)) (by simp)

theorem Apart.source_handleAll {w : Workbench} (apart : w.Apart) (steps : List Handling) :
    w.sourceBoard.Gains (fun c => .declareOnSource c ∈ steps) (w.handleAll steps).sourceBoard := by
  induction steps generalizing w with
  | nil => exact w.sourceBoard.gains_self (by simp)
  | cons h steps ih =>
    refine ((apart.source_handle h).trans (ih (apart.handle h))).congr fun c => ?_
    rw [List.mem_cons, eq_comm]

theorem declareOnSource_accepted_iff {w : Workbench} {c : Cell} :
    (∃ a, (w.handle (.declareOnSource c)).2 = .ok a) ↔ w.sourceBoard.Contains c := by
  change (∃ a, (w.shelf.handle (.declare w.source c)).2 = .ok a) ↔ _
  by_cases inside : w.sourceBoard.Contains c
  · obtain ⟨_, _, taken⟩ := Shelf.handle_declare_of_contains w.getElem?_source inside
    simp [taken, inside]
  · simp [Shelf.handle_declare_of_outside w.getElem?_source inside, inside]

theorem handle_compare (w : Workbench) :
    (w.handle .compare).2 = .ok (.flag (decide (w.sourceBoard = w.robot.board))) := by
  change ((w.shelf.handle (.copy w.own)).1.handle (.equal w.shelf.length (some w.source))).2 = _
  rw [copy_own]
  have copy : (w.shelf ++ [w.robot.board])[w.shelf.length]? = some w.robot.board :=
    List.getElem?_concat_length
  rw [Shelf.handle_equal copy (Shelf.getElem?_append w.getElem?_source _)]

/-- From when the robot is made, whatever its caller does: without the obstacles that the caller
puts on the source and on copies of the robot's board, each step of the robot has the same answer
and leaves the same robot, and so does the whole; in fact the robot notices nothing but the steps
that it answers. And its board compares equal to the source as long as no obstacle that the source
has accepted is on a cell that was free when the robot was made. -/
theorem robot_ignores_held_boards (source : Board) (steps : List Handling)
    (kept : Handling.recreate ∉ steps) :
    let made := ofBoard source
    let w := made.handleAll steps
    let undeclared := steps.filter fun h => !h.declares
    (made.told undeclared = made.told steps ∧ (made.handleAll undeclared).robot = w.robot) ∧
    (∀ others, Handling.recreate ∉ others →
      others.filter Handling.asksRobot = steps.filter Handling.asksRobot →
        made.told others = made.told steps ∧ (made.handleAll others).robot = w.robot) ∧
    ∃ equal, (w.handle .compare).2 = .ok (.flag equal) ∧
      (equal = true ↔ ∀ before c after, steps = before ++ .declareOnSource c :: after →
        (∃ a, ((made.handleAll before).handle (.declareOnSource c)).2 = .ok a) →
          ¬source.Free c) := by
  intro made w undeclared
  have apart : made.Apart := apart_ofBoard source
  have kept' : Handling.recreate ∉ undeclared := fun mem => kept (List.mem_filter.1 mem).1
  refine ⟨apart.told_eq kept kept' (filter_asksRobot_undeclared steps),
    fun others kept' same => apart.told_eq kept kept' same, _, w.handle_compare, ?_⟩
  have board : w.robot.board = source := board_handleAll source kept
  have taken : source.Gains (fun c => .declareOnSource c ∈ steps) w.sourceBoard :=
    apart.source_handleAll steps
  rw [decide_eq_true_iff, board, eq_comm, taken.eq_iff]
  constructor
  · rintro held before c after rfl accepted ⟨inside, clear⟩
    exact clear (held c (List.mem_append_right before List.mem_cons_self) inside)
  · intro none c named inside
    obtain ⟨before, after, split⟩ := List.append_of_mem named
    have there : (made.handleAll before).sourceBoard.Contains c :=
      ((apart.source_handleAll before).contains_iff c).2 inside
    have busy := none before c after split (declareOnSource_accepted_iff.2 there)
    exact Decidable.not_not.1 fun clear => busy ⟨inside, clear⟩

/-- Obstacles that are refused or there already leave the boards equal; one on a free cell does not,
and the robot still moves onto this cell. -/
theorem robot_ignores_held_boards_on_its_way :
    let source : Board := ⟨2, 2, .ofList [⟨1, 1⟩], by decide, by decide, by decide⟩
    let made := ofBoard source
    let idle : List Handling := [.declareOnSource ⟨1, 1⟩, .declareOnSource ⟨2, 0⟩, .look,
      .declareOnView 0 ⟨0, 1⟩]
    let busy : List Handling := [.evaluate "place 0,0,east", .look, .declareOnSource ⟨1, 0⟩,
      .declareOnView 0 ⟨1, 0⟩, .execute .move, .execute .move, .report]
    (Handling.recreate ∉ idle ∧ Handling.recreate ∉ busy) ∧
    ((made.handleAll idle).handle .compare).2 = .ok (.flag true) ∧
    ((made.handleAll busy).handle .compare).2 = .ok (.flag false) ∧
    made.told [.evaluate "place 0,0,east", .execute .move, .execute .move, .report] =
      made.told busy ∧
    (made.handleAll busy).robot.pose = some ⟨⟨1, 0⟩, .east⟩ := by
  intro source made idle busy
  have kept : Handling.recreate ∉ idle := by decide
  have kept' : Handling.recreate ∉ busy := by decide
  obtain ⟨_, _, equal, compared, iff⟩ := robot_ignores_held_boards source idle kept
  obtain ⟨_, told, equal', compared', iff'⟩ := robot_ignores_held_boards source busy kept'
  have asked := told [.evaluate "place 0,0,east", .execute .move, .execute .move, .report]
    (by decide) rfl
  have pose : (made.handleAll busy).robot.pose = some ⟨⟨1, 0⟩, .east⟩ := by decide +kernel
  refine ⟨⟨kept, kept'⟩, ?_, ?_, asked.1, pose⟩
  · have same : equal = true := by
      refine iff.2 fun before c after split accepted free => ?_
      have named : Handling.declareOnSource c ∈ idle := split ▸ by simp
      have cells : c = ⟨1, 1⟩ ∨ c = ⟨2, 0⟩ := by simpa [idle] using named
      rcases cells with rfl | rfl
      · exact absurd free (by decide)
      · exact absurd free (by decide)
    rw [← same]
    exact compared
  · have different : equal' = false := by
      refine Bool.eq_false_iff.2 fun same => ?_
      exact iff'.1 same [.evaluate "place 0,0,east", .look] ⟨1, 0⟩ _ rfl ⟨.nothing, rfl⟩ (by decide)
    rw [← different]
    exact compared'

end Workbench
end RobotGrid
