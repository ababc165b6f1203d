import Mathlib.Data.List.Forall2
import RobotGrid.Proofs.Drive

set_option autoImplicit false

/-!
# More room

What a robot is allowed to do is decided by the free cells of its board and by nothing else on it. A
robot that is set on another board, where all of them are free, does again whatever it was allowed
to do. If no further cells are free there, it is also refused the same instructions, and only the
cause of a refusal can tell the two boards apart.
-/
namespace RobotGrid
namespace Robot

def onBoard (r : Robot) (b : Board) : Robot := { r with board := b }

/-- Both robots have one pose, and what they are told differs at most in the cause of a refusal. -/
def Alike (s s' : Robot × Except Failure (Option String)) : Prop :=
  s'.1.pose = s.1.pose ∧ s'.2.mapError Failure.kind = s.2.mapError Failure.kind

variable {r r' : Robot} {b : Board}

theorem execute_onBoard_of_ok (room : ∀ c, r.board.Free c → b.Free c) {i : Instruction}
    {m : Option String} (h : r.execute i = (r', .ok m)) :
    (r.onBoard b).execute i = (r'.onBoard b, .ok m) := by
  cases executes_of_eq h with
  | @taken _ t target free =>
    have there : (r.onBoard b).target? i = some t := target
    rw [execute_of_target there]
    exact occupy_of_free (room t.cell free)
  | left placed => exact execute_left placed
  | right placed => exact execute_right placed
  | report placed told =>
    rw [execute_report (r := r.onBoard b) placed, told]
    rfl

/-- On a board without further free cells the robot is muted where it was. -/
theorem muted_onBoard (tight : ∀ c, b.Free c → r.board.Free c) {i : Instruction}
    (h : r.Muted i) : (r.onBoard b).Muted i := by
  rcases h with ⟨t, target, refused, unwritten⟩ | report
  · exact Or.inl ⟨t, target, fun free => refused (tight t.cell free), unwritten⟩
  · exact Or.inr report

theorem execute_onBoard_of_error (tight : ∀ c, b.Free c → r.board.Free c) {i : Instruction}
    {f : Failure} (h : r.execute i = (r', .error f)) :
    ∃ g, (r.onBoard b).execute i = (r'.onBoard b, .error g) ∧ g.kind = f.kind := by
  cases executes_of_eq h with
  | @barred _ t reason target barrier =>
    have there : (r.onBoard b).target? i = some t := target
    have taken : ¬b.Free t.cell := by
      intro free
      have allowed := Board.allow_eq_ok_iff.2 (tight t.cell free)
      rw [barrier] at allowed
      cases allowed
    obtain ⟨reason', refused⟩ := Board.exists_fault_of_allow barrier taken
    rw [execute_of_target there]
    exact ⟨_, occupy_of_refused (r := r.onBoard b) refused, rfl⟩
  | obstacle => exact ⟨_, rfl, rfl⟩
  | unplaced none place obstacle =>
    have refused := execute_of_unplaced (r := r.onBoard b) none place obstacle
    exact ⟨_, Prod.ext (execute_eq_of_error refused) refused, rfl⟩
  | muted muted =>
    have silent := execute_eq_oversized_iff.2 ⟨rfl, muted_onBoard tight muted⟩
    exact ⟨_, Prod.ext (execute_eq_of_error silent) silent, rfl⟩

theorem alike_execute (same : ∀ c, r.board.Free c ↔ b.Free c) (i : Instruction) :
    ((r.onBoard b).execute i).1 = (r.execute i).1.onBoard b ∧
      Alike (r.execute i) ((r.onBoard b).execute i) := by
  cases e : (r.execute i).2 with
  | ok m =>
    have there := execute_onBoard_of_ok (fun c => (same c).1) (Prod.ext rfl e)
    rw [there]
    exact ⟨rfl, rfl, by rw [e]⟩
  | error f =>
    obtain ⟨g, there, kind⟩ := execute_onBoard_of_error (fun c => (same c).2) (Prod.ext rfl e)
    rw [there]
    exact ⟨rfl, rfl, by rw [e]; exact congrArg Except.error kind⟩

theorem trail_onBoard {is : List Instruction} (room : ∀ c, r.board.Free c → b.Free c)
    (accepted : ∀ s ∈ r.trail is, ∃ m, s.2 = .ok m) :
    (r.onBoard b).trail is = (r.trail is).map (fun s => (s.1.onBoard b, s.2)) ∧
      (r.onBoard b).executeAll is = (r.executeAll is).onBoard b := by
  induction is generalizing r with
  | nil => exact ⟨rfl, rfl⟩
  | cons i is ih =>
    obtain ⟨⟨m, e⟩, others⟩ := List.forall_mem_cons.1 accepted
    have there := execute_onBoard_of_ok room (Prod.ext rfl e)
    obtain ⟨way, last⟩ := ih (r := (r.execute i).1) (by rw [execute_board]; exact room) others
    constructor
    · rw [trail, trail, List.map_cons, there, e, way]
    · change ((r.onBoard b).execute i).1.executeAll is = _
      rw [there]
      exact last

theorem alike_trail (same : ∀ c, r.board.Free c ↔ b.Free c) (is : List Instruction) :
    List.Forall₂ Alike (r.trail is) ((r.onBoard b).trail is) := by
  induction is generalizing r with
  | nil => exact .nil
  | cons i is ih =>
    obtain ⟨there, alike⟩ := alike_execute same i
    have rest := ih (r := (r.execute i).1) (by rw [execute_board]; exact same)
    rw [← there] at rest
    exact .cons alike rest

/-- If the free cells of one board are free on another, then a list of instructions that a new robot
on the first accepts as a whole is accepted as a whole by a new robot on the second: with the same
reports, through the same poses, to the same last pose. If the two boards have the same free cells,
then whatever the instructions are, the same ones are accepted with the same reports, the others are
refused by faults of the same kind, and the poses are the same behind each. -/
theorem more_room_never_hurts (b b' : Board) (is : List Instruction) :
    ((∀ c, b.Free c → b'.Free c) → (∀ s ∈ (create b).trail is, ∃ m, s.2 = .ok m) →
      (create b').trail is = ((create b).trail is).map (fun s => (s.1.onBoard b', s.2)) ∧
        ((create b').executeAll is).pose = ((create b).executeAll is).pose) ∧
    ((∀ c, b.Free c ↔ b'.Free c) →
      List.Forall₂ Alike ((create b).trail is) ((create b').trail is)) := by
  refine ⟨fun room accepted => ?_, fun same => ?_⟩
  · obtain ⟨way, last⟩ := trail_onBoard (r := create b) room accepted
    have pose := congrArg Robot.pose last
    exact ⟨way, pose⟩
  · exact alike_trail (r := create b) same is

/-- A longer board, and one as long of which the end is blocked. On the longer one the robot does
what it did, and on the other one it is stopped where it was, for another cause. -/
theorem more_room_never_hurts_beyond_edge :
    let short : Board := ⟨2, 1, .empty, by decide, by decide, fun c h => absurd h (by simp)⟩
    let long : Board := ⟨3, 1, .empty, by decide, by decide, fun c h => absurd h (by simp)⟩
    let closed : Board := ⟨3, 1, .ofList [⟨2, 0⟩], by decide, by decide, by decide⟩
    let on : List Instruction := [.place ⟨0, 0⟩ .east, .move, .report]
    let past : List Instruction := [.place ⟨0, 0⟩ .east, .move, .move, .report]
    (∀ c, short.Free c → long.Free c) ∧ (∀ s ∈ (create short).trail on, ∃ m, s.2 = .ok m) ∧
      ((create long).trail on).map Prod.snd = [.ok none, .ok none, .ok (some "1,0,EAST")] ∧
      ((create long).executeAll on).pose = some ⟨⟨1, 0⟩, .east⟩ ∧
    (∀ c, short.Free c ↔ closed.Free c) ∧
      List.Forall₂ Alike ((create short).trail past) ((create closed).trail past) ∧
      ((create short).trail past).map Prod.snd = [.ok none, .ok none,
        .error (.fault (.placementRejected (.outOfBounds ⟨2, 0⟩ (by decide)))),
        .ok (some "1,0,EAST")] ∧
      ((create closed).trail past).map Prod.snd = [.ok none, .ok none,
        .error (.fault (.placementRejected (.blocked ⟨2, 0⟩ (by decide)))),
        .ok (some "1,0,EAST")] := by
  intro short long closed on past
  have room : ∀ c, short.Free c → long.Free c := by
    rintro c ⟨⟨left, right, below, above⟩, clear⟩
    exact ⟨⟨left, Int.lt_trans right (by decide), below, above⟩, clear⟩
  have same : ∀ c, short.Free c ↔ closed.Free c := by
    rintro ⟨x, y⟩
    simp only [Board.Free, Board.Contains, InRectangle, Board.Blocks, short, closed,
      CellSet.mem_ofList, CellSet.not_mem_empty, List.mem_singleton, Cell.mk.injEq,
      not_false_eq_true, and_true]
    omega
  have accepted : ∀ s ∈ (create short).trail on, ∃ m, s.2 = .ok m := by
    intro s hs
    have told : s.2 ∈ ((create short).trail on).map Prod.snd := List.mem_map_of_mem hs
    have answers : ((create short).trail on).map Prod.snd =
        [.ok none, .ok none, .ok (some "1,0,EAST")] := by decide +kernel
    rw [answers] at told
    simp only [List.mem_cons, List.not_mem_nil, or_false] at told
    rcases told with e | e | e <;> exact ⟨_, e⟩
  obtain ⟨way, last⟩ := (more_room_never_hurts short long on).1 room accepted
  have alike := (more_room_never_hurts short closed past).2 same
  refine ⟨room, accepted, ?_, ?_, same, alike, by decide +kernel, by decide +kernel⟩
  · rw [way]
    decide +kernel
  · rw [last]
    decide +kernel

end Robot
end RobotGrid
