import Mathlib.Algebra.BigOperators.Group.Finset.Basic
import Mathlib.Algebra.Group.Int.Defs
import Mathlib.Algebra.Group.Prod
import RobotGrid.Proofs.Footing

set_option autoImplicit false

/-!
# Drives in closed form

Where a placed robot stands, and which way it faces, can be told from the instructions it has
accepted since. The heading follows from the number of turns alone. The cell is the sum of one unit
step for each move, in the heading that the turns before the move give. What is refused counts
nowhere: a robot that is told only the rest goes the same way.
-/
namespace RobotGrid

namespace Heading

/-- The heading after `n` quarter turns to the right, where turns to the left count negative. -/
def turned (h : Heading) (n : Int) : Heading := right^[(n % 4).toNat] h

theorem right_turned (h : Heading) (n : Int) : (h.turned n).right = h.turned (n + 1) := by
  unfold turned
  by_cases last : n % 4 = 3
  · have next : (n + 1) % 4 = 0 := by omega
    rw [last, next]
    cases h <;> rfl
  · have next : ((n + 1) % 4).toNat = (n % 4).toNat + 1 := by omega
    rw [next, Function.iterate_succ_apply']

theorem left_turned (h : Heading) (n : Int) : (h.turned n).left = h.turned (n - 1) := by
  have back := (h.turned (n - 1)).left_right
  rw [right_turned, Int.sub_add_cancel] at back
  exact back

theorem delta_unit (h : Heading) : h.delta.1.natAbs + h.delta.2.natAbs = 1 := by
  cases h <;> rfl

end Heading

namespace Cell

@[simp] theorem shift_zero (c : Cell) : c.shift (0, 0) = c := by
  cases c
  simp [shift]

theorem shift_shift (c : Cell) (d e : Int × Int) : (c.shift d).shift e = c.shift (d + e) := by
  simp only [shift, Prod.fst_add, Prod.snd_add, Int.add_assoc]

def distance (c d : Cell) : Nat := (d.x - c.x).natAbs + (d.y - c.y).natAbs

theorem distance_shift (c : Cell) (d : Int × Int) :
    c.distance (c.shift d) = d.1.natAbs + d.2.natAbs := by
  simp only [distance, shift]
  omega

end Cell

def netTurns (is : List Instruction) : Int := is.count .right - is.count .left

/-- One unit step for each move, in the heading after the turns before it. -/
def drift (o : Heading) (is : List Instruction) : Int × Int :=
  ∑ k ∈ Finset.range is.length,
    if is[k]? = some .move then (o.turned (netTurns (is.take k))).delta else (0, 0)

theorem netTurns_append (is js : List Instruction) :
    netTurns (is ++ js) = netTurns is + netTurns js := by
  simp only [netTurns, List.count_append]
  omega

theorem drift_snoc (o : Heading) (is : List Instruction) (i : Instruction) :
    drift o (is ++ [i]) =
      drift o is + if i = .move then (o.turned (netTurns is)).delta else (0, 0) := by
  unfold drift
  rw [List.length_append, List.length_singleton, Finset.sum_range_succ]
  congr 1
  · apply Finset.sum_congr rfl
    intro k hk
    have inside := Finset.mem_range.1 hk
    rw [List.getElem?_append_left inside, List.take_append_of_le_length (Nat.le_of_lt inside)]
  · rw [List.getElem?_concat_length, List.take_left]
    simp only [Option.some.injEq]

/-- The steps make up the distance, except for those that undo each other in pairs. -/
theorem drift_bound (o : Heading) (is : List Instruction) :
    let steps := (drift o is).1.natAbs + (drift o is).2.natAbs
    steps ≤ is.count .move ∧ steps % 2 = is.count .move % 2 := by
  induction is using List.reverseRecOn with
  | nil => exact ⟨Nat.le_refl 0, rfl⟩
  | append_singleton is i ih =>
    rw [drift_snoc, List.count_append]
    by_cases move : i = .move
    · have unit := (o.turned (netTurns is)).delta_unit
      have one : [i].count .move = 1 := by rw [move]; rfl
      rw [if_pos move, one, Prod.fst_add, Prod.snd_add]
      dsimp only at ih ⊢
      omega
    · have none : [i].count .move = 0 := List.count_eq_zero.2 (by simpa [eq_comm] using move)
      rw [if_neg move, none, Prod.mk_zero_zero, add_zero]
      exact ih

def Pose.driven (p : Pose) (is : List Instruction) : Pose :=
  ⟨p.cell.shift (drift p.heading is), p.heading.turned (netTurns is)⟩

namespace Pose

@[simp] theorem driven_nil (p : Pose) : p.driven [] = p := by
  cases p
  exact congrArg (Pose.mk · _) (Cell.shift_zero _)

theorem driven_move (p : Pose) (is : List Instruction) :
    p.driven (is ++ [.move]) = (p.driven is).ahead := by
  rw [driven, drift_snoc, netTurns_append, if_pos rfl, ← Cell.shift_shift]
  exact congrArg (Pose.mk _) (by rw [show netTurns [.move] = 0 from rfl, Int.add_zero]; rfl)

theorem driven_still (p : Pose) (is : List Instruction) {i : Instruction} (still : i ≠ .move) :
    p.driven (is ++ [i]) =
      ⟨(p.driven is).cell, p.heading.turned (netTurns is + netTurns [i])⟩ := by
  rw [driven, drift_snoc, netTurns_append, if_neg still, Prod.mk_zero_zero, add_zero]
  rfl

theorem driven_left (p : Pose) (is : List Instruction) :
    p.driven (is ++ [.left]) = (p.driven is).turnLeft := by
  rw [driven_still p is (by decide), turnLeft]
  exact congrArg (Pose.mk _) (p.heading.left_turned _).symm

theorem driven_right (p : Pose) (is : List Instruction) :
    p.driven (is ++ [.right]) = (p.driven is).turnRight := by
  rw [driven_still p is (by decide), turnRight]
  exact congrArg (Pose.mk _) (p.heading.right_turned _).symm

theorem driven_report (p : Pose) (is : List Instruction) :
    p.driven (is ++ [.report]) = p.driven is := by
  rw [driven_still p is (by decide)]
  exact congrArg (Pose.mk _) (congrArg p.heading.turned (Int.add_zero _))

end Pose

namespace Robot

def executeAll (r : Robot) (is : List Instruction) : Robot :=
  is.foldl (fun r i => (r.execute i).1) r

def accepted (r : Robot) : List Instruction → List Instruction
  | [] => []
  | i :: is =>
    match r.execute i with
    | (next, .ok _) => i :: next.accepted is
    | (next, .error _) => next.accepted is

/-- A list of instructions that are all accepted, from the robot before to the robot behind it. -/
inductive Drives : Robot → List Instruction → Robot → Prop where
  | nil (r : Robot) : Drives r [] r
  | cons {r r' last : Robot} {i : Instruction} {is : List Instruction} {m : Option String}
      (head : r.execute i = (r', .ok m)) (tail : Drives r' is last) : Drives r (i :: is) last

theorem executes_of_eq {r r' : Robot} {i : Instruction} {a : Except Failure (Option String)}
    (h : r.execute i = (r', a)) : Executes r i r' a := by
  have executes := r.executes i
  rw [h] at executes
  exact executes

theorem drives_accepted (r : Robot) (is : List Instruction) :
    Drives r (r.accepted is) (r.executeAll is) := by
  induction is generalizing r with
  | nil => exact .nil r
  | cons i is ih =>
    have rest := ih (r.execute i).1
    change Drives r (r.accepted (i :: is)) ((r.execute i).1.executeAll is)
    rw [accepted]
    cases e : (r.execute i).2 with
    | ok m =>
      have step : r.execute i = ((r.execute i).1, .ok m) := Prod.ext rfl e
      rw [step]
      exact .cons step rest
    | error f =>
      have same : (r.execute i).1 = r := execute_eq_of_error e
      have step : r.execute i = (r, .error f) := Prod.ext same e
      rw [step] at rest ⊢
      exact rest

theorem Executes.driven {r r' : Robot} {i : Instruction} {m : Option String} {p : Pose}
    {is : List Instruction} (h : Executes r i r' (.ok m)) (here : r.pose = some (p.driven is))
    (stays : ∀ c o, i ≠ .place c o) : r'.pose = some (p.driven (is ++ [i])) := by
  cases h with
  | @taken _ t target free =>
    cases i with
    | place c o => exact absurd rfl (stays c o)
    | move =>
      rw [target?, here, Option.map_some] at target
      rw [Pose.driven_move]
      exact target.symm
    | obstacle | left | right | report => cases target
  | left placed =>
    rw [here] at placed
    rw [Pose.driven_left, Option.some.inj placed]
  | right placed =>
    rw [here] at placed
    rw [Pose.driven_right, Option.some.inj placed]
  | report placed =>
    rw [Pose.driven_report]
    exact here

theorem Drives.driven {r last : Robot} {is before : List Instruction} {p : Pose}
    (h : Drives r is last) (here : r.pose = some (p.driven before))
    (stays : ∀ c o, .place c o ∉ is) : last.pose = some (p.driven (before ++ is)) := by
  induction h generalizing before with
  | nil r =>
    rw [List.append_nil]
    exact here
  | @cons r r' last i is m head tail ih =>
    have first : ∀ c o, i ≠ .place c o := fun c o e => stays c o (e ▸ List.mem_cons_self)
    have others : ∀ c o, .place c o ∉ is := fun c o h => stays c o (List.mem_cons_of_mem i h)
    have next := (executes_of_eq head).driven here first
    rw [List.append_cons]
    exact ih next others

theorem pose_of_placed {r : Robot} {c : Cell} {o : Heading} {m : Option String}
    (h : (r.execute (.place c o)).2 = .ok m) : (r.execute (.place c o)).1.pose = some ⟨c, o⟩ := by
  have executes := r.executes (.place c o)
  rw [h] at executes
  generalize (r.execute (.place c o)).1 = start at executes ⊢
  cases executes with
  | taken target free => exact target.symm

/-- From an accepted placement on, up to the next one: the heading is the first one after the net
turns that were accepted, and the cell is off the first one by one unit step for each accepted move.
So it is no further off than there were moves, and by as many steps up to pairs. The accepted
instructions alone are accepted again and lead to the same robot. -/
theorem drive_has_closed_form {r : Robot} {c : Cell} {o : Heading} {m : Option String}
    (placed : (r.execute (.place c o)).2 = .ok m) (is : List Instruction)
    (stays : ∀ c' o', .place c' o' ∉ (r.execute (.place c o)).1.accepted is) :
    let start := (r.execute (.place c o)).1
    let done := start.accepted is
    let last := start.executeAll is
    ∃ cell, last.pose = some ⟨cell, o.turned (netTurns done)⟩ ∧
      cell = c.shift (drift o done) ∧ c.distance cell ≤ done.count .move ∧
      c.distance cell % 2 = done.count .move % 2 ∧ Drives start done last := by
  intro start done last
  have drives : Drives start done last := start.drives_accepted is
  have first : start.pose = some (Pose.driven ⟨c, o⟩ []) := by
    rw [Pose.driven_nil]
    exact pose_of_placed placed
  have there := drives.driven first stays
  obtain ⟨bound, parity⟩ := drift_bound o done
  refine ⟨_, there, rfl, ?_, ?_, drives⟩
  · rw [List.nil_append, Cell.distance_shift]
    exact bound
  · rw [List.nil_append, Cell.distance_shift]
    exact parity

/-- Around an obstacle, with a move against it, one against the edge and a placement off the
board. -/
theorem drive_has_closed_form_around_obstacle :
    let board : Board := ⟨3, 3, .ofList [⟨1, 1⟩], by decide, by decide, by decide⟩
    let r := create board
    let is : List Instruction := [.move, .right, .move, .left, .move, .move, .place ⟨9, 9⟩ .south,
      .right, .obstacle ⟨0, 0⟩, .move, .report, .right]
    let start := (r.execute (.place ⟨0, 0⟩ .north)).1
    let done : List Instruction := [.move, .right, .left, .move, .right, .move, .report, .right]
    (r.execute (.place ⟨0, 0⟩ .north)).2 = .ok none ∧ start.accepted is = done ∧
      (∀ c o, .place c o ∉ start.accepted is) ∧
      (start.executeAll is).pose = some ⟨⟨1, 2⟩, .south⟩ ∧
      Drives start done (start.executeAll is) := by
  intro board r is start done
  have placed : (r.execute (.place ⟨0, 0⟩ .north)).2 = .ok none := rfl
  have accepted : start.accepted is = done := by decide +kernel
  have stays : ∀ c o, .place c o ∉ start.accepted is := by
    intro c o
    rw [accepted]
    simp [done]
  obtain ⟨cell, pose, sum, _, _, drives⟩ := drive_has_closed_form placed is stays
  have steps : drift .north (start.accepted is) = (1, 2) := by
    rw [accepted]
    decide +kernel
  have turns : netTurns (start.accepted is) = 2 := by
    rw [accepted]
    decide +kernel
  refine ⟨placed, accepted, stays, ?_, accepted ▸ drives⟩
  rw [pose, sum, steps, turns]
  rfl

end Robot
end RobotGrid
