import Mathlib.Algebra.BigOperators.Group.List.Basic
import Mathlib.Algebra.Group.Action.Defs
import Mathlib.Algebra.Group.Prod
import Mathlib.Data.Int.ModEq
import Mathlib.Data.List.Perm.Basic
import RobotGrid.Cell.Displacement
import RobotGrid.Heading.Turn
import RobotGrid.Proofs.Drive

set_option autoImplicit false

/-!
# Turns and displacements as group actions

The integers act on the headings by quarter turns to the left, and the pairs of integers act on the
cells by shifts. A turn adds one or takes one away, and a displacement adds its pair. So a sequence
of either kind adds up to one element of a commutative group, which tells where the sequence leads,
in whatever order it is taken. Which elements leave everything in place tells which sequences lead
back.
-/
namespace RobotGrid

section Walk
variable {G P D : Type*} [AddCommMonoid G] [AddAction G P] {step : P → D → P} {amount : D → G}

theorem foldl_eq_sum_vadd (adds : ∀ p d, step p d = amount d +ᵥ p) (p : P) (ds : List D) :
    ds.foldl step p = (ds.map amount).sum +ᵥ p := by
  induction ds generalizing p with
  | nil => exact (zero_vadd G p).symm
  | cons d ds ih =>
    -- What the first step adds comes last in the walk, and the amounts commute.
    rw [List.foldl_cons, ih, adds, vadd_vadd, List.map_cons, List.sum_cons, add_comm]

theorem foldl_eq_of_perm (adds : ∀ p d, step p d = amount d +ᵥ p) (p : P) {ds es : List D}
    (order : ds.Perm es) : ds.foldl step p = es.foldl step p := by
  rw [foldl_eq_sum_vadd adds, foldl_eq_sum_vadd adds, (order.map amount).sum_eq]

end Walk

namespace Turn

def toLeft : Turn → Int
  | .left => 1
  | .right => -1

def netLeft (ts : List Turn) : Int := ts.count .left - ts.count .right

theorem netLeft_cons (t : Turn) (ts : List Turn) : netLeft (t :: ts) = t.toLeft + netLeft ts := by
  cases t <;> simp only [netLeft, toLeft, List.count_cons, beq_iff_eq, reduceCtorEq, if_true,
    if_false] <;> omega

theorem sum_toLeft (ts : List Turn) : (ts.map toLeft).sum = netLeft ts := by
  induction ts with
  | nil => rfl
  | cons t ts ih => rw [List.map_cons, List.sum_cons, ih, netLeft_cons]

end Turn

namespace Heading

@[simp] theorem turned_zero (h : Heading) : h.turned 0 = h := rfl

theorem turned_turned (h : Heading) (m n : Int) : (h.turned m).turned n = h.turned (m + n) := by
  induction n using Int.induction_on with
  | zero => rw [turned_zero, Int.add_zero]
  | succ n ih => rw [← right_turned, ih, right_turned, Int.add_assoc]
  | pred n ih => rw [← left_turned, ih, left_turned, Int.add_sub_assoc]

theorem turned_eq_self_iff (h : Heading) (n : Int) : h.turned n = h ↔ 4 ∣ n := by
  have rest : n % 4 = 0 ∨ n % 4 = 1 ∨ n % 4 = 2 ∨ n % 4 = 3 := by omega
  rw [turned, Int.dvd_iff_emod_eq_zero]
  obtain e | e | e | e := rest <;> rw [e] <;> cases h <;> decide

/-- The integers act on the headings by quarter turns to the left. -/
instance : AddAction Int Heading where
  vadd n h := h.turned (-n)
  zero_vadd h := h.turned_zero
  add_vadd m n h := by
    change h.turned (-(m + n)) = (h.turned (-n)).turned (-m)
    rw [turned_turned, Int.neg_add, Int.add_comm]

theorem vadd_eq_turned (n : Int) (h : Heading) : n +ᵥ h = h.turned (-n) := rfl

theorem vadd_eq_self_iff (n : Int) (h : Heading) : n +ᵥ h = h ↔ 4 ∣ n := by
  rw [vadd_eq_turned, turned_eq_self_iff, Int.dvd_neg]

theorem vadd_eq_vadd_iff (m n : Int) (h : Heading) : m +ᵥ h = n +ᵥ h ↔ m ≡ n [ZMOD 4] := by
  have apart : n +ᵥ h = (n - m) +ᵥ m +ᵥ h := by rw [vadd_vadd, Int.sub_add_cancel]
  rw [apart, eq_comm, vadd_eq_self_iff, Int.modEq_iff_dvd]

theorem turn_eq_vadd (h : Heading) (t : Turn) : h.turn t = t.toLeft +ᵥ h := by
  cases h <;> cases t <;> rfl

theorem turnAll_eq_vadd (h : Heading) (ts : List Turn) : h.turnAll ts = Turn.netLeft ts +ᵥ h := by
  rw [← Turn.sum_toLeft]
  exact foldl_eq_sum_vadd turn_eq_vadd h ts

theorem turnAll_eq_of_perm (h : Heading) {ts us : List Turn} (order : ts.Perm us) :
    h.turnAll ts = h.turnAll us :=
  foldl_eq_of_perm turn_eq_vadd h order

end Heading

namespace Displacement

def total (ds : List Displacement) : Int × Int :=
  ((ds.map fun d => d.delta.1).sum, (ds.map fun d => d.delta.2).sum)

theorem total_cons (d : Displacement) (ds : List Displacement) :
    total (d :: ds) = d.delta + total ds := by
  simp only [total, List.map_cons, List.sum_cons]
  rfl

theorem sum_delta (ds : List Displacement) : (ds.map delta).sum = total ds := by
  induction ds with
  | nil => rfl
  | cons d ds ih => rw [List.map_cons, List.sum_cons, ih, total_cons]

theorem total_steps (hs : List Heading) :
    total (hs.map .step) =
      ((hs.count .east : Int) - hs.count .west, (hs.count .north : Int) - hs.count .south) := by
  induction hs with
  | nil => rfl
  | cons h hs ih =>
    rw [List.map_cons, total_cons, ih]
    cases h <;> simp only [delta, Heading.delta, List.count_cons, beq_iff_eq, reduceCtorEq, if_true,
      if_false, Prod.mk_add_mk, Prod.mk.injEq] <;> omega

end Displacement

namespace Cell

/-- The pairs of integers act on the cells by shifts. -/
instance : AddAction (Int × Int) Cell where
  vadd d c := c.shift d
  zero_vadd c := c.shift_zero
  add_vadd d e c := by
    change c.shift (d + e) = (c.shift e).shift d
    rw [shift_shift, add_comm]

theorem vadd_eq_self_iff (d : Int × Int) (c : Cell) : d +ᵥ c = c ↔ d.1 = 0 ∧ d.2 = 0 := by
  constructor
  · intro back
    obtain ⟨x, y⟩ := Cell.mk.inj back
    omega
  · rintro ⟨x, y⟩
    rw [show d = 0 from Prod.ext x y, zero_vadd]

theorem displace_eq_vadd (c : Cell) (d : Displacement) : c.displace d = d.delta +ᵥ c := rfl

theorem displaceAll_eq_vadd (c : Cell) (ds : List Displacement) :
    c.displaceAll ds = Displacement.total ds +ᵥ c := by
  rw [← Displacement.sum_delta]
  exact foldl_eq_sum_vadd displace_eq_vadd c ds

theorem displaceAll_eq_of_perm (c : Cell) {ds es : List Displacement} (order : ds.Perm es) :
    c.displaceAll ds = c.displaceAll es :=
  foldl_eq_of_perm displace_eq_vadd c order

end Cell

open Turn Displacement in
/-- Turns act on the headings, and displacements on the cells. Where turns lead depends on those to
the left, less those to the right, modulo four and on nothing else, so not on their order, and they
lead back if and only if four divides the difference. Displacements lead off the start by the sum of
their changes of `x` and of `y`, in any order, and lead back if and only if both sums are zero. For
steps alone this means as many to the north as to the south and to the east as to the west. -/
theorem turns_and_displacements_act :
    (∀ (h : Heading) (ts us : List Turn),
      h.turnAll ts = netLeft ts +ᵥ h ∧
      (h.turnAll ts = h.turnAll us ↔ netLeft ts ≡ netLeft us [ZMOD 4]) ∧
      (ts.Perm us → h.turnAll ts = h.turnAll us) ∧
      (h.turnAll ts = h ↔ 4 ∣ netLeft ts)) ∧
    (∀ (c : Cell) (ds es : List Displacement),
      c.displaceAll ds = total ds +ᵥ c ∧
      c.displaceAll ds = ⟨c.x + (total ds).1, c.y + (total ds).2⟩ ∧
      (ds.Perm es → c.displaceAll ds = c.displaceAll es) ∧
      (c.displaceAll ds = c ↔ (total ds).1 = 0 ∧ (total ds).2 = 0)) ∧
    ∀ (c : Cell) (hs : List Heading),
      c.displaceAll (hs.map .step) =
        ⟨c.x + (hs.count .east - hs.count .west), c.y + (hs.count .north - hs.count .south)⟩ ∧
      (c.displaceAll (hs.map .step) = c ↔
        hs.count .north = hs.count .south ∧ hs.count .east = hs.count .west) := by
  refine ⟨fun h ts us => ⟨?_, ?_, ?_, ?_⟩, fun c ds es => ⟨?_, ?_, ?_, ?_⟩, fun c hs => ⟨?_, ?_⟩⟩
  · exact h.turnAll_eq_vadd ts
  · rw [h.turnAll_eq_vadd, h.turnAll_eq_vadd, Heading.vadd_eq_vadd_iff]
  · exact h.turnAll_eq_of_perm
  · rw [h.turnAll_eq_vadd, Heading.vadd_eq_self_iff]
  · exact c.displaceAll_eq_vadd ds
  · exact c.displaceAll_eq_vadd ds
  · exact c.displaceAll_eq_of_perm
  · rw [c.displaceAll_eq_vadd, Cell.vadd_eq_self_iff]
  · rw [c.displaceAll_eq_vadd, total_steps]
    rfl
  · rw [c.displaceAll_eq_vadd, Cell.vadd_eq_self_iff, total_steps]
    -- The two differences, east less west and north less south, are zero.
    dsimp only
    omega

/-- Five turns to the left and one to the right lead back, and so does a way round with two long
shifts, each in two orders. -/
theorem turns_and_displacements_act_in_two_orders :
    let ts : List Turn := [.left, .right, .left, .left, .left, .left]
    let us : List Turn := [.right, .left, .left, .left, .left, .left]
    let ds : List Displacement := [.shift 3000000000 (-7), .step .north, .step .west,
      .shift (-2999999999) 6]
    let es : List Displacement := [.step .west, .shift (-2999999999) 6, .step .north,
      .shift 3000000000 (-7)]
    ts.Perm us ∧ ds.Perm es ∧ Heading.east.turnAll us = .east ∧
      Heading.east.turnAll ts = Heading.east.turnAll us ∧
      Cell.displaceAll ⟨2, -5⟩ es = ⟨2, -5⟩ ∧
      Cell.displaceAll ⟨2, -5⟩ ds = Cell.displaceAll ⟨2, -5⟩ es := by
  intro ts us ds es
  have turns : ts.Perm us := by decide
  have ways : ds.Perm es := by decide
  obtain ⟨heading, cell, _⟩ := turns_and_displacements_act
  obtain ⟨_, _, same, _⟩ := heading .east ts us
  obtain ⟨_, _, _, back⟩ := heading .east us ts
  obtain ⟨_, _, together, _⟩ := cell ⟨2, -5⟩ ds es
  obtain ⟨_, _, _, home⟩ := cell ⟨2, -5⟩ es ds
  exact ⟨turns, ways, back.2 (by decide), same turns, home.2 (by decide), together ways⟩

end RobotGrid
