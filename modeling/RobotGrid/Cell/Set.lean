import RobotGrid.Cell
/-!
# Finite sets of cells

A set of cells is the list of its members in increasing order, so that a set has one
representation. Main statements: membership after an insertion and a removal, and two sets with
the same members are equal.
-/

set_option autoImplicit false

namespace RobotGrid

/-- A finite set of cells, as the increasing list of its members. -/
structure CellSet where
  cells : List Cell
  sorted : cells.Pairwise Cell.Before
  deriving DecidableEq

namespace CellSet

def empty : CellSet := ⟨[], List.Pairwise.nil⟩

instance : Membership Cell CellSet := ⟨fun s c => c ∈ s.cells⟩

instance (c : Cell) (s : CellSet) : Decidable (c ∈ s) := inferInstanceAs (Decidable (c ∈ s.cells))

def size (s : CellSet) : Nat := s.cells.length

theorem nodup (s : CellSet) : s.cells.Nodup := s.sorted.imp Cell.Before.ne

/-- Puts a cell at its place in an increasing list. -/
def place (c : Cell) : List Cell → List Cell
  | [] => [c]
  | d :: r => if c.Before d then c :: d :: r else if c = d then d :: r else d :: place c r

theorem mem_place {c d : Cell} {l : List Cell} : d ∈ place c l ↔ d = c ∨ d ∈ l := by
  induction l with
  | nil => simp [place]
  | cons e r ih =>
    rw [place]
    split
    · simp
    · split
      · rename_i h
        subst h
        simp only [List.mem_cons]
        exact ⟨Or.inr, fun h => h.elim Or.inl id⟩
      · simp only [List.mem_cons, ih]
        exact or_left_comm

theorem place_sorted {c : Cell} {l : List Cell} (h : l.Pairwise Cell.Before) :
    (place c l).Pairwise Cell.Before := by
  induction l with
  | nil => simp [place]
  | cons d r ih =>
    obtain ⟨first, rest⟩ := List.pairwise_cons.1 h
    rw [place]
    split
    · rename_i hc
      refine List.pairwise_cons.2 ⟨?_, h⟩
      intro e he
      rcases List.mem_cons.1 he with he | he
      · exact he ▸ hc
      · exact hc.trans (first e he)
    · split
      · exact h
      · rename_i hc hd
        refine List.pairwise_cons.2 ⟨?_, ih rest⟩
        intro e he
        rcases mem_place.1 he with he | he
        · exact he ▸ (Cell.before_or_before hd).resolve_left hc
        · exact first e he

def insert (s : CellSet) (c : Cell) : CellSet := ⟨place c s.cells, place_sorted s.sorted⟩

def erase (s : CellSet) (c : Cell) : CellSet :=
  ⟨s.cells.filter fun d => d ≠ c, s.sorted.filter _⟩

def ofList (l : List Cell) : CellSet := l.foldl insert empty

@[simp] theorem mem_cells {c : Cell} {s : CellSet} : c ∈ s.cells ↔ c ∈ s := Iff.rfl

@[simp] theorem not_mem_empty (c : Cell) : ¬c ∈ empty := by
  rw [← mem_cells]
  exact List.not_mem_nil

@[simp] theorem mem_insert {s : CellSet} {c d : Cell} : d ∈ s.insert c ↔ d = c ∨ d ∈ s :=
  mem_place

@[simp] theorem mem_erase {s : CellSet} {c d : Cell} : d ∈ s.erase c ↔ d ∈ s ∧ d ≠ c := by
  rw [← mem_cells, ← mem_cells]
  simp [erase]

theorem mem_foldl_insert {l : List Cell} {s : CellSet} {d : Cell} :
    d ∈ l.foldl insert s ↔ d ∈ s ∨ d ∈ l := by
  induction l generalizing s with
  | nil => simp
  | cons c r ih =>
    rw [List.foldl_cons, ih, mem_insert, List.mem_cons]
    exact ⟨fun h => h.elim (fun h => h.elim (Or.inr ∘ Or.inl) Or.inl) (Or.inr ∘ Or.inr),
      fun h => h.elim (Or.inl ∘ Or.inr) (fun h => h.elim (Or.inl ∘ Or.inl) Or.inr)⟩

@[simp] theorem mem_ofList {l : List Cell} {d : Cell} : d ∈ ofList l ↔ d ∈ l := by
  simp [ofList, mem_foldl_insert]

theorem eq_of_sorted_of_mem_iff {l m : List Cell} (hl : l.Pairwise Cell.Before)
    (hm : m.Pairwise Cell.Before) (same : ∀ c, c ∈ l ↔ c ∈ m) : l = m := by
  induction l generalizing m with
  | nil =>
    cases m with
    | nil => rfl
    | cons d r => exact absurd ((same d).2 (by simp)) (by simp)
  | cons c r ih =>
    cases m with
    | nil => exact absurd ((same c).1 (by simp)) (by simp)
    | cons d t =>
      obtain ⟨hc, hr⟩ := List.pairwise_cons.1 hl
      obtain ⟨hd, ht⟩ := List.pairwise_cons.1 hm
      have heads : c = d := by
        rcases List.mem_cons.1 ((same c).1 (by simp)) with e | e
        · exact e
        · rcases List.mem_cons.1 ((same d).2 (by simp)) with f | f
          · exact f.symm
          · exact absurd ((hc d f).trans (hd c e)) (Cell.not_before_self c)
      subst heads
      have tails : ∀ e, e ∈ r ↔ e ∈ t := by
        intro e
        constructor
        · intro he
          exact (List.mem_cons.1 ((same e).1 (by simp [he]))).resolve_left (hc e he).ne.symm
        · intro he
          exact (List.mem_cons.1 ((same e).2 (by simp [he]))).resolve_left (hd e he).ne.symm
      rw [ih hr ht tails]

theorem ext {s t : CellSet} (same : ∀ c, c ∈ s ↔ c ∈ t) : s = t := by
  cases s with
  | mk l hl =>
    cases t with
    | mk m hm =>
      have e : l = m := eq_of_sorted_of_mem_iff hl hm same
      subst e
      rfl

end CellSet
end RobotGrid
