import RobotGrid.Proofs.Furnishing
import RobotGrid.Shelf

set_option autoImplicit false

/-!
# Boards behind requests

A request changes no board but the one on which it puts an obstacle; a new board comes behind the
others. So behind any requests a board has gained the cells on it that were named for its number.
-/
namespace RobotGrid
namespace Shelf

variable {s : Shelf} {i j : Nat} {b t : Board} {c : Cell}

def after (s : Shelf) (requests : List ShelfRequest) : Shelf :=
  requests.foldl (fun s r => (s.handle r).1) s

theorem handle_declare_of_contains (here : s[i]? = some b) (inside : b.Contains c) :
    ∃ t, b.declare c = .ok t ∧ s.handle (.declare i c) = (s.set i t, .ok .nothing) := by
  obtain ⟨t, e, _⟩ := Board.declare_of_contains inside
  exact ⟨t, e, by simp only [handle, here, e]⟩

theorem handle_declare_of_outside (here : s[i]? = some b) (outside : ¬b.Contains c) :
    s.handle (.declare i c) = (s, .error (.obstacleOutOfBounds c)) := by
  have refused := Board.declare_eq_error_iff.2 ⟨outside, rfl⟩
  simp only [handle, here, refused]

theorem getElem?_append (here : s[i]? = some b) (more : Shelf) : (s ++ more)[i]? = some b := by
  rw [List.getElem?_append_left (List.getElem?_eq_some_iff.1 here).1, here]

theorem exists_append_handle {r : ShelfRequest} (quiet : ∀ i c, r ≠ .declare i c) :
    ∃ more, (s.handle r).1 = s ++ more := by
  have unchanged : s = s ++ [] := (List.append_nil s).symm
  cases r with
  | declare i c => exact absurd rfl (quiet i c)
  | contains | blocks | allow | equal | text => exact ⟨[], (ask_fst _ _ _).trans unchanged⟩
  | copy i =>
    rw [handle]
    split
    · exact ⟨[], unchanged⟩
    · exact ⟨_, rfl⟩
  | create width height cells =>
    rw [handle]
    split
    · exact ⟨_, rfl⟩
    · exact ⟨[], unchanged⟩

theorem gains_handle_declare (here : s[i]? = some b) (c : Cell) :
    ∃ t, (s.handle (.declare i c)).1[i]? = some t ∧ b.Gains (· = c) t := by
  by_cases inside : b.Contains c
  · obtain ⟨t, e, taken⟩ := handle_declare_of_contains here inside
    refine ⟨t, ?_, Board.gains_of_declare e⟩
    rw [taken, List.getElem?_set_self (List.getElem?_eq_some_iff.1 here).1]
  · rw [handle_declare_of_outside here inside]
    exact ⟨b, here, Board.gains_of_outside inside⟩

theorem gains_handle (here : s[i]? = some b) (r : ShelfRequest) :
    ∃ t, (s.handle r).1[i]? = some t ∧ b.Gains (fun c => r = .declare i c) t := by
  by_cases quiet : ∀ i c, r ≠ .declare i c
  · obtain ⟨more, e⟩ := exists_append_handle (s := s) quiet
    refine ⟨b, ?_, b.gains_self fun c h => quiet i c h.1⟩
    rw [e]
    exact getElem?_append here more
  · obtain ⟨j, c, rfl⟩ : ∃ j c, r = .declare j c := by simpa using quiet
    by_cases other : j = i
    · subst other
      obtain ⟨t, there, gains⟩ := gains_handle_declare here c
      exact ⟨t, there, gains.congr fun d => by simp [eq_comm]⟩
    · rw [handle_declare_of_ne s c other]
      exact ⟨b, here, b.gains_self fun d h => other (by cases h.1; rfl)⟩

theorem getElem?_handle (here : s[i]? = some b) {r : ShelfRequest} (quiet : ∀ c, r ≠ .declare i c) :
    (s.handle r).1[i]? = some b := by
  obtain ⟨t, there, gains⟩ := gains_handle here r
  have same : b = t := gains.eq_iff.2 fun c named => absurd named (quiet c)
  rw [there, ← same]

theorem gains_after (here : s[i]? = some b) (requests : List ShelfRequest) :
    ∃ t, (s.after requests)[i]? = some t ∧ b.Gains (fun c => .declare i c ∈ requests) t := by
  induction requests generalizing s b with
  | nil => exact ⟨b, here, b.gains_self (by simp)⟩
  | cons r requests ih =>
    obtain ⟨t, there, first⟩ := gains_handle here r
    obtain ⟨u, last, others⟩ := ih there
    refine ⟨u, last, (first.trans others).congr fun c => ?_⟩
    rw [List.mem_cons, eq_comm]

theorem after_of_unnamed (here : s[i]? = some b) {requests : List ShelfRequest}
    (unnamed : ∀ c, .declare i c ∉ requests) : (s.after requests)[i]? = some b := by
  obtain ⟨t, there, gains⟩ := gains_after here requests
  have same : b = t := gains.eq_iff.2 fun c named => absurd named (unnamed c)
  rw [there, ← same]

theorem handle_equal (here : s[i]? = some b) (there : s[j]? = some t) :
    s.handle (.equal i (some j)) = (s, .ok (.flag (decide (t = b)))) := by
  simp only [handle, ask, here, Option.bind_some, there, Option.some.injEq]

end Shelf
end RobotGrid
