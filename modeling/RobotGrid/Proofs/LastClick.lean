import RobotGrid.Proofs.Pointer

set_option autoImplicit false

/-!
# The last click on a cell

Obstacles are clicked, and nothing else makes or removes them but a clearing, which removes all. So
whether a cell is one is told by the last effective click on it (`LastClick`): a click on the grid
with the first or the third button while no commands are held. All other steps leave the cell alone
(`Untouched`), whatever a submit is answered. The payload lists the set in its one increasing order,
which no longer shows in what order it was clicked.
-/
namespace RobotGrid
namespace Dashboard

variable {d : Dashboard} {c : Cell} {k : Click}

def Effective (d : Dashboard) (k : Click) (c : Cell) : Prop :=
  d.Hits k c ∧ (k.button = 1 ∨ k.button = 3) ∧ d.commands = []

/-- The steps that decide anew whether a cell is an obstacle. -/
inductive Touches (d : Dashboard) : Cell → Step → Prop where
  | click {k : Click} {c : Cell} (h : d.Effective k c) : Touches d c (.click k)
  | clear (c : Cell) : Touches d c .clear

/-- No step clears, and none is an effective click on the cell. -/
def Untouched (d : Dashboard) (steps : List Step) (c : Cell) : Prop :=
  ∀ before s later, steps = before ++ s :: later → ¬(d.after before).Touches c s

/-- The last effective click on the cell, which no clearing follows. -/
def LastClick (d : Dashboard) (steps : List Step) (c : Cell) (k : Click) : Prop :=
  ∃ before later, steps = before ++ .click k :: later ∧ (d.after before).Effective k c ∧
    (d.after (before ++ [.click k])).Untouched later c

def Progress.posted (p : Progress) : Option Json := p.sent.bind (·.member? "obstacles")

theorem exists_agree_click (d : Dashboard) (k : Click) :
    ∃ obstacles, Agree { d with obstacles } (d.click k).1 := by
  by_cases target : ∃ c, d.Hits k c
  · obtain ⟨c, hit⟩ := target
    by_cases free : d.commands = []
    · rw [click_of_free hit free]
      exact ⟨_, agree_redraw _⟩
    · rw [click_of_held hit free]
      exact ⟨d.obstacles, agree_withStatus d _ _⟩
  · rw [click_of_miss (not_exists.1 target)]
    exact ⟨d.obstacles, rfl, rfl, rfl, rfl, rfl⟩

theorem exists_agree_takeAnswer (d : Dashboard) (commands : List String) (body : Json) :
    ∃ results final, Agree { d with commands, results, final } (d.takeAnswer commands body).1 := by
  cases hr : body.need "results" with
  | error m =>
    refine ⟨d.results, d.final, ?_⟩
    simp only [takeAnswer, hr]
    exact ⟨rfl, rfl, rfl, rfl, rfl⟩
  | ok results =>
    cases hf : body.need "final" with
    | error m =>
      refine ⟨results, d.final, ?_⟩
      simp only [takeAnswer, hr, hf]
      exact ⟨rfl, rfl, rfl, rfl, rfl⟩
    | ok final => exact ⟨results, final, agree_takeAnswer d commands hr hf⟩

theorem exists_agree_submit (d : Dashboard) (text : String) (reply? : Option Reply) :
    ∃ results final,
      Agree { d with commands := d.record d.commands (.submit text reply?), results, final }
        (d.step (.submit text reply?)).dashboard := by
  by_cases success : (d.replyTo text reply?).Succeeds
  · rw [record, if_pos success]
    by_cases none : Text.commandLines text = []
    · rw [step_submit_of_nil none, none, List.append_nil]
      exact ⟨d.results, d.final, rfl, rfl, rfl, rfl, rfl⟩
    · rw [step_submit none]
      cases reply : d.replyTo text reply? with
      | unreachable reason =>
        rw [reply] at success
        cases success
      | answered status shown body =>
        rw [reply] at success
        cases success
        exact exists_agree_takeAnswer d _ body
  · rw [record, if_neg success]
    exact ⟨d.results, d.final, agree_submit success⟩

theorem step_keeps (d : Dashboard) (s : Step) :
    (d.step s).dashboard.settings = d.settings ∧
      (d.step s).dashboard.commands = d.record d.commands s := by
  cases s with
  | click k =>
    obtain ⟨_, same⟩ := d.exists_agree_click k
    exact ⟨same.settings, same.commands⟩
  | submit text reply? =>
    obtain ⟨_, _, same⟩ := d.exists_agree_submit text reply?
    exact ⟨same.settings, same.commands⟩
  | clear =>
    rw [step_clear]
    exact ⟨(agree_redraw _).settings, (agree_redraw _).commands⟩

theorem obstacles_submit (d : Dashboard) (text : String) (reply? : Option Reply) :
    (d.step (.submit text reply?)).dashboard.obstacles = d.obstacles := by
  obtain ⟨_, _, same⟩ := d.exists_agree_submit text reply?
  exact same.obstacles

theorem obstacles_clear (d : Dashboard) : (d.step .clear).dashboard.obstacles = .empty :=
  (agree_redraw _).obstacles

theorem mem_obstacles_step_of_effective (h : d.Effective k c) :
    c ∈ (d.step (.click k)).dashboard.obstacles ↔ k.button = 1 := by
  obtain ⟨hit, button, free⟩ := h
  rw [step_click, obstacles_click_of_free hit free, mem_clicked_self]
  constructor
  · rintro (first | ⟨notThird, _⟩)
    · exact first
    · exact button.resolve_right notThird
  · exact Or.inl

theorem mem_obstacles_step_of_untouched {s : Step} (h : ¬d.Touches c s) :
    c ∈ (d.step s).dashboard.obstacles ↔ c ∈ d.obstacles := by
  cases s with
  | clear => exact absurd (.clear c) h
  | submit text reply? => rw [obstacles_submit]
  | click k =>
    rw [step_click]
    by_cases hit : d.Hits k c
    · -- The click is on the cell, so it comes too late or has another button.
      have ineffective : ¬d.Effective k c := fun effective => h (.click effective)
      by_cases free : d.commands = []
      · have other : ¬(k.button = 1 ∨ k.button = 3) :=
          fun button => ineffective ⟨hit, button, free⟩
        obtain ⟨notFirst, notThird⟩ := not_or.1 other
        rw [obstacles_click_of_free hit free, mem_clicked_self, or_iff_right notFirst,
          and_iff_right notThird]
      · rw [obstacles_click_of_held free]
    · exact mem_obstacles_click_of_ne hit

theorem after_append (d : Dashboard) (steps more : List Step) :
    d.after (steps ++ more) = (d.after steps).after more := List.foldl_append

theorem after_cons (d : Dashboard) (s : Step) (steps : List Step) :
    d.after (s :: steps) = (d.step s).dashboard.after steps := rfl

theorem settings_after (d : Dashboard) (steps : List Step) :
    (d.after steps).settings = d.settings := by
  induction steps generalizing d with
  | nil => rfl
  | cons s steps ih => rw [after_cons, ih, (d.step_keeps s).1]

theorem untouched_cons {s : Step} {steps : List Step} : d.Untouched (s :: steps) c ↔
    ¬d.Touches c s ∧ (d.step s).dashboard.Untouched steps c := by
  constructor
  · intro h
    refine ⟨h [] s steps rfl, fun before s' later e => ?_⟩
    exact h (s :: before) s' later (by rw [e, List.cons_append])
  · rintro ⟨first, others⟩ before s' later e
    cases before with
    | nil =>
      obtain ⟨rfl, _⟩ := List.cons.inj e
      exact first
    | cons s'' before =>
      obtain ⟨rfl, rest⟩ := List.cons.inj e
      exact others before s' later rest

theorem mem_obstacles_after_of_untouched {steps : List Step} (h : d.Untouched steps c) :
    c ∈ (d.after steps).obstacles ↔ c ∈ d.obstacles := by
  induction steps generalizing d with
  | nil => exact Iff.rfl
  | cons s steps ih =>
    obtain ⟨first, others⟩ := untouched_cons.1 h
    exact (ih others).trans (mem_obstacles_step_of_untouched first)

/-- The last step that touches a cell, if there is one. -/
theorem untouched_or_exists_last (d : Dashboard) (steps : List Step) (c : Cell) :
    d.Untouched steps c ∨ ∃ before s later, steps = before ++ s :: later ∧
      (d.after before).Touches c s ∧ (d.after (before ++ [s])).Untouched later c := by
  induction steps generalizing d with
  | nil => exact Or.inl fun before s later e => by simp at e
  | cons s steps ih =>
    rcases ih (d.step s).dashboard with none | ⟨before, s', later, rfl, touches, behind⟩
    · by_cases first : d.Touches c s
      · exact Or.inr ⟨[], s, steps, rfl, first, none⟩
      · exact Or.inl (untouched_cons.2 ⟨first, none⟩)
    · exact Or.inr ⟨s :: before, s', later, rfl, touches, behind⟩

theorem LastClick.mem_iff {steps : List Step} (h : d.LastClick steps c k) :
    c ∈ (d.after steps).obstacles ↔ k.button = 1 := by
  obtain ⟨before, later, rfl, effective, behind⟩ := h
  have split : d.after (before ++ .click k :: later) =
      (d.after (before ++ [.click k])).after later := by
    rw [← after_append, List.append_assoc]
    rfl
  rw [split, mem_obstacles_after_of_untouched behind, after_append]
  exact mem_obstacles_step_of_effective effective

theorem mem_obstacles_after_iff (empty : d.obstacles = .empty) (steps : List Step) (c : Cell) :
    c ∈ (d.after steps).obstacles ↔ ∃ k, d.LastClick steps c k ∧ k.button = 1 := by
  constructor
  · intro mem
    rcases d.untouched_or_exists_last steps c with none | ⟨before, s, later, e, touches, behind⟩
    · rw [mem_obstacles_after_of_untouched none, empty] at mem
      exact absurd mem (CellSet.not_mem_empty c)
    · cases touches with
      | @click k _ effective =>
        have last : d.LastClick steps c k := ⟨before, later, e, effective, behind⟩
        exact ⟨k, last, last.mem_iff.1 mem⟩
      | clear =>
        have split : d.after steps = (d.after (before ++ [.clear])).after later := by
          rw [e, ← after_append, List.append_assoc]
          rfl
        rw [split, mem_obstacles_after_of_untouched behind, after_append] at mem
        change c ∈ ((d.after before).step .clear).dashboard.obstacles at mem
        rw [obstacles_clear] at mem
        exact absurd mem (CellSet.not_mem_empty c)
  · rintro ⟨k, last, first⟩
    exact last.mem_iff.2 first

theorem inside_after (settings : LegibleSettings) (steps : List Step) :
    ∀ c ∈ ((new settings).after steps).obstacles,
      InRectangle (width settings) (height settings) c := by
  intro c mem
  obtain ⟨k, ⟨before, _, _, ⟨⟨_, _, inside⟩, _⟩, _⟩, _⟩ :=
    (mem_obstacles_after_iff rfl steps c).1 mem
  rwa [settings_after] at inside

theorem step_of_held {s : Step} (held : d.commands ≠ []) (other : s ≠ .clear) :
    (d.step s).dashboard.obstacles = d.obstacles ∧ (d.step s).dashboard.commands ≠ [] := by
  rw [(d.step_keeps s).2]
  cases s with
  | clear => exact absurd rfl other
  | click k => exact ⟨obstacles_click_of_held held, held⟩
  | submit text reply? =>
    refine ⟨obstacles_submit d text reply?, ?_⟩
    rw [record]
    split
    · exact List.append_ne_nil_of_left_ne_nil held _
    · exact held

theorem after_of_held {steps : List Step} (held : d.commands ≠ []) (kept : Step.clear ∉ steps) :
    (d.after steps).obstacles = d.obstacles ∧ (d.after steps).commands ≠ [] := by
  induction steps generalizing d with
  | nil => exact ⟨rfl, held⟩
  | cons s steps ih =>
    obtain ⟨first, others⟩ := not_or.1 (mt List.mem_cons.2 kept)
    obtain ⟨same, still⟩ := step_of_held held (Ne.symm first)
    obtain ⟨rest, last⟩ := ih still others
    exact ⟨rest.trans same, last⟩

theorem Agree.effective_iff {d' : Dashboard} (same : Agree d d') (k : Click) (c : Cell) :
    d'.Effective k c ↔ d.Effective k c := by
  rw [Effective, Effective, Hits, Hits, same.settings, same.commands]

theorem posted_submit {text : String} (typed : Text.commandLines text ≠ [])
    (reply? : Option Reply) : (d.step (.submit text reply?)).posted = some (.list
      (d.obstacles.cells.map fun c => .object [("x", .int c.x), ("y", .int c.y)])) := by
  cases e : Text.commandLines text with
  | nil => exact absurd e typed
  | cons line lines =>
    cases reply? with
    | none =>
      simp only [step, submit, e]
      rfl
    | some reply =>
      simp only [step, submit, e]
      rfl

/-- Behind any steps of a new dashboard, whatever its submits are answered: a cell is an obstacle
exactly if the last effective click on it since the last clearing was with the first button, so all
obstacles are in the grid. While commands are held nothing but a clearing changes them. A first
submit that is not answered with success leaves each click as effective as it was. The next submit
posts the obstacles, each once and in increasing order, and two dashboards on which the last clicks
decide alike post the same. -/
theorem last_click_decides (settings : LegibleSettings) (steps : List Step) :
    let fresh := new settings
    let d := fresh.after steps
    let decided (steps : List Step) (c : Cell) := ∃ k, fresh.LastClick steps c k ∧ k.button = 1
    (∀ c, c ∈ d.obstacles ↔ decided steps c) ∧
    (∀ c ∈ d.obstacles, InRectangle (width settings) (height settings) c) ∧
    (d.commands ≠ [] → ∀ more, .clear ∉ more →
      (d.after more).obstacles = d.obstacles ∧ (d.after more).commands ≠ []) ∧
    (d.commands = [] → ∀ text reply?, ¬(d.replyTo text reply?).Succeeds →
      let next := (d.step (.submit text reply?)).dashboard
      next.obstacles = d.obstacles ∧ ∀ k c, next.Effective k c ↔
        k.onGrid = true ∧ Click.cell k = .ok c ∧
          InRectangle (width settings) (height settings) c ∧ (k.button = 1 ∨ k.button = 3)) ∧
    (∃ cells : List Cell, cells.Pairwise Cell.Before ∧ (∀ c, c ∈ cells ↔ c ∈ d.obstacles) ∧
      ∀ text reply?, Text.commandLines text ≠ [] → (d.step (.submit text reply?)).posted =
        some (.list (cells.map fun c => .object [("x", .int c.x), ("y", .int c.y)]))) ∧
    ∀ steps', (∀ c, decided steps' c ↔ decided steps c) → ∀ text text' reply? reply?',
      Text.commandLines text ≠ [] → Text.commandLines text' ≠ [] →
        ((fresh.after steps').step (.submit text' reply?')).posted =
          (d.step (.submit text reply?)).posted := by
  intro fresh d decided
  have members : ∀ steps c, c ∈ (fresh.after steps).obstacles ↔ decided steps c :=
    mem_obstacles_after_iff rfl
  have kept : d.settings = settings := settings_after fresh steps
  refine ⟨members steps, inside_after settings steps, fun held more => after_of_held held,
    fun free text reply? failed => ?_, ?_,
    fun steps' same text text' reply? reply?' typed typed' => ?_⟩
  · have same := agree_submit failed
    refine ⟨same.obstacles, fun k c => ?_⟩
    rw [same.effective_iff, Effective, Hits, kept, and_assoc, and_assoc, and_iff_left free]
  · exact ⟨d.obstacles.cells, d.obstacles.sorted, fun c => Iff.rfl,
      fun text reply? typed => posted_submit typed reply?⟩
  · have equal : (fresh.after steps').obstacles = d.obstacles := by
      refine CellSet.ext fun c => ?_
      rw [members, members, same c]
    rw [posted_submit typed, posted_submit typed', equal]

/-- One of two obstacles is taken back, behind a submit that is lost and ahead of clicks without
effect; then a submit succeeds. Clicked the other way about, the same obstacles are posted. -/
theorem last_click_decides_in_any_order :
    let steps : List Step := [.click ⟨true, .exact (9 / 2), .exact (1 / 2), 1⟩,
      .click ⟨true, .exact (3 / 2), .exact (5 / 2), 1⟩,
      .submit "LEFT" (some (.unreachable "refused")),
      .click ⟨true, .exact (3 / 2), .exact (5 / 2), 3⟩,
      .click ⟨true, .exact (1 / 2), .exact (7 / 2), 1⟩,
      .click ⟨true, .exact (1 / 2), .exact (7 / 2), 2⟩,
      .click ⟨false, .exact (9 / 2), .exact (1 / 2), 3⟩]
    let turned : List Step := [.click ⟨true, .exact (1 / 2), .exact (7 / 2), 1⟩,
      .click ⟨true, .exact (9 / 2), .exact (1 / 2), 1⟩]
    let fresh := new .standard
    let d := fresh.after steps
    let busy := fresh.after (steps ++ [.submit "MOVE" none])
    (d.commands = [] ∧ ¬(d.replyTo "MOVE" (some (.answered 500 "" .null))).Succeeds ∧
      busy.commands ≠ [] ∧ Text.commandLines "MOVE" ≠ []) ∧
    (∃ k, fresh.LastClick steps ⟨4, 0⟩ k ∧ k.button = 1) ∧
    (¬∃ k, fresh.LastClick steps ⟨1, 2⟩ k ∧ k.button = 1) ∧
    (busy.after [.click ⟨true, .exact (9 / 2), .exact (1 / 2), 3⟩]).obstacles = busy.obstacles ∧
    (d.step (.submit "MOVE" (some (.answered 500 "" .null)))).dashboard.Effective
      ⟨true, .exact (9 / 2), .exact (1 / 2), 3⟩ ⟨4, 0⟩ ∧
    (d.step (.submit "MOVE" none)).posted = some (.list
      [.object [("x", .int 0), ("y", .int 3)], .object [("x", .int 4), ("y", .int 0)]]) ∧
    ((fresh.after turned).step (.submit "MOVE" none)).posted =
      (d.step (.submit "MOVE" none)).posted := by
  intro steps turned fresh d busy
  have typed : Text.commandLines "MOVE" ≠ [] := by decide +kernel
  have free : d.commands = [] := by decide +kernel
  have held : busy.commands ≠ [] := by decide +kernel
  have failed : ¬(d.replyTo "MOVE" (some (.answered 500 "" .null))).Succeeds := by
    simp [replyTo, Reply.Succeeds]
  have there : d.obstacles.cells = [⟨0, 3⟩, ⟨4, 0⟩] := by decide +kernel
  have also : (fresh.after turned).obstacles.cells = [⟨0, 3⟩, ⟨4, 0⟩] := by decide +kernel
  obtain ⟨members, _, _, enabled, ⟨cells, sorted, same, posted⟩, equal⟩ :=
    last_click_decides .standard steps
  obtain ⟨members', _⟩ := last_click_decides .standard turned
  obtain ⟨_, _, frozen, _⟩ := last_click_decides .standard (steps ++ [.submit "MOVE" none])
  have list : cells = [⟨0, 3⟩, ⟨4, 0⟩] := by
    rw [← there]
    exact CellSet.eq_of_sorted_of_mem_iff sorted d.obstacles.sorted same
  refine ⟨⟨free, failed, held, typed⟩, (members _).1 ?_, fun decided => ?_,
    (frozen held _ (by simp)).1, ((enabled free _ _ failed).2 _ _).2
      ⟨rfl, congrArg Except.ok (by decide +kernel), by decide +kernel, Or.inr rfl⟩, ?_, ?_⟩
  · change _ ∈ d.obstacles.cells
    rw [there]
    decide
  · have mem : _ ∈ d.obstacles.cells := (members _).2 decided
    rw [there] at mem
    exact absurd mem (by decide)
  · rw [posted _ _ typed, list]
    rfl
  · refine equal turned (fun c => ?_) _ _ _ _ typed typed
    have alike : c ∈ (fresh.after turned).obstacles.cells ↔ c ∈ d.obstacles.cells := by
      rw [also, there]
    exact (members' c).symm.trans (alike.trans (members c))

end Dashboard
end RobotGrid
