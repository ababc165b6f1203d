import RobotGrid.Proofs.Replay

set_option autoImplicit false

/-!
# How far an answer is taken over

A dashboard takes an answer of success over piece by piece: the commands first, then the results,
then the final pose. A body that lacks one of the last two ends this half way, and what is held then
belongs to two different answers. Every other reply, and every answer of the service itself, is
taken over as a whole or not at all, even where it cannot be shown.
-/
namespace RobotGrid

theorem Json.need_of_member {j value : Json} {name : String} (h : j.member? name = some value) :
    j.need name = .ok value := by
  cases j with
  | scalar s => cases h
  | list items => cases h
  | object members =>
    have found : members.lookup name = some value := h
    simp only [need, found]

theorem Json.need_of_no_member {j : Json} {name : String} (h : j.member? name = none) :
    ∃ m, j.need name = .error m := by
  cases j with
  | scalar s => exact ⟨_, rfl⟩
  | list items => exact ⟨_, rfl⟩
  | object members =>
    have missing : members.lookup name = none := h
    simp only [need, missing]
    exact ⟨_, rfl⟩

/-- The body lacks a member that is taken over. -/
def Json.Lacking (body : Json) : Prop :=
  body.member? "results" = none ∨ body.member? "final" = none

theorem Json.not_lacking {body results final : Json} (hr : body.member? "results" = some results)
    (hf : body.member? "final" = some final) : ¬body.Lacking := by
  rintro (missing | missing)
  · rw [hr] at missing
    cases missing
  · rw [hf] at missing
    cases missing

/-- The reply tells success, and its body lacks something. -/
def Reply.Lacking : Reply → Prop
  | .answered status _ body => status = 200 ∧ body.Lacking
  | .unreachable _ => False

theorem Reply.Lacking.succeeds {reply : Reply} (h : reply.Lacking) : reply.Succeeds := by
  cases reply with
  | answered status text body => exact h.1
  | unreachable reason => cases h

namespace Dashboard

def held (d : Dashboard) : List String × Json × Json := (d.commands, d.results, d.final)

/-- From one dashboard to the other, nothing of a reply to new commands is taken over, or all. -/
def TakesWhole (d d' : Dashboard) (new : List String) (reply : Reply) : Prop :=
  d'.held = d.held ∨ ∃ status text body results final, reply = .answered status text body ∧
    body.member? "results" = some results ∧ body.member? "final" = some final ∧
    d'.held = (d.commands ++ new, results, final)

theorem Agree.held {d d' : Dashboard} (h : Agree d d') : d'.held = d.held := by
  rw [Dashboard.held, Dashboard.held, h.commands, h.results, h.final]

section
variable {d d' : Dashboard} {new : List String} {body : Json}

theorem takeAnswer_of_no_results (hr : body.member? "results" = none) (commands : List String) :
    ∃ m, d.takeAnswer commands body = ({ d with commands }, some m) := by
  obtain ⟨m, missing⟩ := Json.need_of_no_member hr
  exact ⟨m, by simp only [takeAnswer, missing]⟩

theorem takeAnswer_of_no_final {results : Json} (hr : body.member? "results" = some results)
    (hf : body.member? "final" = none) (commands : List String) :
    ∃ m, d.takeAnswer commands body = ({ d with commands, results }, some m) := by
  obtain ⟨m, missing⟩ := Json.need_of_no_member hf
  exact ⟨m, by simp only [takeAnswer, Json.need_of_member hr, missing]⟩

theorem held_takeAnswer {results final : Json} (hr : body.member? "results" = some results)
    (hf : body.member? "final" = some final) (commands : List String) :
    (d.takeAnswer commands body).1.held = (commands, results, final) :=
  (agree_takeAnswer d commands (Json.need_of_member hr) (Json.need_of_member hf)).held

theorem not_takesWhole_of_lacking (typed : new ≠ []) (lacking : body.Lacking) {results final : Json}
    (h : d'.held = (d.commands ++ new, results, final)) (status : Int) (text : String) :
    ¬TakesWhole d d' new (.answered status text body) := by
  rintro (same | ⟨_, _, _, _, _, ⟨rfl⟩, hr, hf, _⟩)
  · rw [h] at same
    exact typed (List.append_right_eq_self.1 (congrArg Prod.fst same))
  · exact Json.not_lacking hr hf lacking

theorem takeAnswer_takesWhole_iff (typed : new ≠ []) (status : Int) (text : String) :
    TakesWhole d (d.takeAnswer (d.commands ++ new) body).1 new (.answered status text body) ↔
      ¬body.Lacking := by
  cases hr : body.member? "results" with
  | none =>
    have lacking : body.Lacking := Or.inl hr
    obtain ⟨m, taken⟩ := takeAnswer_of_no_results (d := d) hr (d.commands ++ new)
    have mixed := not_takesWhole_of_lacking (d := d) typed lacking (congrArg (·.1.held) taken)
    exact ⟨fun whole => absurd whole (mixed status text), fun full => absurd lacking full⟩
  | some results =>
    cases hf : body.member? "final" with
    | none =>
      have lacking : body.Lacking := Or.inr hf
      obtain ⟨m, taken⟩ := takeAnswer_of_no_final (d := d) hr hf (d.commands ++ new)
      have mixed := not_takesWhole_of_lacking (d := d) typed lacking (congrArg (·.1.held) taken)
      exact ⟨fun whole => absurd whole (mixed status text), fun full => absurd lacking full⟩
    | some final =>
      exact ⟨fun _ => Json.not_lacking hr hf,
        fun _ => Or.inr ⟨_, _, _, _, _, rfl, hr, hf, held_takeAnswer hr hf _⟩⟩

theorem takeReply_takesWhole_iff (typed : new ≠ []) (reply : Reply) :
    TakesWhole d (d.takeReply (d.commands ++ new) reply).1 new reply ↔ ¬reply.Lacking := by
  by_cases success : reply.Succeeds
  · cases reply with
    | unreachable reason => cases success
    | answered status text body =>
      cases success
      have whole : TakesWhole d (d.takeAnswer (d.commands ++ new) body).1 new
          (.answered 200 text body) ↔ ¬body.Lacking := takeAnswer_takesWhole_iff typed 200 text
      exact whole.trans ⟨fun h lacking => h lacking.2, fun h lacking => h ⟨rfl, lacking⟩⟩
  · have kept := (agree_takeReply (d := d) success (d.commands ++ new)).held
    exact ⟨fun _ lacking => success lacking.succeeds, fun _ => Or.inl kept⟩

end

theorem misfit_submit {d : Dashboard} {text : String} (typed : Text.commandLines text ≠ [])
    (reply? : Option Reply) : (d.step (.submit text reply?)).misfit =
      (d.takeReply (d.commands ++ Text.commandLines text) (d.replyTo text reply?)).2 := by
  cases e : Text.commandLines text with
  | nil => exact absurd e typed
  | cons line lines =>
    cases reply? with
    | some reply => simp only [step, submit, replyTo, e]
    | none => simp only [step, submit, replyTo, e]

theorem not_lacking_received {response : Response} {body : Json}
    (valued : response.content = .value body) (whole : response.status = 200 → ¬body.Lacking) :
    ¬(received response).Lacking := by
  simp only [received, valued]
  cases body.compact with
  | ok text => exact fun lacking => whole (Int.ofNat.inj lacking.1) lacking.2
  | error o =>
    rintro ⟨success, _⟩
    cases success

theorem not_lacking_answerSimulation (input : Service.SimulationInput) :
    ¬(received (Service.answerSimulation input)).Lacking := by
  rw [Service.answerSimulation]
  cases simulate (.int input.width) (.int input.height) input.obstacles input.commands with
  | ok sim => exact not_lacking_received rfl fun _ => Json.not_lacking rfl rfl
  | error failure =>
    cases failure with
    | oversized o => exact not_lacking_received rfl fun success => by cases success
    | fault f =>
      refine not_lacking_received rfl fun success => ?_
      cases belongs : f.belongs .config <;> simp [belongs, Service.explained] at success

/-- The service's own answers of success have all that is taken over. -/
theorem not_lacking_serviceReply (width height : Int) (obstacles : CellSet)
    (commands : List String) :
    ¬(serviceReply (payload width height obstacles commands)).Lacking := by
  rw [serviceReply]
  cases sent : Body.of? (payload width height obstacles commands) with
  | none => exact id
  | some body =>
    have told : body.val = payload width height obstacles commands := Body.val_of_of? sent
    simp only [Service.respond_simulate (checkBody_payload told)]
    exact not_lacking_answerSimulation _

theorem held_submit_of_no_final {d : Dashboard} {text shown : String} {body results : Json}
    (typed : Text.commandLines text ≠ []) (hr : body.member? "results" = some results)
    (hf : body.member? "final" = none) :
    (d.step (.submit text (some (.answered 200 shown body)))).dashboard.held =
      (d.commands ++ Text.commandLines text, results, d.final) := by
  obtain ⟨m, taken⟩ := takeAnswer_of_no_final (d := d) hr hf (d.commands ++ Text.commandLines text)
  rw [step_submit typed]
  exact congrArg (·.1.held) taken

/-- A submit of new commands, whatever it meets, is taken over as a whole or not at all, unless the
reply tells success and its body lacks the results or the final pose. Then the new commands are held
with the old final pose, and with the old results unless those of the body were there to be taken
over; the submit ends with a misfit. The service itself never replies so. -/
theorem submit_is_whole_unless_body_lacks (d : Dashboard) {text : String}
    (typed : Text.commandLines text ≠ []) (reply? : Option Reply) :
    let new := Text.commandLines text
    let reply := d.replyTo text reply?
    let next := d.step (.submit text reply?)
    (TakesWhole d next.dashboard new reply ↔ ¬reply.Lacking) ∧
    (∀ shown body, reply = .answered 200 shown body →
      (body.member? "results" = none → next.misfit ≠ none ∧
        next.dashboard.held = (d.commands ++ new, d.results, d.final)) ∧
      ∀ results, body.member? "results" = some results → body.member? "final" = none →
        next.misfit ≠ none ∧ next.dashboard.held = (d.commands ++ new, results, d.final)) ∧
    (reply? = none → ¬reply.Lacking) := by
  intro new reply next
  have dashboard : next.dashboard = (d.takeReply (d.commands ++ new) reply).1 :=
    step_submit typed reply?
  have misfit : next.misfit = (d.takeReply (d.commands ++ new) reply).2 :=
    misfit_submit typed reply?
  rw [dashboard, misfit]
  refine ⟨takeReply_takesWhole_iff typed reply, fun shown body e => ?_, ?_⟩
  · have success :
        d.takeReply (d.commands ++ new) reply = d.takeAnswer (d.commands ++ new) body := by
      rw [e]
      rfl
    rw [success]
    refine ⟨fun hr => ?_, fun results hr hf => ?_⟩
    · obtain ⟨m, taken⟩ := takeAnswer_of_no_results (d := d) hr (d.commands ++ new)
      rw [taken]
      exact ⟨Option.some_ne_none m, rfl⟩
    · obtain ⟨m, taken⟩ := takeAnswer_of_no_final (d := d) hr hf (d.commands ++ new)
      rw [taken]
      exact ⟨Option.some_ne_none m, rfl⟩
  · rintro rfl
    exact not_lacking_serviceReply _ _ _ _

/-- One answer lacks both members and one the final pose; the first commands are answered by the
service. -/
theorem submit_is_whole_unless_body_lacks_pose :
    let d := (new .standard).after [.submit "PLACE 0,0,NORTH" none]
    let bare : Reply := .answered 200 "" (.object [])
    let poseless : Reply := .answered 200 "" (.object [("results", .list [])])
    let lost : Reply := .unreachable "refused"
    Text.commandLines "LEFT; MOVE" ≠ [] ∧
      TakesWhole d (d.step (.submit "LEFT; MOVE" (some lost))).dashboard ["LEFT", "MOVE"] lost ∧
      (d.step (.submit "LEFT; MOVE" (some bare))).dashboard.held =
        (["PLACE 0,0,NORTH", "LEFT", "MOVE"], d.results, d.final) ∧
      (d.step (.submit "LEFT; MOVE" (some poseless))).dashboard.held =
        (["PLACE 0,0,NORTH", "LEFT", "MOVE"], .list [], d.final) := by
  intro d bare poseless lost
  have lines : Text.commandLines "LEFT; MOVE" = ["LEFT", "MOVE"] := by decide +kernel
  have typed : Text.commandLines "LEFT; MOVE" ≠ [] := by rw [lines]; exact List.cons_ne_nil _ _
  have before : d.commands = ["PLACE 0,0,NORTH"] := by decide +kernel
  have whole := (submit_is_whole_unless_body_lacks d typed (some lost)).1.2 id
  have first := ((submit_is_whole_unless_body_lacks d typed (some bare)).2.1 _ _ rfl).1 rfl
  have second :=
    ((submit_is_whole_unless_body_lacks d typed (some poseless)).2.1 _ _ rfl).2 _ rfl rfl
  rw [lines] at whole
  rw [before, lines] at first second
  exact ⟨typed, whole, first.2, second.2⟩

/-- An answer of success without a final pose: the new commands and the new results are held with
the final pose from before. -/
theorem poseless_answer_is_half_taken :
    let d := (new .standard).after [.submit "PLACE 0,0,NORTH" none]
    let reply : Reply := .answered 200 "" (.object [("results", .list [])])
    let d' := (d.step (.submit "MOVE" (some reply))).dashboard
    Text.commandLines "MOVE" = ["MOVE"] ∧ d.commands = ["PLACE 0,0,NORTH"] ∧
      (robotLine d.final).toOption = some "Robot: 0,0,NORTH" ∧
      d'.held = (["PLACE 0,0,NORTH", "MOVE"], .list [], d.final) ∧
      ¬TakesWhole d d' ["MOVE"] reply := by
  intro d reply d'
  have lines : Text.commandLines "MOVE" = ["MOVE"] := by decide +kernel
  have before : d.commands = ["PLACE 0,0,NORTH"] := by decide +kernel
  have typed : Text.commandLines "MOVE" ≠ [] := by rw [lines]; exact List.cons_ne_nil _ _
  have mixed : d'.held = (d.commands ++ Text.commandLines "MOVE", .list [], d.final) :=
    held_submit_of_no_final typed rfl rfl
  rw [lines] at mixed
  have posed : (robotLine d.final).toOption = some "Robot: 0,0,NORTH" := by decide +kernel
  refine ⟨lines, before, posed, ?_, ?_⟩
  · rw [before] at mixed
    exact mixed
  · exact not_takesWhole_of_lacking (List.cons_ne_nil _ _) (Or.inr rfl) mixed _ _

end Dashboard
end RobotGrid
