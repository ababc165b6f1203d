import RobotGrid.Proofs.Writing
import RobotGrid.Service

set_option autoImplicit false

/-!
# What is sent and received

A JSON value is sent as a text, and it has one if and only if all integers in it can be written. So
the integers that come in can be written, whether as numbers or as texts, which are not read beyond
the same number of digits. What a check makes of a body is as written as the body, and so are the
sides that the environment gives.
-/
namespace RobotGrid
open Text.Numeral (isWritten)

namespace Json

mutual

theorem exists_compact (j : Json) (h : j.isWritten = true) : ∃ text, j.compact = .ok text := by
  cases j with
  | scalar s =>
    cases s with
    | int n => exact ⟨_, Text.Numeral.write_of_isWritten h⟩
    | absent | flag | real | text => exact ⟨_, rfl⟩
  | list items =>
    obtain ⟨texts, e⟩ := exists_compactItems items h
    exact ⟨_, by rw [compact, e]; rfl⟩
  | object members =>
    obtain ⟨texts, e⟩ := exists_compactMembers members h
    exact ⟨_, by rw [compact, e]; rfl⟩

theorem exists_compactItems (items : List Json) (h : itemsWritten items = true) :
    ∃ texts, compactItems items = .ok texts := by
  cases items with
  | nil => exact ⟨_, rfl⟩
  | cons item items =>
    obtain ⟨first, others⟩ := Bool.and_eq_true_iff.1 h
    obtain ⟨text, e⟩ := exists_compact item first
    obtain ⟨texts, e'⟩ := exists_compactItems items others
    exact ⟨_, by rw [compactItems, e, e']; rfl⟩

theorem exists_compactMembers (members : List (String × Json)) (h : membersWritten members = true) :
    ∃ texts, compactMembers members = .ok texts := by
  cases members with
  | nil => exact ⟨_, rfl⟩
  | cons member members =>
    obtain ⟨first, others⟩ := Bool.and_eq_true_iff.1 h
    obtain ⟨text, e⟩ := exists_compact member.2 first
    obtain ⟨texts, e'⟩ := exists_compactMembers members others
    exact ⟨_, by rw [compactMembers, e, e']; rfl⟩

end

theorem itemsWritten_iff {items : List Json} :
    itemsWritten items = true ↔ ∀ item ∈ items, item.isWritten = true := by
  induction items with
  | nil => simp [itemsWritten]
  | cons item items ih => rw [itemsWritten, Bool.and_eq_true, ih, List.forall_mem_cons]

theorem isWritten_of_member? {j value : Json} {name : String} (h : j.isWritten = true)
    (e : j.member? name = some value) : value.isWritten = true := by
  cases j with
  | scalar | list => cases e
  | object members =>
    change membersWritten members = true at h
    change members.lookup name = some value at e
    induction members with
    | nil => cases e
    | cons member members ih =>
      obtain ⟨first, others⟩ := Bool.and_eq_true_iff.1 h
      rw [List.lookup_cons] at e
      split at e
      · exact Option.some.inj e ▸ first
      · exact ih others e

end Json

theorem Body.of?_of_isWritten {j : Json} (h : j.isWritten = true) : Body.of? j = some ⟨j, h⟩ :=
  dif_pos h

theorem Body.val_of_of? {j : Json} {body : Body} (h : Body.of? j = some body) : body.val = j := by
  rw [Body.of?] at h
  split at h
  · exact Option.some.inj h ▸ rfl
  · cases h

theorem Text.ofDigitChars_lt {s : List Char} (digits : ∀ c ∈ s, c.isDigit = true) (init : Nat) :
    Nat.ofDigitChars 10 s init < (init + 1) * 10 ^ s.length := by
  induction s generalizing init with
  | nil => simp
  | cons c s ih =>
    obtain ⟨digit, others⟩ := List.forall_mem_cons.1 digits
    have low : c.toNat - '0'.toNat ≤ 9 := by
      have range := Char.isDigit_iff_toNat.1 digit
      have zero : '0'.toNat = 48 := rfl
      have nine : '9'.toNat = 57 := rfl
      omega
    rw [Nat.ofDigitChars_cons, List.length_cons, Nat.pow_succ]
    calc
      _ < (10 * init + (c.toNat - '0'.toNat) + 1) * 10 ^ s.length := ih others _
      _ ≤ (init + 1) * 10 * 10 ^ s.length := Nat.mul_le_mul_right _ (by omega)
      _ = (init + 1) * (10 ^ s.length * 10) := by rw [Nat.mul_assoc, Nat.mul_comm 10]

namespace Validation

theorem isWritten_of_plainNatural {s : List Char} {n : Nat} (h : plainNatural s = some n) :
    isWritten n = true ∧ isWritten (-n) = true := by
  simp only [plainNatural, Option.ite_none_right_eq_some, List.all_eq_true] at h
  obtain ⟨⟨_, digits, _, short⟩, e⟩ := h
  have size : n < 10 ^ Text.Numeral.digitLimit := by
    rw [← Option.some.inj e]
    calc
      _ < (0 + 1) * 10 ^ s.length := Text.ofDigitChars_lt digits 0
      _ ≤ _ := by rw [Nat.zero_add, Nat.one_mul]; exact Nat.pow_le_pow_right (by decide) short
  rw [isWritten_iff, isWritten_iff, Int.natAbs_neg]
  exact ⟨size, size⟩

theorem isWritten_of_plainInteger {s : List Char} {n : Int} (h : plainInteger s = some n) :
    isWritten n = true := by
  unfold plainInteger at h
  split at h <;> obtain ⟨m, e, rfl⟩ := Option.map_eq_some_iff.1 h
  · exact (isWritten_of_plainNatural e).2
  · exact (isWritten_of_plainNatural e).1

theorem isWritten_of_integerOf {s : List Char} {n : Int} (h : integerOf s = some n) :
    isWritten n = true := by
  unfold integerOf at h
  split at h
  · obtain ⟨digits, _, e⟩ := Option.bind_eq_some_iff.1 h
    exact isWritten_of_plainInteger e
  · obtain ⟨m, e, rfl⟩ := Option.map_eq_some_iff.1 h
    obtain ⟨digits, _, e⟩ := Option.bind_eq_some_iff.1 e
    exact (isWritten_of_plainNatural e).2
  · obtain ⟨digits, _, e⟩ := Option.bind_eq_some_iff.1 h
    exact isWritten_of_plainInteger e

theorem isWritten_of_integerText {s : List Char} {n : Int} (h : integerText s = .ok n) :
    isWritten n = true := by
  unfold integerText at h
  split at h
  · cases h
  · split at h
    · rename_i e
      exact Except.ok.inj h ▸ isWritten_of_integerOf e
    · cases h

theorem isWritten_of_integerReal {x : Binary64} {n : Int} (h : integerReal x = .ok n) :
    isWritten n = true := by
  have size : isWritten realLimit = true := by decide
  unfold integerReal at h
  split at h
  · cases h
  · split at h
    · cases h
    · split at h
      · rename_i near
        have low := near.1
        have positive : 0 < realLimit := by decide
        refine isWritten_of_natAbs_le ?_ size
        rw [← Except.ok.inj h]
        omega
      · cases h

theorem isWritten_of_integer {here : List Place} {j : Json} {n : Int} (h : j.isWritten = true)
    (e : integer here j = .ok n) : isWritten n = true := by
  have reads : readInteger j = .ok n := by
    rw [integer] at e
    cases r : readInteger j with
    | error kind =>
      rw [r] at e
      cases e
    | ok m =>
      rw [r] at e
      exact congrArg _ (Except.ok.inj e)
  cases j with
  | list | object => cases reads
  | scalar s =>
    cases s with
    | absent => cases reads
    | int m => exact Except.ok.inj reads ▸ h
    | flag b => cases b <;> exact Except.ok.inj reads ▸ rfl
    | real x => exact isWritten_of_integerReal reads
    | text s => exact isWritten_of_integerText reads

variable {α : Type} {P : α → Prop} {check : List Place → Json → Checked α}

/-- What holds of all checked members and of the default holds of the member of a body. -/
theorem member_induction (passes : ∀ {here j a}, j.isWritten = true → check here j = .ok a → P a)
    {default : Option α} (given : ∀ a, default = some a → P a) {here : List Place} {j : Json}
    {name : String} {a : α} (h : j.isWritten = true)
    (e : member check default here j name = .ok a) : P a := by
  simp only [member] at e
  split at e
  · rename_i there
    exact passes (Json.isWritten_of_member? h there) e
  · exact Except.ok.inj e ▸ given _ rfl
  · cases e

theorem all_induction {checks : List (Checked α)} {as : List α}
    (passes : ∀ c ∈ checks, ∀ a, c = .ok a → P a) (e : Checked.all checks = .ok as) :
    ∀ a ∈ as, P a := by
  induction checks generalizing as with
  | nil =>
    cases e
    simp
  | cons c checks ih =>
    obtain ⟨first, others⟩ := List.forall_mem_cons.1 passes
    rw [Checked.all] at e
    cases both : Checked.both c (Checked.all checks) with
    | error issues =>
      rw [both] at e
      cases e
    | ok pair =>
      rw [both] at e
      cases e
      obtain ⟨head, tail⟩ := Checked.both_eq_ok_iff.1 both
      exact List.forall_mem_cons.2 ⟨first _ head, ih others tail⟩

theorem list_induction (passes : ∀ {here j a}, j.isWritten = true → check here j = .ok a → P a)
    {here : List Place} {j : Json} {as : List α} (h : j.isWritten = true)
    (e : list check here j = .ok as) : ∀ a ∈ as, P a := by
  cases j with
  | scalar | object => cases e
  | list items =>
    refine all_induction (fun c hc a ha => ?_) e
    obtain ⟨i, hi, made⟩ := List.mem_mapIdx.1 hc
    rw [ha] at made
    exact passes (Json.itemsWritten_iff.1 h _ (List.getElem_mem hi)) made

end Validation

namespace Service

theorem written_of_obstacleInput {here : List Place} {j : Json} {c : Cell} (h : j.isWritten = true)
    (e : obstacleInput here j = .ok c) : c.Written := by
  cases j with
  | scalar | list => cases e
  | object members =>
    simp only [obstacleInput, Validation.object] at e
    cases both : Checked.both
        (Validation.member Validation.integer none here (.object members) "x")
        (Validation.member Validation.integer none here (.object members) "y") with
    | error issues =>
      rw [both] at e
      cases e
    | ok pair =>
      rw [both] at e
      cases e
      obtain ⟨x, y⟩ := Checked.both_eq_ok_iff.1 both
      have nothing : ∀ n : Int, none = some n → isWritten n = true := fun n e => (by cases e)
      exact ⟨Validation.member_induction Validation.isWritten_of_integer nothing h x,
        Validation.member_induction Validation.isWritten_of_integer nothing h y⟩

/-- The integers of a checked simulation can be written. -/
structure SimulationInput.Written (input : SimulationInput) : Prop where
  width : isWritten input.width = true
  height : isWritten input.height = true
  obstacles : ∀ c ∈ input.obstacles, c.Written

theorem written_of_simulationInput {settings : LegibleSettings} {here : List Place} {j : Json}
    {input : SimulationInput} (h : j.isWritten = true)
    (e : simulationInput settings here j = .ok input) : input.Written := by
  cases j with
  | scalar | list => cases e
  | object members =>
    simp only [simulationInput, Validation.object] at e
    generalize whole : Checked.both _ _ = checked at e
    cases checked with
    | error issues => cases e
    | ok parts =>
      cases e
      obtain ⟨width, others⟩ := Checked.both_eq_ok_iff.1 whole
      obtain ⟨height, others⟩ := Checked.both_eq_ok_iff.1 others
      obtain ⟨obstacles, _⟩ := Checked.both_eq_ok_iff.1 others
      refine ⟨?_, ?_, ?_⟩
      · exact Validation.member_induction Validation.isWritten_of_integer
          (fun n e => Option.some.inj e ▸ settings.width_written) h width
      · exact Validation.member_induction Validation.isWritten_of_integer
          (fun n e => Option.some.inj e ▸ settings.height_written) h height
      · refine Validation.member_induction (P := fun cells : List Cell => ∀ c ∈ cells, c.Written)
          (Validation.list_induction written_of_obstacleInput) ?_ h obstacles
        intro cells none
        rw [← Option.some.inj none]
        simp

theorem written_of_checkBody {settings : LegibleSettings} {body : Option Body}
    {input : SimulationInput} (e : checkBody (simulationInput settings) body = .ok input) :
    input.Written := by
  unfold checkBody at e
  split at e
  · cases e
  · cases e
  · rename_i j _
    exact written_of_simulationInput j.property e

end Service

namespace Settings

theorem written_of_positive {here : List Place} {j : Json} {n : { n : Int // 0 < n }}
    (h : j.isWritten = true) (e : Validation.positive here j = .ok n) : isWritten n = true := by
  rw [Validation.positive] at e
  cases r : Validation.integer here j with
  | error issues =>
    rw [r] at e
    cases e
  | ok m =>
    rw [r] at e
    simp only [Except.bind] at e
    split at e
    · exact Except.ok.inj e ▸ Validation.isWritten_of_integer h r
    · cases e

theorem written_of_setting {l : Lookup} {environment : List (String × String)} {name : String}
    {default n : { n : Int // 0 < n }} (given : isWritten default = true)
    (e : setting l environment [] Validation.positive default name = .ok n) :
    isWritten n = true := by
  unfold setting at e
  split at e
  · rename_i value found
    refine written_of_positive ?_ e
    -- Without arguments a value comes from the environment, which holds texts.
    obtain ⟨_, _, rfl⟩ := Option.map_eq_some_iff.1 (show l.find? environment name = _ from found)
    rw [Lookup.value]
    split <;> rfl
  · exact Except.ok.inj e ▸ given

/-- Whatever the environment holds, the settings that it gives are legible. -/
theorem legible_of_load {l : Lookup} {environment : List (String × String)} {s : Settings}
    (e : load l environment [] = .ok s) : ∃ legible : LegibleSettings, legible.toSettings = s := by
  simp only [load] at e
  generalize whole : Checked.both _ _ = checked at e
  cases checked with
  | error issues => cases e
  | ok parts =>
    cases e
    obtain ⟨_, others⟩ := Checked.both_eq_ok_iff.1 whole
    obtain ⟨_, others⟩ := Checked.both_eq_ok_iff.1 others
    obtain ⟨width, others⟩ := Checked.both_eq_ok_iff.1 others
    obtain ⟨height, _⟩ := Checked.both_eq_ok_iff.1 others
    exact ⟨⟨_, written_of_setting rfl width, written_of_setting rfl height⟩, rfl⟩

end Settings
end RobotGrid
