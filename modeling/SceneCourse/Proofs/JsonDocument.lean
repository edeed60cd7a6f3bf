import SceneCourse.Course.Document

/-! Documents that JSON texts write. A list or a mapping that is read from a JSON text is held at
one place only, so it carries no mark, and neither does the course that is read from it. -/

namespace SceneCourse

theorem bind_eq_ok {ε α β : Type} {x : Except ε α} {f : α → Except ε β} {b : β}
    (h : x >>= f = .ok b) : ∃ a, x = .ok a ∧ f a = .ok b := by
  cases x with
  | ok a => exact ⟨a, rfl, h⟩
  | error e => cases h

namespace Json

theorem mark_readMembers {rules : Rules} {depth : Option Nat} {fuel : Nat} {es : Entries Value}
    {cs rest : List Char} {v : Value} (h : readMembers rules depth fuel es cs = .ok (v, rest)) :
    v.mark = 0 := by
  induction fuel generalizing es cs with
  | zero => cases h
  | succ fuel ih =>
    unfold readMembers at h
    split at h
    next rest' =>
      obtain ⟨⟨name, rest₁⟩, -, h⟩ := bind_eq_ok h
      dsimp only at h
      split at h
      next rest₂ _ =>
        obtain ⟨⟨w, rest₃⟩, -, h⟩ := bind_eq_ok h
        dsimp only at h
        split at h
        next => exact ih h
        next =>
          cases h
          rfl
        next => cases h
      next => cases h
    next => cases h

theorem mark_readNumber {rules : Rules} {negative : Bool} {cs rest : List Char} {v : Value}
    (h : readNumber rules negative cs = .ok (v, rest)) : v.mark = 0 := by
  unfold readNumber at h
  dsimp only at h
  repeat' split at h
  all_goals first
    | (cases h; rfl)
    | cases h

theorem mark_readValue {rules : Rules} {depth : Option Nat} {fuel : Nat} {cs rest : List Char}
    {v : Value} (h : readValue rules depth fuel cs = .ok (v, rest)) : v.mark = 0 := by
  cases fuel with
  | zero => cases h
  | succ fuel =>
    unfold readValue at h
    split at h
    case h_1 cs' =>
      cases read : readText rules.pairs cs' with
      | error e => simp [read, Except.map] at h
      | ok r =>
        rw [read] at h
        cases h
        rfl
    case h_2 =>
      split at h
      next =>
        cases h
        rfl
      next =>
        obtain ⟨_, -, h⟩ := bind_eq_ok h
        obtain ⟨_, -, h⟩ := bind_eq_ok h
        cases h
        rfl
    case h_3 =>
      split at h
      next =>
        cases h
        rfl
      next =>
        obtain ⟨_, -, h⟩ := bind_eq_ok h
        exact mark_readMembers h
    case h_10 => exact mark_readNumber h
    case h_11 => exact mark_readNumber h
    all_goals
      cases h
      rfl

/-- What a JSON text writes is held at one place only. -/
theorem mark_parse {rules : Rules} {text : String} {v : Value} (h : parse rules text = .ok v) :
    v.mark = 0 := by
  unfold parse at h
  obtain ⟨⟨w, rest⟩, read, h⟩ := bind_eq_ok h
  dsimp only at h
  split at h
  next =>
    cases h
    exact mark_readValue read
  next => cases h

end Json

namespace Checked

variable {α β : Type}

theorem map_eq_ok {f : α → β} {x : Checked α} {b : β} (h : f <$> x = .ok b) :
    ∃ a, x = .ok a ∧ f a = b := by
  cases x with
  | ok a =>
    cases h
    exact ⟨a, rfl, rfl⟩
  | faulty cs => cases h
  | stopped e => cases h

theorem seq_eq_ok {f : Checked (α → β)} {x : Checked α} {b : β} (h : f <*> x = .ok b) :
    ∃ g a, f = .ok g ∧ x = .ok a ∧ g a = b := by
  obtain ⟨⟨g, a⟩, pair, rfl⟩ := map_eq_ok h
  cases f <;> cases x <;> cases pair
  exact ⟨g, a, rfl, rfl, rfl⟩

end Checked

open Checked in
/-- A course is marked as its document is. -/
theorem Course.marks_ofValue {v : Value} {c : Course} (h : ofValue v = .ok c) :
    c.marks = v.mark := by
  have read : Course.read v = .ok c := by
    cases hr : Course.read v with
    | ok d =>
      rw [ofValue, hr] at h
      cases h
      rfl
    | faulty cs => simp [ofValue, hr, Checked.toExcept] at h
    | stopped e => simp [ofValue, hr, Checked.toExcept] at h
  cases v with
  | map m es =>
    obtain ⟨g₅, extras, h₅, -, rfl⟩ := seq_eq_ok (show _ <*> _ = _ from read)
    obtain ⟨g₄, scenes, h₄, -, rfl⟩ := seq_eq_ok h₅
    obtain ⟨g₃, start, h₃, -, rfl⟩ := seq_eq_ok h₄
    obtain ⟨g₂, globals, h₂, -, rfl⟩ := seq_eq_ok h₃
    obtain ⟨g₁, about, h₁, -, rfl⟩ := seq_eq_ok h₂
    obtain ⟨schema, -, rfl⟩ := map_eq_ok h₁
    rfl
  | _ => cases read

/-- A course that a JSON text writes holds nothing at two places. -/
theorem Course.marks_eq_zero_of_json {rules : Json.Rules} {text : String} {v : Value} {c : Course}
    (parsed : Json.parse rules text = .ok v) (read : ofValue v = .ok c) : c.marks = 0 := by
  rw [marks_ofValue read]
  exact Json.mark_parse parsed

end SceneCourse
