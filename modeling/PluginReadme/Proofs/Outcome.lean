import Mathlib.Data.List.Forall2

/-!
# Outcomes

When a computation that may fail ends well: then each of its steps does, and each gives what the
next one starts from.
-/

namespace PluginReadme

variable {ε ε' α β : Type} {x : Except ε α}

theorem exists_ok_of_isOk (h : x.isOk = true) : ∃ a, x = .ok a := by
  cases x with
  | ok a => exact ⟨a, rfl⟩
  | error fault => exact absurd h Bool.false_ne_true

theorem eq_ok_of_toOption {a : α} (h : x.toOption = some a) : x = .ok a := by
  cases x with
  | ok b => exact congrArg Except.ok (Option.some.inj h)
  | error fault => cases h

/-- Two steps in a row give a result exactly if both of them do. -/
theorem bind_eq_ok {next : α → Except ε β} {b : β} :
    x >>= next = .ok b ↔ ∃ a, x = .ok a ∧ next a = .ok b := by
  cases x with
  | ok a => simp [bind, Except.bind]
  | error fault => simp [bind, Except.bind]

theorem map_eq_ok {f : α → β} {b : β} : x.map f = .ok b ↔ ∃ a, x = .ok a ∧ f a = b := by
  cases x with
  | ok a => simp [Except.map]
  | error fault => simp [Except.map]

theorem mapError_eq_ok {f : ε → ε'} {a : α} : x.mapError f = .ok a ↔ x = .ok a := by
  cases x with
  | ok b => simp [Except.mapError]
  | error fault => simp [Except.mapError]

/-- A step over a list gives a result exactly if it does for every entry. -/
theorem mapM_eq_ok {f : α → Except ε β} {as : List α} {bs : List β} :
    as.mapM f = .ok bs ↔ List.Forall₂ (fun a b ↦ f a = .ok b) as bs := by
  induction as generalizing bs with
  | nil =>
    rw [List.mapM_nil, List.forall₂_nil_left_iff]
    exact ⟨fun h ↦ (Except.ok.inj h).symm, fun h ↦ h ▸ rfl⟩
  | cons a as ih =>
    rw [List.mapM_cons, List.forall₂_cons_left_iff, bind_eq_ok]
    refine exists_congr fun b ↦ ?_
    simp only [bind_eq_ok, ih]
    constructor
    · rintro ⟨hb, more, hmore, ⟨⟩⟩
      exact ⟨more, hb, hmore, rfl⟩
    · rintro ⟨more, hb, hmore, rfl⟩
      exact ⟨hb, more, hmore, rfl⟩

end PluginReadme
