import Mathlib.Data.List.Induction

/-!
# Histories

A history lists steps in their order.  What is said of a step may depend on the history before
it, and is proved by adding one step at the end.
-/

namespace FrameEval

variable {α : Type} {kind : List α → α → Prop} {history : List α} {step : α}

/-- Some step was of a kind, as the history before it has it. -/
def Happened (kind : List α → α → Prop) (history : List α) : Prop :=
  ∃ earlier step later, history = earlier ++ step :: later ∧ kind earlier step

/-- A history that ends in a step is split before that step or at it. -/
theorem concat_eq_append_cons
    {earlier later : List α} {next : α} :
    history ++ [step] = earlier ++ next :: later ↔
      history = earlier ∧ step = next ∧ later = [] ∨
        ∃ rest, later = rest ++ [step] ∧ history = earlier ++ next :: rest := by
  constructor
  · intro whole
    rcases List.eq_nil_or_concat later with rfl | ⟨rest, last, rfl⟩
    · rcases List.append_inj' whole rfl with ⟨same, last⟩
      exact .inl ⟨same, List.singleton_inj.1 last, rfl⟩
    · rw [List.concat_eq_append, ← List.cons_append, ← List.append_assoc] at whole
      rcases List.append_inj' whole rfl with ⟨same, last⟩
      exact .inr ⟨rest, by rw [List.concat_eq_append, last], same⟩
  · rintro (⟨rfl, rfl, rfl⟩ | ⟨rest, rfl, rfl⟩)
    · rfl
    · simp

theorem not_happened_nil : ¬ Happened kind [] := by
  rintro ⟨earlier, step, later, whole, -⟩
  exact absurd whole.symm (by simp)

theorem happened_concat :
    Happened kind (history ++ [step]) ↔ kind history step ∨ Happened kind history := by
  constructor
  · rintro ⟨earlier, next, later, whole, isKind⟩
    rcases concat_eq_append_cons.1 whole with ⟨rfl, rfl, -⟩ | ⟨rest, -, same⟩
    · exact .inl isKind
    · exact .inr ⟨earlier, next, rest, same, isKind⟩
  · rintro (isKind | ⟨earlier, next, rest, rfl, isKind⟩)
    · exact ⟨history, step, [], rfl, isKind⟩
    · exact ⟨earlier, next, rest ++ [step], by simp, isKind⟩

/-- What has happened stays so. -/
theorem Happened.of_append
    {earlier later : List α} (happened : Happened kind earlier) :
    Happened kind (earlier ++ later) := by
  rcases happened with ⟨first, step, rest, rfl, isKind⟩
  exact ⟨first, step, rest ++ later, by simp, isKind⟩

end FrameEval
