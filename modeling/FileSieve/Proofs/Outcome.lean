import Mathlib.Data.List.Forall2
import Mathlib.Tactic.Common

/-!
# Outcomes

When a computation that can fail succeeds, so did every part of it.  When it fails, it is the first
part that fails which says why; for a fold this is one element, and all before it have been taken in
(`foldlM_eq_error_iff`).
-/

namespace FileSieve

variable {ε β γ : Type}

lemma map_eq_ok_iff {f : β → γ} {x : Except ε β} {y : γ} :
    x.map f = .ok y ↔ ∃ b, x = .ok b ∧ f b = y := by
  cases x <;> simp [Except.map]

lemma bind_eq_ok_iff {f : β → Except ε γ} {x : Except ε β} {y : γ} :
    (x >>= f) = .ok y ↔ ∃ b, x = .ok b ∧ f b = .ok y := by
  cases x <;> simp [Bind.bind, Except.bind]

lemma toOption_eq_some_iff {x : Except ε β} {b : β} : x.toOption = some b ↔ x = .ok b := by
  cases x <;> simp [Except.toOption]

lemma map_eq_error_iff {f : β → γ} {x : Except ε β} {e : ε} :
    x.map f = .error e ↔ x = .error e := by
  cases x <;> simp [Except.map]

lemma bind_eq_error_iff {f : β → Except ε γ} {x : Except ε β} {e : ε} :
    (x >>= f) = .error e ↔ x = .error e ∨ ∃ b, x = .ok b ∧ f b = .error e := by
  cases x <;> simp [Bind.bind, Except.bind]

/-- A fold fails with the error of the first element that it cannot take in. -/
lemma foldlM_eq_error_iff {f : γ → β → Except ε γ} {start : γ} {xs : List β} {e : ε} :
    xs.foldlM f start = .error e ↔
      ∃ front x rest s, xs = front ++ x :: rest ∧ front.foldlM f start = .ok s ∧
        f s x = .error e := by
  induction xs generalizing start with
  | nil => simp [pure, Except.pure]
  | cons x xs ih =>
    rw [List.foldlM_cons, bind_eq_error_iff]
    constructor
    · rintro (hx | ⟨s, hx, hxs⟩)
      · exact ⟨[], x, xs, start, rfl, rfl, hx⟩
      · obtain ⟨front, y, rest, t, rfl, hfront, hy⟩ := ih.mp hxs
        refine ⟨x :: front, y, rest, t, rfl, ?_, hy⟩
        rw [List.foldlM_cons, hx]
        exact hfront
    · rintro ⟨front, y, rest, t, hshape, hfront, hy⟩
      rcases front with _ | ⟨z, front⟩
      · obtain ⟨rfl, rfl⟩ := List.cons.inj hshape
        cases hfront
        exact .inl hy
      · obtain ⟨rfl, rfl⟩ := List.cons.inj hshape
        rw [List.foldlM_cons, bind_eq_ok_iff] at hfront
        obtain ⟨s, hx, hrest⟩ := hfront
        exact .inr ⟨s, hx, ih.mpr ⟨front, y, rest, t, rfl, hrest, hy⟩⟩

/-- A list that is mapped by a function that can fail is mapped element by element. -/
lemma mapM_eq_ok_iff {f : β → Except ε γ} {xs : List β} {ys : List γ} :
    xs.mapM f = .ok ys ↔ List.Forall₂ (fun x y => f x = .ok y) xs ys := by
  induction xs generalizing ys with
  | nil => simp [pure, Except.pure, List.forall₂_nil_left_iff, eq_comm]
  | cons x xs ih =>
    rw [List.mapM_cons, bind_eq_ok_iff, List.forall₂_cons_left_iff]
    constructor
    · rintro ⟨y, hx, hrest⟩
      obtain ⟨ys, hxs, hys⟩ := bind_eq_ok_iff.mp hrest
      cases hys
      exact ⟨y, ys, hx, ih.mp hxs, rfl⟩
    · rintro ⟨y, ys, hx, hxs, rfl⟩
      refine ⟨y, hx, bind_eq_ok_iff.mpr ⟨ys, ih.mpr hxs, rfl⟩⟩

end FileSieve
