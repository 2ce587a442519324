import Mathlib.Data.List.Forall2

/-!
Computations that may be refused. What a sequence of steps gives comes from what each of them gives
(`ok_of_bind`), and a list is taken up exactly when each of its elements is (`mapM_eq_ok_iff`).
-/
namespace FetchPlan

theorem ok_of_bind {ε α β : Type} {x : Except ε α} {f : α → Except ε β} {b : β}
    (h : (x >>= f) = .ok b) : ∃ a, x = .ok a ∧ f a = .ok b := by
  cases x with
  | error e => cases h
  | ok a => exact ⟨a, rfl, h⟩

theorem ok_of_mapError {ε ε' α : Type} {x : Except ε α} {f : ε → ε'} {a : α}
    (h : x.mapError f = .ok a) : x = .ok a := by
  cases x with
  | error e => cases h
  | ok b => rw [Except.ok.inj h]

theorem ok_of_toOption {ε α : Type} {x : Except ε α} {a : α} (h : x.toOption = some a) :
    x = .ok a := by
  cases x with
  | error e => cases h
  | ok b => rw [Option.some.inj h]

/-- A list is taken up exactly when each of its elements is, in its place. -/
theorem mapM_eq_ok_iff {ε α β : Type} {f : α → Except ε β} : ∀ {xs : List α} {ys : List β},
    xs.mapM f = .ok ys ↔ List.Forall₂ (fun x y => f x = .ok y) xs ys
  | [], ys => by
    cases ys <;> simp [pure, Except.pure]
  | x :: xs, ys => by
    have ih (zs : List β) : xs.mapM f = .ok zs ↔ List.Forall₂ (fun x y => f x = .ok y) xs zs :=
      mapM_eq_ok_iff
    rw [List.mapM_cons]
    cases hx : f x with
    | error e => cases ys <;> simp [bind, Except.bind, hx]
    | ok y =>
      cases hxs : xs.mapM f with
      | error e => cases ys <;> simp [bind, Except.bind, hx, ← ih, hxs]
      | ok zs => cases ys <;> simp [bind, Except.bind, pure, Except.pure, hx, ← ih, hxs]

theorem mapM_cons_ok {ε α β : Type} {f : α → Except ε β} {x : α} {xs : List α} {ys : List β}
    (h : (x :: xs).mapM f = .ok ys) : ∃ z zs, f x = .ok z ∧ xs.mapM f = .ok zs ∧ ys = z :: zs := by
  cases mapM_eq_ok_iff.1 h with
  | @cons _ z _ zs hz hzs => exact ⟨z, zs, hz, mapM_eq_ok_iff.2 hzs, rfl⟩

/-- A list is refused with the first of its elements that is. -/
theorem mapM_append_error {ε α β : Type} {f : α → Except ε β} {x : α} {e : ε} (hx : f x = .error e)
    (ys : List α) :
    ∀ {xs : List α}, (∀ y ∈ xs, ∃ z, f y = .ok z) → (xs ++ x :: ys).mapM f = .error e
  | [], _ => by
    rw [List.nil_append, List.mapM_cons, hx]
    rfl
  | y :: xs, h => by
    obtain ⟨⟨z, hy⟩, hxs⟩ := List.forall_mem_cons.1 h
    have ih := mapM_append_error hx ys hxs
    rw [List.cons_append, List.mapM_cons, hy]
    show ((xs ++ x :: ys).mapM f >>= _) = _
    rw [ih]
    rfl

theorem exists_of_mem_forall₂ {α β : Type} {R : α → β → Prop} {xs : List α} {ys : List β}
    (h : List.Forall₂ R xs ys) {x : α} (hx : x ∈ xs) : ∃ y ∈ ys, R x y := by
  induction h with
  | nil => cases hx
  | @cons x' y xs ys hxy _ ih =>
    rcases List.mem_cons.1 hx with rfl | hx
    · exact ⟨y, List.mem_cons_self, hxy⟩
    · obtain ⟨y', hy', hxy'⟩ := ih hx
      exact ⟨y', List.mem_cons_of_mem y hy', hxy'⟩

theorem ok_of_mem_mapM {ε α β : Type} {f : α → Except ε β} {xs : List α} {ys : List β}
    (h : xs.mapM f = .ok ys) {x : α} (hx : x ∈ xs) : ∃ y, f x = .ok y := by
  obtain ⟨y, -, hy⟩ := exists_of_mem_forall₂ (mapM_eq_ok_iff.1 h) hx
  exact ⟨y, hy⟩

theorem error_of_not_ok {ε α : Type} {x : Except ε α} (h : ∀ a, x ≠ .ok a) : ∃ e, x = .error e := by
  cases x with
  | error e => exact ⟨e, rfl⟩
  | ok a => exact absurd rfl (h a)

theorem exists_of_mem_mapM {ε α β : Type} {f : α → Except ε β} {xs : List α} {ys : List β} {y : β}
    (h : xs.mapM f = .ok ys) (hy : y ∈ ys) : ∃ x ∈ xs, f x = .ok y :=
  exists_of_mem_forall₂ (mapM_eq_ok_iff.1 h).flip hy

end FetchPlan
