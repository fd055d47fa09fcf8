import Mathlib.Data.List.Forall2

set_option autoImplicit false

/-! # Fallible steps along a list

Resolving, opening and loading go through a list from left to right and stop at the first
failure: they are `List.mapM` in `Except`. A traversal succeeds exactly when each step does
(`mapM_eq_ok_iff`), and otherwise its failure is that of the first step that fails
(`mapM_eq_error_iff`), whatever comes after it. Two traversals after each other succeed with
the same result as the one that takes both steps at every element (`mapM_bind_of_ok`,
`exists_mapM_of_mapM_bind`). On failures the two differ: the first traversal looks at later
elements before the second one starts.
-/

namespace Linkage.Traversal

variable {α β γ ε : Type}

/-- A step after another one succeeds only if both do. -/
theorem exists_of_bind_eq_ok {x : Except ε α} {f : α → Except ε β} {y : β}
    (h : x >>= f = .ok y) : ∃ a, x = .ok a ∧ f a = .ok y := by
  cases x with
  | error e => cases h
  | ok a => exact ⟨a, rfl, h⟩

/-- A failure of two steps is that of the first one or, after it, that of the second. -/
theorem bind_eq_error_iff {x : Except ε α} {f : α → Except ε β} {e : ε} :
    x >>= f = .error e ↔ x = .error e ∨ ∃ a, x = .ok a ∧ f a = .error e := by
  cases x with
  | error e' =>
      constructor
      · intro h
        cases h
        exact Or.inl rfl
      · rintro (h | ⟨a, h, -⟩)
        · cases h
          rfl
        · cases h
  | ok a =>
      constructor
      · intro h
        exact Or.inr ⟨a, rfl, h⟩
      · rintro (h | ⟨a', h, hf⟩)
        · cases h
        · cases h
          exact hf

theorem map_eq_ok_iff {x : Except ε α} {f : α → β} {y : β} :
    x.map f = .ok y ↔ ∃ a, x = .ok a ∧ f a = y := by
  cases x with
  | error e => simp [Except.map]
  | ok a => simp [Except.map]

theorem map_eq_error_iff {x : Except ε α} {f : α → β} {e : ε} :
    x.map f = .error e ↔ x = .error e := by
  cases x with
  | error e' => simp [Except.map]
  | ok a => simp [Except.map]

theorem mapError_eq_ok_iff {ε' : Type} {x : Except ε α} {f : ε → ε'} {a : α} :
    x.mapError f = .ok a ↔ x = .ok a := by
  cases x with
  | error e =>
      constructor
      · intro h
        cases h
      · intro h
        cases h
  | ok a' =>
      show Except.ok a' = _ ↔ _
      rw [Except.ok.injEq, Except.ok.injEq]

theorem mapError_eq_error_iff {ε' : Type} {x : Except ε α} {f : ε → ε'} {e' : ε'} :
    x.mapError f = .error e' ↔ ∃ e, x = .error e ∧ f e = e' := by
  cases x with
  | error e =>
      show Except.error (f e) = _ ↔ _
      simp
  | ok a =>
      constructor
      · intro h
        cases h
      · rintro ⟨e, h, -⟩
        cases h

theorem mapM_cons_ok {f : α → Except ε β} {x : α} {y : β} (h : f x = .ok y) (xs : List α) :
    (x :: xs).mapM f = (xs.mapM f).map (y :: ·) := by
  rw [List.mapM_cons, h]
  cases xs.mapM f with
  | error e => rfl
  | ok ys => rfl

theorem mapM_cons_error {f : α → Except ε β} {x : α} {e : ε} (h : f x = .error e)
    (xs : List α) : (x :: xs).mapM f = .error e := by
  rw [List.mapM_cons, h]
  rfl

/-- A traversal succeeds when every step does, with the results in order. -/
theorem mapM_eq_ok_iff {f : α → Except ε β} {xs : List α} {ys : List β} :
    xs.mapM f = .ok ys ↔ List.Forall₂ (fun x y => f x = .ok y) xs ys := by
  induction xs generalizing ys with
  | nil =>
      rw [List.mapM_nil, List.forall₂_nil_left_iff]
      constructor
      · intro h
        cases h
        rfl
      · rintro rfl
        rfl
  | cons x xs ih =>
      rw [List.forall₂_cons_left_iff]
      cases hx : f x with
      | error e =>
          rw [mapM_cons_error hx]
          simp
      | ok y =>
          rw [mapM_cons_ok hx]
          constructor
          · intro h
            cases hxs : xs.mapM f with
            | error e => rw [hxs] at h; cases h
            | ok zs =>
                rw [hxs] at h
                cases h
                exact ⟨y, zs, rfl, ih.1 hxs, rfl⟩
          · rintro ⟨z, zs, hz, hzs, rfl⟩
            cases hz
            rw [ih.2 hzs]
            rfl

/-- A traversal succeeds if every step does. -/
theorem exists_mapM_iff {f : α → Except ε β} {xs : List α} :
    (∃ ys, xs.mapM f = .ok ys) ↔ ∀ x ∈ xs, ∃ y, f x = .ok y := by
  simp only [mapM_eq_ok_iff]
  induction xs with
  | nil => exact ⟨fun _ => nofun, fun _ => ⟨[], .nil⟩⟩
  | cons x xs ih =>
      rw [List.forall_mem_cons, ← ih]
      constructor
      · rintro ⟨ys, hall⟩
        cases hall with
        | cons hxy hrest => exact ⟨⟨_, hxy⟩, _, hrest⟩
      · rintro ⟨⟨y, hxy⟩, ys, hrest⟩
        exact ⟨y :: ys, .cons hxy hrest⟩

/-- A step fails with `e` at some element, and at all elements before it the steps succeed. -/
def FirstFailure (f : α → Except ε β) (xs : List α) (e : ε) : Prop :=
  ∃ before x later, xs = before ++ x :: later ∧ (∀ y ∈ before, ∃ z, f y = .ok z)
    ∧ f x = .error e

theorem firstFailure_cons_of_error {f : α → Except ε β} {x : α} {e e' : ε}
    (hx : f x = .error e') (xs : List α) : FirstFailure f (x :: xs) e ↔ e' = e := by
  constructor
  · rintro ⟨before, y, later, h, hbefore, hy⟩
    cases before with
    | nil =>
        obtain ⟨rfl, -⟩ := List.cons.inj h
        exact Except.error.inj (hx.symm.trans hy)
    | cons first before =>
        -- no step before the failing one fails, but the first one does
        obtain ⟨rfl, -⟩ := List.cons.inj h
        obtain ⟨z, hz⟩ := hbefore x List.mem_cons_self
        rw [hx] at hz
        cases hz
  · rintro rfl
    exact ⟨[], x, xs, rfl, by simp, hx⟩

theorem firstFailure_cons_of_ok {f : α → Except ε β} {x : α} {y : β} {e : ε}
    (hx : f x = .ok y) (xs : List α) : FirstFailure f (x :: xs) e ↔ FirstFailure f xs e := by
  constructor
  · rintro ⟨before, z, later, h, hbefore, hz⟩
    cases before with
    | nil =>
        obtain ⟨rfl, -⟩ := List.cons.inj h
        rw [hx] at hz
        cases hz
    | cons first before =>
        obtain ⟨rfl, rfl⟩ := List.cons.inj h
        exact ⟨before, z, later, rfl, (List.forall_mem_cons.1 hbefore).2, hz⟩
  · rintro ⟨before, z, later, rfl, hbefore, hz⟩
    exact ⟨x :: before, z, later, rfl, List.forall_mem_cons.2 ⟨⟨y, hx⟩, hbefore⟩, hz⟩

/-- A traversal fails in the way of the first step that fails. -/
theorem mapM_eq_error_iff {f : α → Except ε β} {xs : List α} {e : ε} :
    xs.mapM f = .error e ↔ FirstFailure f xs e := by
  induction xs with
  | nil =>
      constructor
      · intro h
        cases h
      · rintro ⟨before, x, later, h, -, -⟩
        simp at h
  | cons x xs ih =>
      cases hx : f x with
      | error e' => rw [mapM_cons_error hx, firstFailure_cons_of_error hx, Except.error.injEq]
      | ok y =>
          rw [mapM_cons_ok hx, firstFailure_cons_of_ok hx, ← ih]
          cases xs.mapM f with
          | error e' => exact Iff.rfl
          | ok ys =>
              constructor
              · intro h
                cases h
              · intro h
                cases h

/-- Every result of a traversal is that of a step. -/
theorem exists_of_mem_mapM {f : α → Except ε β} {xs : List α} {ys : List β}
    (h : xs.mapM f = .ok ys) {y : β} (hy : y ∈ ys) : ∃ x ∈ xs, f x = .ok y := by
  have hall := mapM_eq_ok_iff.1 h
  clear h
  induction hall with
  | nil => cases hy
  | cons hxy _ ih =>
      rcases List.mem_cons.1 hy with rfl | hmem
      · exact ⟨_, List.mem_cons_self, hxy⟩
      · obtain ⟨x, hx, hstep⟩ := ih hmem
        exact ⟨x, List.mem_cons_of_mem _ hx, hstep⟩

/-- Every element of a traversal that succeeds has a result. -/
theorem exists_mem_of_mapM {f : α → Except ε β} {xs : List α} {ys : List β}
    (h : xs.mapM f = .ok ys) {x : α} (hx : x ∈ xs) : ∃ y ∈ ys, f x = .ok y := by
  have hall := mapM_eq_ok_iff.1 h
  clear h
  induction hall with
  | nil => cases hx
  | cons hxy _ ih =>
      rcases List.mem_cons.1 hx with rfl | hmem
      · exact ⟨_, List.mem_cons_self, hxy⟩
      · obtain ⟨y, hy, hstep⟩ := ih hmem
        exact ⟨y, List.mem_cons_of_mem _ hy, hstep⟩

/-- What every step records of its element can be read off the results. -/
theorem map_eq_of_mapM_eq_ok {f : α → Except ε β} {p : β → α} {xs : List α} {ys : List β}
    (hp : ∀ x y, f x = .ok y → p y = x) (h : xs.mapM f = .ok ys) : ys.map p = xs := by
  have hall := mapM_eq_ok_iff.1 h
  induction hall with
  | nil => rfl
  | cons hxy hrest ih =>
      rw [List.map_cons, hp _ _ hxy, ih (mapM_eq_ok_iff.2 hrest)]

/-- The second steps alone, on the results of the first ones. -/
theorem mapM_bind_of_ok {f : α → Except ε β} {g : β → Except ε γ} {xs : List α} {ys : List β}
    (h : xs.mapM f = .ok ys) : (xs.mapM fun x => f x >>= g) = ys.mapM g := by
  have hall := mapM_eq_ok_iff.1 h
  induction hall with
  | nil => rfl
  | @cons x y xs ys hxy hrest ih =>
      rw [List.mapM_cons, List.mapM_cons, ih (mapM_eq_ok_iff.2 hrest), hxy]
      rfl

/-- If both steps succeed everywhere, so do the first steps alone, and then the second ones. -/
theorem exists_mapM_of_mapM_bind {f : α → Except ε β} {g : β → Except ε γ} {xs : List α}
    {zs : List γ} (h : (xs.mapM fun x => f x >>= g) = .ok zs) :
    ∃ ys, xs.mapM f = .ok ys ∧ ys.mapM g = .ok zs := by
  have hall := mapM_eq_ok_iff.1 h
  clear h
  induction hall with
  | nil => exact ⟨[], rfl, rfl⟩
  | @cons x z xs zs hxz hrest ih =>
      obtain ⟨ys, hys, hzs⟩ := ih
      cases hx : f x with
      | error e => rw [hx] at hxz; cases hxz
      | ok y =>
          have hy : g y = .ok z := by rw [hx] at hxz; exact hxz
          refine ⟨y :: ys, ?_, ?_⟩
          · rw [mapM_cons_ok hx, hys]; rfl
          · rw [mapM_cons_ok hy, hzs]; rfl

/-- What relates two lists to a third element by element relates them to each other. -/
theorem forall₂_comp {R : α → β → Prop} {S : β → γ → Prop} {xs : List α} {ys : List β}
    {zs : List γ} (h : List.Forall₂ R xs ys) (h' : List.Forall₂ S ys zs) :
    List.Forall₂ (fun x z => ∃ y, R x y ∧ S y z) xs zs := by
  induction h generalizing zs with
  | nil =>
      cases h'
      exact .nil
  | cons hxy _ ih =>
      cases h' with
      | cons hyz hrest => exact .cons ⟨_, hxy, hyz⟩ (ih hrest)

end Linkage.Traversal
