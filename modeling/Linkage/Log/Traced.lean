import Linkage.Log.Event

set_option autoImplicit false

/-! # Values with their events

What a computation reports while it runs is part of its result: a `Traced` value carries
the events in the order in which they arose. A failing step keeps the events before it, so
a report says how far the work got.
-/

namespace Linkage

/-- A value with the events that arose on the way to it. -/
structure Traced (α : Type) where
  value : α
  events : List Event

namespace Traced

instance : Monad Traced where
  pure a := ⟨a, []⟩
  bind x f := let y := f x.value; ⟨y.value, x.events ++ y.events⟩

/-- Reports an event. -/
def report (e : Event) : Traced Unit := ⟨(), [e]⟩

/-- Times a step: whatever comes of it, its end is reported after it. -/
def timed {α : Type} (label : String) (x : Traced α) : Traced α :=
  ⟨x.value, x.events ++ [.finished label]⟩

/-- Takes a fallible step at each element in order. The first failure ends it, and the steps
after that are not taken. -/
def traverse {ε α β : Type} (step : α → Traced (Except ε β)) :
    List α → Traced (Except ε (List β))
  | [] => pure (.ok [])
  | x :: rest => do
      match ← step x with
      | .error e => pure (.error e)
      | .ok y =>
          match ← traverse step rest with
          | .error e => pure (.error e)
          | .ok ys => pure (.ok (y :: ys))

@[simp] theorem value_pure {α : Type} (a : α) : (pure a : Traced α).value = a := rfl

@[simp] theorem events_pure {α : Type} (a : α) : (pure a : Traced α).events = [] := rfl

@[simp] theorem value_bind {α β : Type} (x : Traced α) (f : α → Traced β) :
    (x >>= f).value = (f x.value).value := rfl

@[simp] theorem events_bind {α β : Type} (x : Traced α) (f : α → Traced β) :
    (x >>= f).events = x.events ++ (f x.value).events := rfl

/-- Without its events, a traversal is one in `Except`. -/
theorem value_traverse {ε α β : Type} (step : α → Traced (Except ε β)) (xs : List α) :
    (traverse step xs).value = xs.mapM fun x => (step x).value := by
  induction xs with
  | nil => rfl
  | cons x rest ih =>
      rw [traverse, value_bind, List.mapM_cons, ← ih]
      cases (step x).value with
      | error e => rfl
      | ok y =>
          rw [value_bind]
          cases (traverse step rest).value with
          | error e => rfl
          | ok ys => rfl

instance : LawfulMonad Traced :=
  LawfulMonad.mk' Traced (fun x => by cases x; simp [Functor.map]) (fun _ _ => by simp [pure, bind])
    (fun _ _ _ => by simp [bind])

end Traced

end Linkage
