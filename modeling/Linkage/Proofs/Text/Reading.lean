import Mathlib.Data.List.Forall2

set_option autoImplicit false

/-! # Reading from left to right

A reader takes what it is about from the front of a text and goes on with the rest. Where a
run of characters of one kind ends is decided by the first character behind it
(`takeWhile_append_of_head`, `dropWhile_append_of_head`), so a text or a list of bytes is divided
at the first place of a mark (`span_at`), and in one way only (`append_cons_inj`).

What stands for a list of characters piece by piece, such as the inner part of a string with its
escapes, is read as this list by every reader that takes up one piece at a time (`read_pieces`).
-/

namespace Linkage.Text

/-! ## Runs -/

section Runs

variable {α : Type} {p : α → Bool} {text rest : List α}
variable (htext : ∀ c ∈ text, p c = true) (hrest : ∀ c, rest.head? = some c → p c = false)

include htext hrest

theorem takeWhile_append_of_head : (text ++ rest).takeWhile p = text := by
  rw [List.takeWhile_append_of_pos htext]
  cases rest with
  | nil => exact List.append_nil text
  | cons c rest => rw [List.takeWhile_cons_of_neg (by simp [hrest c rfl]), List.append_nil]

theorem dropWhile_append_of_head : (text ++ rest).dropWhile p = rest := by
  rw [List.dropWhile_append_of_pos htext]
  cases rest with
  | nil => rfl
  | cons c rest => exact List.dropWhile_cons_of_neg (by simp [hrest c rfl])

end Runs

/-! ## Separators -/

section Separators

variable {α : Type} [DecidableEq α] {c : α} {first second first' second' : List α}

/-- What comes before a mark and what starts with it, if it does not come before. -/
theorem span_at (h : c ∉ first) (second : List α) :
    (first ++ c :: second).takeWhile (· != c) = first
      ∧ (first ++ c :: second).dropWhile (· != c) = c :: second := by
  have hfirst : ∀ d ∈ first, (d != c) = true := by
    intro d hd
    rw [bne_iff_ne]
    rintro rfl
    exact h hd
  have hend : ∀ d, (c :: second).head? = some d → (d != c) = false := by
    rintro _ ⟨⟩
    exact bne_self_eq_false' c
  exact ⟨takeWhile_append_of_head hfirst hend, dropWhile_append_of_head hfirst hend⟩

/-- There is only one way to divide a text at the first place of a mark. -/
theorem append_cons_inj (hfirst : c ∉ first) (hfirst' : c ∉ first')
    (h : first ++ c :: second = first' ++ c :: second') : first = first' ∧ second = second' := by
  have htake := (span_at hfirst second).1
  have hdrop := (span_at hfirst second).2
  rw [h, (span_at hfirst' second').1] at htake
  rw [h, (span_at hfirst' second').2] at hdrop
  exact ⟨htake.symm, (List.cons.inj hdrop).2.symm⟩

end Separators

/-! ## Pieces -/

/-- A reader keeps the characters read so far, last one first. If it takes up each piece as the
character that the piece stands for, it takes up all of them. -/
theorem read_pieces {α : Type} {read : List Char → List Char → α}
    {Spells : Char → List Char → Prop}
    (hpiece : ∀ done rest {c piece}, Spells c piece →
      read done (piece ++ rest) = read (c :: done) rest)
    {characters : List Char} {pieces : List (List Char)} (h : List.Forall₂ Spells characters pieces)
    (done rest : List Char) :
    read done (pieces.flatten ++ rest) = read (characters.reverse ++ done) rest := by
  induction h generalizing done with
  | nil => rfl
  | @cons c piece characters pieces hc _ ih =>
      rw [List.flatten_cons, List.append_assoc, hpiece done _ hc, ih, List.reverse_cons,
        List.append_assoc, List.singleton_append]

end Linkage.Text
