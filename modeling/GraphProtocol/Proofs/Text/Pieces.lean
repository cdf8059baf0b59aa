import Mathlib.Data.List.TakeWhile
import GraphProtocol.Text.Class
import GraphProtocol.Text.Unsigned

/-!
# Pieces of texts

A text is its pieces with the separator between them, and pieces without separators are found again.
Trimming takes away exactly the blanks at both ends.
-/

set_option autoImplicit false

namespace GraphProtocol.Text

variable {separator : Char} {cs piece : List Char} {pieces : List (List Char)}

/-! ## Splitting -/

theorem splitAt_ne_nil : splitAt separator cs piece ≠ [] := by
  induction cs generalizing piece with
  | nil => exact List.cons_ne_nil _ _
  | cons c rest ih =>
    rw [splitAt]
    split
    · exact List.cons_ne_nil _ _
    · exact ih

theorem intercalate_cons (first : List Char) (some : pieces ≠ []) :
    [separator].intercalate (first :: pieces) =
      first ++ separator :: [separator].intercalate pieces := by
  cases pieces with
  | nil => exact absurd rfl some
  | cons second rest => simp

theorem intercalate_splitAt :
    [separator].intercalate (splitAt separator cs piece) = piece.reverse ++ cs := by
  induction cs generalizing piece with
  | nil => simp [splitAt]
  | cons c rest ih =>
    rw [splitAt]
    split
    next separates => rw [intercalate_cons _ splitAt_ne_nil, ih, separates, List.reverse_nil,
      List.nil_append]
    next => simp [ih]

/-- The pieces with the separator between them are the text. -/
theorem intercalate_split (separator : Char) (cs : List Char) :
    [separator].intercalate (split separator cs) = cs :=
  intercalate_splitAt

theorem splitAt_free (free : separator ∉ piece) (rest : List Char) :
    splitAt separator (piece ++ rest) cs = splitAt separator rest (piece.reverse ++ cs) := by
  induction piece generalizing cs with
  | nil => rfl
  | cons c others ih =>
    obtain ⟨other, free⟩ := not_or.mp (mt List.mem_cons.mpr free)
    rw [List.cons_append, splitAt, if_neg (Ne.symm other), ih free, List.reverse_cons,
      List.append_assoc]
    rfl

/-- Pieces without separators are found again. -/
theorem split_intercalate (some : pieces ≠ []) (free : ∀ piece ∈ pieces, separator ∉ piece) :
    split separator ([separator].intercalate pieces) = pieces := by
  unfold split
  induction pieces with
  | nil => exact absurd rfl some
  | cons first rest ih =>
    obtain ⟨here, free⟩ := List.forall_mem_cons.mp free
    by_cases last : rest = []
    · subst last
      rw [List.intercalate_singleton, ← List.append_nil first, splitAt_free here, splitAt]
      simp
    · rw [intercalate_cons first last, splitAt_free here, splitAt, if_pos rfl, ih last free,
        List.append_nil, List.reverse_reverse]

/-! ## Trimming -/

/-- A text is what is left of it between blanks. -/
theorem trim_parts (cs : List Char) : ∃ before after, cs = before ++ trim cs ++ after ∧
    (∀ c ∈ before, isBlank c = true) ∧ ∀ c ∈ after, isBlank c = true := by
  refine ⟨cs.takeWhile isBlank, ((cs.dropWhile isBlank).reverse.takeWhile isBlank).reverse, ?_,
    fun c among => List.mem_takeWhile_imp among, fun c among => ?_⟩
  · have back : trim cs ++ ((cs.dropWhile isBlank).reverse.takeWhile isBlank).reverse =
        cs.dropWhile isBlank := by
      rw [trim, ← List.reverse_append, List.takeWhile_append_dropWhile, List.reverse_reverse]
    rw [List.append_assoc, back, List.takeWhile_append_dropWhile]
  · exact List.mem_takeWhile_imp (List.mem_reverse.mp among)

/-- What stands between blanks, and has none at its ends, is left. -/
theorem trim_between {before core after : List Char} (early : ∀ c ∈ before, isBlank c = true)
    (late : ∀ c ∈ after, isBlank c = true) (first : ∀ c ∈ core.head?, isBlank c = false)
    (last : ∀ c ∈ core.getLast?, isBlank c = false) : trim (before ++ core ++ after) = core := by
  have stops {cs : List Char} (first : ∀ c ∈ cs.head?, isBlank c = false) :
      cs.dropWhile isBlank = cs := by
    cases cs with
    | nil => rfl
    | cons c rest => rw [List.dropWhile_cons_of_neg (by simp [first c rfl])]
  unfold trim
  rw [List.append_assoc, List.dropWhile_append_of_pos early]
  cases core with
  | nil => simp [List.dropWhile_eq_nil_iff.mpr late]
  | cons c rest =>
    have whole : (c :: rest ++ after).dropWhile isBlank = c :: rest ++ after := by
      rw [List.cons_append, List.dropWhile_cons_of_neg (by simp [first c rfl])]
    rw [whole, List.reverse_append,
      List.dropWhile_append_of_pos fun d among => late d (List.mem_reverse.mp among), stops,
      List.reverse_reverse]
    rwa [List.head?_reverse]

end GraphProtocol.Text
