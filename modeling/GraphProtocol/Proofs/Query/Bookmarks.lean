import Mathlib.Data.List.Nodup
import GraphProtocol.Proofs.Text.Spelling
import GraphProtocol.Query.Literal.Engine

/-!
# Bookmarks and their numbers

The number of a bookmark is read back from it, up to the largest of 64 bits. So a bookmark that has
been handed out is valid from then on, and two of them differ.
-/

set_option autoImplicit false

namespace GraphProtocol

namespace Literal.Store

theorem afterPrefix?_append (start rest : List Char) :
    afterPrefix? start (start ++ rest) = some rest := by
  induction start with
  | nil => rfl
  | cons c others ih =>
    rw [List.cons_append, afterPrefix?, if_pos rfl, ih]

theorem bookmarkNumber?_bookmark {n : Nat} (fits : n ≤ Text.maxWord64) :
    bookmarkNumber? (bookmark n) = some n := by
  unfold bookmarkNumber? bookmark
  rw [String.toList_append, afterPrefix?_append]
  exact Text.unsigned?_toString fits

theorem bookmark_injective : Function.Injective bookmark := by
  intro m n same
  have lists := congrArg String.toList same
  unfold bookmark at lists
  rw [String.toList_append, String.toList_append] at lists
  have digits := congrArg (Text.unsigned? (max m n)) (List.append_cancel_left lists)
  rw [Text.unsigned?_toString (Nat.le_max_left m n),
    Text.unsigned?_toString (Nat.le_max_right m n)] at digits
  exact Option.some.inj digits

def firstBookmarks (count : Nat) : List String := (List.range' 1 count).map bookmark

theorem firstBookmarks_succ (count : Nat) :
    firstBookmarks (count + 1) = firstBookmarks count ++ [bookmark (count + 1)] := by
  unfold firstBookmarks
  rw [List.range'_concat, List.map_append, Nat.one_mul, Nat.add_comm 1 count]
  rfl

variable {count : Nat}

theorem firstBookmarks_numbers (fits : count ≤ Text.maxWord64) :
    (firstBookmarks count).map bookmarkNumber? = (List.range' 1 count).map some := by
  unfold firstBookmarks
  rw [List.map_map]
  apply List.map_congr_left
  intro n among
  obtain ⟨-, last⟩ := List.mem_range'_1.mp among
  exact bookmarkNumber?_bookmark (by omega)

theorem firstBookmarks_nodup (count : Nat) : (firstBookmarks count).Nodup :=
  List.Nodup.map bookmark_injective List.nodup_range'

theorem checkBookmarks_passes {s : Store} {bookmarks : List String}
    (valid : ∀ b ∈ bookmarks, s.isValidBookmark b = true) :
    s.checkBookmarks bookmarks = .ok () := by
  have none : bookmarks.find? (fun b => !s.isValidBookmark b) = none := by
    rw [List.find?_eq_none]
    intro b among
    rw [valid b among]
    exact Bool.false_ne_true
  unfold checkBookmarks
  rw [none]

/-- Bookmarks with numbers that have been reached are valid. -/
theorem firstBookmarks_valid {s : Store} {bookmarks : List String}
    (fits : s.lastBookmark ≤ Text.maxWord64)
    (reached : ∀ b ∈ bookmarks, b ∈ firstBookmarks s.lastBookmark) :
    s.checkBookmarks bookmarks = .ok () := by
  apply checkBookmarks_passes
  intro b among
  obtain ⟨n, within, rfl⟩ := List.mem_map.mp (reached b among)
  obtain ⟨-, last⟩ := List.mem_range'_1.mp within
  unfold isValidBookmark
  rw [bookmarkNumber?_bookmark (by omega)]
  exact decide_eq_true (by omega)

end Literal.Store

end GraphProtocol
