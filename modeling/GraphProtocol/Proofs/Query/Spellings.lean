import Mathlib.Data.List.Basic
import GraphProtocol.Proofs.Query.Overlaps

/-!
# Spellings of bookmarks

A bookmark is judged by the number that is read from it. The number may be spelt behind a plus sign
and behind zeros, and it may be zero. Every text is taken for a bookmark that spells a number which
has been reached, while bookmarks are numbered in one spelling only, and none with the number
zero.
-/

set_option autoImplicit false

namespace GraphProtocol

namespace Literal

namespace Store

def spelt (x : Text.Spelling) : String := bookmarkPrefix ++ String.ofList x.chars

theorem spelt_injective : Function.Injective spelt := by
  intro x y same
  have lists := congrArg String.toList same
  unfold spelt at lists
  rw [String.toList_append, String.toList_append, String.toList_ofList,
    String.toList_ofList] at lists
  exact Text.Spelling.chars_injective (List.append_cancel_left lists)

theorem bookmark_spelt (n : Nat) : bookmark n = spelt ⟨false, 0, n⟩ := by
  unfold bookmark spelt
  rw [Nat.toString_eq_ofList_toDigits]
  rfl

theorem afterPrefix?_some {start text rest : List Char}
    (cut : afterPrefix? start text = some rest) :
    text = start ++ rest := by
  induction start generalizing text with
  | nil => exact Option.some.inj cut
  | cons p others ih =>
    cases text with
    | nil => cases cut
    | cons c text =>
      unfold afterPrefix? at cut
      split at cut
      · next same =>
        rw [same, ih cut]
        rfl
      · cases cut

theorem bookmarkNumber?_iff {b : String} {n : Nat} : bookmarkNumber? b = some n ↔
    n ≤ Text.maxWord64 ∧ ∃ x : Text.Spelling, b = spelt x ∧ x.number = n := by
  unfold bookmarkNumber?
  rw [Option.bind_eq_some_iff]
  constructor
  · rintro ⟨rest, cut, read⟩
    obtain ⟨small, x, rfl, value⟩ := Text.unsigned?_iff.mp read
    refine ⟨small, x, ?_, value⟩
    apply String.toList_injective
    rw [afterPrefix?_some cut, spelt, String.toList_append, String.toList_ofList]
  · rintro ⟨small, x, rfl, value⟩
    refine ⟨x.chars, ?_, Text.unsigned?_iff.mpr ⟨small, x, rfl, value⟩⟩
    rw [spelt, String.toList_append, String.toList_ofList, afterPrefix?_append]

/-- A text is taken for a bookmark if it spells, in whatever way, a number that has been
reached. -/
theorem isValidBookmark_iff {s : Store} {b : String} : s.isValidBookmark b = true ↔
    ∃ x : Text.Spelling, b = spelt x ∧ x.number ≤ s.lastBookmark ∧ x.number ≤ Text.maxWord64 := by
  unfold isValidBookmark
  rw [Option.any_eq_true]
  constructor
  · rintro ⟨n, read, reached⟩
    obtain ⟨small, x, is, rfl⟩ := bookmarkNumber?_iff.mp read
    exact ⟨x, is, of_decide_eq_true reached, small⟩
  · rintro ⟨x, is, reached, small⟩
    exact ⟨x.number, bookmarkNumber?_iff.mpr ⟨small, x, is, rfl⟩, decide_eq_true reached⟩

/-- The first text that is not taken is the one that is named. -/
theorem checkBookmarks_refuses {s : Store} {names : List String}
    (invalid : ¬ ∀ b ∈ names, s.isValidBookmark b = true) :
    ∃ early b late, names = early ++ b :: late ∧ (∀ c ∈ early, s.isValidBookmark c = true) ∧
      ¬ s.isValidBookmark b = true ∧ s.checkBookmarks names = .error (.invalidBookmark b) := by
  unfold checkBookmarks
  cases found : names.find? fun b => !s.isValidBookmark b with
  | none =>
    rw [List.find?_eq_none] at found
    exact absurd (fun b among => by simpa using found b among) invalid
  | some b =>
    obtain ⟨wrong, early, late, split, before⟩ := List.find?_eq_some_iff_append.mp found
    refine ⟨early, b, late, split, ?_, by simpa using wrong, rfl⟩
    intro c among
    simpa using before c among

end Store

/-! ## Histories -/

def Call.bookmarks? : Call → Option (List String)
  | begin metadata => some metadata.bookmarks
  | execute query none => some query.metadata.bookmarks
  | _ => none

namespace System

/-- The text spells, in whatever way, the number of a bookmark, or zero. -/
def Takes (w : System) (b : String) : Prop :=
  ∃ x : Text.Spelling, b = Store.spelt x ∧ x.number ≤ w.allotted.length ∧
    x.number ≤ Text.maxWord64

/-- Which bookmarks there are, and which texts are taken for bookmarks. -/
structure Checks (w : System) : Prop where
  /-- Bookmarks have the numbers from one on. -/
  numbered : w.allotted = (List.range' 1 w.allotted.length).map Store.bookmark
  /-- They are handed out in that order, -/
  handed : w.bookmarks.Sublist w.allotted
  /-- all of them if no query has broken down. -/
  complete : (∀ b, Outcome.brokenDown b ∉ w.outcomes) → w.bookmarks = w.allotted
  /-- So no other spelling of these numbers, and no spelling of zero, is a bookmark. -/
  plain : ∀ x : Text.Spelling, Store.spelt x ∈ w.allotted ↔
    x.plus = false ∧ x.zeros = 0 ∧ 0 < x.number ∧ x.number ≤ w.allotted.length
  /-- A transaction is on the way to its number if all its bookmarks are taken, -/
  begins : ∀ now metadata, (∀ b ∈ metadata.bookmarks, w.Takes b) →
    w.store.advance now (.asked (.begin metadata)) = (.going (.numbering metadata), w.store)
  /-- and a query depends on its plan alone. -/
  executes : ∀ now query, (∀ b ∈ query.metadata.bookmarks, w.Takes b) →
    w.store.advance now (.asked (.execute query none)) =
      (match Store.plan query with
        | .ok plan => .going (.launching query plan)
        | .error fault => .done (.failed fault), w.store)
  /-- Otherwise the call ends with the first text that is not taken, and nothing has changed. -/
  refuses : ∀ now call names, call.bookmarks? = some names → (¬ ∀ b ∈ names, w.Takes b) →
    ∃ early b late, names = early ++ b :: late ∧ (∀ c ∈ early, w.Takes c) ∧ ¬ w.Takes b ∧
      w.store.advance now (.asked call) = (.done (.failed (.invalidBookmark b)), w.store)

theorem spelt_first {count : Nat} {x : Text.Spelling} :
    Store.spelt x ∈ Store.firstBookmarks count ↔
      x.plus = false ∧ x.zeros = 0 ∧ 0 < x.number ∧ x.number ≤ count := by
  unfold Store.firstBookmarks
  rw [List.mem_map]
  constructor
  · rintro ⟨n, within, same⟩
    rw [Store.bookmark_spelt] at same
    obtain rfl := Store.spelt_injective same
    obtain ⟨first, last⟩ := List.mem_range'_1.mp within
    exact ⟨rfl, rfl, first, by dsimp only; omega⟩
  · rintro ⟨plus, zeros, first, last⟩
    obtain ⟨_, _, n⟩ := x
    cases plus
    cases zeros
    exact ⟨n, List.mem_range'_1.mpr ⟨first, by dsimp only at last; omega⟩, Store.bookmark_spelt n⟩

/-- The first turn of a call with bookmarks, by what their check says. -/
theorem advance_checked {s : Store} {now : Instant} {call : Call} {names : List String}
    (asks : call.bookmarks? = some names) {b : String}
    (wrong : s.checkBookmarks names = .error (.invalidBookmark b)) :
    s.advance now (.asked call) = (.done (.failed (.invalidBookmark b)), s) := by
  cases call with
  | begin metadata =>
    cases asks
    dsimp only [Store.advance, Store.enter]
    rw [wrong]
  | execute query tx =>
    cases tx with
    | some tx => cases asks
    | none =>
      cases asks
      dsimp only [Store.advance, Store.enter, Store.allow]
      rw [wrong]
      rfl
  | commit tx => cases asks
  | rollback tx => cases asks

/-- After any calls, in whatever turns, a text is taken for a bookmark if and only if it spells a
number that has been reached; it is a bookmark if and only if that number is not zero and is spelt
without a sign and without zeros before it. -/
theorem bookmarks_taken (calls : Nat → Call) (turns : List (Nat × Instant)) :
    ((start calls).run turns).Checks := by
  obtain ⟨-, -, -, allotted⟩ := run_kept calls turns
  generalize (start calls).run turns = w at allotted
  have reached : w.store.lastBookmark = w.allotted.length := by
    rw [allotted]
    simp [Store.firstBookmarks]
  have valid (b : String) : w.store.isValidBookmark b = true ↔ w.Takes b := by
    rw [Store.isValidBookmark_iff, reached]
    rfl
  have passes (names : List String) (taken : ∀ b ∈ names, w.Takes b) :
      w.store.checkBookmarks names = .ok () :=
    Store.checkBookmarks_passes fun b among => (valid b).mpr (taken b among)
  rw [reached] at allotted
  constructor
  · exact allotted
  · exact bookmarks_sublist w.outcomes
  · exact bookmarks_complete
  · intro x
    rw [allotted, spelt_first]
    simp [Store.firstBookmarks]
  · intro now metadata taken
    dsimp only [Store.advance, Store.enter]
    rw [passes metadata.bookmarks taken]
  · intro now query taken
    dsimp only [Store.advance, Store.enter, Store.allow]
    rw [passes query.metadata.bookmarks taken]
    dsimp only
    cases Store.plan query <;> rfl
  · intro now call names asks refused
    simp only [← valid] at refused ⊢
    obtain ⟨early, b, late, split, before, wrong, named⟩ := Store.checkBookmarks_refuses refused
    exact ⟨early, b, late, split, before, wrong, advance_checked asks named⟩

/-- Once the first bookmark has been handed out, its number is taken in any spelling, and with it
zero. The second bookmark is refused, whatever comes with it. -/
theorem sample_taken :
    ((start sampleCalls).run sampleTurns).bookmarks = [Store.bookmark 1] ∧
    ((start sampleCalls).run sampleTurns).Takes (Store.spelt ⟨true, 2, 1⟩) ∧
    Store.spelt ⟨true, 2, 1⟩ ∉ ((start sampleCalls).run sampleTurns).bookmarks ∧
    ¬ ((start sampleCalls).run sampleTurns).Takes (Store.bookmark 2) ∧
    ((start sampleCalls).run sampleTurns).Checks := by
  have numbered : ((start sampleCalls).run sampleTurns).allotted = [Store.bookmark 1] := by cbv
  have checks := bookmarks_taken sampleCalls sampleTurns
  have taken : ((start sampleCalls).run sampleTurns).Takes (Store.spelt ⟨true, 2, 1⟩) :=
    ⟨⟨true, 2, 1⟩, rfl, by rw [numbered]; exact Nat.le_refl 1, by decide⟩
  refine ⟨by cbv, taken, ?_, ?_, checks⟩
  · intro among
    obtain ⟨⟨⟩, -⟩ := (checks.plain _).mp (checks.handed.subset among)
  · rintro ⟨x, same, reached, -⟩
    rw [Store.bookmark_spelt] at same
    obtain rfl := Store.spelt_injective same
    rw [numbered] at reached
    exact absurd reached (by decide)

def unissuedCalls : Nat → Call :=
  fun _ => .begin ⟨["graphwire:bookmark:v1:tx0"], none, .empty⟩

/-- A transaction is begun with a bookmark that has never been handed out. -/
theorem unissued_begins :
    ((start unissuedCalls).run [(0, 0), (0, 1), (0, 2)]).begun = [⟨1⟩] ∧
    ((start unissuedCalls).run [(0, 0), (0, 1), (0, 2)]).bookmarks = [] := ⟨by cbv, by cbv⟩

end System

end Literal

end GraphProtocol
