import Mathlib.Data.String.Lemmas
import GraphProtocol.Proofs.Query.Spans
import GraphProtocol.Proofs.Text.Pieces

/-!
# Statements by bytes

Texts are bytes, and a text can be sliced only where a character starts. Statements are scanned with
an index into their characters, which is turned into a number of bytes for every slice, and tokens
are kept with these numbers. Here they are scanned and parsed in this way, with loops that have a
number of rounds. No slice is ever taken out of place and no loop goes on for longer, and what comes
out is what comes out by characters.
-/

set_option autoImplicit false

namespace GraphProtocol.Literal

/-! ## Slices -/

def offset (text : List Char) (i : Nat) : Nat := (String.ofList (text.take i)).utf8ByteSize

/-- The text between two places in bytes, if they are in order and a character starts at each. -/
def sliceBytes? (source : String) (start stop : Nat) : Option String :=
  if start ≤ stop ∧ String.Pos.Raw.isValid source ⟨start⟩ = true ∧
      String.Pos.Raw.isValid source ⟨stop⟩ = true then
    some (String.Pos.Raw.extract source ⟨start⟩ ⟨stop⟩)
  else none

section

variable {text : List Char} {i j : Nat}

theorem offset_length (text : List Char) :
    offset text text.length = (String.ofList text).utf8ByteSize := by
  rw [offset, List.take_length]

theorem offset_add (text : List Char) (i k : Nat) :
    offset text (i + k) = offset text i + offset (text.drop i) k := by
  simp only [offset, List.take_add, String.ofList_append, String.utf8ByteSize_append]

theorem offset_le (before : i ≤ j) : offset text i ≤ offset text j := by
  obtain ⟨k, rfl⟩ := Nat.exists_eq_add_of_le before
  rw [offset_add]
  exact Nat.le_add_right _ _

/-- No character is empty. -/
theorem offset_lt (before : i < j) (within : j ≤ text.length) : offset text i < offset text j := by
  obtain ⟨k, rfl⟩ := Nat.exists_eq_add_of_lt before
  have some : (text.drop i).take (k + 1) ≠ [] := by
    rw [ne_eq, ← List.length_eq_zero_iff, List.length_take, List.length_drop]
    omega
  rw [Nat.add_assoc, offset_add]
  refine Nat.lt_add_of_pos_right (Nat.pos_of_ne_zero fun empty => some ?_)
  rwa [offset, String.utf8ByteSize_ofList, String.utf8Len_eq_zero] at empty

/-- A character starts at every offset, or the text ends there. -/
theorem offset_valid (text : List Char) (i : Nat) :
    String.Pos.Raw.isValid (String.ofList text) ⟨offset text i⟩ = true := by
  rw [String.Pos.Raw.isValid_eq_true_iff, String.Pos.Raw.isValid_iff_exists_take_toList]
  exact ⟨i, by rw [String.toList_ofList]; rfl⟩

theorem sliceBytes?_offset (before : i ≤ j) :
    sliceBytes? (String.ofList text) (offset text i) (offset text j) =
      some (Parser.slice text i j) := by
  have parts :
      text = text.take i ++ ((text.drop i).take (j - i) ++ (text.drop i).drop (j - i)) := by
    rw [List.take_append_drop, List.take_append_drop]
  have reach : offset text j = offset text i + String.utf8Len ((text.drop i).take (j - i)) := by
    rw [← Nat.add_sub_cancel' before, offset_add, Nat.add_sub_cancel_left, offset, offset,
      String.utf8ByteSize_ofList (List.take _ (List.drop _ _))]
  unfold sliceBytes? Parser.slice
  rw [if_pos ⟨offset_le before, offset_valid text i, offset_valid text j⟩]
  congr 1
  unfold String.Pos.Raw.extract
  dsimp only
  split
  next none =>
    have empty : String.utf8Len ((text.drop i).take (j - i)) = 0 := by omega
    rw [String.utf8Len_eq_zero.mp empty]
  next =>
    have front : offset text i = String.utf8Len (text.take i) + 0 := by
      rw [offset, String.utf8ByteSize_ofList, Nat.add_zero]
    rw [String.toList_ofList]
    have start := String.Pos.Raw.extract.go₁_append_right (text.take i)
      ((text.drop i).take (j - i) ++ (text.drop i).drop (j - i)) 0 (offset text i)
      ⟨offset text j⟩ front
    rw [← parts] at start
    have stop := String.Pos.Raw.extract.go₂_append_left ((text.drop i).take (j - i))
      ((text.drop i).drop (j - i)) (offset text i) (offset text j) (by omega)
    exact congrArg String.ofList (start.trans stop)

end

/-! ## Scanning -/

def floatOf (text : List Char) : Binary64 :=
  .ofDigits (text.takeWhile Char.isDigit) ((text.dropWhile Char.isDigit).drop 1)

def Lexeme.inBytes (text : List Char) (l : Lexeme) : Lexeme :=
  ⟨l.token, offset text l.start, offset text l.stop⟩

namespace Bytewise

-- What is reported if a slice is out of place or a loop goes on for too long.
variable (alarm : QueryFault) (text : List Char)

def cut (start stop : Nat) : Except QueryFault String :=
  match sliceBytes? (String.ofList text) (offset text start) (offset text stop) with
  | some slice => .ok slice
  | none => .error alarm

def passOver (p : Char → Bool) : Nat → Nat → Except QueryFault Nat
  | 0, _ => .error alarm
  | rounds + 1, i => if text[i]?.any p then passOver p rounds (i + 1) else .ok i

def number (start : Nat) : Except QueryFault (Token × Nat) := do
  let whole ← passOver alarm text Char.isDigit (text.length + 1) start
  if text[whole]? = some '.' ∧ text[whole + 1]?.any Char.isDigit = true then
    let stop ← passOver alarm text Char.isDigit (text.length + 1) (whole + 1)
    let slice ← cut alarm text start stop
    return (.float (floatOf slice.toList), stop)
  else
    let slice ← cut alarm text start whole
    let (token, _) ← scanInteger slice.toList
    return (token, whole)

def string (quote : Char) : Nat → Nat → List Char → Except QueryFault (Token × Nat)
  | 0, _, _ => .error alarm
  | rounds + 1, i, value =>
    match text[i]? with
    | none => .error .unterminatedString
    | some c =>
      if c = quote then .ok (.string (String.ofList value.reverse), i + 1)
      else if c = '\\' then
        match text[i + 1]?.bind escape? with
        | some e => string quote rounds (i + 2) (e :: value)
        | none => .error .invalidEscape
      else string quote rounds (i + 1) (c :: value)

def name (first : Char) (start : Nat) : Except QueryFault (Token × Nat) := do
  let front := if first = '$' then start + 1 else start
  let stop ← passOver alarm text isWordChar (text.length + 1) front
  let slice ← cut alarm text front stop
  if first = '$' then
    if slice.isEmpty then .error .parameterNameExpected else return (.parameter slice, stop)
  else return (.word slice, stop)

def token (first : Char) (start : Nat) : Except QueryFault (Token × Nat) :=
  if first.isDigit then number alarm text start
  else if first = '\'' ∨ first = '"' then string alarm text first (text.length + 1) (start + 1) []
  else if first = '$' ∨ Text.isAlphabetic first = true ∨ first = '_' then
    name alarm text first start
  else if symbols.contains first then .ok (.symbol first, start + 1)
  else .error (.invalidCharacter first)

def tokensFrom : Nat → Nat → List Lexeme → Except QueryFault (List Lexeme)
  | 0, _, _ => .error alarm
  | rounds + 1, i, found =>
    match text[i]? with
    | none => .ok found.reverse
    | some c =>
      if Text.isBlank c then tokensFrom rounds (i + 1) found
      else do
        let (token, stop) ← token alarm text c i
        tokensFrom rounds stop (⟨token, offset text i, offset text stop⟩ :: found)

def tokenize : Except QueryFault (List Lexeme) := tokensFrom alarm text (text.length + 1) 0 []

variable {alarm text} {start : Nat} {c : Char} {rest early late : List Char}

theorem cut_ok {stop : Nat} (before : start ≤ stop) :
    cut alarm text start stop = .ok (Parser.slice text start stop) := by
  rw [cut, sliceBytes?_offset before]

/-- What is cut out of the text from here on. -/
theorem cut_front (here : text.drop start = early ++ late) :
    cut alarm text start (start + early.length) = .ok (String.ofList early) := by
  rw [cut_ok (Nat.le_add_right _ _), Parser.slice, Nat.add_sub_cancel_left, here, List.take_left]

theorem drop_front (here : text.drop start = early ++ late) :
    text.drop (start + early.length) = late := by
  rw [← List.drop_drop, here, List.drop_left]

theorem passOver_ok {p : Char → Bool} {rounds : Nat} (within : start ≤ text.length)
    (enough : text.length < start + rounds) :
    passOver alarm text p rounds start = .ok (start + ((text.drop start).takeWhile p).length) := by
  induction rounds generalizing start with
  | zero => omega
  | succ rounds ih =>
    rw [passOver, ← List.head?_drop]
    cases here : text.drop start with
    | nil => rfl
    | cons c rest =>
      have later : text.drop (start + 1) = rest := @drop_front text start [c] rest here
      have inside : start < text.length := by
        by_contra outside
        rw [List.drop_eq_nil_of_le (by omega)] at here
        cases here
      by_cases goesOn : p c = true
      · rw [List.head?_cons, Option.any_some, if_pos goesOn, ih (by omega) (by omega), later,
          List.takeWhile_cons, if_pos goesOn, List.length_cons, Nat.add_assoc, Nat.add_comm 1]
      · rw [List.head?_cons, Option.any_some, if_neg goesOn, List.takeWhile_cons, if_neg goesOn]
        rfl

theorem lt_of_drop (here : text.drop start = c :: rest) :
    start + 1 + rest.length = text.length := by
  have length := congrArg List.length here
  rw [List.length_drop, List.length_cons] at length
  omega

/-- Digits that are cut out spell the integer that they spell. -/
theorem integer_ok (whole : List Char) (here : text.drop start = (c :: whole) ++ late) :
    (do
      let slice ← cut alarm text start (start + (c :: whole).length)
      let (token, _) ← scanInteger slice.toList
      return (token, start + (c :: whole).length)) =
      (scanInteger (c :: whole)).map fun r => (r.1, start + 1 + r.2) := by
  rw [cut_front here]
  change (scanInteger (String.ofList (c :: whole)).toList >>= _) = _
  rw [String.toList_ofList]
  cases scanned : scanInteger (c :: whole) with
  | error fault => rfl
  | ok r =>
    have extent : r.2 = whole.length := scanInteger_extent scanned
    change Except.ok (r.1, start + (c :: whole).length) = Except.ok (r.1, start + 1 + r.2)
    rw [extent, List.length_cons, Nat.add_assoc, Nat.add_comm 1]

theorem floatOf_ok {whole : List Char} (digits : ∀ d ∈ whole, d.isDigit = true)
    (fraction : List Char) : floatOf (whole ++ '.' :: fraction) = .ofDigits whole fraction := by
  have stop : Char.isDigit '.' = false := rfl
  unfold floatOf
  rw [List.takeWhile_append_of_pos digits, List.dropWhile_append_of_pos digits]
  simp [stop]

/-- A number with a point is cut out as a whole. -/
theorem float_ok {whole more fraction : List Char} (digits : ∀ d ∈ whole, d.isDigit = true)
    (here : text.drop start = whole ++ '.' :: more)
    (taken : more.takeWhile Char.isDigit = fraction) :
    (do
      let stop ← passOver alarm text Char.isDigit (text.length + 1) (start + whole.length + 1)
      let slice ← cut alarm text start stop
      return (Token.float (floatOf slice.toList), stop)) =
      .ok (.float (.ofDigits whole fraction), start + whole.length + 1 + fraction.length) := by
  have parts : text.drop start =
      (whole ++ '.' :: fraction) ++ more.dropWhile Char.isDigit := by
    rw [here, List.append_assoc, List.cons_append, ← taken, List.takeWhile_append_dropWhile]
  have behind : text.drop (start + whole.length + 1) = more :=
    @drop_front text _ ['.'] more (drop_front here)
  have length := congrArg List.length here
  rw [List.length_drop, List.length_append, List.length_cons] at length
  have stop : start + whole.length + 1 + fraction.length =
      start + (whole ++ '.' :: fraction).length := by
    rw [List.length_append, List.length_cons]
    omega
  rw [passOver_ok (by omega) (by omega), behind, taken, stop]
  change (cut alarm text start _ >>= _) = _
  rw [cut_front parts]
  change Except.ok (Token.float (floatOf (String.ofList _).toList), _) = _
  rw [String.toList_ofList, floatOf_ok digits]

theorem number_ok (here : text.drop start = c :: rest) (isDigit : c.isDigit = true) :
    number alarm text start = (scanNumber c rest).map fun r => (r.1, start + 1 + r.2) := by
  have inside := lt_of_drop here
  have parts : text.drop start =
      (c :: rest.takeWhile Char.isDigit) ++ rest.dropWhile Char.isDigit := by
    rw [here, List.cons_append, List.takeWhile_append_dropWhile]
  have digits : ∀ d ∈ c :: rest.takeWhile Char.isDigit, d.isDigit = true :=
    List.forall_mem_cons.mpr ⟨isDigit, fun _ => List.mem_takeWhile_imp⟩
  have integer := @integer_ok alarm text start c _ _ parts
  have behind := drop_front parts
  unfold number
  rw [passOver_ok (by omega) (by omega), here, List.takeWhile_cons, if_pos isDigit]
  change (if text[start + (c :: rest.takeWhile Char.isDigit).length]? = some '.' ∧
    text[start + (c :: rest.takeWhile Char.isDigit).length + 1]?.any Char.isDigit = true
    then _ else _) = _
  rw [← List.head?_drop, ← List.head?_drop, behind]
  by_cases point : ∃ after, rest.dropWhile Char.isDigit = '.' :: after
  · obtain ⟨after, point⟩ := point
    rw [point] at parts behind ⊢
    have next : text.drop (start + (c :: rest.takeWhile Char.isDigit).length + 1) = after :=
      @drop_front text _ ['.'] after behind
    rw [next, scanNumber_point point]
    cases further : after.head?.any Char.isDigit with
    | true =>
      have some : ¬(after.takeWhile Char.isDigit).isEmpty = true := by
        cases after with
        | nil => cases further
        | cons e after => simpa using further
      rw [if_pos ⟨rfl, rfl⟩, if_neg some]
      refine (float_ok digits parts rfl).trans (congrArg Except.ok (Prod.ext rfl ?_))
      change start + _ + 1 + _ = start + 1 + (_ + _)
      omega
    | false =>
      have none : (after.takeWhile Char.isDigit).isEmpty = true := by
        cases after with
        | nil => rfl
        | cons e after => simpa using further
      rw [if_neg fun both => Bool.false_ne_true both.2, if_pos none]
      exact integer
  · have plain := not_exists.mp point
    rw [scanNumber_plain plain, ← integer]
    refine if_neg fun both => ?_
    obtain ⟨after, starts⟩ := List.head?_eq_some_iff.mp both.1
    exact plain after starts

theorem string_ok {quote : Char} (unescaping : quote ≠ '\\') {rounds taken : Nat}
    {value : List Char} (here : text.drop (start + taken) = rest)
    (enough : rest.length < rounds) :
    string alarm text quote rounds (start + taken) value =
      (scanString quote rest value taken).map fun r => (r.1, start + r.2) := by
  obtain ⟨rounds, rfl⟩ : ∃ more, rounds = more + 1 := ⟨rounds - 1, by omega⟩
  fun_induction scanString quote rest value taken generalizing rounds with
  | case1 value taken =>
    rw [string, ← List.head?_drop, here]
    rfl
  | case2 value taken =>
    have last : text.drop (start + taken + 1) = [] := @drop_front text _ ['\\'] [] here
    rw [string, ← List.head?_drop, ← List.head?_drop, here, last]
    exact (if_neg unescaping.symm).trans (if_pos rfl)
  | case3 e rest value taken d known ih =>
    have next : text.drop (start + taken + 1) = e :: rest := @drop_front text _ ['\\'] _ here
    have later : text.drop (start + (taken + 2)) = rest := @drop_front text _ ['\\', e] _ here
    rw [string, ← List.head?_drop, ← List.head?_drop, here, next]
    dsimp only [List.head?_cons, Option.bind_some]
    rw [if_neg unescaping.symm, if_pos rfl, known]
    simp only [List.length_cons] at enough
    obtain ⟨rounds, rfl⟩ : ∃ more, rounds = more + 1 := ⟨rounds - 1, by omega⟩
    exact ih later rounds (by omega)
  | case4 e rest value taken unknown =>
    have next : text.drop (start + taken + 1) = e :: rest := @drop_front text _ ['\\'] _ here
    rw [string, ← List.head?_drop, ← List.head?_drop, here, next]
    dsimp only [List.head?_cons, Option.bind_some]
    rw [if_neg unescaping.symm, if_pos rfl, unknown]
    rfl
  | case5 rest value taken lone escape =>
    rw [string, ← List.head?_drop, here]
    exact if_pos rfl
  | case6 d rest value taken lone escape other ih =>
    have later : text.drop (start + (taken + 1)) = rest := @drop_front text _ [d] _ here
    rw [string, ← List.head?_drop, here]
    dsimp only [List.head?_cons]
    rw [if_neg other, if_neg (unescaped lone escape)]
    simp only [List.length_cons] at enough
    obtain ⟨rounds, rfl⟩ : ∃ more, rounds = more + 1 := ⟨rounds - 1, by omega⟩
    exact ih later rounds (by omega)

/-- Where the characters of a name end. -/
theorem name_stop (within : start ≤ text.length) :
    passOver alarm text isWordChar (text.length + 1) start =
      .ok (start + ((text.drop start).takeWhile isWordChar).length) :=
  passOver_ok within (by omega)

theorem parameter_ok (here : text.drop start = '$' :: rest) :
    name alarm text '$' start = (scanParameter rest).map fun r => (r.1, start + 1 + r.2) := by
  have inside := lt_of_drop here
  have next : text.drop (start + 1) = rest := @drop_front text start ['$'] rest here
  have stop := @name_stop alarm text (start + 1) (by omega)
  have parts : text.drop (start + 1) =
      rest.takeWhile isWordChar ++ rest.dropWhile isWordChar := by
    rw [next, List.takeWhile_append_dropWhile]
  unfold name scanParameter
  dsimp only
  rw [if_pos rfl, stop, next]
  change (cut alarm text (start + 1) _ >>= _) = _
  rw [cut_front parts]
  generalize rest.takeWhile isWordChar = word
  cases word with
  | nil => rfl
  | cons d word =>
    have filled : ¬(String.ofList (d :: word)).isEmpty = true := by simp
    exact if_neg filled

theorem word_ok (here : text.drop start = c :: rest) (other : c ≠ '$')
    (starts : (Text.isAlphabetic c || c == '_') = true) :
    name alarm text c start = .ok (.word (String.ofList (c :: rest.takeWhile isWordChar)),
      start + 1 + (rest.takeWhile isWordChar).length) := by
  have inside := lt_of_drop here
  have stop := @name_stop alarm text start (by omega)
  rw [here, List.takeWhile_cons, if_pos (isWordChar_start starts)] at stop
  have parts : text.drop start =
      (c :: rest.takeWhile isWordChar) ++ rest.dropWhile isWordChar := by
    rw [here, List.cons_append, List.takeWhile_append_dropWhile]
  unfold name
  dsimp only
  rw [if_neg other, stop]
  change (cut alarm text start _ >>= _) = _
  rw [cut_front parts]
  refine (if_neg other).trans (congrArg Except.ok (Prod.ext rfl ?_))
  change start + (_ + 1) = start + 1 + _
  omega

theorem token_ok (here : text.drop start = c :: rest) :
    token alarm text c start = (scan c rest).map fun r => (r.1, start + 1 + r.2) := by
  have inside := lt_of_drop here
  have next : text.drop (start + 1) = rest := @drop_front text start [c] rest here
  unfold token scan
  by_cases isDigit : c.isDigit = true
  · rw [if_pos isDigit, if_pos isDigit, number_ok here isDigit]
  rw [if_neg isDigit, if_neg isDigit]
  by_cases quotes : c = '\'' ∨ c = '"'
  · have unescaping : c ≠ '\\' := by
      rintro rfl
      revert quotes
      decide
    rw [if_pos quotes, if_pos quotes]
    exact @string_ok alarm text (start + 1) rest c unescaping _ 0 [] next (by omega)
  rw [if_neg quotes, if_neg quotes]
  by_cases isDollar : c = '$'
  · subst isDollar
    rw [if_pos (.inl rfl), if_pos rfl, parameter_ok here]
  rw [if_neg isDollar]
  by_cases starts : (Text.isAlphabetic c || c == '_') = true
  · have named : c = '$' ∨ Text.isAlphabetic c = true ∨ c = '_' := by
      rw [Bool.or_eq_true, beq_iff_eq] at starts
      exact .inr starts
    rw [if_pos named, if_pos starts, word_ok here isDollar starts]
    rfl
  · have unnamed : ¬(c = '$' ∨ Text.isAlphabetic c = true ∨ c = '_') := by
      rw [Bool.or_eq_true, beq_iff_eq] at starts
      exact not_or.mpr ⟨isDollar, starts⟩
    rw [if_neg unnamed, if_neg starts]
    split <;> rfl

theorem tokensFrom_ok {rounds : Nat} {found : List Lexeme} (within : start ≤ text.length)
    (enough : text.length < start + rounds) :
    tokensFrom alarm text rounds start (found.map (Lexeme.inBytes text)) =
      (Literal.tokensFrom start (text.drop start) found).map (List.map (Lexeme.inBytes text)) := by
  induction rounds generalizing start found with
  | zero => omega
  | succ rounds ih =>
    rw [tokensFrom, ← List.head?_drop]
    cases here : text.drop start with
    | nil =>
      rw [Literal.tokensFrom]
      exact congrArg Except.ok List.map_reverse.symm
    | cons c rest =>
      have inside := lt_of_drop here
      have next : text.drop (start + 1) = rest := @drop_front text start [c] rest here
      rw [Literal.tokensFrom]
      dsimp only [List.head?_cons]
      by_cases isBlank : Text.isBlank c = true
      · rw [if_pos isBlank, if_pos isBlank, ih (by omega) (by omega), next]
      · rw [if_neg isBlank, if_neg isBlank, token_ok here]
        cases scanned : scan c rest with
        | error fault => rfl
        | ok r =>
          obtain ⟨token, extra⟩ := r
          have extent := (scan_within scanned).extent
          have behind : text.drop (start + 1 + extra) = rest.drop extra := by
            rw [← next, List.drop_drop]
          have further := @ih (start + 1 + extra) (⟨token, start, start + 1 + extra⟩ :: found)
            (by omega) (by omega)
          rw [behind] at further
          exact further

/-- No slice is out of place, and every loop ends in time. -/
theorem tokenize_ok (alarm : QueryFault) (text : List Char) : tokenize alarm text =
    (Literal.tokenize text).map (List.map (Lexeme.inBytes text)) :=
  @tokensFrom_ok alarm text 0 (text.length + 1) [] (Nat.zero_le _) (by omega)

end Bytewise

end GraphProtocol.Literal
