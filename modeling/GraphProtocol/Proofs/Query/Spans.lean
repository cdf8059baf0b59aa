import GraphProtocol.Proofs.Query.Cutting

/-!
# Where tokens stand

A text that is cut is its tokens and the blanks between them. Each token stands in the text as it
would stand alone, so its own characters give it again, and other blanks between tokens give the
same tokens.
-/

set_option autoImplicit false

namespace GraphProtocol.Literal

section

variable {c : Char} {early late : List Char} {token : Token} {extra : Nat}

/-! ## Tokens alone -/

/-- Characters that are taken in front of the border are taken without what stands behind it. -/
theorem takeWhile_early {p : Char → Bool}
    (within : ((early ++ late).takeWhile p).length ≤ early.length) :
    early.takeWhile p = (early ++ late).takeWhile p ∧
      (early ++ late).dropWhile p = early.dropWhile p ++ late := by
  induction early with
  | nil =>
    have none : late.takeWhile p = [] := List.length_eq_zero_iff.mp (Nat.le_zero.mp within)
    have parts := List.takeWhile_append_dropWhile (p := p) (l := late)
    rw [none, List.nil_append] at parts
    exact ⟨none.symm, parts⟩
  | cons d early ih =>
    by_cases goesOn : p d = true
    · simp only [List.cons_append, List.takeWhile_cons, List.dropWhile_cons, goesOn, if_true,
        List.length_cons, Nat.add_le_add_iff_right] at within ⊢
      obtain ⟨taken, dropped⟩ := ih within
      exact ⟨congrArg (d :: ·) taken, dropped⟩
    · simp [goesOn]

theorem scanInteger_extent {digits : List Char} (given : scanInteger digits = .ok (token, extra)) :
    extra = digits.length - 1 := by
  unfold scanInteger at given
  dsimp only at given
  split at given
  · cases given
    rfl
  · cases given

theorem scanNumber_point {after : List Char} (point : late.dropWhile Char.isDigit = '.' :: after) :
    scanNumber c late =
      if (after.takeWhile Char.isDigit).isEmpty = true then
        scanInteger (c :: late.takeWhile Char.isDigit)
      else .ok (.float (.ofDigits (c :: late.takeWhile Char.isDigit)
        (after.takeWhile Char.isDigit)),
        (c :: late.takeWhile Char.isDigit).length + (after.takeWhile Char.isDigit).length) := by
  unfold scanNumber
  rw [point]
  rfl

theorem scanNumber_plain (plain : ∀ after, late.dropWhile Char.isDigit ≠ '.' :: after) :
    scanNumber c late = scanInteger (c :: late.takeWhile Char.isDigit) := by
  unfold scanNumber
  split
  next after point => exact absurd point (plain after)
  next => rfl

/-- The digits in front of a point belong to the number. -/
theorem scanNumber_extent (given : scanNumber c late = .ok (token, extra)) :
    (late.takeWhile Char.isDigit).length ≤ extra := by
  have integer (given : scanInteger (c :: late.takeWhile Char.isDigit) = .ok (token, extra)) :
      (late.takeWhile Char.isDigit).length ≤ extra := (scanInteger_extent given).ge
  unfold scanNumber at given
  dsimp only at given
  split at given
  · split at given
    · exact integer given
    · cases given
      simp only [List.length_cons]
      omega
  · exact integer given

/-- A number that ends in front of the border is the same without what stands behind it. -/
theorem scanNumber_early (given : scanNumber c (early ++ late) = .ok (token, extra))
    (within : extra ≤ early.length) : scanNumber c early = .ok (token, extra) := by
  obtain ⟨taken, dropped⟩ := takeWhile_early ((scanNumber_extent given).trans within)
  have parts : (early.takeWhile Char.isDigit).length + (early.dropWhile Char.isDigit).length =
      early.length := by
    rw [← List.length_append, List.takeWhile_append_dropWhile]
  unfold scanNumber at given ⊢
  rw [← taken, dropped] at given
  generalize early.takeWhile Char.isDigit = whole at given parts ⊢
  generalize early.dropWhile Char.isDigit = rest at given parts ⊢
  dsimp only at given ⊢
  split at given
  next after starts =>
    cases rest with
    | nil =>
      -- The point stands behind the border, and so would the fraction.
      split at given
      · exact given
      · cases given
        simp only [List.length_cons, List.length_nil] at within parts
        omega
    | cons d rest =>
      obtain ⟨rfl, rfl⟩ : d = '.' ∧ rest ++ late = after := by simpa using starts
      split at given
      next none =>
        rw [List.isEmpty_iff, ← List.length_eq_zero_iff] at none
        obtain ⟨same, -⟩ := takeWhile_early (none.le.trans (Nat.zero_le rest.length))
        have still : (rest.takeWhile Char.isDigit).isEmpty = true := by
          rw [List.isEmpty_iff, ← List.length_eq_zero_iff, same, none]
        exact (if_pos still).trans given
      next some =>
        cases given
        simp only [List.length_cons] at within parts
        have fraction : ((rest ++ late).takeWhile Char.isDigit).length ≤ rest.length := by omega
        rw [← (takeWhile_early fraction).1] at some ⊢
        exact if_neg some
  next noPoint =>
    cases rest with
    | nil => exact given
    | cons d rest =>
      split
      next after starts =>
        cases starts
        exact absurd rfl (noPoint (rest ++ late))
      next => exact given

theorem scanString_extent {quote : Char} {text : List Char} {taken : Nat}
    (given : scanString quote late text taken = .ok (token, extra)) : taken < extra := by
  fun_induction scanString quote late text taken with
  | case1 | case2 | case4 => cases given
  | case3 _ _ _ _ _ _ ih => exact Nat.lt_of_add_right_lt (ih given)
  | case5 =>
    cases given
    exact Nat.lt_succ_self _
  | case6 _ _ _ _ _ _ _ ih => exact Nat.lt_of_succ_lt (ih given)

theorem scanString_early {quote : Char} {text : List Char} {taken : Nat}
    (given : scanString quote (early ++ late) text taken = .ok (token, extra))
    (within : extra ≤ taken + early.length) :
    scanString quote early text taken = .ok (token, extra) := by
  fun_induction scanString quote early text taken with
  | case1 text taken => exact absurd (scanString_extent given) (Nat.not_lt.mpr within)
  | case2 text taken =>
    cases late with
    | nil => cases given
    | cons e rest =>
      rw [List.cons_append, List.nil_append, scanString] at given
      split at given
      · have least := scanString_extent given
        rw [List.length_singleton] at within
        omega
      · cases given
  | case3 e rest text taken d known ih =>
    rw [List.cons_append, List.cons_append, scanString, known] at given
    exact ih given (by simp only [List.length_cons] at within; omega)
  | case4 e rest text taken unknown =>
    rw [List.cons_append, List.cons_append, scanString, unknown] at given
    cases given
  | case5 rest text taken lone escape =>
    rw [List.cons_append, scanString, if_pos rfl] at given
    · exact given
    · exact fun is _ => unescaped lone escape is
    · exact fun _ _ is _ => unescaped lone escape is
  | case6 d rest text taken lone escape other ih =>
    rw [List.cons_append, scanString, if_neg other] at given
    · exact ih given (by simp only [List.length_cons] at within; omega)
    · exact fun is _ => unescaped lone escape is
    · exact fun _ _ is _ => unescaped lone escape is

/-- A token that ends in front of the border is the same without what stands behind it. -/
theorem scan_early (given : scan c (early ++ late) = .ok (token, extra))
    (within : extra ≤ early.length) : scan c early = .ok (token, extra) := by
  unfold scan at given ⊢
  split at given
  next isDigit =>
    rw [if_pos isDigit]
    exact scanNumber_early given within
  next notDigit =>
  rw [if_neg notDigit]
  split at given
  next quotes =>
    rw [if_pos quotes]
    exact scanString_early given (within.trans (Nat.le_add_left _ _))
  next notQuote =>
  rw [if_neg notQuote]
  split at given
  next isDollar =>
    rw [if_pos isDollar]
    unfold scanParameter at given ⊢
    dsimp only at given ⊢
    split at given
    · cases given
    next named =>
      cases given
      rw [(takeWhile_early within).1, if_neg named]
  next notDollar =>
  rw [if_neg notDollar]
  split at given
  next starts =>
    cases given
    rw [if_pos starts, (takeWhile_early within).1]
  next notLetter =>
    rw [if_neg notLetter]
    exact given

theorem isBlank_digit (isDigit : c.isDigit = true) : Text.isBlank c = false := by
  by_contra isBlank
  have separates : IsSeparator c := .inl (by simpa using isBlank)
  rw [separates.notDigit] at isDigit
  cases isDigit

theorem isBlank_word (isWord : isWordChar c = true) : Text.isBlank c = false := by
  by_contra isBlank
  have separates : IsSeparator c := .inl (by simpa using isBlank)
  rw [separates.notWord] at isWord
  cases isWord

theorem scanNumber_solid (given : scanNumber c early = .ok (token, early.length)) :
    ∀ d ∈ early, Text.isBlank d = false := by
  have parts := List.takeWhile_append_dropWhile (p := Char.isDigit) (l := early)
  have digits {rest : List Char} : ∀ d ∈ rest.takeWhile Char.isDigit, Text.isBlank d = false :=
    fun _ among => isBlank_digit (List.mem_takeWhile_imp among)
  have integer
      (given : scanInteger (c :: early.takeWhile Char.isDigit) = .ok (token, early.length)) :
      ∀ d ∈ early, Text.isBlank d = false := by
    have extent : early.length = (early.takeWhile Char.isDigit).length := scanInteger_extent given
    rw [← (List.takeWhile_prefix Char.isDigit).eq_of_length extent.symm]
    exact digits
  by_cases point : ∃ after, early.dropWhile Char.isDigit = '.' :: after
  · obtain ⟨after, point⟩ := point
    rw [scanNumber_point point] at given
    split at given
    · exact integer given
    · have extent : (c :: early.takeWhile Char.isDigit).length +
          (after.takeWhile Char.isDigit).length = early.length :=
        (Prod.ext_iff.mp (Except.ok.inj given)).2
      have length := congrArg List.length parts
      rw [point, List.length_append, List.length_cons] at length
      rw [List.length_cons] at extent
      have fraction := (List.takeWhile_prefix Char.isDigit).eq_of_length
        (show (after.takeWhile Char.isDigit).length = after.length by omega)
      rw [← parts, point, ← fraction]
      exact List.forall_mem_append.mpr ⟨digits, List.forall_mem_cons.mpr ⟨rfl, digits⟩⟩
  · rw [scanNumber_plain (not_exists.mp point)] at given
    exact integer given

theorem scanString_last {quote : Char} {text : List Char} {taken : Nat}
    (given : scanString quote early text taken = .ok (token, taken + early.length)) :
    early.getLast? = some quote := by
  fun_induction scanString quote early text taken with
  | case1 | case2 | case4 => cases given
  | case3 e rest text taken d known ih =>
    have extent : taken + (rest.length + 2) = taken + 2 + rest.length := by omega
    rw [List.length_cons, List.length_cons, extent] at given
    have last := ih given
    cases rest with
    | nil => cases last
    | cons f rest => rwa [List.getLast?_cons_cons, List.getLast?_cons_cons]
  | case5 rest text taken lone escape =>
    have extent : taken + 1 = taken + (rest.length + 1) :=
      (Prod.ext_iff.mp (Except.ok.inj given)).2
    obtain rfl : rest = [] := List.length_eq_zero_iff.mp (by omega)
    rfl
  | case6 d rest text taken lone escape other ih =>
    have extent : taken + (rest.length + 1) = taken + 1 + rest.length := by omega
    rw [List.length_cons, extent] at given
    have last := ih given
    cases rest with
    | nil => cases last
    | cons f rest => rwa [List.getLast?_cons_cons]

/-- No token ends with a blank. -/
theorem scan_last (given : scan c early = .ok (token, early.length))
    (notBlank : Text.isBlank c = false) : ∀ d ∈ (c :: early).getLast?, Text.isBlank d = false := by
  have solid (all : ∀ d ∈ early, Text.isBlank d = false) :
      ∀ d ∈ (c :: early).getLast?, Text.isBlank d = false := by
    intro d last
    rcases List.mem_cons.mp (List.mem_of_mem_getLast? last) with rfl | among
    · exact notBlank
    · exact all d among
  have word (extent : (early.takeWhile isWordChar).length = early.length) :
      ∀ d ∈ early, Text.isBlank d = false := by
    rw [← (List.takeWhile_prefix isWordChar).eq_of_length extent]
    exact fun _ among => isBlank_word (List.mem_takeWhile_imp among)
  unfold scan at given
  split at given
  · exact solid (scanNumber_solid given)
  split at given
  · have last := @scanString_last early token c [] 0 (by rwa [Nat.zero_add])
    intro d ends
    cases early with
    | nil => cases last
    | cons e rest =>
      rw [List.getLast?_cons_cons, last] at ends
      cases ends
      exact notBlank
  split at given
  · unfold scanParameter at given
    dsimp only at given
    split at given
    · cases given
    · exact solid (word (Prod.ext_iff.mp (Except.ok.inj given)).2)
  split at given
  · exact solid (word (Prod.ext_iff.mp (Except.ok.inj given)).2)
  split at given
  · have extent : 0 = early.length := (Prod.ext_iff.mp (Except.ok.inj given)).2
    obtain rfl : early = [] := List.length_eq_zero_iff.mp extent.symm
    exact solid (List.forall_mem_nil _)
  · cases given

end

/-! ## How a text is cut -/

/-- Whether the tokens of a text that starts at this position are these. -/
inductive Cut : Nat → List Char → List Lexeme → Prop
  | done (position : Nat) : Cut position [] []
  | blank {position : Nat} {c : Char} {rest : List Char} {lexemes : List Lexeme} :
      Text.isBlank c = true → Cut (position + 1) rest lexemes → Cut position (c :: rest) lexemes
  | token {position : Nat} {c : Char} {word rest : List Char} {token : Token}
      {lexemes : List Lexeme} :
      Text.isBlank c = false → scan c (word ++ rest) = .ok (token, word.length) →
      Cut (position + 1 + word.length) rest lexemes →
      Cut position (c :: (word ++ rest)) (⟨token, position, position + 1 + word.length⟩ :: lexemes)

section

variable {position : Nat} {text early late : List Char} {lexemes found : List Lexeme}

theorem cut_of_tokens (given : tokensFrom position text found = .ok lexemes) :
    ∃ others, lexemes = found.reverse ++ others ∧ Cut position text others := by
  fun_induction tokensFrom position text found with
  | case1 position found =>
    cases given
    exact ⟨[], (List.append_nil _).symm, .done position⟩
  | case2 position found c rest isBlank ih =>
    obtain ⟨others, whole, cut⟩ := ih given
    exact ⟨others, whole, .blank isBlank cut⟩
  | case3 => cases given
  | case4 position found c rest notBlank token extra scanned stop ih =>
    obtain ⟨others, whole, cut⟩ := ih given
    rw [List.reverse_cons, List.append_assoc] at whole
    have length : (rest.take extra).length = extra :=
      List.length_take_of_le (scan_within scanned).extent
    refine ⟨_, whole, ?_⟩
    have here := @Cut.token position c (rest.take extra) (rest.drop extra) token others
    rw [List.take_append_drop, length] at here
    exact here (Bool.eq_false_iff.mpr notBlank) scanned cut

theorem Cut.tokens (cut : Cut position text lexemes) :
    tokensFrom position text [] = .ok lexemes := by
  induction cut with
  | done position => rw [tokensFrom, List.reverse_nil]
  | blank isBlank _ ih => rw [tokensFrom, if_pos isBlank, ih]
  | @token position c word rest token lexemes notBlank scanned _ ih =>
    rw [tokensFrom, notBlank, if_neg Bool.false_ne_true, scanned]
    dsimp only
    rw [List.drop_left, ← List.nil_append [_], tokensFrom_found, ih]
    rfl

theorem tokensFrom_iff : tokensFrom position text [] = .ok lexemes ↔ Cut position text lexemes := by
  constructor
  · intro given
    obtain ⟨_, rfl, cut⟩ := cut_of_tokens given
    exact cut
  · exact Cut.tokens

/-! ## Places -/

def Lexeme.chars (l : Lexeme) (text : List Char) : List Char :=
  (text.drop l.start).take (l.stop - l.start)

/-- Tokens are not empty, stand in the text and do not overlap. -/
theorem Cut.places (cut : Cut position text lexemes) :
    lexemes.Pairwise (fun l m => l.stop ≤ m.start) ∧
      ∀ l ∈ lexemes, position ≤ l.start ∧ l.start < l.stop ∧ l.stop ≤ position + text.length := by
  induction cut with
  | done => exact ⟨.nil, List.forall_mem_nil _⟩
  | blank _ _ ih =>
    refine ⟨ih.1, fun l among => ?_⟩
    have here := ih.2 l among
    rw [List.length_cons]
    omega
  | token _ _ _ ih =>
    simp only [List.pairwise_cons, List.forall_mem_cons, List.length_cons, List.length_append]
    refine ⟨⟨fun l among => (ih.2 l among).1, ih.1⟩, by omega, fun l among => ?_⟩
    have here := ih.2 l among
    omega

/-- A character that no token has is blank. -/
theorem Cut.blanks (cut : Cut position text lexemes) {i : Nat} {c : Char}
    (here : text[i]? = some c)
    (outside : ∀ l ∈ lexemes, position + i < l.start ∨ l.stop ≤ position + i) :
    Text.isBlank c = true := by
  induction cut generalizing i with
  | done => simp at here
  | @blank position d rest lexemes isBlank _ ih =>
    cases i with
    | zero =>
      cases here
      exact isBlank
    | succ i =>
      refine ih here fun l among => ?_
      have away := outside l among
      omega
  | @token position d word rest token lexemes _ _ _ ih =>
    obtain ⟨first, others⟩ := List.forall_mem_cons.mp outside
    dsimp only at first
    obtain ⟨j, rfl⟩ : ∃ j, i = 1 + word.length + j := ⟨i - (1 + word.length), by omega⟩
    refine @ih j ?_ fun l among => ?_
    · rw [Nat.add_assoc, Nat.add_comm 1, List.getElem?_cons_succ,
        List.getElem?_append_right (Nat.le_add_right _ _), Nat.add_sub_cancel_left] at here
      exact here
    · have away := others l among
      omega

/-- A token stands alone as it stands in the text. -/
theorem Cut.scanned (cut : Cut position text lexemes) {l : Lexeme} (among : l ∈ lexemes) :
    ∃ before c word after, text = before ++ c :: (word ++ after) ∧
      l.start = position + before.length ∧ l.stop = l.start + 1 + word.length ∧
      Text.isBlank c = false ∧ scan c word = .ok (l.token, word.length) := by
  induction cut with
  | done => cases among
  | @blank position d rest lexemes _ _ ih =>
    obtain ⟨before, c, word, after, whole, start, stop⟩ := ih among
    refine ⟨d :: before, c, word, after, congrArg (d :: ·) whole, ?_, stop⟩
    rw [start, List.length_cons]
    omega
  | @token position d word rest token lexemes notBlank scanned _ ih =>
    rcases List.mem_cons.mp among with rfl | among
    · exact ⟨[], d, word, rest, rfl, rfl, rfl, notBlank, scan_early scanned le_rfl⟩
    · obtain ⟨before, c, word', after, whole, start, stop⟩ := ih among
      refine ⟨d :: (word ++ before), c, word', after, ?_, ?_, stop⟩
      · rw [whole, List.cons_append, List.append_assoc]
      · rw [start, List.length_cons, List.length_append]
        omega

/-- Tokens neither start nor end with blanks. -/
theorem Cut.solid (cut : Cut position text lexemes) {l : Lexeme} (among : l ∈ lexemes) :
    ∃ c d, text[l.start - position]? = some c ∧ text[l.stop - position - 1]? = some d ∧
      Text.isBlank c = false ∧ Text.isBlank d = false := by
  obtain ⟨before, c, word, after, whole, start, stop, notBlank, scanned⟩ := cut.scanned among
  have some : c :: word ≠ [] := List.cons_ne_nil c word
  have last := List.getLast?_eq_some_getLast some
  refine ⟨c, (c :: word).getLast some, ?_, ?_, notBlank, scan_last scanned notBlank _ last⟩
  · rw [whole, start, Nat.add_sub_cancel_left, List.getElem?_append_right le_rfl, Nat.sub_self]
    rfl
  · have place : l.stop - position - 1 = before.length + word.length := by omega
    rw [whole, place, List.getElem?_append_right (Nat.le_add_right _ _), Nat.add_sub_cancel_left,
      ← List.cons_append, List.getElem?_append_left (Nat.lt_succ_self _), ← last,
      List.getLast?_eq_getElem?]
    rfl

/-- The characters of a token give that token. -/
theorem tokenize_chars (given : tokenize text = .ok lexemes) {l : Lexeme} (among : l ∈ lexemes) :
    tokenize (l.chars text) = .ok [⟨l.token, 0, l.stop - l.start⟩] := by
  obtain ⟨before, c, word, after, whole, start, stop, notBlank, scanned⟩ :=
    (tokensFrom_iff.mp given).scanned among
  have extent : l.stop - l.start = 1 + word.length := by omega
  have chars : l.chars text = c :: (word ++ []) := by
    have parts : text = before ++ ((c :: word) ++ after) := whole
    have length : l.stop - l.start = (c :: word).length := by
      rw [extent, List.length_cons, Nat.add_comm]
    unfold Lexeme.chars
    rw [length, start, Nat.zero_add, parts, List.drop_left, List.take_left, List.append_nil]
  have alone : Cut 0 (c :: (word ++ [])) [⟨l.token, 0, 0 + 1 + word.length⟩] :=
    .token notBlank (by rwa [List.append_nil]) (.done _)
  rw [chars, extent, tokenize, alone.tokens, Nat.zero_add]

/-! ## Other blanks -/

/-- The tokens do not depend on the position at which the text starts, apart from their places. -/
theorem Cut.moved (cut : Cut position text lexemes) (other : Nat) :
    ∃ moved, Cut other text moved ∧ moved.map Lexeme.token = lexemes.map Lexeme.token := by
  induction cut generalizing other with
  | done => exact ⟨[], .done other, rfl⟩
  | blank isBlank _ ih =>
    obtain ⟨moved, cut, same⟩ := ih (other + 1)
    exact ⟨moved, .blank isBlank cut, same⟩
  | @token _ _ word _ token _ notBlank scanned _ ih =>
    obtain ⟨moved, cut, same⟩ := ih (other + 1 + word.length)
    exact ⟨_, .token notBlank scanned cut, congrArg (token :: ·) same⟩

/-- Up to a border that lies in no token, a text is cut by itself. -/
theorem Cut.front (cut : Cut position (early ++ late) lexemes)
    (border : ∀ l ∈ lexemes, l.stop ≤ position + early.length ∨ position + early.length ≤ l.start) :
    ∃ taken, Cut position early taken := by
  generalize parts : early ++ late = text at cut
  induction cut generalizing early with
  | done position =>
    obtain ⟨rfl, -⟩ := List.append_eq_nil_iff.mp parts
    exact ⟨[], .done position⟩
  | @blank position c rest lexemes isBlank _ ih =>
    cases early with
    | nil => exact ⟨[], .done position⟩
    | cons d early =>
      cases parts
      rw [List.length_cons, Nat.add_comm early.length, ← Nat.add_assoc] at border
      obtain ⟨taken, cut⟩ := ih border rfl
      exact ⟨taken, .blank isBlank cut⟩
  | @token position c word rest token lexemes notBlank scanned _ ih =>
    cases early with
    | nil => exact ⟨[], .done position⟩
    | cons d early =>
      obtain ⟨rfl, tails⟩ := List.cons.inj parts
      obtain ⟨first, border⟩ := List.forall_mem_cons.mp border
      rw [List.length_cons] at first border
      dsimp only at first
      have short : word.length ≤ early.length := by omega
      obtain ⟨further, rfl, rfl⟩ : ∃ further, early = word ++ further ∧ rest = further ++ late := by
        rcases List.append_eq_append_iff.mp tails with ⟨more, rfl, rfl⟩ | within
        · obtain rfl : more = [] := List.length_eq_zero_iff.mp (by
            rw [List.length_append] at short
            omega)
          exact ⟨[], by simp, rfl⟩
        · exact within
      rw [← List.append_assoc] at scanned
      have alone := scan_early scanned short
      obtain ⟨taken, cut⟩ := ih (fun l among => by
        have away := border l among
        rw [List.length_append] at away
        omega) rfl
      exact ⟨_, .token notBlank alone cut⟩

/-- Other blanks between the tokens give the same tokens. -/
theorem tokenize_blanks {blanks others : List Char}
    (given : tokenize (early ++ blanks ++ late) = .ok lexemes) (some : blanks ≠ [])
    (blank : ∀ c ∈ blanks, Text.isBlank c = true) (some' : others ≠ [])
    (blank' : ∀ c ∈ others, Text.isBlank c = true)
    (outside : ∀ l ∈ lexemes,
      l.stop ≤ early.length ∨ early.length + blanks.length ≤ l.start) :
    ∃ again, tokenize (early ++ others ++ late) = .ok again ∧
      again.map Lexeme.token = lexemes.map Lexeme.token := by
  have front : ∃ taken, Cut 0 early taken := by
    have cut := tokensFrom_iff.mp given
    rw [List.append_assoc] at cut
    refine cut.front fun l among => ?_
    have away := outside l among
    omega
  obtain ⟨taken, front⟩ := front
  -- Any blanks keep what stands before them apart from what stands behind.
  have cuts {blanks : List Char} (some : blanks ≠ [])
      (blank : ∀ c ∈ blanks, Text.isBlank c = true) :
      tokensFrom 0 (early ++ blanks ++ late) [] =
        (tokensFrom (early ++ blanks).length late []).map (taken ++ ·) := by
    have first : tokensFrom 0 (early ++ blanks) [] = .ok (taken ++ []) :=
      tokensFrom_both (fun _ => (startsApart_blanks blank).apart) front.tokens
        (tokensFrom_blanks blank)
    rw [List.append_nil] at first
    have apart : Apart (early ++ blanks) late := by
      intro c _
      right
      rw [List.getLast?_append_of_ne_nil early some]
      exact ⟨_, List.getLast?_eq_some_getLast some,
        .inl (blank _ (List.getLast_mem some))⟩
    rw [tokensFrom_apart (fun _ => apart) first, Nat.zero_add]
  have whole := (cuts some blank).symm.trans given
  cases back : tokensFrom (early ++ blanks).length late [] with
  | error fault =>
    rw [back] at whole
    cases whole
  | ok rest =>
    rw [back] at whole
    cases whole
    obtain ⟨moved, cut, same⟩ := (tokensFrom_iff.mp back).moved (early ++ others).length
    refine ⟨taken ++ moved, ?_, by rw [List.map_append, List.map_append, same]⟩
    rw [tokenize, cuts some' blank', cut.tokens]
    rfl

end

end GraphProtocol.Literal
