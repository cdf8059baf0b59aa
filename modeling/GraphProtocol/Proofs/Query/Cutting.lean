import GraphProtocol.Proofs.Query.Parsing

/-!
# Cutting texts that are put together

A token is as long as possible, so the tokens of two texts one after the other are not always the
tokens of each: a word or a number may go on. It cannot go on over a blank or a symbol, and where
one of these stands at the border the two texts are cut each for itself.
-/

set_option autoImplicit false

namespace GraphProtocol

namespace Text

def wideBlanks : List Nat :=
  [0x85, 0xa0, 0x1680] ++ List.range' 0x2000 11 ++ [0x2028, 0x2029, 0x202f, 0x205f, 0x3000]

theorem memberFrom_pair {code first past : Nat} {rest : List Nat} :
    memberFrom false code (first :: past :: rest) = true ↔
      first ≤ code ∧ (code < past ∨ memberFrom false code rest = true) := by
  rw [memberFrom]
  split
  next below => simp; omega
  next reached =>
    rw [memberFrom]
    split
    next within => simp [within]; omega
    next beyond => simp [beyond]; omega

theorem blank_code {code : Nat} (member : memberFrom false code blank.boundaries = true)
    (wide : 128 ≤ code) : code ∈ wideBlanks := by
  have none : memberFrom false code [] = false := rfl
  simp only [blank, memberFrom_pair, none, Bool.false_eq_true, or_false] at member
  simp only [wideBlanks, List.mem_append, List.mem_cons, List.not_mem_nil, List.mem_range'_1]
  omega

/-- No blank is a letter or a number. -/
theorem isAlphanumeric_blank {c : Char} (isBlank : isBlank c = true) :
    isAlphanumeric c = false := by
  by_cases small : c.toNat < 128
  · have all : ∀ n : Fin 128, Text.isBlank (Char.ofNat n) = true →
        isAlphanumeric (Char.ofNat n) = false := by
      decide +kernel
    have here := all ⟨c.toNat, small⟩
    rw [Char.ofNat_toNat] at here
    exact here isBlank
  · have all : ∀ code ∈ wideBlanks, memberFrom false code alphabetic.boundaries = false ∧
        memberFrom false code numeric.boundaries = false := by
      decide +kernel
    unfold Text.isBlank at isBlank
    rw [if_neg small] at isBlank
    obtain ⟨letter, number⟩ := all c.toNat (blank_code isBlank (by omega))
    unfold isAlphanumeric
    rw [if_neg small, Bool.or_eq_false_iff]
    exact ⟨letter, number⟩

end Text

namespace Literal

/-! ## Separators -/

def IsSeparator (c : Char) : Prop := Text.isBlank c = true ∨ c ∈ symbols

theorem IsSeparator.notWord {c : Char} (separates : IsSeparator c) : isWordChar c = false := by
  rcases separates with isBlank | isSymbol
  · unfold isWordChar
    rw [Text.isAlphanumeric_blank isBlank, Bool.false_or, beq_eq_false_iff_ne]
    rintro rfl
    cases isBlank
  · simp only [symbols, List.mem_cons, List.not_mem_nil, or_false] at isSymbol
    rcases isSymbol with rfl | rfl | rfl | rfl | rfl | rfl | rfl <;> rfl

theorem isWordChar_digit {c : Char} (isDigit : c.isDigit = true) : isWordChar c = true := by
  have small : c.toNat < 128 := by
    have bounds := Char.isDigit_iff_toNat.mp isDigit
    have largest : '9'.toNat < 128 := by decide
    omega
  unfold isWordChar Text.isAlphanumeric
  rw [if_pos small, Char.isAlphanum, isDigit, Bool.or_true, Bool.true_or]

theorem isWordChar_start {c : Char} (starts : (Text.isAlphabetic c || c == '_') = true) :
    isWordChar c = true := by
  unfold Text.isAlphabetic at starts
  unfold isWordChar Text.isAlphanumeric
  split at starts
  next small =>
    rw [if_pos small, Char.isAlphanum]
    rcases Bool.or_eq_true_iff.mp starts with letter | underscore
    · simp [letter]
    · simp [underscore]
  next wide =>
    rw [if_neg wide]
    rcases Bool.or_eq_true_iff.mp starts with letter | underscore
    · simp [letter]
    · simp [underscore]

theorem IsSeparator.notDigit {c : Char} (separates : IsSeparator c) : c.isDigit = false := by
  have notWord := separates.notWord
  by_contra isDigit
  rw [isWordChar_digit (by simpa using isDigit)] at notWord
  cases notWord

theorem notSeparator_point : ¬ IsSeparator '.' := by
  rintro (isBlank | isSymbol)
  · cases isBlank
  · revert isSymbol
    decide

def Apart (early late : List Char) : Prop :=
  ∀ c ∈ late.head?, IsSeparator c ∨ ∃ d ∈ early.getLast?, IsSeparator d

section

variable {early late : List Char} {c : Char}

theorem Apart.suffix {rest : List Char} (apart : Apart (early ++ rest) late) (some : rest ≠ []) :
    Apart rest late := by
  intro c starts
  rw [← List.getLast?_append_of_ne_nil early some]
  exact apart c starts

theorem Apart.tail (apart : Apart (c :: early) late) (goesOn : ¬ IsSeparator c) :
    Apart early late := by
  cases early with
  | nil =>
    intro d starts
    refine .inl ((apart d starts).resolve_right ?_)
    rintro ⟨_, ⟨⟩, separates⟩
    exact goesOn separates
  | cons e rest =>
    have whole : Apart ([c] ++ e :: rest) late := apart
    exact whole.suffix (List.cons_ne_nil e rest)

/-- Characters that are no separators are taken up to the border at most. -/
theorem Apart.taken {p : Char → Bool} (apart : Apart early late)
    (stops : ∀ c, IsSeparator c → p c = false) :
    (early ++ late).takeWhile p = early.takeWhile p ∧
      (early ++ late).dropWhile p = early.dropWhile p ++ late ∧
      Apart (early.dropWhile p) late := by
  induction early with
  | nil =>
    cases late with
    | nil => exact ⟨rfl, rfl, apart⟩
    | cons d rest =>
      have stop : p d = false := stops d <| (apart d rfl).resolve_right (by simp)
      simp [stop, apart]
  | cons c early ih =>
    by_cases within : p c = true
    · have goesOn : ¬ IsSeparator c := fun separates => by simp [stops c separates] at within
      simpa [within] using ih (apart.tail goesOn)
    · simp [within, apart]

def StartsApart (cs : List Char) : Prop := ∀ c ∈ cs.head?, IsSeparator c

def EndsApart (cs : List Char) : Prop := ∀ c ∈ cs.getLast?, IsSeparator c

theorem StartsApart.apart (starts : StartsApart late) : Apart early late :=
  fun c first => .inl (starts c first)

theorem EndsApart.apart (ends : EndsApart early) (some : early ≠ []) : Apart early late :=
  have last := List.getLast?_eq_some_getLast some
  fun _ _ => .inr ⟨_, last, ends _ last⟩

theorem StartsApart.append (first : StartsApart early) (second : StartsApart late) :
    StartsApart (early ++ late) := by
  intro c starts
  rw [List.head?_append] at starts
  rcases Option.or_eq_some_iff.mp starts with within | ⟨-, within⟩
  · exact first c within
  · exact second c within

theorem EndsApart.append (first : EndsApart early) (second : EndsApart late) :
    EndsApart (early ++ late) := by
  intro c ends
  rw [List.getLast?_append] at ends
  rcases Option.or_eq_some_iff.mp ends with within | ⟨-, within⟩
  · exact second c within
  · exact first c within

theorem startsApart_nil : StartsApart [] := by simp [StartsApart]

theorem endsApart_nil : EndsApart [] := by simp [EndsApart]

theorem startsApart_cons (separates : IsSeparator c) (rest : List Char) :
    StartsApart (c :: rest) := by
  rintro _ ⟨⟩
  exact separates

theorem startsApart_symbol (isSymbol : c ∈ symbols) (rest : List Char) : StartsApart (c :: rest) :=
  startsApart_cons (.inr isSymbol) rest

theorem endsApart_concat (separates : IsSeparator c) (cs : List Char) : EndsApart (cs ++ [c]) := by
  intro d last
  rw [List.getLast?_append] at last
  cases last
  exact separates

theorem startsApart_blanks {cs : List Char} (blank : ∀ c ∈ cs, Text.isBlank c = true) :
    StartsApart cs :=
  fun c first => .inl (blank c (List.mem_of_mem_head? first))

theorem endsApart_blanks {cs : List Char} (blank : ∀ c ∈ cs, Text.isBlank c = true) :
    EndsApart cs :=
  fun c last => .inl (blank c (List.mem_of_mem_getLast? last))

/-! ## Tokens at a border -/

theorem scanNumber_append {r : Token × Nat} (apart : Apart early late)
    (given : scanNumber c early = .ok r) : scanNumber c (early ++ late) = .ok r := by
  obtain ⟨taken, dropped, apart⟩ := apart.taken fun _ => IsSeparator.notDigit
  unfold scanNumber at given ⊢
  rw [taken, dropped]
  generalize early.dropWhile Char.isDigit = rest at apart given
  split at given
  next after =>
    obtain ⟨taken, -, -⟩ := (apart.tail notSeparator_point).taken fun _ => IsSeparator.notDigit
    simpa only [List.cons_append, taken] using given
  next noPoint =>
    split
    next after starts =>
      -- The point would have to be the first character of the second text.
      cases rest with
      | nil =>
        rw [List.nil_append] at starts
        subst starts
        exact absurd ((apart '.' rfl).resolve_right (by simp)) notSeparator_point
      | cons d rest =>
        cases starts
        exact absurd rfl (noPoint rest)
    · exact given

/-- A character that is no backslash at the end and none before another is none. -/
theorem unescaped {rest : List Char} (lone : c = '\\' → rest = [] → False)
    (escape : ∀ e others, c = '\\' → rest = e :: others → False) : c ≠ '\\' := by
  intro is
  cases rest with
  | nil => exact lone is rfl
  | cons e others => exact escape e others is rfl

theorem scanString_append {quote : Char} {text : List Char} {taken : Nat} {r : Token × Nat}
    (given : scanString quote early text taken = .ok r) :
    scanString quote (early ++ late) text taken = .ok r := by
  fun_induction scanString quote early text taken with
  | case1 | case2 | case4 => cases given
  | case3 e rest text taken d known ih =>
    rw [List.cons_append, List.cons_append, scanString, known]
    exact ih given
  | case5 rest text taken lone escape =>
    rw [List.cons_append, scanString, if_pos rfl]
    · exact given
    · exact fun is _ => unescaped lone escape is
    · exact fun _ _ is _ => unescaped lone escape is
  | case6 d rest text taken lone escape other ih =>
    rw [List.cons_append, scanString, if_neg other]
    · exact ih given
    · exact fun is _ => unescaped lone escape is
    · exact fun _ _ is _ => unescaped lone escape is

theorem scan_append {r : Token × Nat} (apart : Apart (c :: early) late)
    (given : scan c early = .ok r) : scan c (early ++ late) = .ok r := by
  unfold scan at given ⊢
  split at given
  next isDigit =>
    have goesOn : ¬ IsSeparator c := fun separates => by simp [separates.notDigit] at isDigit
    rw [if_pos isDigit]
    exact scanNumber_append (apart.tail goesOn) given
  next notDigit =>
  rw [if_neg notDigit]
  split at given
  next quotes =>
    rw [if_pos quotes]
    exact scanString_append given
  next notQuote =>
  rw [if_neg notQuote]
  split at given
  next isDollar =>
    subst isDollar
    have goesOn : ¬ IsSeparator '$' := by
      rintro (isBlank | isSymbol)
      · cases isBlank
      · revert isSymbol
        decide
    rw [if_pos rfl]
    unfold scanParameter at given ⊢
    rw [((apart.tail goesOn).taken fun _ => IsSeparator.notWord).1]
    exact given
  next notDollar =>
  rw [if_neg notDollar]
  split at given
  next starts =>
    have goesOn : ¬ IsSeparator c := fun separates => by
      have notWord := separates.notWord
      rw [isWordChar_start starts] at notWord
      cases notWord
    rw [if_pos starts, ((apart.tail goesOn).taken fun _ => IsSeparator.notWord).1]
    exact given
  next notLetter =>
    rw [if_neg notLetter]
    exact given

/-! ## What is scanned -/

structure Token.IsWithin (token : Token) (extra room : Nat) : Prop where
  extent : extra ≤ room
  unsigned : ∀ n, token = .integer n → 0 ≤ n.toInt

section

variable {token : Token} {extra room : Nat}

theorem Token.IsWithin.mono {larger : Nat} (within : token.IsWithin extra room)
    (smaller : room ≤ larger) : token.IsWithin extra larger :=
  ⟨within.extent.trans smaller, within.unsigned⟩

theorem scanInteger_within {digits : List Char}
    (given : scanInteger digits = .ok (token, extra)) :
    token.IsWithin extra (digits.length - 1) := by
  unfold scanInteger at given
  dsimp only at given
  split at given
  next fits =>
    have largest : maxInteger = 9223372036854775807 := rfl
    cases given
    refine ⟨le_rfl, fun n is => ?_⟩
    cases is
    rw [Int64.toInt_ofNat_of_lt (by omega)]
    omega
  · cases given

theorem scanNumber_within (given : scanNumber c early = .ok (token, extra)) :
    token.IsWithin extra early.length := by
  have whole := (List.takeWhile_prefix (l := early) Char.isDigit).length_le
  have integer : scanInteger (c :: early.takeWhile Char.isDigit) = .ok (token, extra) →
      token.IsWithin extra early.length := fun given => (scanInteger_within given).mono whole
  unfold scanNumber at given
  dsimp only at given
  split at given
  next after starts =>
    split at given
    · exact integer given
    · cases given
      have fraction := (List.takeWhile_prefix (l := after) Char.isDigit).length_le
      have parts : (early.takeWhile Char.isDigit ++ early.dropWhile Char.isDigit).length =
          early.length := by
        rw [List.takeWhile_append_dropWhile]
      rw [starts, List.length_append, List.length_cons] at parts
      exact ⟨by simp only [List.length_cons]; omega, by simp⟩
  · exact integer given

theorem scanString_within {quote : Char} {text : List Char} {taken : Nat}
    (given : scanString quote early text taken = .ok (token, extra)) :
    token.IsWithin extra (taken + early.length) := by
  fun_induction scanString quote early text taken with
  | case1 | case2 | case4 => cases given
  | case3 e rest text taken d known ih =>
    exact (ih given).mono (by simp only [List.length_cons]; omega)
  | case5 rest text taken =>
    cases given
    exact ⟨by simp only [List.length_cons]; omega, by simp⟩
  | case6 d rest text taken lone escape other ih =>
    exact (ih given).mono (by simp only [List.length_cons]; omega)

theorem scan_within (given : scan c early = .ok (token, extra)) :
    token.IsWithin extra early.length := by
  have word := (List.takeWhile_prefix (l := early) isWordChar).length_le
  unfold scan at given
  split at given
  · exact scanNumber_within given
  split at given
  · exact (scanString_within given).mono (Nat.zero_add _).le
  split at given
  · unfold scanParameter at given
    dsimp only at given
    split at given <;> cases given
    exact ⟨word, by simp⟩
  split at given
  · cases given
    exact ⟨word, by simp⟩
  split at given <;> cases given
  exact ⟨Nat.zero_le _, by simp⟩

end

/-! ## The tokens of two texts -/

/-- Where two texts are apart the second is cut when the first has been, and from where it ends. -/
theorem tokensFrom_append {position : Nat} {found lexemes : List Lexeme}
    (apart : early ≠ [] → Apart early late)
    (given : tokensFrom position early found = .ok lexemes) :
    tokensFrom position (early ++ late) found =
      tokensFrom (position + early.length) late lexemes.reverse := by
  fun_induction tokensFrom position early found with
  | case1 position found =>
    cases given
    rw [List.reverse_reverse]
    rfl
  | case2 position found c rest isBlank ih =>
    have whole : Apart ([c] ++ rest) late := apart (List.cons_ne_nil c rest)
    have further : rest ≠ [] → Apart rest late := whole.suffix
    rw [List.cons_append, tokensFrom, if_pos isBlank, ih further given, List.length_cons,
      Nat.add_right_comm, Nat.add_assoc]
  | case3 => cases given
  | case4 position found c rest notBlank token extra scanned stop ih =>
    have within := (scan_within scanned).extent
    -- What is left of the first text ends as the text does, unless nothing is left.
    have further : rest.drop extra ≠ [] → Apart (rest.drop extra) late := by
      have parts : c :: rest = (c :: rest.take extra) ++ rest.drop extra := by simp
      have apart := apart (List.cons_ne_nil c rest)
      rw [parts] at apart
      exact apart.suffix
    rw [List.cons_append, tokensFrom, if_neg notBlank,
      scan_append (apart (List.cons_ne_nil c rest)) scanned]
    dsimp only
    rw [List.drop_append_of_le_length within, ih further given, List.length_drop, List.length_cons]
    congr 1
    omega

/-- Tokens that have been found before stand before the others. -/
theorem tokensFrom_found {position : Nat} {text : List Char} {found earlier : List Lexeme} :
    tokensFrom position text (found ++ earlier) =
      (tokensFrom position text found).map (earlier.reverse ++ ·) := by
  fun_induction tokensFrom position text found with
  | case1 position found =>
    rw [tokensFrom, List.reverse_append]
    rfl
  | case2 position found c rest isBlank ih => rw [tokensFrom, if_pos isBlank, ih]
  | case3 position found c rest notBlank fault scanned =>
    rw [tokensFrom, if_neg notBlank, scanned]
    rfl
  | case4 position found c rest notBlank token extra scanned stop ih =>
    rw [tokensFrom, if_neg notBlank, scanned]
    exact ih

/-- Where two texts are apart they are cut one after the other. -/
theorem tokensFrom_apart {position : Nat} {taken : List Lexeme}
    (apart : early ≠ [] → Apart early late) (given : tokensFrom position early [] = .ok taken) :
    tokensFrom position (early ++ late) [] =
      (tokensFrom (position + early.length) late []).map (taken ++ ·) := by
  rw [tokensFrom_append apart given, ← List.nil_append taken.reverse, tokensFrom_found,
    List.reverse_reverse]

theorem tokensFrom_both {position : Nat} {taken others : List Lexeme}
    (apart : early ≠ [] → Apart early late) (first : tokensFrom position early [] = .ok taken)
    (second : tokensFrom (position + early.length) late [] = .ok others) :
    tokensFrom position (early ++ late) [] = .ok (taken ++ others) := by
  rw [tokensFrom_apart apart first, second]
  rfl

end

/-! ## Blanks, symbols and keywords -/

section

variable {position : Nat} {c : Char}

theorem tokensFrom_blanks {cs : List Char} {found : List Lexeme}
    (blank : ∀ c ∈ cs, Text.isBlank c = true) :
    tokensFrom position cs found = .ok found.reverse := by
  induction cs generalizing position with
  | nil => rw [tokensFrom]
  | cons c rest ih =>
    obtain ⟨first, blank⟩ := List.forall_mem_cons.mp blank
    rw [tokensFrom, if_pos first, ih blank]

theorem scan_symbol (isSymbol : c ∈ symbols) (rest : List Char) :
    Text.isBlank c = false ∧ scan c rest = .ok (.symbol c, 0) := by
  simp only [symbols, List.mem_cons, List.not_mem_nil, or_false] at isSymbol
  rcases isSymbol with rfl | rfl | rfl | rfl | rfl | rfl | rfl <;> exact ⟨rfl, rfl⟩

theorem tokensFrom_symbol {rest : List Char} {taken : List Lexeme} (isSymbol : c ∈ symbols)
    (given : tokensFrom (position + 1) rest [] = .ok taken) :
    tokensFrom position (c :: rest) [] = .ok (⟨.symbol c, position, position + 1⟩ :: taken) := by
  obtain ⟨notBlank, scanned⟩ := scan_symbol isSymbol rest
  rw [tokensFrom, notBlank, if_neg (by decide), scanned]
  dsimp only
  rw [List.drop_zero, ← List.nil_append [_], tokensFrom_found, given]
  rfl

theorem tokensFrom_last (isSymbol : c ∈ symbols) :
    tokensFrom position [c] [] = .ok [⟨.symbol c, position, position + 1⟩] :=
  tokensFrom_symbol isSymbol (by rw [tokensFrom]; rfl)

/-- A letter is none of the characters that start other tokens than words. -/
theorem isAlpha_starts (isAlpha : c.isAlpha = true) :
    Text.isBlank c = false ∧ c.isDigit = false ∧ ¬ (c = '\'' ∨ c = '"') ∧ c ≠ '$' ∧
      Text.isAlphabetic c = true := by
  have all : ∀ n : Fin 128, (Char.ofNat n).isAlpha = true →
      Text.isBlank (Char.ofNat n) = false ∧ (Char.ofNat n).isDigit = false ∧
        ¬ (Char.ofNat n = '\'' ∨ Char.ofNat n = '"') ∧ Char.ofNat n ≠ '$' ∧
        Text.isAlphabetic (Char.ofNat n) = true := by
    decide +kernel
  have small : c.toNat < 128 := by
    simp only [Char.isAlpha, Char.isUpper, Char.isLower, Bool.or_eq_true, Bool.and_eq_true,
      decide_eq_true_eq] at isAlpha
    rcases isAlpha with ⟨-, last⟩ | ⟨-, last⟩
    · exact Nat.lt_of_le_of_lt (UInt32.le_iff_toNat_le.mp last) (by decide)
    · exact Nat.lt_of_le_of_lt (UInt32.le_iff_toNat_le.mp last) (by decide)
  have here := all ⟨c.toNat, small⟩
  rw [Char.ofNat_toNat] at here
  exact here isAlpha

/-- A keyword is a token, in whatever letter case it is written. -/
theorem tokensFrom_keyword (position : Nat) {keyword : String} {word : List Char}
    (letters : ∀ c ∈ keyword.toList, c.isAlpha = true) (some : keyword.toList ≠ [])
    (reads : Parser.isKeyword keyword (String.ofList word) = true) :
    tokensFrom position word [] =
      .ok [⟨.word (String.ofList word), position, position + word.length⟩] := by
  unfold Parser.isKeyword at reads
  rw [beq_iff_eq, String.toList_ofList] at reads
  have alpha : ∀ c ∈ word, c.isAlpha = true := by
    intro c among
    rw [← Char.isAlpha_toUpper_eq_isAlpha]
    refine letters _ ?_
    rw [← reads]
    exact List.mem_map_of_mem among
  cases word with
  | nil => exact absurd reads.symm some
  | cons c rest =>
    obtain ⟨first, alpha⟩ := List.forall_mem_cons.mp alpha
    obtain ⟨notBlank, notDigit, notQuote, notDollar, letter⟩ := isAlpha_starts first
    have goesOn : rest.takeWhile isWordChar = rest := by
      refine List.takeWhile_eq_self_iff.mpr fun d among => ?_
      obtain ⟨-, -, -, -, letter⟩ := isAlpha_starts (alpha d among)
      exact isWordChar_start (by rw [letter, Bool.true_or])
    have scanned : scan c rest = .ok (.word (String.ofList (c :: rest)), rest.length) := by
      unfold scan
      rw [notDigit, if_neg (by decide), if_neg notQuote, if_neg notDollar, letter, Bool.true_or,
        if_pos rfl, goesOn]
    rw [tokensFrom, notBlank, if_neg (by decide), scanned]
    dsimp only
    rw [List.drop_length, tokensFrom, List.length_cons, Nat.add_comm rest.length 1,
      ← Nat.add_assoc]
    rfl

end

end Literal

end GraphProtocol
