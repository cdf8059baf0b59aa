import GraphProtocol.Proofs.Query.Bookmarks
import GraphProtocol.Proofs.Query.Names
import GraphProtocol.Proofs.Query.Places

/-!
# Integers in statements

An integer is written in decimal digits, perhaps with a minus sign before them. The sign is a token
of its own, and the digits alone have to be an integer of 64 bits before they are negated. So every
integer stands for itself wherever it is written, except the smallest: its digits are one more than
the largest integer, and a statement that holds them is rejected.
-/

set_option autoImplicit false

namespace GraphProtocol.Literal

/-! ## Numerals -/

/-- An integer as it is written. -/
structure Numeral where
  negative : Bool
  digits : List Char
  nonempty : digits ≠ []
  decimal : ∀ c ∈ digits, c.isDigit = true

namespace Numeral

def sign (x : Numeral) : List Char := if x.negative then ['-'] else []

def text (x : Numeral) : List Char := x.sign ++ x.digits

def magnitude (x : Numeral) : Nat := digitsValue x.digits

def value (x : Numeral) : Int := if x.negative then -x.magnitude else x.magnitude

def ofInt (n : Int) : Numeral where
  negative := decide (n < 0)
  digits := Nat.toDigits 10 n.natAbs
  nonempty := Nat.toDigits_ne_nil
  decimal _ among := Nat.isDigit_of_mem_toDigits (by decide) (by decide) among

theorem magnitude_ofInt (n : Int) : (ofInt n).magnitude = n.natAbs := by
  change digitsValue (Nat.toDigits 10 n.natAbs) = n.natAbs
  rw [digitsValue, ← Nat.ofDigitChars_eq_foldl, Nat.ofDigitChars_ten_toDigits]

theorem value_ofInt (n : Int) : (ofInt n).value = n := by
  unfold value
  rw [magnitude_ofInt]
  by_cases below : n < 0
  · rw [if_pos (show (ofInt n).negative = true from decide_eq_true below)]
    omega
  · rw [if_neg (show ¬ (ofInt n).negative = true from by simpa [ofInt] using below)]
    omega

theorem text_ofInt (n : Int) : (ofInt n).text = (toString n).toList := by
  unfold text sign ofInt
  change _ = n.repr.toList
  cases n with
  | ofNat m => simp [Int.repr, Nat.toList_repr]
  | negSucc m =>
    simp [Int.repr, Nat.toList_repr, Int.negSucc_lt_zero]

/-- Of all integers only the smallest has a magnitude that is none of the integers. -/
theorem fits_iff (n : Int64) : (ofInt n.toInt).magnitude ≤ maxInteger ↔ n ≠ Int64.minValue := by
  rw [magnitude_ofInt]
  have low := n.minValue_le_toInt
  have high := n.toInt_lt
  rw [ne_eq, ← Int64.toInt_inj]
  have smallest : Int64.minValue.toInt = -9223372036854775808 := rfl
  have largest : maxInteger = 9223372036854775807 := rfl
  omega

def denoted (x : Numeral) : Int64 := Int64.ofInt x.value

theorem denoted_ofInt (n : Int64) : (ofInt n.toInt).denoted = n := by
  rw [denoted, value_ofInt, Int64.ofInt_toInt]

end Numeral

/-! ## The tokens of a numeral -/

structure EndsNumber (after : List Char) : Prop where
  digit : ∀ c ∈ after.head?, c.isDigit = false
  fraction : ∀ c rest, after = '.' :: c :: rest → c.isDigit = false

theorem StartsApart.endsNumber {after : List Char} (starts : StartsApart after) :
    EndsNumber after where
  digit c first := (starts c first).notDigit
  fraction c rest same := absurd (starts '.' (by rw [same]; rfl)) notSeparator_point

variable {c : Char} {rest after : List Char} {position : Nat} {found : List Lexeme}

theorem scanNumber_ends (decimal : ∀ d ∈ rest, d.isDigit = true) (ends : EndsNumber after) :
    scanNumber c (rest ++ after) = scanInteger (c :: rest) := by
  have stop : after.takeWhile Char.isDigit = [] := by
    cases after with
    | nil => rfl
    | cons d more => exact List.takeWhile_cons_of_neg (by simp [ends.digit d rfl])
  have left : after.dropWhile Char.isDigit = after := by
    have parts := List.takeWhile_append_dropWhile (p := Char.isDigit) (l := after)
    rwa [stop] at parts
  unfold scanNumber
  rw [List.takeWhile_append_of_pos decimal, List.dropWhile_append_of_pos decimal, stop, left,
    List.append_nil]
  split
  next more =>
    have none : more.takeWhile Char.isDigit = [] := by
      cases more with
      | nil => rfl
      | cons d others =>
        exact List.takeWhile_cons_of_neg (by simp [ends.fraction d others rfl])
    rw [none]
    rfl
  · rfl

/-- Digits are one token, or too large for one. -/
theorem tokensFrom_digits {digits : List Char} (nonempty : digits ≠ [])
    (decimal : ∀ c ∈ digits, c.isDigit = true) (ends : EndsNumber after) :
    tokensFrom position (digits ++ after) found =
      if digitsValue digits ≤ maxInteger then
        tokensFrom (position + digits.length) after
          (⟨.integer (Int64.ofNat (digitsValue digits)), position, position + digits.length⟩ ::
            found)
      else .error (.integerTooLarge (String.ofList digits)) := by
  cases digits with
  | nil => exact absurd rfl nonempty
  | cons c rest =>
    obtain ⟨first, decimal⟩ := List.forall_mem_cons.mp decimal
    have notBlank : Text.isBlank c = false := by
      by_contra isBlank
      have separates : IsSeparator c := .inl (by simpa using isBlank)
      simp [separates.notDigit] at first
    rw [List.cons_append, tokensFrom, notBlank, if_neg (by decide), scan, if_pos first,
      scanNumber_ends decimal ends, scanInteger]
    dsimp only
    by_cases fits : digitsValue (c :: rest) ≤ maxInteger
    · rw [if_pos fits, if_pos fits]
      dsimp only
      rw [List.length_cons, Nat.add_sub_cancel, List.drop_left, Nat.add_right_comm, Nat.add_assoc]
    · rw [if_neg fits, if_neg fits]

namespace Numeral

variable {x : Numeral}

theorem denoted_value (fits : x.magnitude ≤ maxInteger) : x.denoted.toInt = x.value := by
  have largest : maxInteger = 9223372036854775807 := rfl
  unfold denoted value
  split
  · exact Int64.toInt_ofInt_of_le (by omega) (by omega)
  · exact Int64.toInt_ofInt_of_le (by omega) (by omega)

def lexemes (x : Numeral) (position : Nat) : List Lexeme :=
  let start := position + x.sign.length
  let digits : Lexeme := ⟨.integer (Int64.ofNat x.magnitude), start, start + x.digits.length⟩
  if x.negative then [⟨.symbol '-', position, start⟩, digits] else [digits]

theorem text_ne_nil (x : Numeral) : x.text ≠ [] :=
  List.append_ne_nil_of_right_ne_nil x.sign x.nonempty

theorem lexemes_spelt (x : Numeral) (position : Nat) :
    Expr.Spelt (x.lexemes position) (.literal (.integer x.denoted)) := by
  unfold lexemes denoted value
  dsimp only
  split
  · rw [Int64.ofInt_neg]
    exact .negativeInteger rfl rfl
  · exact .integer rfl

/-- A numeral is cut wherever it starts, unless its digits are too large. -/
theorem tokensFrom_text (x : Numeral) (position : Nat) (found : List Lexeme)
    (ends : EndsNumber after) :
    tokensFrom position (x.text ++ after) found =
      if x.magnitude ≤ maxInteger then
        tokensFrom (position + x.text.length) after ((x.lexemes position).reverse ++ found)
      else .error (.integerTooLarge (String.ofList x.digits)) := by
  unfold text lexemes
  by_cases negative : x.negative = true
  · have sign : x.sign = ['-'] := if_pos negative
    -- The sign is cut first; the digits behind it are judged without it.
    obtain ⟨notBlank, scanned⟩ :=
      scan_symbol (c := '-') (by decide) (x.digits ++ after)
    rw [sign, if_pos negative, List.append_assoc, List.singleton_append, tokensFrom, notBlank,
      if_neg (by decide), scanned]
    dsimp only
    rw [List.drop_zero, tokensFrom_digits x.nonempty x.decimal ends, List.length_append,
      List.length_singleton, ← Nat.add_assoc]
    rfl
  · have sign : x.sign = [] := if_neg negative
    rw [sign, if_neg negative, List.nil_append, tokensFrom_digits x.nonempty x.decimal ends]
    rfl

end Numeral

def Numeral.phrase (x : Numeral) (fits : x.magnitude ≤ maxInteger) : Phrase where
  text := x.text
  expr := .literal (.integer x.denoted)
  spelt position := by
    have cut := x.tokensFrom_text position [] startsApart_nil.endsNumber
    rw [if_pos fits, List.append_nil, List.append_nil, tokensFrom, List.reverse_reverse] at cut
    exact ⟨_, cut, x.lexemes_spelt position⟩
  closed := rfl

/-! ## Statements -/

/-- What a numeral makes of a statement, whatever stands before and after it. -/
theorem tokenize_numeral {before after : List Char} {taken : List Lexeme} {x : Numeral}
    (cut : tokenize before = .ok taken) (apart : before ≠ [] → Apart before x.text)
    (ends : EndsNumber after) :
    tokenize (before ++ x.text ++ after) =
      if x.magnitude ≤ maxInteger then
        (tokensFrom (before.length + x.text.length) after []).map
          ((taken ++ x.lexemes before.length) ++ ·)
      else .error (.integerTooLarge (String.ofList x.digits)) := by
  have apart : before ≠ [] → Apart before (x.text ++ after) := fun some c first => by
    rw [List.head?_append_of_ne_nil _ x.text_ne_nil] at first
    exact apart some c first
  unfold tokenize at cut ⊢
  rw [List.append_assoc, tokensFrom_append apart cut, Nat.zero_add, x.tokensFrom_text _ _ ends,
    ← List.reverse_append]
  split
  · rw [← List.nil_append (List.reverse _), tokensFrom_found, List.reverse_reverse]
  · rfl

namespace Place

variable {x : Numeral}

/-- In every place a numeral that fits stands for its integer. -/
theorem parse_fits (place : Place) (fits : x.magnitude ≤ maxInteger) :
    ∃ column, Plan.parse (place.statement x.text) =
      .ok ⟨none, [(place.fill (.literal (.integer x.denoted)), column)]⟩ := by
  obtain ⟨before, after, cutBefore, cutAfter, spelt⟩ :=
    place.isFrame 7 (place.opening.length + x.text.length)
  have cut := tokenize_numeral (x := x) (place.opening_cut cutBefore)
    (fun some => place.opening_endsApart.apart some) place.right_startsApart.endsNumber
  rw [if_pos fits, cutAfter, ← place.statement_toList] at cut
  have column : Column.Spelt (place.statement x.text).toList _ _ :=
    .text (spelt _ _ (x.lexemes_spelt place.opening.length))
  have sentence : Plan.Spelt (place.statement x.text).toList
      ([] ++ ⟨.word "RETURN", 0, 6⟩ :: _ ++ []) _ :=
    .mk .absent ⟨_, rfl, by decide⟩ (.one column) (.inl rfl)
  rw [List.nil_append, List.append_nil] at sentence
  refine ⟨_, Plan.parse_spelt cut sentence ⟨fun item held name within => ?_, by simp⟩⟩
  obtain rfl := List.mem_singleton.mp held
  rw [place.fill_closed (by rw [Expr.names])] at within
  cases within

/-- In every place a numeral that is too large is rejected. -/
theorem parse_large (place : Place) (large : ¬ x.magnitude ≤ maxInteger) :
    Plan.parse (place.statement x.text) = .error (.integerTooLarge (String.ofList x.digits)) := by
  obtain ⟨before, -, cutBefore, -, -⟩ := place.isFrame 7 0
  have cut := tokenize_numeral (x := x) (place.opening_cut cutBefore)
    (fun some => place.opening_endsApart.apart some) place.right_startsApart.endsNumber
  rw [if_neg large, ← place.statement_toList] at cut
  unfold Plan.parse
  simp only [bind, Except.bind, cut]

end Place

/-! ## Integers that are negated -/

/-- What holds of every token that is scanned holds of all the tokens. -/
theorem tokensFrom_each (holds : Token → Prop) {position : Nat} {text : List Char}
    {found lexemes : List Lexeme}
    (each : ∀ c rest token extra, scan c rest = .ok (token, extra) → holds token)
    (before : ∀ t ∈ found, holds t.token) (given : tokensFrom position text found = .ok lexemes) :
    ∀ t ∈ lexemes, holds t.token := by
  fun_induction tokensFrom position text found with
  | case1 =>
    cases given
    exact fun t among => before t (List.mem_reverse.mp among)
  | case2 _ _ _ _ _ ih => exact ih before given
  | case3 => cases given
  | case4 position found c rest notBlank token extra scanned stop ih =>
    refine ih (fun t among => ?_) given
    rcases List.mem_cons.mp among with rfl | among
    · exact each c rest token extra scanned
    · exact before t among

/-- The integers of a statement have no sign, and to negate one of them gives its negative. -/
theorem neg_exact {text : List Char} {lexemes : List Lexeme} {t : Lexeme} {n : Int64}
    (cut : tokenize text = .ok lexemes) (among : t ∈ lexemes) (is : t.token = .integer n) :
    (-n).toInt = -n.toInt := by
  have above := tokensFrom_each (fun token => ∀ n, token = .integer n → 0 ≤ n.toInt)
    (fun c rest token extra scanned => (scan_within scanned).unsigned) (by simp) cut t among n is
  have below := n.toInt_lt
  rw [Int64.toInt_neg]
  exact Int.bmod_eq_of_le (by omega) (by omega)

/-! ## Executions -/

/-- Whether a query gives one record, which holds this value alone, and then its summary, whenever
it is allowed to run at all, its deadline can be told and nothing disturbs it. -/
def Yields (query : Query) (v : Value) : Prop :=
  ∀ (s : Store) (now : Instant) (tx : Option TxId) (cancelled : Bool),
    (s.allow now query tx).1 = .ok () → (tx = none → (query.deadline? now).isSome = true) →
    ∃ columns production later summary,
      engine.execute now query tx cancelled s = (.ok (columns, production), later) ∧
      ∀ asks : List Ask,
        (∀ ask ∈ asks, ask.cancelled = false ∧ production.isLate ask.now = false) →
        (engine.emit asks production).1 = [.record [v], .done summary].take asks.length

theorem Store.execute_allowed {s : Store} {now : Instant} {query : Query} {tx : Option TxId}
    {p : Plan} (allowed : (s.allow now query tx).1 = .ok ())
    (timed : tx = none → (query.deadline? now).isSome = true) (planned : plan query = .ok p) :
    ∃ production later, s.execute now query tx = (.ok (p.columns, production), later) := by
  unfold execute
  split
  next refused =>
    rw [refused] at allowed
    cases allowed
  · rw [planned]
    cases tx with
    | none =>
      obtain ⟨deadline, told⟩ := Option.isSome_iff_exists.mp (timed rfl)
      dsimp only
      rw [told]
      exact ⟨_, _, rfl⟩
    | some tx => exact ⟨_, _, rfl⟩

theorem yields_of_plan {query : Query} {v : Value} {column : String}
    (parsed : Plan.parse query.statement = .ok ⟨none, [(.literal v, column)]⟩) :
    Yields query v := by
  intro s now tx cancelled allowed timed
  have complete : Plan.missingParameters ⟨none, [(.literal v, column)]⟩ query.parameters = [] := by
    refine List.eq_nil_iff_forall_not_mem.mpr fun name missing => ?_
    cases (Plan.mem_missingParameters.mp missing).1
  have planned : Store.plan query = .ok ⟨none, [(.literal v, column)]⟩ := by
    rw [Store.plan_eq parsed, complete]
  obtain ⟨production, later, ran⟩ := Store.execute_allowed allowed timed planned
  obtain ⟨p, same, -, hasPlan, -, unstarted, -, -⟩ := Store.execute_started ran
  obtain rfl := Except.ok.inj (planned.symm.trans same)
  refine ⟨[column], production, later, production.summary, ?_, fun asks calm => ?_⟩
  · change told (Abort.map QueryFault.failure) (s.execute now query tx) = _
    rw [ran]
    rfl
  · have owes := Production.Owes.whole unstarted
    rw [hasPlan] at owes
    exact Production.emit_undisturbed owes calm

/-- Whether an integer can be returned and stands for itself wherever it is written. -/
structure IsDenoted (n : Int64) : Prop where
  alone : ∀ parameters metadata,
    Yields ⟨"RETURN " ++ toString n.toInt, parameters, metadata⟩ (.integer n)
  within : ∀ place : Place, ∃ column, Plan.parse (place.statement (toString n.toInt).toList) =
    .ok ⟨none, [(place.fill (.literal (.integer n)), column)]⟩

theorem isDenoted {n : Int64} (other : n ≠ Int64.minValue) : IsDenoted n := by
  have within : ∀ place : Place, ∃ column,
      Plan.parse (place.statement (toString n.toInt).toList) =
        .ok ⟨none, [(place.fill (.literal (.integer n)), column)]⟩ := fun place => by
    have parsed := place.parse_fits ((Numeral.fits_iff n).mpr other)
    rwa [Numeral.text_ofInt, Numeral.denoted_ofInt] at parsed
  refine ⟨fun parameters metadata => ?_, within⟩
  obtain ⟨column, parsed⟩ := within .alone
  rw [Place.statement_alone] at parsed
  exact yields_of_plan parsed

/-- The digits of the smallest integer are too large wherever they stand. -/
theorem smallest_unparsed (place : Place) :
    Plan.parse (place.statement (toString Int64.minValue.toInt).toList) =
      .error (.integerTooLarge "9223372036854775808") := by
  have unfit := mt (Numeral.fits_iff Int64.minValue).mp (by simp)
  have unparsed := place.parse_large unfit
  rwa [Numeral.text_ofInt] at unparsed

theorem smallest_undenoted : ¬ IsDenoted Int64.minValue := by
  intro denoted
  obtain ⟨column, parsed⟩ := denoted.within .alone
  rw [smallest_unparsed] at parsed
  cases parsed

/-- An integer can be returned and stands for itself wherever it is written unless it is the
smallest, which is rejected everywhere. In general a numeral stands for its value if its digits are
an integer, leading zeros or not, and otherwise a statement that holds it is rejected; so to negate
the digits gives the negative. -/
theorem integers_denoted (n : Int64) (x : Numeral) :
    (IsDenoted n ↔ n ≠ Int64.minValue) ∧
    (n = Int64.minValue → ∀ place parameters metadata,
      IsRefused ⟨Place.statement place (toString n.toInt).toList, parameters, metadata⟩
        (.integerTooLarge "9223372036854775808")) ∧
    (x.magnitude ≤ maxInteger → x.denoted.toInt = x.value ∧
      ∀ place, ∃ column, Plan.parse (Place.statement place x.text) =
        .ok ⟨none, [(place.fill (.literal (.integer x.denoted)), column)]⟩) ∧
    (maxInteger < x.magnitude → ∀ before after taken parameters metadata,
      tokenize before = .ok taken → (before ≠ [] → Apart before x.text) → EndsNumber after →
      IsRefused ⟨String.ofList (before ++ x.text ++ after), parameters, metadata⟩
        (.integerTooLarge (String.ofList x.digits))) ∧
    (QueryFault.integerTooLarge (String.ofList x.digits)).code = Status.syntaxError.code ∧
    ∀ text lexemes t m, tokenize text = .ok lexemes → t ∈ lexemes → t.token = .integer m →
      (-m).toInt = -m.toInt := by
  refine ⟨⟨?_, isDenoted⟩, ?_,
    fun fits => ⟨x.denoted_value fits, fun place => place.parse_fits fits⟩, ?_, rfl,
    fun text lexemes t m => neg_exact⟩
  · rintro denoted rfl
    exact smallest_undenoted denoted
  · rintro rfl place parameters metadata
    exact refused_of_parse (smallest_unparsed place)
  · intro large before after taken parameters metadata cut apart ends
    have cuts := tokenize_numeral cut apart ends
    rw [if_neg (by omega)] at cuts
    apply refused_of_parse
    unfold Plan.parse
    simp only [bind, Except.bind, String.toList_ofList, cuts]

/-- The smallest integer cannot be returned. -/
theorem smallest_lost :
    (engine.execute 0 ⟨"RETURN -9223372036854775808", .empty, .default⟩ none false .empty).1 =
      .error (.error ⟨"Neo.ClientError.Statement.SyntaxError",
        "integer is too large: 9223372036854775808"⟩) ∧
    ¬ ∀ n : Int64, IsDenoted n := by
  refine ⟨?_, fun all => smallest_undenoted (all Int64.minValue)⟩
  have text : "RETURN " ++ toString Int64.minValue.toInt = "RETURN -9223372036854775808" := rfl
  have unparsed := smallest_unparsed .alone
  rw [Place.statement_alone, text] at unparsed
  have refused : IsRefused ⟨"RETURN -9223372036854775808", .empty, .default⟩
      (.integerTooLarge "9223372036854775808") := refused_of_parse unparsed
  rw [refused .empty 0 none false rfl]
  rfl

def boundPlace : Place :=
  .argument "Range".toList (by decide +kernel) [(Numeral.ofInt 1).phrase (by decide)] []
    (.spaced [' '] [] (fun _ among => by rw [List.mem_singleton.mp among]; rfl) .alone)

theorem boundPlace_fill : boundPlace.fill (.literal (.integer (-5))) =
    .range [.literal (.integer 1), .literal (.integer (-5))] :=
  rfl

theorem boundPlace_statement :
    boundPlace.statement (toString (-5 : Int64).toInt).toList = "RETURN Range(1, -5)" :=
  rfl

def paddedNumeral : Numeral := ⟨true, ['0', '0', '7'], by simp, by simp⟩

/-- An integer alone and in a range, one with leading zeros, the smallest in a list, one that is too
large behind a string, and one that is negated. -/
theorem sample_denoted :
    Yields ⟨"RETURN -5", .empty, .default⟩ (.integer (-5)) ∧
    (∃ column, Plan.parse "RETURN Range(1, -5)" =
      .ok ⟨none, [(.range [.literal (.integer 1), .literal (.integer (-5))], column)]⟩) ∧
    (∃ column, Plan.parse "RETURN -007" = .ok ⟨none, [(.literal (.integer (-7)), column)]⟩) ∧
    IsRefused ⟨"RETURN [-9223372036854775808]", .empty, .default⟩
      (.integerTooLarge "9223372036854775808") ∧
    IsRefused ⟨"RETURN 'a', 9223372036854775808;", .empty, .default⟩
      (.integerTooLarge "9223372036854775808") ∧
    (-(7 : Int64)).toInt = -(7 : Int64).toInt := by
  obtain ⟨denoted, -, numerals, -, -, negated⟩ := integers_denoted (-5) paddedNumeral
  obtain ⟨-, smallest, -, large, -, -⟩ :=
    integers_denoted Int64.minValue (Numeral.ofInt 9223372036854775808)
  obtain ⟨alone, within⟩ := denoted.mpr (by decide)
  have text : "RETURN " ++ toString (-5 : Int64).toInt = "RETURN -5" := rfl
  have inList : (Place.item [] [] .alone).statement (toString Int64.minValue.toInt).toList =
      "RETURN [-9223372036854775808]" := rfl
  have string : tokenize "RETURN 'a', ".toList =
      .ok [⟨.word "RETURN", 0, 6⟩, ⟨.string "a", 7, 10⟩, ⟨.symbol ',', 10, 11⟩] := by cbv
  have behind : String.ofList ("RETURN 'a', ".toList ++
      (Numeral.ofInt 9223372036854775808).text ++ [';']) =
        "RETURN 'a', 9223372036854775808;" := rfl
  have apart : "RETURN 'a', ".toList ≠ [] →
      Apart "RETURN 'a', ".toList (Numeral.ofInt 9223372036854775808).text :=
    fun _ _ _ => .inr ⟨' ', rfl, .inl rfl⟩
  have ends : EndsNumber [';'] := (startsApart_symbol (by decide) []).endsNumber
  have refused := large (by decide) _ _ _ .empty .default string apart ends
  have minus : tokenize "-7".toList = .ok [⟨.symbol '-', 0, 1⟩, ⟨.integer 7, 1, 2⟩] := by cbv
  refine ⟨?_, ?_, (numerals (by decide)).2 .alone, ?_, ?_,
    negated _ _ _ _ minus (List.mem_cons_of_mem _ List.mem_cons_self) rfl⟩
  · have yields := alone .empty .default
    rwa [text] at yields
  · have parsed := within boundPlace
    rwa [boundPlace_statement, boundPlace_fill] at parsed
  · have refused := smallest rfl (.item [] [] .alone) .empty .default
    rwa [inList] at refused
  · rwa [behind] at refused

end GraphProtocol.Literal
