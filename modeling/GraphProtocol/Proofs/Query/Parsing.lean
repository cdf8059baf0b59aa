import GraphProtocol.Proofs.Connection.Inbox
import GraphProtocol.Proofs.Query.Slicing

/-!
# Parsing statements

The parser takes exactly the sentences of the grammar, and the plan it forms is the one that the
sentence spells. One token ahead is enough for it: what follows an expression is a comma, a closing
symbol, a keyword or the end, and never the parenthesis that would make a name a function. All
other statements are rejected as ill-formed.
-/

set_option autoImplicit false

namespace GraphProtocol.Literal

namespace Remainder

def next? (s : Remainder) : Option Token := s.rest.head?.map Lexeme.token

structure Took (s : Remainder) (taken : List Lexeme) (after : Remainder) : Prop where
  rest : s.rest = taken ++ after.rest
  source : after.source = s.source
  last : after.last = (taken.getLast?.map Lexeme.stop).getD s.last

variable {s middle after : Remainder} {taken others : List Lexeme} {t : Lexeme}

theorem Took.nothing (took : s.Took [] after) : after = s := by
  obtain ⟨source, rest, last⟩ := s
  obtain ⟨source', rest', last'⟩ := after
  obtain ⟨rest, source, last⟩ := took
  cases rest
  cases source
  cases last
  rfl

theorem Took.append (first : s.Took taken middle) (second : middle.Took others after) :
    s.Took (taken ++ others) after where
  rest := by rw [first.rest, second.rest, List.append_assoc]
  source := second.source.trans first.source
  last := by
    rw [second.last, first.last, List.getLast?_append]
    cases others.getLast? <;> simp

theorem Took.split (took : s.Took (taken ++ others) after) :
    ∃ middle, s.Took taken middle ∧ middle.Took others after := by
  refine ⟨⟨s.source, others ++ after.rest, (taken.getLast?.map Lexeme.stop).getD s.last⟩,
    ⟨by rw [took.rest, List.append_assoc], rfl, rfl⟩, ⟨rfl, took.source, ?_⟩⟩
  rw [took.last, List.getLast?_append]
  cases others.getLast? <;> simp

/-- What is left when the first of these tokens has been taken. -/
theorem Took.tail (took : s.Took (t :: others) after) :
    ∃ middle, s.Took [t] middle ∧ middle.Took others after :=
  took.split

theorem Took.next (took : s.Took (t :: others) after) : s.next? = some t.token := by
  simp [next?, took.rest]

/-- Where the last of the taken tokens ends. -/
theorem Took.stop (took : s.Took (t :: others) after) : after.last = (others.getLastD t).stop := by
  rw [took.last, List.getLast?_cons]
  cases others using List.reverseRecOn <;> simp

end Remainder

open Remainder

namespace Parser

variable {s after : Remainder} {e : Expr} {t : Lexeme} {c : Char} {word name : String}

/-! ## Single tokens -/

theorem skip_taken {token : Token} (next : s.next? = some token)
    (given : skip s = .ok () after) : ∃ t, t.token = token ∧ s.Took [t] after := by
  obtain ⟨source, rest, last⟩ := s
  cases rest with
  | nil => cases next
  | cons t rest =>
    cases next
    cases given
    exact ⟨t, rfl, rfl, rfl, rfl⟩

theorem skip_of_took (took : s.Took [t] after) : skip s = .ok () after := by
  obtain ⟨source, rest, last⟩ := s
  obtain ⟨source', rest', last'⟩ := after
  obtain ⟨rest, source, last⟩ := took
  cases rest
  cases source
  cases last
  rfl

theorem peek_bind {α : Type} (f : Option Token → Parser α) : (peek? >>= f) s = f s.next? s := rfl

theorem symbol_ok {found : Bool} (given : symbol c s = .ok found after) :
    (∃ t, t.token = .symbol c ∧ s.Took [t] after ∧ found = true) ∨
      s.next? ≠ some (.symbol c) ∧ after = s ∧ found = false := by
  rw [symbol, peek_bind] at given
  by_cases next : s.next? = some (.symbol c)
  · rw [if_pos next] at given
    obtain ⟨⟨⟩, s₁, skipped, given⟩ := bind_ok given
    cases given
    obtain ⟨t, is, took⟩ := skip_taken next skipped
    exact .inl ⟨t, is, took, rfl⟩
  · rw [if_neg next] at given
    cases given
    exact .inr ⟨next, rfl, rfl⟩

theorem symbol_of_took (is : t.token = .symbol c) (took : s.Took [t] after) :
    symbol c s = .ok true after := by
  rw [symbol, peek_bind, took.next, is, if_pos rfl, bind_of_ok (skip_of_took took)]
  rfl

theorem symbol_of_other (other : s.next? ≠ some (.symbol c)) : symbol c s = .ok false s := by
  rw [symbol, peek_bind, if_neg other]
  rfl

section

variable {α : Type} {v : α} {x y : Parser α}

/-- What a parser does that goes one way if the next token is this symbol and another way if it is
not. -/
theorem symbol_cases (given : (symbol c >>= fun found => if found = true then x else y) s =
    .ok v after) :
    (∃ t s', t.token = .symbol c ∧ s.Took [t] s' ∧ x s' = .ok v after) ∨
      s.next? ≠ some (.symbol c) ∧ y s = .ok v after := by
  obtain ⟨found, s', came, given⟩ := bind_ok given
  obtain ⟨t, is, took, rfl⟩ | ⟨other, rfl, rfl⟩ := symbol_ok came
  · exact .inl ⟨t, s', is, took, given⟩
  · exact .inr ⟨other, given⟩

theorem symbol_then (is : t.token = .symbol c) (took : s.Took [t] after) :
    (symbol c >>= fun found => if found = true then x else y) s = x after := by
  rw [bind_of_ok (symbol_of_took is took), if_pos rfl]

theorem symbol_else (other : s.next? ≠ some (.symbol c)) :
    (symbol c >>= fun found => if found = true then x else y) s = y s := by
  rw [bind_of_ok (symbol_of_other other), if_neg (by decide)]

theorem keyword_cases (given : (keyword name >>= fun found => if found = true then x else y) s =
    .ok v after) :
    (∃ t s', t.Reads name ∧ s.Took [t] s' ∧ x s' = .ok v after) ∨ y s = .ok v after := by
  obtain ⟨found, s', came, given⟩ := bind_ok given
  rw [keyword, peek_bind] at came
  generalize next : s.next? = token at came
  split at came
  next _ w =>
    split at came
    next read =>
      obtain ⟨⟨⟩, s₁, skipped, came⟩ := bind_ok came
      cases came
      obtain ⟨t, is, took⟩ := skip_taken next skipped
      exact .inl ⟨t, s', ⟨w, is, read⟩, took, given⟩
    · cases came
      exact .inr given
  · cases came
    exact .inr given

theorem keyword_then (reads : t.Reads name) (took : s.Took [t] after) :
    (keyword name >>= fun found => if found = true then x else y) s = x after := by
  obtain ⟨w, is, read⟩ := reads
  have found : keyword name s = .ok true after := by
    rw [keyword, peek_bind, took.next, is]
    dsimp only
    rw [if_pos read, bind_of_ok (skip_of_took took)]
    rfl
  rw [bind_of_ok found, if_pos rfl]

theorem keyword_else (other : ∀ w, s.next? = some (.word w) → isKeyword name w = false) :
    (keyword name >>= fun found => if found = true then x else y) s = y s := by
  have found : keyword name s = .ok false s := by
    rw [keyword, peek_bind]
    generalize s.next? = token at other
    split
    next _ w =>
      rw [if_neg (by simp [other w rfl])]
      rfl
    · rfl
  rw [bind_of_ok found, if_neg (by decide)]

end

theorem expectKeyword_taken (given : expectKeyword name s = .ok () after) :
    ∃ t : Lexeme, t.Reads name ∧ s.Took [t] after := by
  obtain ⟨t, s', reads, took, given⟩ | given := keyword_cases given
  · cases given
    exact ⟨t, reads, took⟩
  · cases given

theorem expectKeyword_of_took (reads : t.Reads name) (took : s.Took [t] after) :
    expectKeyword name s = .ok () after :=
  keyword_then reads took

theorem identifier_taken (given : identifier s = .ok name after) :
    ∃ t, t.token = .word name ∧ s.Took [t] after := by
  rw [identifier, peek_bind] at given
  generalize next : s.next? = token at given
  split at given
  next w next =>
    obtain ⟨⟨⟩, s', came, given⟩ := bind_ok given
    cases given
    exact skip_taken next came
  · cases given

theorem identifier_of_took (is : t.token = .word name) (took : s.Took [t] after) :
    identifier s = .ok name after := by
  unfold identifier
  rw [peek_bind, took.next, is]
  dsimp only
  rw [bind_of_ok (skip_of_took took)]
  rfl

/-! ## Expressions -/

/-- An expression starts with a token, and of the symbols only two can start one. -/
theorem spelt_first {taken : List Lexeme} (spelt : e.Spelt taken) :
    ∃ t rest, taken = t :: rest ∧ ∀ c, t.token = .symbol c → c = '-' ∨ c = '[' := by
  cases spelt with
  | integer is | float is | string is | parameter is | name is _ =>
    exact ⟨_, _, rfl, by simp [is]⟩
  | null reads | true reads | false reads | range reads _ _ _ =>
    obtain ⟨w, is, -⟩ := reads
    exact ⟨_, _, rfl, by simp [is]⟩
  | negativeInteger is _ | negativeFloat is _ | list is _ _ =>
    exact ⟨_, _, rfl, by simp [is, eq_comm]⟩

section

variable {item : Parser Expr} {close : Char} {fuel : Nat} {done items : List Expr}

theorem itemsOnto_taken
    (each : ∀ s e after, item s = .ok e after → ∃ taken, s.Took taken after ∧ e.Spelt taken)
    (given : itemsOnto item close fuel done s = .ok items after) :
    ∃ taken closing rest, s.Took (taken ++ [closing]) after ∧ closing.token = .symbol close ∧
      Separated Expr.Spelt taken rest ∧ items = done.reverse ++ rest := by
  induction fuel generalizing s done with
  | zero => cases given
  | succ fuel ih =>
    unfold itemsOnto at given
    obtain ⟨e, s₁, came, given⟩ := bind_ok given
    obtain ⟨taken, took, spelt⟩ := each s e s₁ came
    obtain ⟨closing, s₂, is, last, given⟩ | ⟨-, given⟩ := symbol_cases given
    · cases given
      exact ⟨taken, closing, [e], took.append last, is, .one spelt, by simp⟩
    obtain ⟨comma, s₂, is, middle, given⟩ | ⟨-, given⟩ := symbol_cases given
    · obtain ⟨others, closing, rest, last, closes, separated, rfl⟩ := ih given
      refine ⟨taken ++ comma :: others, closing, e :: rest, ?_, closes,
        .more spelt is separated, by simp⟩
      simpa using took.append (middle.append last)
    · cases given

theorem items_taken
    (each : ∀ s e after, item s = .ok e after → ∃ taken, s.Took taken after ∧ e.Spelt taken)
    (given : Parser.items item close fuel s = .ok items after) :
    ∃ taken closing, s.Took (taken ++ [closing]) after ∧ closing.token = .symbol close ∧
      Listed Expr.Spelt taken items := by
  obtain ⟨closing, s₁, is, took, given⟩ | ⟨-, given⟩ := symbol_cases given
  · cases given
    exact ⟨[], closing, took, is, .none⟩
  · obtain ⟨taken, closing, items, took, is, separated, rfl⟩ := itemsOnto_taken each given
    exact ⟨taken, closing, took, is, .some separated⟩

/-- What an item parser has to do on the tokens of an expression: take them all, unless the next
token would make a function of the last. -/
def TakesSpelt (item : Parser Expr) (room : Nat) : Prop :=
  ∀ {s after : Remainder} {taken : List Lexeme} {e : Expr}, e.Spelt taken → taken.length ≤ room →
    s.Took taken after → after.next? ≠ some (.symbol '(') → item s = .ok e after

theorem itemsOnto_of_took {taken : List Lexeme} {closing : Lexeme} {room : Nat}
    (takes : TakesSpelt item room) (closes : closing.token = .symbol close)
    (apart : close ≠ ',' ∧ close ≠ '(') (separated : Separated Expr.Spelt taken items)
    (within : taken.length ≤ room) (enough : taken.length ≤ fuel)
    (took : s.Took (taken ++ [closing]) after) :
    itemsOnto item close fuel done s = .ok (done.reverse ++ items) after := by
  induction separated generalizing s done fuel with
  | @one taken e spelt =>
    obtain ⟨s₁, first, last⟩ := took.split
    obtain ⟨t, rest, rfl, -⟩ := spelt_first spelt
    obtain ⟨fuel, rfl⟩ := Nat.exists_eq_add_of_le' (show 1 ≤ fuel by simp at enough; omega)
    have came : item s = .ok e s₁ :=
      takes spelt within first (by simp [last.next, closes, apart.2])
    unfold itemsOnto
    rw [bind_of_ok came, symbol_then closes last]
    simp [EStateM.pure, pure]
  | @more taken others comma e rest spelt is separated ih =>
    rw [List.append_assoc] at took
    obtain ⟨s₁, first, last⟩ := took.split
    obtain ⟨s₂, middle, last⟩ := last.tail
    simp only [List.length_append, List.length_cons] at within enough
    obtain ⟨fuel, rfl⟩ := Nat.exists_eq_add_of_le' (show 1 ≤ fuel by omega)
    have came : item s = .ok e s₁ :=
      takes spelt (by omega) first (by simp [middle.next, is])
    unfold itemsOnto
    rw [bind_of_ok came, symbol_else (by simp [middle.next, is, apart.1.symm]),
      symbol_then is middle, ih (by omega) (by omega) last]
    simp

theorem items_of_took {taken : List Lexeme} {closing : Lexeme}
    (takes : TakesSpelt item fuel) (closes : closing.token = .symbol close)
    (apart : close ≠ ',' ∧ close ≠ '(') (opens : close ≠ '-' ∧ close ≠ '[')
    (listed : Listed Expr.Spelt taken items) (enough : taken.length ≤ fuel)
    (took : s.Took (taken ++ [closing]) after) :
    Parser.items item close fuel s = .ok items after := by
  unfold Parser.items
  cases listed with
  | none =>
    rw [symbol_then closes took]
    rfl
  | some separated =>
    have other : s.next? ≠ some (.symbol close) := by
      cases separated with
      | one spelt | more spelt _ _ =>
        obtain ⟨t, rest, rfl, starts⟩ := spelt_first spelt
        intro next
        have is : t.token = .symbol close := by simpa [next] using took.next.symm
        rcases starts close is with rfl | rfl <;> simp_all
    rw [symbol_else other, itemsOnto_of_took takes closes apart separated enough enough took]
    rfl

end

theorem constantOrVariable_spelt (is : t.token = .word word) :
    (constantOrVariable word).Spelt [t] := by
  unfold constantOrVariable
  split
  next read => exact .null ⟨word, is, read⟩
  next notNull =>
  split
  next read => exact .true ⟨word, is, read⟩
  next notTrue =>
  split
  next read => exact .false ⟨word, is, read⟩
  next notFalse =>
  exact .name is ⟨by simpa using notNull, by simpa using notTrue, by simpa using notFalse⟩

/-- An expression of one token, the next. -/
theorem leaf_taken {token : Token} {e' : Expr} (next : s.next? = some token)
    (given : (skip >>= fun _ => pure e') s = .ok e after) :
    ∃ t, t.token = token ∧ s.Took [t] after ∧ e' = e := by
  obtain ⟨⟨⟩, s', skipped, given⟩ := bind_ok given
  cases given
  obtain ⟨t, is, took⟩ := skip_taken next skipped
  exact ⟨t, is, took, rfl⟩

theorem leaf_of_took (took : s.Took [t] after) :
    (skip >>= fun _ => pure e) s = .ok e after := by
  rw [bind_of_ok (skip_of_took took)]
  rfl

theorem negated_taken {sign : Lexeme} (minus : sign.token = .symbol '-')
    (given : negated s = .ok e after) : ∃ t, s.Took [t] after ∧ e.Spelt [sign, t] := by
  rw [negated, peek_bind] at given
  generalize next : s.next? = token at given
  split at given
  · obtain ⟨t, is, took, rfl⟩ := leaf_taken next given
    exact ⟨t, took, .negativeInteger minus is⟩
  · obtain ⟨t, is, took, rfl⟩ := leaf_taken next given
    exact ⟨t, took, .negativeFloat minus is⟩
  · cases given
  · cases given

theorem expression_taken {fuel : Nat} (given : expression fuel s = .ok e after) :
    ∃ taken, s.Took taken after ∧ e.Spelt taken := by
  induction fuel generalizing s e after with
  | zero => cases given
  | succ fuel ih =>
    unfold expression at given
    obtain ⟨opening, s₁, opens, first, given⟩ | ⟨-, given⟩ := symbol_cases given
    · obtain ⟨items, s₂, came, given⟩ := bind_ok given
      cases given
      obtain ⟨taken, closing, took, closes, listed⟩ := items_taken (fun _ _ _ => ih) came
      exact ⟨_, first.append took, .list opens closes listed⟩
    obtain ⟨sign, s₁, minus, first, given⟩ | ⟨-, given⟩ := symbol_cases given
    · obtain ⟨t, took, spelt⟩ := negated_taken minus given
      exact ⟨_, first.append took, spelt⟩
    rw [peek_bind] at given
    generalize next : s.next? = token at given
    split at given
    · obtain ⟨t, is, took, rfl⟩ := leaf_taken next given
      exact ⟨[t], took, .integer is⟩
    · obtain ⟨t, is, took, rfl⟩ := leaf_taken next given
      exact ⟨[t], took, .float is⟩
    · obtain ⟨t, is, took, rfl⟩ := leaf_taken next given
      exact ⟨[t], took, .string is⟩
    · obtain ⟨t, is, took, rfl⟩ := leaf_taken next given
      exact ⟨[t], took, .parameter is⟩
    · obtain ⟨⟨⟩, s₁, skipped, given⟩ := bind_ok given
      obtain ⟨t, is, first⟩ := skip_taken next skipped
      obtain ⟨opening, s₂, opens, second, given⟩ | ⟨-, given⟩ := symbol_cases given
      · split at given
        next read =>
          obtain ⟨arguments, s₃, came, given⟩ := bind_ok given
          cases given
          obtain ⟨taken, closing, took, closes, listed⟩ := items_taken (fun _ _ _ => ih) came
          exact ⟨_, first.append (second.append took), .range ⟨_, is, read⟩ opens closes listed⟩
        · cases given
      · cases given
        exact ⟨[t], first, constantOrVariable_spelt is⟩
    · cases given

theorem isKeyword_other {keyword other : String} (read : isKeyword keyword word = true)
    (apart : keyword ≠ other) : isKeyword other word = false := by
  unfold isKeyword at read ⊢
  rw [beq_iff_eq] at read
  rw [read, beq_eq_false_iff_ne, ne_eq, String.toList_inj]
  exact apart

/-- A word that is not followed by a parenthesis is a constant or a variable. -/
theorem expression_of_word {fuel : Nat} {t : Lexeme} {word : String} (is : t.token = .word word)
    (took : s.Took [t] after) (apart : after.next? ≠ some (.symbol '(')) :
    expression (fuel + 1) s = .ok (constantOrVariable word) after := by
  rw [expression, symbol_else (by simp [took.next, is]), symbol_else (by simp [took.next, is]),
    peek_bind, took.next, is]
  dsimp only
  rw [bind_of_ok (skip_of_took took), symbol_else apart]
  rfl

/-- An expression that is not followed by a parenthesis is taken as a whole. -/
theorem expression_of_took {fuel : Nat} : TakesSpelt (expression fuel) fuel := by
  induction fuel with
  | zero =>
    intro s after taken e spelt enough
    obtain ⟨t, rest, rfl, -⟩ := spelt_first spelt
    simp at enough
  | succ fuel ih =>
    intro s after taken e spelt enough took apart
    cases spelt with
    | integer is | float is | string is | parameter is =>
      rw [expression, symbol_else (by simp [took.next, is]),
        symbol_else (by simp [took.next, is]), peek_bind, took.next, is]
      exact leaf_of_took took
    | negativeInteger minus is | negativeFloat minus is =>
      obtain ⟨s₁, first, second⟩ := took.tail
      rw [expression, symbol_else (by simp [took.next, minus]), symbol_then minus first, negated,
        peek_bind, second.next, is]
      exact leaf_of_took second
    | null reads =>
      obtain ⟨w, is, read⟩ := reads
      rw [expression_of_word is took apart]
      simp [constantOrVariable, read]
    | true reads =>
      obtain ⟨w, is, read⟩ := reads
      rw [expression_of_word is took apart]
      have notNull : isKeyword "NULL" w = false := isKeyword_other read (by decide)
      simp [constantOrVariable, read, notNull]
    | false reads =>
      obtain ⟨w, is, read⟩ := reads
      rw [expression_of_word is took apart]
      have notNull : isKeyword "NULL" w = false := isKeyword_other read (by decide)
      have notTrue : isKeyword "TRUE" w = false := isKeyword_other read (by decide)
      simp [constantOrVariable, read, notNull, notTrue]
    | name is isName =>
      obtain ⟨notNull, notTrue, notFalse⟩ := isName
      rw [expression_of_word is took apart]
      simp [constantOrVariable, notNull, notTrue, notFalse]
    | list opens closes listed =>
      obtain ⟨s₁, first, last⟩ := took.tail
      simp only [List.cons_append, List.length_cons, List.length_append] at enough
      have came := items_of_took ih closes (by decide) (by decide) listed (by omega) last
      rw [expression, symbol_then opens first, bind_of_ok came]
      rfl
    | range reads opens closes listed =>
      obtain ⟨w, is, read⟩ := reads
      obtain ⟨s₁, first, last⟩ := took.tail
      obtain ⟨s₂, second, last⟩ := last.tail
      simp only [List.cons_append, List.length_cons, List.length_append] at enough
      have came := items_of_took ih closes (by decide) (by decide) listed (by omega) last
      rw [expression, symbol_else (by simp [took.next, is]),
        symbol_else (by simp [took.next, is]), peek_bind, took.next, is]
      dsimp only
      rw [bind_of_ok (skip_of_took first), symbol_then opens second, if_pos read, bind_of_ok came]
      rfl

theorem anyExpression_taken (given : anyExpression s = .ok e after) :
    ∃ taken, s.Took taken after ∧ e.Spelt taken :=
  expression_taken given

theorem anyExpression_of_took {taken : List Lexeme} (spelt : e.Spelt taken)
    (took : s.Took taken after) (apart : after.next? ≠ some (.symbol '(')) :
    anyExpression s = .ok e after :=
  expression_of_took spelt (by simp [took.rest]) took apart

/-! ## Columns -/

/-- The text of an expression, by the places that are noted before and after it is taken. -/
theorem text_taken {source : List Char} {taken : List Lexeme} (spelt : e.Spelt taken)
    (took : s.Took taken after) :
    slice source (s.rest.head?.elim s.source.length Lexeme.start) after.last =
      textOf source taken := by
  obtain ⟨t, rest, rfl, -⟩ := spelt_first spelt
  rw [took.stop, took.rest]
  rfl

theorem column_taken {column : Expr × String} (given : Parser.column s = .ok column after) :
    ∃ taken, s.Took taken after ∧ Column.Spelt s.source taken column := by
  unfold Parser.column at given
  obtain ⟨_, _, ⟨⟩, given⟩ := bind_ok given
  obtain ⟨e, s₁, came, given⟩ := bind_ok given
  obtain ⟨taken, took, spelt⟩ := anyExpression_taken came
  obtain ⟨_, _, ⟨⟩, given⟩ := bind_ok given
  obtain ⟨naming, s₂, reads, second, given⟩ | given := keyword_cases given
  · obtain ⟨name, s₃, came, given⟩ := bind_ok given
    cases given
    obtain ⟨word, is, third⟩ := identifier_taken came
    exact ⟨_, took.append (second.append third), .named spelt reads is⟩
  · cases given
    rw [text_taken spelt took]
    exact ⟨taken, took, .text spelt⟩

def Ends (after : Remainder) : Prop :=
  after.next? ≠ some (.symbol '(') ∧ ∀ w, after.next? ≠ some (.word w)

theorem column_of_took {taken : List Lexeme} {column : Expr × String}
    (spelt : Column.Spelt s.source taken column) (took : s.Took taken after) (ends : Ends after) :
    Parser.column s = .ok column after := by
  have noted : (get : Parser Remainder) s = .ok s s := rfl
  unfold Parser.column
  rw [bind_of_ok noted]
  cases spelt with
  | @text _ e spelt =>
    have noted' : (get : Parser Remainder) after = .ok after after := rfl
    rw [bind_of_ok (anyExpression_of_took spelt took ends.1), bind_of_ok noted',
      keyword_else fun w next => absurd next (ends.2 w), text_taken spelt took]
    rfl
  | @named taken e naming word name spelt reads is =>
    obtain ⟨s₁, first, rest⟩ := took.split
    obtain ⟨s₂, second, third⟩ := rest.tail
    have noted' : (get : Parser Remainder) s₁ = .ok s₁ s₁ := rfl
    have apart : s₁.next? ≠ some (.symbol '(') := by
      obtain ⟨w, said, -⟩ := reads
      simp [rest.next, said]
    rw [bind_of_ok (anyExpression_of_took spelt first apart), bind_of_ok noted',
      keyword_then reads second, bind_of_ok (identifier_of_took is third)]
    rfl

section

variable {fuel : Nat} {done columns : List (Expr × String)}

theorem columnsOnto_taken (given : columnsOnto fuel done s = .ok columns after) :
    ∃ taken rest, s.Took taken after ∧ Separated (Column.Spelt s.source) taken rest ∧
      columns = done.reverse ++ rest := by
  induction fuel generalizing s done with
  | zero => cases given
  | succ fuel ih =>
    unfold columnsOnto at given
    obtain ⟨column, s₁, came, given⟩ := bind_ok given
    obtain ⟨taken, first, spelt⟩ := column_taken came
    obtain ⟨comma, s₂, is, second, given⟩ | ⟨-, given⟩ := symbol_cases given
    · obtain ⟨others, rest, third, separated, rfl⟩ := ih given
      rw [second.source, first.source] at separated
      exact ⟨_, column :: rest, first.append (second.append third),
        .more spelt is separated, by simp⟩
    · cases given
      exact ⟨taken, [column], first, .one spelt, by simp⟩

theorem columnsOnto_of_took {source : List Char} {taken : List Lexeme}
    (separated : Separated (Column.Spelt source) taken columns) (same : s.source = source)
    (enough : taken.length < fuel) (took : s.Took taken after) (ends : Ends after)
    (last : after.next? ≠ some (.symbol ',')) :
    columnsOnto fuel done s = .ok (done.reverse ++ columns) after := by
  induction separated generalizing s done fuel with
  | @one taken column spelt =>
    obtain ⟨fuel, rfl⟩ := Nat.exists_eq_add_of_le' (show 1 ≤ fuel by omega)
    subst same
    unfold columnsOnto
    rw [bind_of_ok (column_of_took spelt took ends), symbol_else last]
    simp [EStateM.pure, pure]
  | @more taken others comma column rest spelt is separated ih =>
    obtain ⟨s₁, first, tail⟩ := took.split
    obtain ⟨s₂, second, third⟩ := tail.tail
    simp only [List.length_append, List.length_cons] at enough
    obtain ⟨fuel, rfl⟩ := Nat.exists_eq_add_of_le' (show 1 ≤ fuel by omega)
    subst same
    have ended : Ends s₁ := by simp [Ends, tail.next, is]
    have sources : s₂.source = s.source := second.source.trans first.source
    unfold columnsOnto
    rw [bind_of_ok (column_of_took spelt first ended), symbol_then is second,
      ih sources (by omega) third]
    simp

end

/-! ## Statements -/

theorem returned_taken {unwind : Option (Expr × String)} {p : Plan}
    (given : returned unwind s = .ok p after) :
    ∃ returns columns ending items, s.rest = returns :: columns ++ ending ∧
      returns.Reads "RETURN" ∧ Separated (Column.Spelt s.source) columns items ∧
      IsEnding ending ∧ p = ⟨unwind, items⟩ := by
  obtain ⟨⟨⟩, s₁, came, given⟩ := bind_ok given
  obtain ⟨returns, reads, first⟩ := expectKeyword_taken came
  obtain ⟨_, _, ⟨⟩, given⟩ := bind_ok given
  obtain ⟨items, s₂, came, given⟩ := bind_ok given
  obtain ⟨columns, _, second, separated, rfl⟩ := columnsOnto_taken came
  rw [first.source] at separated
  obtain ⟨found, s₃, came, given⟩ := bind_ok given
  rw [peek_bind] at given
  split at given
  · cases given
  next last =>
  cases given
  have nothing : after.rest = [] := by
    simpa [next?] using last
  obtain ⟨t, is, third, rfl⟩ | ⟨-, rfl, rfl⟩ := symbol_ok came
  · refine ⟨returns, columns, [t], items, ?_, reads, separated, .inr ⟨t, is, rfl⟩, rfl⟩
    simp [first.rest, second.rest, third.rest, nothing]
  · refine ⟨returns, columns, [], items, ?_, reads, separated, .inl rfl, rfl⟩
    simp [first.rest, second.rest, nothing]

theorem returned_of_took {source : List Char} {unwind : Option (Expr × String)} {returns : Lexeme}
    {columns ending : List Lexeme} {items : List (Expr × String)} (reads : returns.Reads "RETURN")
    (separated : Separated (Column.Spelt source) columns items) (last : IsEnding ending)
    (same : s.source = source) (nothing : after.rest = [])
    (took : s.Took (returns :: columns ++ ending) after) :
    returned unwind s = .ok ⟨unwind, items⟩ after := by
  obtain ⟨s₁, first, rest⟩ := took.tail
  obtain ⟨s₂, second, third⟩ := rest.split
  have noted : (get : Parser Remainder) s₁ = .ok s₁ s₁ := rfl
  have came : ∃ found, symbol ';' s₂ = .ok found after ∧ Ends s₂ ∧
      s₂.next? ≠ some (.symbol ',') := by
    rcases last with rfl | ⟨t, is, rfl⟩
    · obtain rfl := third.nothing
      exact ⟨false, symbol_of_other (by simp [next?, nothing]), by simp [Ends, next?, nothing],
        by simp [next?, nothing]⟩
    · exact ⟨true, symbol_of_took is third, by simp [Ends, third.next, is],
        by simp [third.next, is]⟩
  obtain ⟨found, came, ends, last⟩ := came
  unfold returned ended
  rw [bind_of_ok (expectKeyword_of_took reads first), bind_of_ok noted,
    bind_of_ok (columnsOnto_of_took separated (first.source.trans same) (by simp [rest.rest])
      second ends last), bind_of_ok came, peek_bind, if_neg (by simp [next?, nothing])]
  rfl

theorem statement_taken {p : Plan} (given : statement s = .ok p after) :
    p.Spelt s.source s.rest := by
  rw [statement_eq] at given
  obtain ⟨first, s₁, reads, took, given⟩ | given := keyword_cases given
  · obtain ⟨e, s₂, came, given⟩ := bind_ok given
    obtain ⟨taken, second, spelt⟩ := anyExpression_taken came
    obtain ⟨⟨⟩, s₃, came, given⟩ := bind_ok given
    obtain ⟨naming, names, third⟩ := expectKeyword_taken came
    obtain ⟨name, s₄, came, given⟩ := bind_ok given
    obtain ⟨word, is, fourth⟩ := identifier_taken came
    obtain ⟨returns, columns, ending, items, left, returning, separated, last, rfl⟩ :=
      returned_taken given
    have all := took.append (second.append (third.append fourth))
    rw [all.rest, left, ← all.source]
    simpa using Plan.Spelt.mk (.present reads spelt names is) returning separated last
  · obtain ⟨returns, columns, ending, items, left, returning, separated, last, rfl⟩ :=
      returned_taken given
    rw [left]
    exact .mk .absent returning separated last

/-- A sentence of the grammar is taken as a whole. -/
theorem statement_of_spelt {source : List Char} {lexemes : List Lexeme} {p : Plan}
    (spelt : p.Spelt source lexemes) : ∃ after, statement ⟨source, lexemes, 0⟩ = .ok p after := by
  let after : Remainder := ⟨source, [], (lexemes.getLast?.map Lexeme.stop).getD 0⟩
  have took : Took ⟨source, lexemes, 0⟩ lexemes after := ⟨by simp [after], rfl, rfl⟩
  generalize atStart : (⟨source, lexemes, 0⟩ : Remainder) = s at took ⊢
  have same : s.source = source := by rw [← atStart]
  refine ⟨after, ?_⟩
  rw [statement_eq]
  cases spelt with
  | @mk first columns ending returns unwind items unwound reads separated last =>
    cases unwound with
    | absent =>
      have other : ∀ w, s.next? = some (.word w) → isKeyword "UNWIND" w = false := by
        obtain ⟨w, is, read⟩ := reads
        intro w' next
        have same : w = w' := by simpa [is, next] using took.next.symm
        exact same ▸ isKeyword_other read (by decide)
      rw [keyword_else other]
      exact returned_of_took reads separated last same rfl took
    | @present unwinds naming word taken e name first spelt names is =>
      have took : s.Took (unwinds :: (taken ++ naming :: word :: (returns :: columns ++ ending)))
          after := by simpa using took
      obtain ⟨s₁, one, rest⟩ := took.tail
      obtain ⟨s₂, two, rest⟩ := rest.split
      obtain ⟨s₃, three, rest⟩ := rest.tail
      obtain ⟨s₄, four, rest⟩ := rest.tail
      have apart : s₂.next? ≠ some (.symbol '(') := by
        obtain ⟨w, said, -⟩ := names
        simp [(three.append four).next, said]
      have same : s₄.source = source :=
        four.source.trans (three.source.trans (two.source.trans (one.source.trans same)))
      rw [keyword_then first one, bind_of_ok (anyExpression_of_took spelt two apart),
        bind_of_ok (expectKeyword_of_took names three), bind_of_ok (identifier_of_took is four)]
      exact returned_of_took reads separated last same rfl rest

end Parser

/-! ## Rejections -/

def IsSyntax (fault : QueryFault) : Prop := fault.code = Status.syntaxError.code

theorem scanInteger_rejects {digits : List Char} {fault : QueryFault}
    (given : scanInteger digits = .error fault) : IsSyntax fault := by
  unfold scanInteger at given
  dsimp only at given
  split at given <;> cases given
  rfl

theorem scanNumber_rejects {first : Char} {rest : List Char} {fault : QueryFault}
    (given : scanNumber first rest = .error fault) : IsSyntax fault := by
  unfold scanNumber at given
  split at given
  · dsimp only at given
    split at given
    · exact scanInteger_rejects given
    · cases given
  · exact scanInteger_rejects given

theorem scanString_rejects {quote : Char} {rest text : List Char} {taken : Nat}
    {fault : QueryFault} (given : scanString quote rest text taken = .error fault) :
    IsSyntax fault := by
  fun_induction scanString quote rest text taken with
  | case1 | case2 =>
    cases given
    rfl
  | case3 _ _ _ _ _ _ ih => exact ih given
  | case4 =>
    cases given
    rfl
  | case5 => cases given
  | case6 _ _ _ _ _ _ _ ih => exact ih given

theorem scan_rejects {first : Char} {rest : List Char} {fault : QueryFault}
    (given : scan first rest = .error fault) : IsSyntax fault := by
  unfold scan at given
  split at given
  · exact scanNumber_rejects given
  split at given
  · exact scanString_rejects given
  split at given
  · unfold scanParameter at given
    dsimp only at given
    split at given <;> cases given
    rfl
  split at given
  · cases given
  split at given <;> cases given
  rfl

theorem tokensFrom_rejects {position : Nat} {text : List Char} {found : List Lexeme}
    {fault : QueryFault} (given : tokensFrom position text found = .error fault) :
    IsSyntax fault := by
  fun_induction tokensFrom position text found with
  | case1 => cases given
  | case2 _ _ _ _ _ ih => exact ih given
  | case3 _ _ _ _ _ _ scanned =>
    cases given
    exact scan_rejects scanned
  | case4 _ _ _ _ _ _ _ _ _ ih => exact ih given

def Parser.IsCareful {α : Type} (x : Parser α) : Prop :=
  ∀ s fault after, x s = .error fault after → IsSyntax fault

theorem Parser.IsCareful.bind {α β : Type} {x : Parser α} {f : α → Parser β} (first : IsCareful x)
    (further : ∀ v, IsCareful (f v)) : IsCareful (x >>= f) := by
  intro s fault after given
  obtain failed | ⟨v, middle, -, failed⟩ := bind_error given
  · exact first s fault after failed
  · exact further v middle fault after failed

def Slicing.ofChars : Slicing where
  size := List.length
  cut start stop s := .ok (Parser.slice s.source start stop) s

theorem Slicing.matched_careful : ofChars.Matched fun _ _ x => x.IsCareful where
  pure v := by
    intro s fault after given
    cases given
  bind first further := first.bind further
  peek := by
    intro s fault after given
    cases given
  skip := by
    intro s fault after given
    unfold Parser.skip at given
    split at given <;> cases given
  unknown name := by
    intro s fault after given
    cases given
    rfl
  unexpected expected := by
    intro s fault after given
    cases given
    rfl
  measured each s := each s.rest.length s
  withText expression s := by
    refine expression.bind (fun e s fault after given => ?_) s
    cases given

/-! ## Plans -/

/-- A plan is formed from exactly those statements whose tokens spell it and that bind all their
names, and all others are rejected as ill-formed. -/
theorem parse_iff (statement : String) :
    (∀ p, Plan.parse statement = .ok p ↔
      ∃ lexemes, tokenize statement.toList = .ok lexemes ∧ p.Spelt statement.toList lexemes ∧
        p.IsClosed) ∧
    ∀ fault, Plan.parse statement = .error fault → fault.code = Status.syntaxError.code := by
  refine ⟨fun p => ⟨fun given => ?_, ?_⟩, fun fault given => ?_⟩
  · unfold Plan.parse at given
    obtain ⟨lexemes, cut, given⟩ := except_bind_ok given
    split at given
    · cases given
    next plan after parsed =>
    split at given
    · cases given
    next closed =>
    cases given
    exact ⟨lexemes, cut, Parser.statement_taken parsed, Plan.stray?_eq_none.mp closed⟩
  · rintro ⟨lexemes, cut, spelt, closed⟩
    obtain ⟨after, parsed⟩ := Parser.statement_of_spelt spelt
    have none : p.stray? = none := Plan.stray?_eq_none.mpr closed
    simp [Plan.parse, cut, parsed, none, bind, Except.bind, pure, Except.pure]
  · unfold Plan.parse at given
    dsimp only [bind, Except.bind] at given
    cases cut : tokenize statement.toList with
    | error unscanned =>
      rw [cut] at given
      cases given
      exact tokensFrom_rejects cut
    | ok lexemes =>
      rw [cut] at given
      dsimp only at given
      split at given
      next failed =>
        cases given
        exact Slicing.matched_careful.statement _ _ _ failed
      · split at given <;> cases given
        rfl

example : ((Plan.parse "unwind range(1, 3) AS x RETURN x, -2 AS y;").map Plan.columns).toOption =
    some ["x", "y"] := by
  decide +kernel

end GraphProtocol.Literal
