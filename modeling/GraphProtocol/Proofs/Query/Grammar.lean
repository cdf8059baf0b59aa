import GraphProtocol.Query.Literal.Plan

/-!
# The grammar of statements

What the tokens of a statement have to be, and what they then ask for:

    statement  = [UNWIND expression AS name] RETURN column {, column} [;]
    column     = expression [AS name]
    expression = number | - number | string | $parameter | null | true | false | name
               | '[' [expression {, expression}] ']' | range '(' [expression {, expression}] ')'

The letter case of keywords and constants does not matter, and any word may be a name where the
grammar wants one. A name in an expression has to be the one that the statement binds.
-/

set_option autoImplicit false

namespace GraphProtocol.Literal

def Lexeme.Reads (keyword : String) (t : Lexeme) : Prop :=
  ∃ w, t.token = .word w ∧ Parser.isKeyword keyword w = true

def IsName (word : String) : Prop :=
  Parser.isKeyword "NULL" word = false ∧ Parser.isKeyword "TRUE" word = false ∧
    Parser.isKeyword "FALSE" word = false

section

variable {α : Type}

/-- Tokens that spell at least one thing, with commas between the things. -/
inductive Separated (spells : List Lexeme → α → Prop) : List Lexeme → List α → Prop
  | one {taken : List Lexeme} {x : α} : spells taken x → Separated spells taken [x]
  | more {taken others : List Lexeme} {comma : Lexeme} {x : α} {rest : List α} :
      spells taken x → comma.token = .symbol ',' → Separated spells others rest →
      Separated spells (taken ++ comma :: others) (x :: rest)

inductive Listed (spells : List Lexeme → α → Prop) : List Lexeme → List α → Prop
  | none : Listed spells [] []
  | some {taken : List Lexeme} {items : List α} :
      Separated spells taken items → Listed spells taken items

end

inductive Expr.Spelt : List Lexeme → Expr → Prop
  | integer {t : Lexeme} {n : Int64} : t.token = .integer n →
      Expr.Spelt [t] (.literal (.integer n))
  | float {t : Lexeme} {x : Binary64} : t.token = .float x → Expr.Spelt [t] (.literal (.float x))
  | negativeInteger {sign t : Lexeme} {n : Int64} : sign.token = .symbol '-' →
      t.token = .integer n → Expr.Spelt [sign, t] (.literal (.integer (-n)))
  | negativeFloat {sign t : Lexeme} {x : Binary64} : sign.token = .symbol '-' →
      t.token = .float x → Expr.Spelt [sign, t] (.literal (.float x.neg))
  | string {t : Lexeme} {text : String} : t.token = .string text →
      Expr.Spelt [t] (.literal (.string text))
  | parameter {t : Lexeme} {name : String} : t.token = .parameter name →
      Expr.Spelt [t] (.parameter name)
  | null {t : Lexeme} : t.Reads "NULL" → Expr.Spelt [t] (.literal .null)
  | true {t : Lexeme} : t.Reads "TRUE" → Expr.Spelt [t] (.literal (.boolean Bool.true))
  | false {t : Lexeme} : t.Reads "FALSE" → Expr.Spelt [t] (.literal (.boolean Bool.false))
  | name {t : Lexeme} {word : String} : t.token = .word word → IsName word →
      Expr.Spelt [t] (.variable word)
  | list {opening closing : Lexeme} {taken : List Lexeme} {items : List Expr} :
      opening.token = .symbol '[' → closing.token = .symbol ']' → Listed Expr.Spelt taken items →
      Expr.Spelt (opening :: taken ++ [closing]) (.list items)
  | range {word opening closing : Lexeme} {taken : List Lexeme} {arguments : List Expr} :
      word.Reads "RANGE" → opening.token = .symbol '(' → closing.token = .symbol ')' →
      Listed Expr.Spelt taken arguments →
      Expr.Spelt (word :: opening :: taken ++ [closing]) (.range arguments)

def textOf (source : List Char) : List Lexeme → String
  | [] => ""
  | first :: rest => Parser.slice source first.start (rest.getLastD first).stop

/-- Whether the tokens spell an expression to return and the name of its column: the name that is
given to it, or the text of the expression. -/
inductive Column.Spelt (source : List Char) : List Lexeme → Expr × String → Prop
  | text {taken : List Lexeme} {e : Expr} : e.Spelt taken →
      Column.Spelt source taken (e, textOf source taken)
  | named {taken : List Lexeme} {e : Expr} {naming word : Lexeme} {name : String} :
      e.Spelt taken → naming.Reads "AS" → word.token = .word name →
      Column.Spelt source (taken ++ [naming, word]) (e, name)

inductive Unwind.Spelt : List Lexeme → Option (Expr × String) → Prop
  | absent : Unwind.Spelt [] none
  | present {unwind naming word : Lexeme} {taken : List Lexeme} {e : Expr} {name : String} :
      unwind.Reads "UNWIND" → e.Spelt taken → naming.Reads "AS" → word.token = .word name →
      Unwind.Spelt (unwind :: taken ++ [naming, word]) (some (e, name))

def IsEnding (taken : List Lexeme) : Prop :=
  taken = [] ∨ ∃ t : Lexeme, t.token = .symbol ';' ∧ taken = [t]

/-- Whether the tokens of the statement spell the plan. -/
inductive Plan.Spelt (source : List Char) : List Lexeme → Plan → Prop
  | mk {first columns ending : List Lexeme} {returns : Lexeme} {unwind : Option (Expr × String)}
      {items : List (Expr × String)} :
      Unwind.Spelt first unwind → returns.Reads "RETURN" →
      Separated (Column.Spelt source) columns items → IsEnding ending →
      Plan.Spelt source (first ++ returns :: columns ++ ending) ⟨unwind, items⟩

mutual

def Expr.names : Expr → List String
  | .variable name => [name]
  | .list items => namesIn items
  | .range arguments => namesIn arguments
  | .literal _ | .parameter _ => []

def namesIn : List Expr → List String
  | [] => []
  | e :: rest => e.names ++ namesIn rest

end

/-- Whether every bare name is bound where it stands. -/
structure Plan.IsClosed (p : Plan) : Prop where
  items : ∀ item ∈ p.items, ∀ name ∈ item.1.names, p.boundName = some name
  unwind : ∀ u, p.unwind = some u → u.1.names = []

/-! ## Closed plans -/

mutual

theorem Expr.stray?_eq_none {bound : Option String} :
    ∀ {e : Expr}, e.stray? bound = none ↔ ∀ name ∈ e.names, bound = some name
  | .variable name => by simp [Expr.stray?, Expr.names, eq_comm]
  | .list items => by simpa [Expr.stray?, Expr.names] using strayIn?_eq_none
  | .range arguments => by simpa [Expr.stray?, Expr.names] using strayIn?_eq_none
  | .literal _ => by simp [Expr.stray?, Expr.names]
  | .parameter _ => by simp [Expr.stray?, Expr.names]

theorem strayIn?_eq_none {bound : Option String} :
    ∀ {items : List Expr}, strayIn? bound items = none ↔
      ∀ name ∈ namesIn items, bound = some name
  | [] => by simp [strayIn?, namesIn]
  | e :: rest => by
    simp only [strayIn?, namesIn, Option.or_eq_none_iff, List.mem_append, or_imp, forall_and]
    exact and_congr Expr.stray?_eq_none strayIn?_eq_none

end

theorem mem_namesIn {name : String} {items : List Expr} :
    name ∈ namesIn items ↔ ∃ e ∈ items, name ∈ e.names := by
  induction items with
  | nil => simp [namesIn]
  | cons e rest ih => simp [namesIn, ih]

/-- A plan is closed if no variable strays. -/
theorem Plan.stray?_eq_none {p : Plan} : p.stray? = none ↔ p.IsClosed := by
  unfold stray?
  rw [Option.or_eq_none_iff, strayIn?_eq_none]
  constructor
  · rintro ⟨bound, first⟩
    refine ⟨fun item among name within => bound name ?_, fun u unwound => ?_⟩
    · exact mem_namesIn.mpr ⟨item.1, List.mem_map_of_mem among, within⟩
    · have closed : u.1.stray? none = none := by simpa [unwound] using first
      exact List.eq_nil_iff_forall_not_mem.mpr fun name within => by
        simpa using Expr.stray?_eq_none.mp closed name within
  · rintro ⟨items, unwind⟩
    refine ⟨fun name within => ?_, ?_⟩
    · obtain ⟨e, among, within⟩ := mem_namesIn.mp within
      obtain ⟨item, held, rfl⟩ := List.mem_map.mp among
      exact items item held name within
    · cases unwound : p.unwind with
      | none => rfl
      | some u => exact Expr.stray?_eq_none.mpr (by simp [unwind u unwound])

end GraphProtocol.Literal
