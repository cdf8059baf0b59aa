import GraphProtocol.Proofs.Query.Cutting

/-!
# Places in an expression

Whatever an expression is, it may stand in a list or among the arguments of a range, and these may
stand in others. The text around such a place is cut for itself, and its tokens make an expression
of the tokens of any expression in the place.
-/

set_option autoImplicit false

namespace GraphProtocol.Literal

/-! ## Phrases and places -/

/-- A text that is an expression without names, wherever it stands. -/
structure Phrase where
  text : List Char
  expr : Expr
  spelt : ∀ position, ∃ taken, tokensFrom position text [] = .ok taken ∧ expr.Spelt taken
  closed : expr.names = []

/-- A place in an expression: alone, between blanks, or among the items of a list or the arguments
of a range, in which there may be other places. -/
inductive Place where
  | alone
  | spaced (before after : List Char) (blank : ∀ c ∈ before ++ after, Text.isBlank c = true)
      (inner : Place)
  | item (before after : List Phrase) (inner : Place)
  | argument (word : List Char) (reads : Parser.isKeyword "RANGE" (String.ofList word) = true)
      (before after : List Phrase) (inner : Place)

def earlier (phrases : List Phrase) : List Char := phrases.flatMap fun p => p.text ++ [',']

def later (phrases : List Phrase) : List Char := phrases.flatMap fun p => ',' :: p.text

namespace Place

def left : Place → List Char
  | .alone => []
  | .spaced before _ _ inner => before ++ inner.left
  | .item before _ inner => '[' :: (earlier before ++ inner.left)
  | .argument word _ before _ inner => word ++ '(' :: (earlier before ++ inner.left)

def right : Place → List Char
  | .alone => []
  | .spaced _ after _ inner => inner.right ++ after
  | .item _ after inner => inner.right ++ (later after ++ [']'])
  | .argument _ _ _ after inner => inner.right ++ (later after ++ [')'])

def fill (e : Expr) : Place → Expr
  | .alone => e
  | .spaced _ _ _ inner => inner.fill e
  | .item before after inner =>
    .list (before.map Phrase.expr ++ inner.fill e :: after.map Phrase.expr)
  | .argument _ _ before after inner =>
    .range (before.map Phrase.expr ++ inner.fill e :: after.map Phrase.expr)

def opening (place : Place) : List Char := "RETURN ".toList ++ place.left

def statement (place : Place) (text : List Char) : String :=
  String.ofList (place.opening ++ text ++ place.right)

end Place

/-! ## The text around a place -/

theorem later_startsApart (phrases : List Phrase) : StartsApart (later phrases) := by
  cases phrases with
  | nil => exact startsApart_nil
  | cons p rest => exact startsApart_symbol (by decide) _

theorem earlier_endsApart (phrases : List Phrase) : EndsApart (earlier phrases) := by
  induction phrases with
  | nil => exact endsApart_nil
  | cons p rest ih => exact (endsApart_concat (.inr (by decide)) p.text).append ih

theorem earlier_cut (phrases : List Phrase) (position : Nat) :
    ∃ taken, tokensFrom position (earlier phrases) [] = .ok taken ∧
      ∀ others items, Separated Expr.Spelt others items →
        Separated Expr.Spelt (taken ++ others) (phrases.map Phrase.expr ++ items) := by
  induction phrases generalizing position with
  | nil => exact ⟨[], by rw [earlier, List.flatMap_nil, tokensFrom]; rfl, fun _ _ given => given⟩
  | cons p rest ih =>
    have parts : earlier (p :: rest) = p.text ++ ',' :: earlier rest := by simp [earlier]
    obtain ⟨taken, cut, spelt⟩ := p.spelt position
    obtain ⟨others, cuts, separated⟩ := ih (position + p.text.length + 1)
    have comma := tokensFrom_symbol (c := ',') (by decide) cuts
    rw [parts]
    refine ⟨_, tokensFrom_both (fun _ => (startsApart_symbol (by decide) _).apart) cut comma,
      fun further items given => ?_⟩
    rw [List.append_assoc, List.cons_append, List.map_cons, List.cons_append]
    exact .more spelt rfl (separated further items given)

theorem later_cut (phrases : List Phrase) (position : Nat) :
    ∃ taken, tokensFrom position (later phrases) [] = .ok taken ∧
      ∀ first e, e.Spelt first →
        Separated Expr.Spelt (first ++ taken) (e :: phrases.map Phrase.expr) := by
  induction phrases generalizing position with
  | nil =>
    refine ⟨[], by rw [later, List.flatMap_nil, tokensFrom]; rfl, fun first e given => ?_⟩
    rw [List.append_nil]
    exact .one given
  | cons p rest ih =>
    have parts : later (p :: rest) = ',' :: (p.text ++ later rest) := by simp [later]
    obtain ⟨taken, cut, spelt⟩ := p.spelt (position + 1)
    obtain ⟨others, cuts, separated⟩ := ih (position + 1 + p.text.length)
    have both := tokensFrom_both (fun _ => (later_startsApart rest).apart) cut cuts
    rw [parts]
    refine ⟨_, tokensFrom_symbol (by decide) both, fun first e given => ?_⟩
    exact .more given rfl (separated taken p.expr spelt)

namespace Place

theorem left_endsApart (place : Place) : EndsApart place.left := by
  induction place with
  | alone => exact endsApart_nil
  | spaced before after blank inner ih =>
    exact (endsApart_blanks fun c among => blank c (List.mem_append_left _ among)).append ih
  | item before after inner ih =>
    exact (endsApart_concat (.inr (by decide)) []).append ((earlier_endsApart before).append ih)
  | argument word reads before after inner ih =>
    have opened := endsApart_concat (c := '(') (.inr (by decide)) word
    have whole := opened.append ((earlier_endsApart before).append ih)
    rwa [List.append_assoc] at whole

theorem right_startsApart (place : Place) : StartsApart place.right := by
  induction place with
  | alone => exact startsApart_nil
  | spaced before after blank inner ih =>
    exact ih.append (startsApart_blanks fun c among => blank c (List.mem_append_right _ among))
  | item before after inner ih | argument word reads before after inner ih =>
    exact ih.append ((later_startsApart after).append (startsApart_symbol (by decide) []))

def IsFrame (place : Place) : Prop :=
  ∀ position further, ∃ before after, tokensFrom position place.left [] = .ok before ∧
    tokensFrom further place.right [] = .ok after ∧
    ∀ taken e, e.Spelt taken → (place.fill e).Spelt (before ++ taken ++ after)

/-- The tokens of the items around a place, with what closes the items. -/
theorem items_cut {inner : Place} (frame : inner.IsFrame) (early late : List Phrase)
    (close : Char) (closes : close ∈ symbols) (position further : Nat) :
    ∃ before after closing, tokensFrom position (earlier early ++ inner.left) [] = .ok before ∧
      tokensFrom further (inner.right ++ (later late ++ [close])) [] = .ok (after ++ [closing]) ∧
      closing.token = .symbol close ∧
      ∀ taken e, e.Spelt taken → Separated Expr.Spelt (before ++ taken ++ after)
        (early.map Phrase.expr ++ inner.fill e :: late.map Phrase.expr) := by
  obtain ⟨before, cutBefore, onBefore⟩ := earlier_cut early position
  obtain ⟨left, right, cutLeft, cutRight, spelt⟩ :=
    frame (position + (earlier early).length) further
  obtain ⟨after, cutAfter, onAfter⟩ := later_cut late (further + inner.right.length)
  have lateClosed : StartsApart (later late ++ [close]) :=
    (later_startsApart late).append (startsApart_symbol closes [])
  have cutLate := tokensFrom_both (fun _ => lateClosed.apart) cutRight
    (tokensFrom_both (fun _ => (startsApart_symbol closes []).apart) cutAfter
      (tokensFrom_last closes))
  rw [← List.append_assoc right] at cutLate
  refine ⟨before ++ left, right ++ after, _,
    tokensFrom_both (fun some => (earlier_endsApart early).apart some) cutBefore cutLeft, cutLate,
    rfl, fun taken e given => ?_⟩
  have whole := onBefore _ _ (onAfter _ _ (spelt taken e given))
  simpa only [List.append_assoc] using whole

/-- Every place is one. -/
theorem isFrame (place : Place) : place.IsFrame := by
  induction place with
  | alone =>
    intro position further
    refine ⟨[], [], by rw [left, tokensFrom]; rfl, by rw [right, tokensFrom]; rfl, ?_⟩
    intro taken e given
    simpa [fill] using given
  | spaced early late blank inner frame =>
    -- Blanks are no tokens, so the tokens are those around the inner place.
    intro position further
    have blankBefore := fun c among => blank c (List.mem_append_left late among)
    have blankAfter := fun c among => blank c (List.mem_append_right early among)
    obtain ⟨before, after, cutBefore, cutAfter, spelt⟩ := frame (position + early.length) further
    refine ⟨before, after, ?_, ?_, spelt⟩
    · exact tokensFrom_both (fun some => (endsApart_blanks blankBefore).apart some)
        (tokensFrom_blanks blankBefore) cutBefore
    · have both := tokensFrom_both (fun _ => (startsApart_blanks blankAfter).apart) cutAfter
        (tokensFrom_blanks blankAfter)
      rwa [List.reverse_nil, List.append_nil] at both
  | item early late inner frame =>
    intro position further
    obtain ⟨before, after, closing, cutBefore, cutAfter, closes, separated⟩ :=
      items_cut frame early late ']' (by decide) (position + 1) further
    refine ⟨_, _, tokensFrom_symbol (by decide) cutBefore, cutAfter, fun taken e given => ?_⟩
    have whole : Expr.Spelt (⟨.symbol '[', position, position + 1⟩ :: _ ++ [closing]) _ :=
      .list rfl closes (.some (separated taken e given))
    simpa only [fill, List.append_assoc, List.cons_append] using whole
  | argument word reads early late inner frame =>
    intro position further
    obtain ⟨before, after, closing, cutBefore, cutAfter, closes, separated⟩ :=
      items_cut frame early late ')' (by decide) (position + word.length + 1) further
    have opened := tokensFrom_symbol (c := '(') (by decide) cutBefore
    have name := tokensFrom_keyword position (by simp) (by simp) reads
    refine ⟨_, _, tokensFrom_both (fun _ => (startsApart_symbol (by decide) _).apart) name opened,
      cutAfter, fun taken e given => ?_⟩
    have whole : Expr.Spelt
        (⟨.word (String.ofList word), position, position + word.length⟩ ::
          ⟨.symbol '(', position + word.length, position + word.length + 1⟩ :: _ ++ [closing]) _ :=
      .range ⟨_, rfl, reads⟩ rfl closes (.some (separated taken e given))
    simpa only [fill, List.append_assoc, List.cons_append, List.nil_append] using whole

theorem fill_closed (place : Place) {e : Expr} (closed : e.names = []) :
    (place.fill e).names = [] := by
  have items : ∀ {inner : Expr} (early late : List Phrase), inner.names = [] →
      namesIn (early.map Phrase.expr ++ inner :: late.map Phrase.expr) = [] := by
    intro inner early late none
    refine List.eq_nil_iff_forall_not_mem.mpr fun name within => ?_
    obtain ⟨e, among, within⟩ := mem_namesIn.mp within
    have empty : e.names = [] := by
      rcases List.mem_append.mp among with before | there
      · obtain ⟨p, -, rfl⟩ := List.mem_map.mp before
        exact p.closed
      rcases List.mem_cons.mp there with rfl | after
      · exact none
      · obtain ⟨p, -, rfl⟩ := List.mem_map.mp after
        exact p.closed
    rw [empty] at within
    cases within
  induction place with
  | alone => exact closed
  | spaced _ _ _ _ ih => exact ih
  | item early late _ ih => exact items early late ih
  | argument _ _ early late _ ih => exact items early late ih

/-! ## Statements -/

theorem statement_toList (place : Place) (text : List Char) :
    (place.statement text).toList = place.opening ++ text ++ place.right :=
  String.toList_ofList

theorem statement_alone (text : String) : alone.statement text.toList = "RETURN " ++ text := by
  rw [← String.toList_inj, statement_toList, String.toList_append]
  exact (List.append_nil _).trans (congrArg (· ++ text.toList) (List.append_nil _))

theorem opening_cut (place : Place) {before : List Lexeme}
    (given : tokensFrom 7 place.left [] = .ok before) :
    tokenize place.opening = .ok (⟨.word "RETURN", 0, 6⟩ :: before) := by
  have reads : Parser.isKeyword "RETURN" (String.ofList "RETURN".toList) = true := by
    rw [String.ofList_toList]
    decide
  have returns := tokensFrom_keyword 0 (by simp) (by simp) reads
  have blank : ∀ c ∈ [' '], Text.isBlank c = true := fun c among => by
    obtain rfl := List.mem_singleton.mp among
    rfl
  have rest : tokensFrom 6 ([' '] ++ place.left) [] = .ok ([] ++ before) :=
    tokensFrom_both (fun some => (endsApart_blanks blank).apart some) (tokensFrom_blanks blank)
      given
  have whole : tokensFrom 0 ("RETURN".toList ++ ([' '] ++ place.left)) [] = .ok _ :=
    tokensFrom_both (fun _ => (startsApart_cons (.inl rfl) place.left).apart) returns rest
  exact whole

theorem opening_endsApart (place : Place) : EndsApart place.opening := by
  have returns : EndsApart "RETURN ".toList := endsApart_concat (.inl rfl) "RETURN".toList
  exact returns.append place.left_endsApart

end Place

end GraphProtocol.Literal
