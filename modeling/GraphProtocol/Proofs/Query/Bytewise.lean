import GraphProtocol.Proofs.Query.Offsets

/-!
# Statements parsed by bytes

The parser slices the text of a statement where tokens start and end, by their places in bytes. It
can do so because the tokens that are left are always the last of those that the text is cut into.
The text of an expression starts and ends with tokens, so trimming takes nothing away from it.
-/

set_option autoImplicit false

namespace GraphProtocol.Literal

section

variable {text : List Char} {lexemes : List Lexeme} {l m : Lexeme}

/-- What stands between the start of one token and the end of another is not trimmed. -/
theorem trim_slice (given : tokenize text = .ok lexemes) (first : l ∈ lexemes) (last : m ∈ lexemes)
    (before : l.start < m.stop) :
    Text.trim (Parser.slice text l.start m.stop).toList =
      (Parser.slice text l.start m.stop).toList := by
  have cut := tokensFrom_iff.mp given
  obtain ⟨c, -, starts, -, notBlank, -⟩ := cut.solid first
  obtain ⟨-, d, -, ends, -, notBlank'⟩ := cut.solid last
  have extent : m.stop - l.start ≠ 0 := by omega
  have place : l.start + (m.stop - l.start - 1) = m.stop - 0 - 1 := by omega
  have head : ((text.drop l.start).take (m.stop - l.start)).head? = some c := by
    rw [List.head?_take, if_neg extent, List.head?_drop]
    exact starts
  have tail : ((text.drop l.start).take (m.stop - l.start)).getLast? = some d := by
    rw [List.getLast?_take, if_neg extent, List.getElem?_drop, place, ends]
    rfl
  unfold Parser.slice
  rw [String.toList_ofList]
  have trimmed := @Text.trim_between [] ((text.drop l.start).take (m.stop - l.start)) []
    (List.forall_mem_nil _) (List.forall_mem_nil _) (by simp [head, notBlank])
    (by simp [tail, notBlank'])
  rwa [List.nil_append, List.append_nil] at trimmed

end

/-! ## States -/

namespace Remainder

def IsCut (s : Remainder) : Prop := ∃ lexemes, tokenize s.source = .ok lexemes ∧ s.rest <:+ lexemes

def inBytes (s : Remainder) : Remainder :=
  ⟨s.source, s.rest.map (Lexeme.inBytes s.source), offset s.source s.last⟩

variable {s after : Remainder} {t : Lexeme} {others : List Lexeme}

theorem IsCut.moves (cut : s.IsCut) (source : after.source = s.source)
    (rest : after.rest <:+ s.rest) : after.IsCut := by
  obtain ⟨lexemes, given, left⟩ := cut
  exact ⟨lexemes, source ▸ given, rest.trans left⟩

/-- Tokens that are taken one after the other are tokens of the text, and the last ends behind where
the first starts. -/
theorem IsCut.ordered (cut : s.IsCut) (took : s.Took (t :: others) after) :
    ∃ lexemes, tokenize s.source = .ok lexemes ∧ t ∈ lexemes ∧ others.getLastD t ∈ lexemes ∧
      t.start < (others.getLastD t).stop := by
  obtain ⟨lexemes, given, left⟩ := cut
  obtain ⟨ordered, filled⟩ := (tokensFrom_iff.mp given).places
  rw [took.rest] at left
  have taken : (t :: others).Sublist lexemes := (List.sublist_append_left _ _).trans left.sublist
  have among := @List.getLastD_mem_cons _ others t
  have first := taken.subset List.mem_cons_self
  refine ⟨lexemes, given, first, taken.subset among, ?_⟩
  rcases List.mem_cons.mp among with same | later
  · rw [same]
    exact (filled t first).2.1
  · have behind := List.rel_of_pairwise_cons (ordered.sublist taken) later
    have here := filled t first
    have there := filled _ (taken.subset among)
    omega

end Remainder

namespace Bytewise

def mirrored {α : Type} :
    EStateM.Result QueryFault Remainder α → EStateM.Result QueryFault Remainder α
  | .ok v s => .ok v s.inBytes
  | .error fault s => .error fault s.inBytes

def slicing (alarm : QueryFault) : Slicing where
  size source := (String.ofList source).utf8ByteSize
  cut start stop s :=
    match sliceBytes? (String.ofList s.source) start stop with
    | some slice => .ok slice s
    | none => .error alarm s

/-- Whether the first parser does by bytes what the second does by characters. -/
def Mirrors {α : Type} (x y : Parser α) : Prop :=
  ∀ s : Remainder, s.IsCut →
    x s.inBytes = mirrored (y s) ∧ ∀ v after, y s = .ok v after → after.IsCut

variable {alarm : QueryFault}

theorem Mirrors.bind {α β : Type} {x y : Parser α} {f g : α → Parser β} (first : Mirrors x y)
    (further : ∀ v, Mirrors (f v) (g v)) : Mirrors (x >>= f) (y >>= g) := by
  intro s cut
  obtain ⟨same, keeps⟩ := first s cut
  change EStateM.bind x f s.inBytes = mirrored (EStateM.bind y g s) ∧
    ∀ v after, EStateM.bind y g s = .ok v after → after.IsCut
  unfold EStateM.bind
  rw [same]
  cases came : y s with
  | ok v middle => exact further v middle (keeps v middle came)
  | error fault middle => exact ⟨rfl, fun _ _ given => by cases given⟩

theorem slicing_cut {s : Remainder} {start stop : Nat} (before : start ≤ stop) :
    (slicing alarm).cut (offset s.source start) (offset s.source stop) s.inBytes =
      .ok (Parser.slice s.source start stop) s.inBytes := by
  change (match sliceBytes? (String.ofList s.source) _ _ with
    | some slice => EStateM.Result.ok slice s.inBytes
    | none => .error alarm s.inBytes) = _
  rw [sliceBytes?_offset before]

theorem mirrors_unexpected {α : Type} (expected : String) :
    Mirrors ((slicing alarm).unexpected expected : Parser α) (Parser.unexpected expected) := by
  rintro ⟨source, rest, last⟩ cut
  refine ⟨?_, fun v after given => by cases given⟩
  cases rest with
  | nil => rfl
  | cons t rest =>
    have took : Remainder.Took ⟨source, t :: rest, last⟩ [t] ⟨source, rest, t.stop⟩ :=
      ⟨rfl, rfl, rfl⟩
    obtain ⟨-, -, -, -, ordered⟩ := cut.ordered took
    change ((slicing alarm).cut (offset source t.start) (offset source t.stop) >>= fun slice =>
      throw (QueryFault.unexpected (some slice) expected)) _ = _
    exact bind_of_ok (@slicing_cut alarm ⟨source, t :: rest, last⟩ _ _ ordered.le)

theorem mirrors_withText (expression : Mirrors (slicing alarm).anyExpression Parser.anyExpression) :
    Mirrors (slicing alarm).withText Parser.withText := by
  intro s cut
  obtain ⟨same, keeps⟩ := expression s cut
  have noted (s : Remainder) : (get : Parser Remainder) s = .ok s s := rfl
  unfold Slicing.withText Parser.withText
  rw [bind_of_ok (noted s), bind_of_ok (noted s.inBytes)]
  cases came : Parser.anyExpression s with
  | error fault after =>
    rw [came] at same
    rw [bind_of_error same, bind_of_error came]
    exact ⟨rfl, fun _ _ given => by cases given⟩
  | ok e after =>
    rw [came] at same
    obtain ⟨taken, took, spelt⟩ := Parser.anyExpression_taken came
    obtain ⟨t, others, rfl, -⟩ := Parser.spelt_first spelt
    obtain ⟨lexemes, given, first, last, ordered⟩ := cut.ordered took
    have head : s.inBytes.rest.head?.elim ((slicing alarm).size s.inBytes.source) Lexeme.start =
        offset after.source t.start := by
      rw [Remainder.inBytes, took.rest, took.source]
      rfl
    have tail : after.inBytes.last = offset after.source (others.getLastD t).stop := by
      rw [← took.stop]
      rfl
    have trimmed := trim_slice given first last ordered
    rw [bind_of_ok same, bind_of_ok (noted _), bind_of_ok came, bind_of_ok (noted after), head,
      tail, bind_of_ok (slicing_cut ordered.le), took.source, trimmed, String.ofList_toList,
      Parser.text_taken spelt took]
    exact ⟨rfl, fun _ _ given => by cases given; exact keeps e after came⟩

theorem mirrors (alarm : QueryFault) : (slicing alarm).Matched @Mirrors where
  pure v s cut := ⟨rfl, fun _ _ given => by cases given; exact cut⟩
  bind first further := first.bind further
  peek := by
    rintro ⟨source, rest, last⟩ cut
    refine ⟨?_, fun _ _ given => by cases given; exact cut⟩
    cases rest <;> rfl
  skip := by
    rintro ⟨source, rest, last⟩ cut
    cases rest with
    | nil => exact ⟨rfl, fun _ _ given => by cases given; exact cut⟩
    | cons t rest =>
      refine ⟨rfl, fun _ _ given => ?_⟩
      cases given
      exact cut.moves rfl (List.suffix_cons t rest)
  unknown name s cut := ⟨rfl, fun _ _ given => by cases given⟩
  unexpected := mirrors_unexpected
  measured {α f g} each s cut := by
    have length : s.inBytes.rest.length = s.rest.length := List.length_map _
    change f s.inBytes.rest.length s.inBytes = mirrored (g s.rest.length s) ∧ _
    rw [length]
    exact each _ s cut
  withText := mirrors_withText

def parse (alarm : QueryFault) (statement : String) : Except QueryFault Plan := do
  let source := statement.toList
  let lexemes ← tokenize alarm source
  match (slicing alarm).statement ⟨source, lexemes, 0⟩ with
  | .error fault _ => throw fault
  | .ok plan _ =>
    match plan.stray? with
    | some name => throw (.undefinedVariable name)
    | none => return plan

/-- No slice is out of place. -/
theorem parse_ok (alarm : QueryFault) (statement : String) :
    parse alarm statement = Plan.parse statement := by
  unfold parse Plan.parse
  dsimp only
  rw [tokenize_ok]
  cases given : Literal.tokenize statement.toList with
  | error fault => rfl
  | ok lexemes =>
    let s : Remainder := ⟨statement.toList, lexemes, 0⟩
    have same := ((mirrors alarm).statement s ⟨lexemes, given, List.suffix_rfl⟩).1
    change (match (slicing alarm).statement s.inBytes with
      | .error fault _ => throw fault
      | .ok plan _ => _) = (match Parser.statement s with
      | .error fault _ => throw fault
      | .ok plan _ => _ : Except QueryFault Plan)
    rw [same]
    cases Parser.statement s <;> rfl

end Bytewise

/-! ## Spans -/

def Ordered (room : Nat) (lexemes : List Lexeme) : Prop :=
  lexemes.Pairwise (fun l m => l.stop ≤ m.start) ∧ ∀ l ∈ lexemes, l.start < l.stop ∧ l.stop ≤ room

/-- What holds of the places of all tokens of a text. -/
structure Spans (text : List Char) (lexemes : List Lexeme) : Prop where
  ordered : Ordered text.length lexemes
  orderedBytes : Ordered (String.ofList text).utf8ByteSize (lexemes.map (Lexeme.inBytes text))
  /-- Characters start at both ends of a token. -/
  sliced : ∀ l ∈ lexemes, sliceBytes? (String.ofList text) (l.inBytes text).start
    (l.inBytes text).stop = some (String.ofList (l.chars text))
  /-- The text of a token gives that token. -/
  alone : ∀ l ∈ lexemes, tokenize (l.chars text) = .ok [⟨l.token, 0, l.stop - l.start⟩]
  /-- Only blanks are in no token. -/
  blank : ∀ i c, text[i]? = some c → (∀ l ∈ lexemes, i < l.start ∨ l.stop ≤ i) →
    Text.isBlank c = true
  /-- Other blanks in no token give the same tokens. -/
  spaced : ∀ early blanks late others : List Char, text = early ++ blanks ++ late →
    blanks ≠ [] → (∀ c ∈ blanks, Text.isBlank c = true) →
    (∀ l ∈ lexemes, l.stop ≤ early.length ∨ early.length + blanks.length ≤ l.start) →
    others ≠ [] → (∀ c ∈ others, Text.isBlank c = true) →
    ∃ again, tokenize (early ++ others ++ late) = .ok again ∧
      again.map Lexeme.token = lexemes.map Lexeme.token

theorem ordered_bytes {text : List Char} {lexemes : List Lexeme}
    (ordered : Ordered text.length lexemes) :
    Ordered (String.ofList text).utf8ByteSize (lexemes.map (Lexeme.inBytes text)) := by
  refine ⟨List.pairwise_map.mpr (ordered.1.imp offset_le),
    List.forall_mem_map.mpr fun l among => ?_⟩
  obtain ⟨some, within⟩ := ordered.2 l among
  exact ⟨offset_lt some within, offset_length text ▸ offset_le within⟩

/-- Tokens have their places in every text that is cut. Scanned and parsed by bytes, a text gives
the same tokens and the same plan, whatever is reported if a slice is out of place or a loop goes on
for too long: so neither ever is. -/
theorem spans_exact (text : List Char) :
    (∀ lexemes, tokenize text = .ok lexemes → Spans text lexemes) ∧
    ∀ alarm, Bytewise.tokenize alarm text =
        (tokenize text).map (List.map (Lexeme.inBytes text)) ∧
      Bytewise.parse alarm (String.ofList text) = Plan.parse (String.ofList text) := by
  refine ⟨fun lexemes given => ?_, fun alarm =>
    ⟨Bytewise.tokenize_ok alarm text, Bytewise.parse_ok alarm _⟩⟩
  have cut := tokensFrom_iff.mp given
  have ordered : Ordered text.length lexemes := by
    refine ⟨cut.places.1, fun l among => ?_⟩
    have place := cut.places.2 l among
    omega
  exact {
    ordered
    orderedBytes := ordered_bytes ordered
    sliced l among := sliceBytes?_offset (ordered.2 l among).1.le
    alone l among := tokenize_chars given among
    blank i c here outside := by
      refine cut.blanks here fun l among => ?_
      rw [Nat.zero_add]
      exact outside l among
    spaced early blanks late others parts some blank outside some' blank' := by
      subst parts
      exact tokenize_blanks given some blank some' blank' outside }

/-- The places of the tokens of `RETURN 'ü' x`, by characters and by bytes, and other blanks between
the last two. -/
theorem sample_spans :
    tokenize "RETURN 'ü' x".toList =
      .ok [⟨.word "RETURN", 0, 6⟩, ⟨.string "ü", 7, 10⟩, ⟨.word "x", 11, 12⟩] ∧
    Lexeme.inBytes "RETURN 'ü' x".toList ⟨.word "x", 11, 12⟩ = ⟨.word "x", 12, 13⟩ ∧
    sliceBytes? "RETURN 'ü' x" 12 13 = some "x" ∧
    ∃ again, tokenize "RETURN 'ü'\n\tx".toList = .ok again ∧
      again.map Lexeme.token = [.word "RETURN", .string "ü", .word "x"] := by
  have given : tokenize "RETURN 'ü' x".toList =
      .ok [⟨.word "RETURN", 0, 6⟩, ⟨.string "ü", 7, 10⟩, ⟨.word "x", 11, 12⟩] := by
    decide +kernel
  have exact := (spans_exact "RETURN 'ü' x".toList).1 _ given
  have place : Lexeme.inBytes "RETURN 'ü' x".toList ⟨.word "x", 11, 12⟩ = ⟨.word "x", 12, 13⟩ := by
    decide +kernel
  have chars : Lexeme.chars ⟨.word "x", 11, 12⟩ "RETURN 'ü' x".toList = "x".toList := by
    decide +kernel
  have sliced := exact.sliced ⟨.word "x", 11, 12⟩ (by simp)
  rw [place, chars, String.ofList_toList, String.ofList_toList] at sliced
  have spaced := exact.spaced "RETURN 'ü'".toList [' '] ['x'] ['\n', '\t'] (by decide +kernel)
    (List.cons_ne_nil _ _) (List.forall_mem_singleton.mpr rfl) (by decide +kernel)
    (List.cons_ne_nil _ _) (List.forall_mem_cons.mpr ⟨rfl, List.forall_mem_singleton.mpr rfl⟩)
  have whole : "RETURN 'ü'".toList ++ ['\n', '\t'] ++ ['x'] = "RETURN 'ü'\n\tx".toList := by
    decide +kernel
  rw [whole] at spaced
  exact ⟨given, place, sliced, spaced⟩

end GraphProtocol.Literal
