import Mathlib.Data.List.Forall2
import GraphProtocol.Config.Document
import GraphProtocol.Proofs.Text.Pieces
import GraphProtocol.Proofs.Text.Spelling

/-!
# What the environment decides

Every setting has a variable of its own. A variable that is not set leaves its setting as it was,
and one that spells a value decides its setting and no other. A text that spells nothing is passed
over, except that it switches a flag off.
-/

set_option autoImplicit false

namespace GraphProtocol

/-! ## Texts and what they spell -/

def SpellsWord (word text : String) : Prop := text.toList.map Char.toLower = word.toList

def SpellsFlag (text : String) : Bool → Prop
  | true => text = "1" ∨ SpellsWord "true" text
  | false => text = "0" ∨ SpellsWord "false" text

def SpellsNumber (largest : Nat) (cs : List Char) (n : Nat) : Prop :=
  n ≤ largest ∧ ∃ x : Text.Spelling, x.chars = cs ∧ x.number = n

def SpellsSize (text : String) (n : Nat) : Prop := SpellsNumber Text.maxWord64 text.toList n

def SpellsAddress (text : String) (address : Net.SocketAddress) : Prop :=
  Net.SocketAddress.ofText? text = some address

def SpellsText (text s : String) : Prop := s ≠ "" ∧ text = s

def SpellsItem (piece : List Char) (n : Nat) : Prop :=
  ∃ before cs after, piece = before ++ cs ++ after ∧ (∀ c ∈ before, Text.isBlank c = true) ∧
    (∀ c ∈ after, Text.isBlank c = true) ∧ SpellsNumber Text.maxWord32 cs n

def SpellsList (text : String) (ns : List Nat) : Prop :=
  ∃ pieces, pieces ≠ [] ∧ text.toList = [','].intercalate pieces ∧ List.Forall₂ SpellsItem pieces ns

namespace Environment

theorem flag_iff {text : String} : flag text = true ↔ SpellsFlag text true := by
  unfold flag SpellsFlag SpellsWord
  rw [Bool.or_eq_true, beq_iff_eq, beq_iff_eq]

/-- A text that spells a truth value is understood. -/
theorem flag_of_spelt {text : String} {on : Bool} (spelt : SpellsFlag text on) :
    flag text = on := by
  cases on with
  | true => exact flag_iff.mpr spelt
  | false =>
    rw [← Bool.not_eq_true, flag_iff]
    rcases spelt with rfl | off
    · unfold SpellsFlag SpellsWord
      decide
    · rintro (rfl | on)
      · cases off
      · cases off.symm.trans on

theorem word?_iff {text : String} {n : Nat} :
    word? text = some n ↔ SpellsSize text n :=
  Text.unsigned?_iff

theorem nonEmpty?_iff {text s : String} : nonEmpty? text = some s ↔ SpellsText text s := by
  unfold nonEmpty? SpellsText
  split
  next empty =>
    constructor
    · rintro ⟨⟩
    · rintro ⟨some, rfl⟩
      exact absurd (String.isEmpty_iff.mp empty) some
  next filled =>
    rw [Option.some.injEq]
    constructor
    · rintro rfl
      exact ⟨mt String.isEmpty_iff.mpr filled, rfl⟩
    · exact And.right

/-! ## Lists of numbers -/

/-- A spelling of a number is made of signs that are neither blanks nor commas. -/
theorem spelling_solid (x : Text.Spelling) : ∀ c ∈ x.chars, Text.isBlank c = false ∧ c ≠ ',' := by
  intro c among
  rcases List.mem_append.mp among with sign | digit
  · have plus : c = '+' := by
      split at sign
      · simpa using sign
      · cases sign
    subst plus
    decide
  · have decimal := x.digits_decimal c digit
    have bounds := Char.isDigit_iff_toNat.mp decimal
    have first : '0'.toNat = 48 := rfl
    have last : '9'.toNat = 57 := rfl
    constructor
    · unfold Text.isBlank
      rw [if_pos (by omega), Bool.or_eq_false_iff]
      constructor
      · rw [beq_eq_false_iff_ne]
        rintro rfl
        cases decimal
      · simp only [Bool.and_eq_false_iff, decide_eq_false_iff_not]
        omega
    · rintro rfl
      cases decimal

theorem unsigned?_trim_iff {piece : List Char} {n : Nat} :
    Text.unsigned? Text.maxWord32 (Text.trim piece) = some n ↔ SpellsItem piece n := by
  constructor
  · intro read
    obtain ⟨before, after, parts, early, late⟩ := Text.trim_parts piece
    exact ⟨before, _, after, parts, early, late, Text.unsigned?_iff.mp read⟩
  · rintro ⟨before, _, after, rfl, early, late, small, x, rfl, value⟩
    have solid := spelling_solid x
    rw [Text.trim_between early late
      (fun c first => (solid c (List.mem_of_mem_head? first)).1)
      fun c last => (solid c (List.mem_of_mem_getLast? last)).1]
    exact Text.unsigned?_iff.mpr ⟨small, x, rfl, value⟩

theorem item_free {piece : List Char} {n : Nat} (spelt : SpellsItem piece n) : ',' ∉ piece := by
  obtain ⟨before, _, after, rfl, early, late, -, x, rfl, -⟩ := spelt
  intro among
  rcases List.mem_append.mp among with among | among
  · rcases List.mem_append.mp among with among | among
    · cases early ',' among
    · exact (spelling_solid x ',' among).2 rfl
  · cases late ',' among

theorem mapM_iff {α β : Type} {f : α → Option β} {xs : List α} {ys : List β} :
    xs.mapM f = some ys ↔ List.Forall₂ (fun x y => f x = some y) xs ys := by
  induction xs generalizing ys with
  | nil => simp [eq_comm]
  | cons x rest ih =>
    rw [List.mapM_cons, List.forall₂_cons_left_iff, Option.bind_eq_bind, Option.bind_eq_some_iff]
    constructor
    · rintro ⟨y, first, given⟩
      obtain ⟨others, second, given⟩ := Option.bind_eq_some_iff.mp given
      exact ⟨y, others, first, ih.mp second, (Option.some.inj given).symm⟩
    · rintro ⟨y, others, first, second, rfl⟩
      exact ⟨y, first, Option.bind_eq_some_iff.mpr ⟨others, ih.mpr second, rfl⟩⟩

theorem versions?_iff {text : String} {ns : List Nat} :
    versions? text = some ns ↔ SpellsList text ns := by
  unfold versions?
  simp only [mapM_iff, unsigned?_trim_iff]
  constructor
  · intro spelt
    exact ⟨_, Text.splitAt_ne_nil, (Text.intercalate_split ',' text.toList).symm, spelt⟩
  · rintro ⟨pieces, some, whole, spelt⟩
    have free : ∀ piece ∈ pieces, ',' ∉ piece := by
      intro piece among
      obtain ⟨i, within, rfl⟩ := List.getElem_of_mem among
      exact item_free (spelt.get within (by rw [← spelt.length_eq]; exact within))
    rwa [whole, Text.split_intercalate some free]

end Environment

/-! ## Settings and their variables -/

/-- A setting, and the variable that decides it. -/
structure Setting where
  /-- The variable. -/
  name : String
  /-- What the text of the variable can spell. -/
  Spelt : Type
  /-- What the configuration holds. -/
  Held : Type
  Spells : String → Spelt → Prop
  get : Config → Held
  /-- What is held once this has been spelt. -/
  put : Spelt → Held → Held

namespace Setting

def value {α : Type} (name : String) (Spells : String → α → Prop) (get : Config → α) : Setting where
  name
  Spelt := α
  Held := α
  Spells
  get
  put x _ := x

def texts (name : String) (get : Config → List String) : Setting where
  name
  Spelt := String
  Held := List String
  Spells := SpellsText
  get
  put s before := before ++ [s]

def path (name : String) (get : Config → Option String) : Setting where
  name
  Spelt := String
  Held := Option String
  Spells := Eq
  get
  put s _ := some s

def plain : List Setting := [
  value "GRAPHWIRE_BIND" SpellsAddress (·.network.bindAddress),
  value "GRAPHWIRE_IDLE_TIMEOUT" SpellsSize (·.network.idleTimeoutSecs),
  value "GRAPHWIRE_MAX_CONNECTIONS" SpellsSize (·.network.maxConnections),
  value "GRAPHWIRE_MAX_MESSAGE_SIZE" SpellsSize (·.network.maxMessageSize),
  value "GRAPHWIRE_MAX_CHUNK_SIZE" SpellsSize (·.network.maxChunkSize),
  value "GRAPHWIRE_PROTOCOL_VERSIONS" SpellsList (·.protocol.enabledVersions),
  value "GRAPHWIRE_SERVER_AGENT" SpellsText (·.protocol.serverAgent),
  value "GRAPHWIRE_RESET_TIMEOUT_MS" SpellsSize (·.protocol.resetTimeoutMillis),
  texts "GRAPHWIRE_AUTH_CREDENTIAL_HASH" (·.auth.credentialHashes),
  path "GRAPHWIRE_AUTH_SECRETS_FILE" (·.auth.secretsFile),
  path "GRAPHWIRE_TLS_CERT" (·.tls.certPath),
  path "GRAPHWIRE_TLS_KEY" (·.tls.keyPath),
  path "GRAPHWIRE_TLS_CLIENT_CA" (·.tls.clientCaPath),
  value "GRAPHWIRE_METRICS_BIND" SpellsAddress (·.metrics.bindAddress)]

def switches : List (String × (Config → Bool)) := [
  ("GRAPHWIRE_AUTH_REQUIRED", (·.auth.required)),
  ("GRAPHWIRE_TLS_ENABLED", (·.tls.enabled)),
  ("GRAPHWIRE_TLS_REQUIRE_CLIENT_CERT", (·.tls.requireClientCert)),
  ("GRAPHWIRE_METRICS_ENABLED", (·.metrics.enabled))]

def ofSwitch (s : String × (Config → Bool)) : Setting := value s.1 SpellsFlag s.2

def all : List Setting := plain ++ switches.map ofSwitch

theorem names_distinct : (all.map name).Nodup := by decide

/-- The settings of a configuration are all that it holds. -/
theorem config_ext {a b : Config} (same : ∀ s ∈ all, s.get a = s.get b) : a = b := by
  simp only [all, plain, switches, List.map_cons, List.map_nil, List.cons_append, List.nil_append,
    List.forall_mem_cons, value, texts, path, ofSwitch] at same
  obtain ⟨⟨⟩, ⟨⟩, ⟨⟩, ⟨⟩, ⟨⟩⟩ := a
  obtain ⟨⟨⟩, ⟨⟩, ⟨⟩, ⟨⟩, ⟨⟩⟩ := b
  simp_all

/-! ## What a variable does -/

def Mistyped (s : Setting) (env : Environment) : Prop :=
  ∃ text, env s.name = some text ∧ ∀ x, ¬ s.Spells text x

/-- Whether a setting is as its variable says, and as it was if the variable is not set. -/
structure Obeys (s : Setting) (env : Environment) (before after : Config) : Prop where
  spelt : ∀ text x, env s.name = some text → s.Spells text x → s.get after = s.put x (s.get before)
  unset : env s.name = none → s.get after = s.get before

def PassesOver (s : Setting) (env : Environment) (before after : Config) : Prop :=
  s.Mistyped env → s.get after = s.get before

def Follows (s : Setting) (env : Environment) (before after : Config) : Prop :=
  s.Obeys env before after ∧ s.PassesOver env before after

section

variable {s : Setting} {env : Environment} {before after : Config}

/-- A setting whose variable is read obeys it. -/
theorem follows_of_read (read : String → Option s.Spelt)
    (reads : ∀ text x, read text = some x ↔ s.Spells text x)
    (made : s.get after =
      (((env s.name).bind read).map (s.put · (s.get before))).getD (s.get before)) :
    s.Follows env before after := by
  refine ⟨⟨fun text x given spelt => ?_, fun unset => ?_⟩, ?_⟩
  · rw [made, given, Option.bind_some, (reads text x).mpr spelt]
    rfl
  · rw [made, unset]
    rfl
  · rintro ⟨text, given, nothing⟩
    have unread : read text = none :=
      Option.eq_none_iff_forall_ne_some.mpr fun x spelt => nothing x ((reads text x).mp spelt)
    rw [made, given, Option.bind_some, unread]
    rfl

variable {name : String}

theorem value_follows {α : Type} {Spells : String → α → Prop} {get : Config → α}
    {read : String → Option α} (reads : ∀ text x, read text = some x ↔ Spells text x)
    (made : get after = env.override name read (get before)) :
    (value name Spells get).Follows env before after := by
  refine follows_of_read read reads (made.trans ?_)
  change _ = (((env name).bind read).map fun x => x).getD _
  rw [Option.map_id']
  rfl

theorem texts_follows {get : Config → List String}
    (made : get after = get before ++ ((env name).bind Environment.nonEmpty?).toList) :
    (texts name get).Follows env before after := by
  refine follows_of_read Environment.nonEmpty? (fun _ _ => Environment.nonEmpty?_iff)
    (made.trans ?_)
  change _ = (((env name).bind Environment.nonEmpty?).map fun s => get before ++ [s]).getD _
  cases (env name).bind Environment.nonEmpty? with
  | none => exact List.append_nil _
  | some s => rfl

theorem path_follows {get : Config → Option String}
    (made : get after = (env name).or (get before)) :
    (path name get).Follows env before after := by
  refine follows_of_read some (fun _ _ => Option.some_inj) (made.trans ?_)
  change _ = (((env name).bind some).map fun s => some s).getD _
  cases env name with
  | none => rfl
  | some s => rfl

end

/-- Every setting that is not a flag follows its variable. -/
theorem plain_follow (env : Environment) (before : Config) :
    ∀ s ∈ plain, s.Follows env before (env.apply before) := by
  have address {name : String} {get : Config → Net.SocketAddress}
      (made : get (env.apply before) = env.override name Net.SocketAddress.ofText? (get before)) :
      (value name SpellsAddress get).Follows env before (env.apply before) :=
    value_follows (fun _ _ => Iff.rfl) made
  have size {name : String} {get : Config → Nat}
      (made : get (env.apply before) = env.override name Environment.word? (get before)) :
      (value name SpellsSize get).Follows env before (env.apply before) :=
    value_follows (fun _ _ => Environment.word?_iff) made
  simp only [plain, List.forall_mem_cons]
  exact ⟨address rfl, size rfl, size rfl, size rfl, size rfl,
    value_follows (fun _ _ => Environment.versions?_iff) rfl,
    value_follows (fun _ _ => Environment.nonEmpty?_iff) rfl, size rfl, texts_follows rfl,
    path_follows rfl, path_follows rfl, path_follows rfl, path_follows rfl, address rfl,
    List.forall_mem_nil _⟩

section

variable {name : String} {get : Config → Bool} {env : Environment} {before after : Config}

theorem flag_obeys (made : get after = ((env name).map Environment.flag).getD (get before)) :
    (ofSwitch (name, get)).Obeys env before after where
  spelt text on given spelt := by
    have read : env name = some text := given
    rw [read] at made
    exact made.trans (Environment.flag_of_spelt spelt)
  unset unset := by
    have unset : env name = none := unset
    rw [unset] at made
    exact made

/-- A text that spells nothing means no. -/
theorem flag_off (made : get after = ((env name).map Environment.flag).getD (get before))
    (mistyped : (ofSwitch (name, get)).Mistyped env) : get after = false := by
  obtain ⟨text, given, nothing⟩ := mistyped
  have read : env name = some text := given
  rw [made, read]
  exact Bool.eq_false_iff.mpr (mt Environment.flag_iff.mp (nothing true))

end

/-- A flag is on if its variable says so. -/
theorem switches_made (env : Environment) (before : Config) : ∀ s ∈ switches,
    s.2 (env.apply before) = ((env s.1).map Environment.flag).getD (s.2 before) := by
  have made (name : String) (held : Bool) : env.override name (some ∘ Environment.flag) held =
      ((env name).map Environment.flag).getD held := by
    unfold Environment.override
    cases env name <;> rfl
  simp only [switches, List.forall_mem_cons]
  exact ⟨made _ _, made _ _, made _ _, made _ _, List.forall_mem_nil _⟩

/-- A setting depends on the text of its own variable alone. -/
theorem own_variable {s : Setting} (among : s ∈ all) (before : Config) {env env' : Environment}
    (same : env s.name = env' s.name) : s.get (env.apply before) = s.get (env'.apply before) := by
  rcases List.mem_append.mp among with simple | flagged
  · obtain ⟨obeys, passes⟩ := plain_follow env before s simple
    obtain ⟨obeys', passes'⟩ := plain_follow env' before s simple
    cases given : env s.name with
    | none => rw [obeys.unset given, obeys'.unset (same.symm.trans given)]
    | some text =>
      by_cases spelt : ∃ x, s.Spells text x
      · obtain ⟨x, spelt⟩ := spelt
        rw [obeys.spelt text x given spelt, obeys'.spelt text x (same.symm.trans given) spelt]
      · have nothing := not_exists.mp spelt
        rw [passes ⟨text, given, nothing⟩, passes' ⟨text, same.symm.trans given, nothing⟩]
  · obtain ⟨switch, listed, rfl⟩ := List.mem_map.mp flagged
    have same : env switch.1 = env' switch.1 := same
    calc switch.2 (env.apply before)
        = ((env switch.1).map Environment.flag).getD (switch.2 before) :=
          switches_made env before switch listed
      _ = ((env' switch.1).map Environment.flag).getD (switch.2 before) := by rw [same]
      _ = switch.2 (env'.apply before) := (switches_made env' before switch listed).symm

end Setting

namespace Config

/-- Whether this is what the environment is put over: what is in the file that it names, or the
defaults. -/
def Underlies (c : Config) (env : Environment) (files : Files) : Prop :=
  match env "GRAPHWIRE_CONFIG" with
  | none => c = .default
  | some path => ofFile files path = .ok c

theorem load_iff {env : Environment} {files : Files} {after : Config} :
    load env files = .ok after ↔
      ∃ before : Config, before.Underlies env files ∧ env.apply before = after := by
  unfold load Underlies
  cases env "GRAPHWIRE_CONFIG" with
  | none => simp [ofEnvironment]
  | some path =>
    dsimp only
    cases ofFile files path <;> simp [Except.map]

open Setting in
/-- Every setting is what its own variable spells, or else what it was: no other variable has a part
in it. Flags are the exception. A text that spells nothing switches a flag off, so all settings
survive such texts if and only if the flags in question are off anyway. -/
theorem overrides_exact (env : Environment) (files : Files) (before : Config) :
    (before.Underlies env files → load env files = .ok (env.apply before)) ∧
      (∀ s ∈ all, s.Obeys env before (env.apply before)) ∧
      (∀ s ∈ plain, s.PassesOver env before (env.apply before)) ∧
      (∀ s ∈ switches, (ofSwitch s).Mistyped env → s.2 (env.apply before) = false) ∧
      ((∀ s ∈ all, s.PassesOver env before (env.apply before)) ↔
        ∀ s ∈ switches, (ofSwitch s).Mistyped env → s.2 before = false) ∧
      (∀ s ∈ all, ∀ env' : Environment, (∀ name ≠ s.name, env' name = env name) →
        ∀ other ∈ all, other.name ≠ s.name →
          other.get (env'.apply before) = other.get (env.apply before)) ∧
      (all.map name).Nodup ∧
      ∀ c : Config, (∀ s ∈ all, s.get c = s.get (env.apply before)) → c = env.apply before := by
  have passes : ∀ s ∈ plain, s.PassesOver env before (env.apply before) := fun s among =>
    (plain_follow env before s among).2
  have off : ∀ s ∈ switches, (ofSwitch s).Mistyped env → s.2 (env.apply before) = false :=
    fun s among => flag_off (switches_made env before s among)
  refine ⟨fun underlies => load_iff.mpr ⟨before, underlies, rfl⟩, ?_, passes, off, ⟨?_, ?_⟩, ?_,
    names_distinct, fun c => config_ext⟩
  · intro s among
    rcases List.mem_append.mp among with simple | flagged
    · exact (plain_follow env before s simple).1
    · obtain ⟨switch, listed, rfl⟩ := List.mem_map.mp flagged
      exact flag_obeys (switches_made env before switch listed)
  · intro survive s among mistyped
    have kept := survive _ (List.mem_append_right _ (List.mem_map_of_mem among)) mistyped
    exact kept.symm.trans (off s among mistyped)
  · intro already s among
    rcases List.mem_append.mp among with simple | flagged
    · exact passes s simple
    · obtain ⟨switch, listed, rfl⟩ := List.mem_map.mp flagged
      exact fun mistyped =>
        (off switch listed mistyped).trans (already switch listed mistyped).symm
  · intro s _ env' same other among distinct
    exact own_variable among before (same other.name distinct)

def requiring : Files := fun path =>
  if path = "server.yaml" then some "auth:\n  required: true\n" else none

def mistyping : Environment := fun name =>
  if name = "GRAPHWIRE_CONFIG" then some "server.yaml"
  else if name = "GRAPHWIRE_MAX_CONNECTIONS" then some "+07"
  else if name = "GRAPHWIRE_AUTH_REQUIRED" then some "yes"
  else none

def required : Config :=
  { Config.default with auth := { AuthSettings.default with required := true } }

theorem underlies_required : required.Underlies mistyping requiring := by
  change ofFile requiring "server.yaml" = .ok required
  decide +kernel

theorem mistyping_overrides :
    load mistyping requiring = .ok (mistyping.apply required) ∧
      mistyping "GRAPHWIRE_MAX_CONNECTIONS" = some "+07" ∧
      (mistyping.apply required).network.maxConnections = 7 ∧
      (mistyping.apply required).network.maxChunkSize = required.network.maxChunkSize := by
  obtain ⟨loads, obeys, -⟩ := overrides_exact mistyping requiring required
  let connections := Setting.value "GRAPHWIRE_MAX_CONNECTIONS" SpellsSize (·.network.maxConnections)
  let chunks := Setting.value "GRAPHWIRE_MAX_CHUNK_SIZE" SpellsSize (·.network.maxChunkSize)
  have seven : SpellsSize "+07" 7 := ⟨by decide, ⟨true, 1, 7⟩, rfl, rfl⟩
  have held : connections ∈ Setting.all := by simp [Setting.all, Setting.plain, connections]
  have other : chunks ∈ Setting.all := by simp [Setting.all, Setting.plain, chunks]
  exact ⟨loads underlies_required, rfl, (obeys connections held).spelt "+07" (7 : Nat) rfl seven,
    (obeys chunks other).unset rfl⟩

/-- A word that is no flag lets clients in that do not authenticate. -/
theorem mistyping_admits :
    required.Underlies mistyping requiring ∧ required.auth.required = true ∧
      mistyping "GRAPHWIRE_AUTH_REQUIRED" = some "yes" ∧ (∀ on, ¬SpellsFlag "yes" on) ∧
      load mistyping requiring = .ok (mistyping.apply required) ∧
      (mistyping.apply required).auth.required = false := by
  refine ⟨underlies_required, rfl, rfl, ?_, ?_, rfl⟩
  · rintro (_ | _)
    · change ¬("yes" = "0" ∨ "yes".toList.map Char.toLower = "false".toList)
      decide
    · change ¬("yes" = "1" ∨ "yes".toList.map Char.toLower = "true".toList)
      decide
  · decide +kernel

end Config

end GraphProtocol
