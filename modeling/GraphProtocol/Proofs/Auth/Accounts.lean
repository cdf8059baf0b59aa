import GraphProtocol.Auth.Authenticator
import GraphProtocol.Proofs.Text.Pieces
import GraphProtocol.Proofs.Wire.Reading

/-!
# Accounts

An authenticator that knows accounts by their hashes lets a client in exactly when
the text that is hashed for the client is hashed for one of them, as long as no two
of these texts have the same hash. The text does not tell where the name ends, so an
account with a colon in it lets its owner in under other names too.
-/

set_option autoImplicit false

namespace GraphProtocol

/-! ## Bytes in hexadecimal -/

namespace Text

def hexMarks : List Char := "0123456789abcdef".toList

theorem hexPadded_marks (b : UInt8) : ∀ c ∈ hexPadded 2 b.toNat, c ∈ hexMarks := by
  have all : ∀ n : Fin 256, (hexPadded 2 n).all (hexMarks.contains ·) = true := by decide +kernel
  intro c among
  exact List.contains_iff_mem.mp (List.all_eq_true.mp (all ⟨b.toNat, b.toNat_lt⟩) c among)

theorem length_hexPadded (b : UInt8) : (hexPadded 2 b.toNat).length = 2 := by
  have all : ∀ n : Fin 256, (hexPadded 2 n).length = 2 := by decide +kernel
  exact all ⟨b.toNat, b.toNat_lt⟩

/-- Two digits are read back as the byte that they stand for. -/
theorem digits?_hexPadded (b : UInt8) : digits? 16 (hexPadded 2 b.toNat) = some b.toNat := by
  have all : ∀ n : Fin 256, digits? 16 (hexPadded 2 n) = some n.val := by decide +kernel
  exact all ⟨b.toNat, b.toNat_lt⟩

theorem hexPadded_injective {a b : UInt8} (same : hexPadded 2 a.toNat = hexPadded 2 b.toNat) :
    a = b := by
  have read := congrArg (digits? 16) same
  rw [digits?_hexPadded, digits?_hexPadded] at read
  exact UInt8.toNat_inj.mp (Option.some.inj read)

def hexBytes (bytes : List UInt8) : List Char := bytes.flatMap fun b => hexPadded 2 b.toNat

theorem length_hexBytes (bytes : List UInt8) : (hexBytes bytes).length = 2 * bytes.length := by
  simp [hexBytes, length_hexPadded, Nat.mul_comm]

theorem hexBytes_injective {xs ys : List UInt8} (same : hexBytes xs = hexBytes ys) : xs = ys := by
  have lengths := congrArg List.length same
  rw [length_hexBytes, length_hexBytes] at lengths
  induction xs generalizing ys with
  | nil =>
    cases ys with
    | nil => rfl
    | cons y ys => simp at lengths
  | cons x xs ih =>
    cases ys with
    | nil => simp at lengths
    | cons y ys =>
      obtain ⟨first, rest⟩ :=
        List.append_inj same ((length_hexPadded x).trans (length_hexPadded y).symm)
      rw [hexPadded_injective first, ih rest (by simpa using lengths)]

/-- No blank becomes a digit in small letters. -/
theorem isBlank_mark {c : Char} (mark : c.toLower ∈ hexMarks) : isBlank c = false := by
  have all : ∀ n : Fin 128, (Char.ofNat n).toLower ∈ hexMarks → isBlank (Char.ofNat n) = false := by
    decide +kernel
  have small : c.toNat < 128 := by
    unfold Char.toLower at mark
    split at mark
    case isTrue capital =>
      exact Nat.lt_of_le_of_lt (UInt32.le_iff_toNat_le.mp capital.2) (by decide)
    case isFalse =>
      have marks : hexMarks.all (·.toNat < 128) = true := by decide
      exact of_decide_eq_true (List.all_eq_true.mp marks c mark)
  have here := all ⟨c.toNat, small⟩
  rw [Char.ofNat_toNat] at here
  exact here mark

end Text

/-! ## Accounts and their hashes -/

structure Account where
  principal : String
  credentials : String
  deriving DecidableEq, Repr

namespace Account

def text (a : Account) : String := a.principal ++ ":" ++ a.credentials

def digest (a : Account) : List UInt8 := Sha256.hash (Wire.utf8 a.text)

def hash (a : Account) : String := hashCredentials a.principal a.credentials

/-- What belongs to the name in `a` belongs in part to the credentials in `b`: the texts are the
same, and the name of `a` ends at a later colon. -/
def Absorbs (a b : Account) : Prop :=
  ∃ between, a.principal = b.principal ++ ":" ++ between ∧
    b.credentials = between ++ ":" ++ a.credentials

def Apart (accounts : List Account) : Prop :=
  ∀ a ∈ accounts, ∀ b ∈ accounts, a.digest = b.digest → a.text = b.text

instance (accounts : List Account) : Decidable (Apart accounts) :=
  inferInstanceAs (Decidable (∀ a ∈ accounts, ∀ b ∈ accounts,
    a.digest = b.digest → a.text = b.text))

variable {a b : Account}

theorem hash_eq (a : Account) : a.hash = String.ofList (Text.hexBytes a.digest) := rfl

theorem hash_marks (a : Account) : ∀ c ∈ a.hash.toList, c ∈ Text.hexMarks := by
  rw [hash_eq, String.toList_ofList]
  intro c among
  obtain ⟨byte, -, among⟩ := List.mem_flatMap.mp among
  exact Text.hexPadded_marks byte c among

theorem digest_hash (same : a.hash = b.hash) : a.digest = b.digest := by
  rw [hash_eq, hash_eq] at same
  exact Text.hexBytes_injective (String.ofList_injective same)

theorem text_append (a : Account) :
    a.text.toList = a.principal.toList ++ ':' :: a.credentials.toList := by
  simp [text]

theorem text_absorbs (absorbs : a.Absorbs b) : a.text = b.text := by
  obtain ⟨between, name, credentials⟩ := absorbs
  unfold text
  rw [name, credentials]
  simp only [String.append_assoc]

theorem Absorbs.principal_colon (absorbs : a.Absorbs b) : ':' ∈ a.principal.toList := by
  obtain ⟨between, name, -⟩ := absorbs
  simp [name]

theorem Absorbs.credentials_colon (absorbs : a.Absorbs b) : ':' ∈ b.credentials.toList := by
  obtain ⟨between, -, credentials⟩ := absorbs
  simp [credentials]

theorem absorbs_of {between : List Char}
    (name : a.principal.toList = b.principal.toList ++ ':' :: between)
    (credentials : b.credentials.toList = between ++ ':' :: a.credentials.toList) :
    a.Absorbs b := by
  refine ⟨String.ofList between, ?_, ?_⟩ <;> rw [← String.toList_inj]
  · simpa using name
  · simpa using credentials

/-- If two texts around a separator are the same, they are cut at the same place, or the part in
front of one of the cuts holds a separator at the other. -/
theorem cut_cases {early early' late late' : List Char}
    (same : early ++ ':' :: late = early' ++ ':' :: late') :
    (early = early' ∧ late = late') ∨
      (∃ s, early = early' ++ ':' :: s ∧ late' = s ++ ':' :: late) ∨
      ∃ s, early' = early ++ ':' :: s ∧ late = s ++ ':' :: late' := by
  rcases List.append_eq_append_iff.mp same with ⟨s, longer, rest⟩ | ⟨s, longer, rest⟩ <;>
    rcases List.append_eq_cons_iff.mp rest.symm with ⟨rfl, rest⟩ | ⟨s, rfl, rest⟩
  · exact .inl ⟨by rw [longer, List.append_nil], (List.cons.inj rest).2⟩
  · exact .inr (.inr ⟨s, longer, (List.cons.inj rest).2⟩)
  · exact .inl ⟨by rw [longer, List.append_nil], (List.cons.inj rest).2.symm⟩
  · exact .inr (.inl ⟨s, longer, (List.cons.inj rest).2⟩)

/-- Two accounts have the same text only if they are equal or the name ends at a later colon in one
of them. -/
theorem text_eq_iff : a.text = b.text ↔ a = b ∨ a.Absorbs b ∨ b.Absorbs a := by
  constructor
  · intro same
    have same := congrArg String.toList same
    rw [text_append, text_append] at same
    rcases cut_cases same with ⟨name, credentials⟩ | ⟨s, name, credentials⟩ | ⟨s, name, credentials⟩
    · left
      cases a
      rw [mk.injEq]
      exact ⟨String.toList_inj.mp name, String.toList_inj.mp credentials⟩
    · exact .inr (.inl (absorbs_of name credentials))
    · exact .inr (.inr (absorbs_of name credentials))
  · rintro (rfl | absorbs | absorbs)
    · rfl
    · exact text_absorbs absorbs
    · exact (text_absorbs absorbs).symm

end Account

/-! ## Who is let in -/

namespace Authenticator

def Spells (text hash : String) : Prop :=
  ∃ early body late, text.toList = early ++ body ++ late ∧ (∀ c ∈ early, Text.isBlank c = true) ∧
    (∀ c ∈ late, Text.isBlank c = true) ∧ body.map Char.toLower = hash.toList

/-- The token presents itself as the owner of an account. -/
structure Claims (token : Dict Value) (account : Account) : Prop where
  scheme : token.get? "scheme" = some (.string "basic")
  principal : token.get? "principal" = some (.string account.principal)
  credentials : token.get? "credentials" = some (.string account.credentials)

def Admits (a : Authenticator) (token : Dict Value) (name : String) : Prop :=
  ∃ p, a.authenticate token = .ok p ∧ p.name = name

variable {token : Dict Value} {claimed : Account} {accounts : List Account} {texts : List String}

theorem normalHash_spells {text : String} {account : Account}
    (spells : Spells text account.hash) : normalHash text = account.hash := by
  obtain ⟨early, body, late, split, before, after, lower⟩ := spells
  have plain : ∀ c ∈ body, Text.isBlank c = false := by
    intro c among
    apply Text.isBlank_mark
    apply account.hash_marks
    rw [← lower]
    exact List.mem_map_of_mem among
  unfold normalHash
  rw [split, Text.trim_between before after (fun c first => plain c (List.mem_of_mem_head? first))
    (fun c last => plain c (List.mem_of_mem_getLast? last)), lower, String.ofList_toList]

theorem normalHashes_spell (spells : List.Forall₂ Spells texts (accounts.map Account.hash)) :
    texts.map normalHash = accounts.map Account.hash := by
  induction texts generalizing accounts with
  | nil =>
    cases accounts with
    | nil => rfl
    | cons account rest => cases spells
  | cons text rest ih =>
    cases accounts with
    | nil => cases spells
    | cons account others =>
      obtain ⟨first, further⟩ := List.forall₂_cons.mp spells
      rw [List.map_cons, List.map_cons, normalHash_spells first, ih further]

theorem mem_hashes (spells : List.Forall₂ Spells texts (accounts.map Account.hash))
    (hash : String) :
    (ofHashes texts true).hashes.contains hash = true ↔ ∃ a ∈ accounts, a.hash = hash := by
  unfold ofHashes
  rw [List.contains_iff_mem, List.mem_eraseDups, normalHashes_spell spells, List.mem_map]

theorem textField_ok {key value : String} :
    textField token key = .ok value ↔ token.get? key = some (.string value) := by
  unfold textField
  cases token.get? key with
  | none => simp
  | some v => cases v <;> simp [Value.asString?]

/-- A token without a scheme of its own names the scheme "none". -/
theorem schemeOf_basic :
    schemeOf token = .ok "basic" ↔ token.get? "scheme" = some (.string "basic") := by
  unfold schemeOf
  split
  · simp [*]
  · simp [*]
  · exact textField_ok

/-- A claim is judged by its hash. -/
theorem authenticate_claimed {a : Authenticator} (claims : Claims token claimed) :
    a.authenticate token =
      if a.isOpen || a.hashes.contains claimed.hash then .ok ⟨claimed.principal, "basic"⟩
      else .error .invalidCredentials := by
  unfold authenticate
  rw [schemeOf_basic.mpr claims.scheme, textField_ok.mpr claims.principal,
    textField_ok.mpr claims.credentials]
  rfl

/-- Where authentication is required, nobody gets in without a claim. -/
theorem authenticate_claims {a : Authenticator} (required : a.required = true) {p : Principal}
    (entered : a.authenticate token = .ok p) : ∃ claimed, Claims token claimed := by
  unfold authenticate at entered
  cases named : schemeOf token with
  | error e => rw [named] at entered; cases entered
  | ok scheme =>
    rw [named] at entered
    simp only [bind, Except.bind, required, if_true] at entered
    split at entered
    case isTrue => cases entered
    split at entered
    case isFalse => cases entered
    rename_i basic
    cases principal : textField token "principal" with
    | error e => rw [principal] at entered; cases entered
    | ok name =>
      cases credentials : textField token "credentials" with
      | error e => rw [principal, credentials] at entered; cases entered
      | ok secret =>
        exact ⟨⟨name, secret⟩, schemeOf_basic.mp (basic ▸ named), textField_ok.mp principal,
          textField_ok.mp credentials⟩

theorem claims_unique {other : Account} (first : Claims token claimed)
    (second : Claims token other) : claimed = other := by
  have name := first.principal.symm.trans second.principal
  have secret := first.credentials.symm.trans second.credentials
  cases claimed
  simp_all

/-- A client that claims an account is let in, under the name of that account only, if and only if
the account or one with the same text is known. -/
theorem admits_claimed (claims : Claims token claimed)
    (spells : List.Forall₂ Spells texts (accounts.map Account.hash))
    (apart : Account.Apart (claimed :: accounts)) {name : String} :
    (ofHashes texts true).Admits token name ↔
      claimed.principal = name ∧ ∃ known ∈ accounts, known.text = claimed.text := by
  have closed : (ofHashes texts true).isOpen = false := rfl
  have judged := authenticate_claimed (a := ofHashes texts true) claims
  rw [closed, Bool.false_or] at judged
  constructor
  · rintro ⟨p, entered, rfl⟩
    rw [judged] at entered
    split at entered
    case isFalse => cases entered
    rename_i known
    cases entered
    obtain ⟨a, among, same⟩ := (mem_hashes spells _).mp known
    exact ⟨rfl, a, among, apart a (List.mem_cons_of_mem _ among) claimed List.mem_cons_self
      (Account.digest_hash same)⟩
  · rintro ⟨rfl, a, among, same⟩
    have known : a.hash = claimed.hash := by
      rw [Account.hash_eq, Account.hash_eq, Account.digest, Account.digest, same]
    rw [if_pos ((mem_hashes spells _).mpr ⟨a, among, known⟩)] at judged
    exact ⟨_, judged, rfl⟩

/-! ## Names and credentials -/

/-- Where authentication is required and no two of the texts that are hashed have the same hash, a
client is let in under a name if and only if it claims an account of that name which is known, or
whose name and credentials are cut at another colon than those of a known one. If no known account
has a colon in it, every client that is let in claims a known account. -/
theorem admits_iff {name : String} (spells : List.Forall₂ Spells texts (accounts.map Account.hash))
    (apart : ∀ claimed, Claims token claimed → Account.Apart (claimed :: accounts)) :
    ((ofHashes texts true).Admits token name ↔
      ∃ claimed, Claims token claimed ∧ claimed.principal = name ∧
        ∃ known ∈ accounts, claimed = known ∨ claimed.Absorbs known ∨ known.Absorbs claimed) ∧
    ((∀ known ∈ accounts, ':' ∉ known.principal.toList ∧ ':' ∉ known.credentials.toList) →
      (ofHashes texts true).Admits token name →
        ∃ claimed ∈ accounts, Claims token claimed ∧ claimed.principal = name) := by
  have exactly : (ofHashes texts true).Admits token name ↔
      ∃ claimed, Claims token claimed ∧ claimed.principal = name ∧
        ∃ known ∈ accounts, claimed = known ∨ claimed.Absorbs known ∨ known.Absorbs claimed := by
    constructor
    · intro admits
      obtain ⟨p, entered, -⟩ := id admits
      obtain ⟨claimed, claims⟩ := authenticate_claims rfl entered
      obtain ⟨named, known, among, same⟩ :=
        (admits_claimed claims spells (apart _ claims)).mp admits
      exact ⟨claimed, claims, named, known, among, Account.text_eq_iff.mp same.symm⟩
    · rintro ⟨claimed, claims, named, known, among, alike⟩
      refine (admits_claimed claims spells (apart _ claims)).mpr ⟨named, known, among, ?_⟩
      exact (Account.text_eq_iff.mpr alike).symm
  refine ⟨exactly, ?_⟩
  intro plain admits
  obtain ⟨claimed, claims, named, known, among, alike⟩ := exactly.mp admits
  obtain ⟨plainName, plainSecret⟩ := plain known among
  rcases alike with rfl | absorbs | absorbs
  · exact ⟨claimed, among, claims, named⟩
  · exact absurd absorbs.credentials_colon plainSecret
  · exact absurd absorbs.principal_colon plainName

/-! ## Sample accounts -/

def presented (a : Account) : Dict Value :=
  ⟨[("scheme", .string "basic"), ("principal", .string a.principal),
    ("credentials", .string a.credentials)]⟩

theorem presented_claims (a : Account) : Claims (presented a) a := ⟨rfl, rfl, rfl⟩

theorem spells_hash (a : Account) : Spells a.hash a.hash := by
  refine ⟨[], a.hash.toList, [], by simp, List.forall_mem_nil _, List.forall_mem_nil _, ?_⟩
  have small : Text.hexMarks.all (fun c => c.toLower == c) = true := by decide
  have same : ∀ c ∈ a.hash.toList, c.toLower = c := fun c among =>
    eq_of_beq (List.all_eq_true.mp small c (a.hash_marks c among))
  exact (List.map_congr_left same).trans (List.map_id _)

def sampleAccounts : List Account := [⟨"neo", "secret"⟩, ⟨"trinity", "matrix"⟩]

def sampleTexts : List String :=
  [" \tD846ECA2540BF7FB59E1A49E2A1FE9DC8B328357A5DE7DD8DD723C2746A05408\n",
    "1c02b97d392e22c827ab4dba3db72c9c5f9058539de7460e093896d71d0a0859"]

theorem sample_spells : List.Forall₂ Spells sampleTexts (sampleAccounts.map Account.hash) := by
  have first : (Account.mk "neo" "secret").hash =
      "d846eca2540bf7fb59e1a49e2a1fe9dc8b328357a5de7dd8dd723c2746a05408" := by decide +kernel
  have second : (Account.mk "trinity" "matrix").hash =
      "1c02b97d392e22c827ab4dba3db72c9c5f9058539de7460e093896d71d0a0859" := by decide +kernel
  refine .cons ?_ (.cons ?_ .nil)
  · rw [first]
    exact ⟨[' ', '\t'], "D846ECA2540BF7FB59E1A49E2A1FE9DC8B328357A5DE7DD8DD723C2746A05408".toList,
      ['\n'], by decide +kernel, List.all_eq_true.mp rfl, List.all_eq_true.mp rfl,
      by decide +kernel⟩
  · rw [← second]
    exact spells_hash _

/-- With the right credentials a client is let in under its own name only, with wrong ones under no
name. -/
theorem sample_admits : List.Forall₂ Spells sampleTexts (sampleAccounts.map Account.hash) ∧
    (∀ name, (ofHashes sampleTexts true).Admits (presented ⟨"neo", "secret"⟩) name ↔ name = "neo") ∧
    ∀ name, ¬(ofHashes sampleTexts true).Admits (presented ⟨"neo", "matrix"⟩) name := by
  have apart (a : Account) (distinct : Account.Apart (a :: sampleAccounts)) :
      ∀ claimed, Claims (presented a) claimed → Account.Apart (claimed :: sampleAccounts) := by
    intro claimed claims
    rw [claims_unique claims (presented_claims a)]
    exact distinct
  have plain : ∀ a ∈ sampleAccounts, ':' ∉ a.principal.toList ∧ ':' ∉ a.credentials.toList := by
    decide
  have right := apart ⟨"neo", "secret"⟩ (by decide +kernel)
  have wrong := apart ⟨"neo", "matrix"⟩ (by decide +kernel)
  refine ⟨sample_spells, ?_, ?_⟩
  · intro name
    constructor
    · intro admits
      obtain ⟨claimed, -, claims, named⟩ := (admits_iff sample_spells right).2 plain admits
      rw [claims_unique claims (presented_claims _)] at named
      exact named.symm
    · rintro rfl
      exact (admits_iff sample_spells right).1.mpr
        ⟨_, presented_claims _, rfl, _, List.mem_cons_self, .inl rfl⟩
  · intro name admits
    obtain ⟨claimed, among, claims, -⟩ := (admits_iff sample_spells wrong).2 plain admits
    rw [claims_unique claims (presented_claims _)] at among
    revert among
    decide

/-- The owner of an account whose credentials have a colon in them is let in under a name of its
choice. -/
theorem sample_borrows :
    List.Forall₂ Spells [(Account.mk "neo" "smith:secret").hash]
      ([⟨"neo", "smith:secret"⟩].map Account.hash) ∧
    Account.Apart [⟨"neo:smith", "secret"⟩, ⟨"neo", "smith:secret"⟩] ∧
    Claims (presented ⟨"neo:smith", "secret"⟩) ⟨"neo:smith", "secret"⟩ ∧
    (ofHashes [(Account.mk "neo" "smith:secret").hash] true).Admits
      (presented ⟨"neo:smith", "secret"⟩) "neo:smith" ∧
    (⟨"neo:smith", "secret"⟩ : Account) ∉ [(⟨"neo", "smith:secret"⟩ : Account)] := by
  have spells : List.Forall₂ Spells [(Account.mk "neo" "smith:secret").hash]
      ([⟨"neo", "smith:secret"⟩].map Account.hash) := .cons (spells_hash _) .nil
  have claims := presented_claims ⟨"neo:smith", "secret"⟩
  have apart : Account.Apart [⟨"neo:smith", "secret"⟩, ⟨"neo", "smith:secret"⟩] := by decide +kernel
  refine ⟨spells, apart, claims, ?_, by decide⟩
  exact (admits_claimed claims spells apart).mpr ⟨rfl, _, List.mem_cons_self, by decide⟩

end Authenticator

end GraphProtocol
