import GraphProtocol.Text.Base64
import GraphProtocol.Text.Quoted

/-!
# Sections of armoured files

Certificates and keys come as sections of text files: a line that opens the
section and names its kind, lines in base 64, and a line that closes it. What
stands outside sections is passed over, and so are sections of other kinds.
-/

set_option autoImplicit false

namespace GraphProtocol.Tls

inductive SectionKind where
  | certificate
  | publicKey
  | privateKey
  | other
  deriving DecidableEq, Repr

def SectionKind.ofName? : String → Option SectionKind
  | "CERTIFICATE" => some .certificate
  | "PUBLIC KEY" => some .publicKey
  | "RSA PRIVATE KEY" | "PRIVATE KEY" | "EC PRIVATE KEY" => some .privateKey
  | "X509 CRL" | "CERTIFICATE REQUEST" | "ECHCONFIG" => some .other
  | _ => none

inductive PemFault where
  /-- The file ends within the section of this name. -/
  | unclosed (name : String)
  /-- An opening line that does not end as it should. -/
  | malformedOpening (line : String)
  /-- A section whose lines are not in base 64. -/
  | malformedBody (fault : Text.Base64Fault)
  deriving DecidableEq, Repr

def PemFault.message : PemFault → String
  | .unclosed name => "section end " ++ Text.quoted name ++ " missing"
  | .malformedOpening line => "illegal section start: " ++ Text.quoted line
  | .malformedBody fault => fault.message

/-- What is found in a file before its first fault. -/
structure Sections where
  kinds : List SectionKind
  fault : Option PemFault
  deriving DecidableEq, Repr

def Sections.cons (kind : SectionKind) (s : Sections) : Sections := ⟨kind :: s.kinds, s.fault⟩

structure OpenSection where
  name : List Char
  body : List Char
  deriving DecidableEq, Repr

def after? : List Char → List Char → Option (List Char)
  | [], line => some line
  | _ :: _, [] => none
  | p :: ps, c :: cs => if p = c then after? ps cs else none

def opening : List Char := "-----BEGIN ".toList

def dashes : List Char := "-----".toList

def closing (name : List Char) : List Char := "-----END ".toList ++ name ++ dashes

def isGap (c : Char) : Bool := c == '\n' || c == '\r' || c == ' '

/-- The name in an opening line after its beginning. Five dashes and no more follow
it, and it ends before the first of them. -/
def openedName? (line : List Char) : Option (List Char) :=
  let trailer := (line.reverse.takeWhile fun c => c == '-' || isGap c).reverse
  if trailer.count '-' = 5 then
    some (line.take (line.length - trailer.length) ++ trailer.takeWhile isGap)
  else none

/-- Closes a section; one of unknown kind is passed over whatever its lines are. -/
def OpenSection.close (s : OpenSection) : Except Text.Base64Fault (Option SectionKind) :=
  match SectionKind.ofName? (String.ofList s.name) with
  | none => .ok none
  | some kind =>
    (Text.checkBase64 (s.body.flatMap String.utf8EncodeChar)).map fun _ => some kind

/-- The sections in lines after the open one. An opening line within a section names
it anew and leaves its lines in place. -/
def sectionsFrom (inside : Option OpenSection) : List (List Char) → Sections
  | [] => ⟨[], inside.map fun s => .unclosed (String.ofList s.name)⟩
  | line :: rest =>
    match after? opening line, inside with
    | some more, _ =>
      match openedName? more with
      | some name => sectionsFrom (some ⟨name, (inside.map OpenSection.body).getD []⟩) rest
      | none => ⟨[], some (.malformedOpening (String.ofList line))⟩
    | none, none => sectionsFrom none rest
    | none, some s =>
      if (after? (closing s.name) line).isSome then
        match s.close with
        | .error fault => ⟨[], some (.malformedBody fault)⟩
        | .ok none => sectionsFrom none rest
        | .ok (some kind) => (sectionsFrom none rest).cons kind
      else sectionsFrom (some ⟨s.name, s.body ++ line⟩) rest

def linesOf : List Char → List (List Char)
  | [] => []
  | c :: rest =>
    if c = '\n' ∨ c = '\r' then [c] :: linesOf rest
    else
      match linesOf rest with
      | [] => [[c]]
      | line :: more => (c :: line) :: more

def sections (text : String) : Sections := sectionsFrom none (linesOf text.toList)

end GraphProtocol.Tls
