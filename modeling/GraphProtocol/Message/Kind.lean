/-!
# Kinds of messages

Every message is a structure whose signature names its kind. The greeting
shares its signature with the initialisation that it replaces.
-/

set_option autoImplicit false

namespace GraphProtocol

inductive RequestKind where
  | init
  | hello
  | run
  | pullAll
  | discardAll
  | reset
  | begin
  | commit
  | rollback
  | goodbye
  deriving DecidableEq, Repr

namespace RequestKind

def all : List RequestKind :=
  [.init, .hello, .run, .pullAll, .discardAll, .reset, .begin, .commit, .rollback, .goodbye]

def name : RequestKind → String
  | init => "INIT"
  | hello => "HELLO"
  | run => "RUN"
  | pullAll => "PULL_ALL"
  | discardAll => "DISCARD_ALL"
  | reset => "RESET"
  | begin => "BEGIN"
  | commit => "COMMIT"
  | rollback => "ROLLBACK"
  | goodbye => "GOODBYE"

def title : RequestKind → String
  | init => "Init"
  | hello => "Hello"
  | run => "Run"
  | pullAll => "PullAll"
  | discardAll => "DiscardAll"
  | reset => "Reset"
  | begin => "Begin"
  | commit => "Commit"
  | rollback => "Rollback"
  | goodbye => "Goodbye"

def signature : RequestKind → UInt8
  | init => 0x01
  | hello => 0x01
  | goodbye => 0x02
  | reset => 0x0F
  | run => 0x10
  | begin => 0x11
  | commit => 0x12
  | rollback => 0x13
  | discardAll => 0x2F
  | pullAll => 0x3F

def isHandshake : RequestKind → Bool
  | init | hello => true
  | _ => false

end RequestKind

inductive ResponseKind where
  | success
  | record
  | ignored
  | failure
  deriving DecidableEq, Repr

namespace ResponseKind

def all : List ResponseKind := [.success, .record, .ignored, .failure]

def name : ResponseKind → String
  | success => "SUCCESS"
  | record => "RECORD"
  | ignored => "IGNORED"
  | failure => "FAILURE"

def signature : ResponseKind → UInt8
  | success => 0x70
  | record => 0x71
  | ignored => 0x7E
  | failure => 0x7F

def ofSignature? (signature : UInt8) : Option ResponseKind :=
  all.find? (·.signature == signature)

end ResponseKind

inductive ReplyStrategy where
  /-- One success or failure. -/
  | summary
  /-- Records, and then a success or failure. -/
  | stream
  /-- Records are used up without being sent; then a success or failure. -/
  | discard
  /-- Nothing is sent. -/
  | silent
  deriving DecidableEq, Repr

def ReplyStrategy.all : List ReplyStrategy := [.summary, .stream, .discard, .silent]

def ReplyStrategy.name : ReplyStrategy → String
  | .summary => "Summary"
  | .stream => "Stream"
  | .discard => "Discard"
  | .silent => "Silent"

end GraphProtocol
