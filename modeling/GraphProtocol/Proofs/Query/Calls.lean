import GraphProtocol.Query.Engine

/-!
# Calls of an engine

What a call does to the engine, and which transaction its caller holds afterwards.
A call is due if it names no transaction but the one that the caller holds, and if
a transaction is begun only when none is held.
-/

set_option autoImplicit false

namespace GraphProtocol

variable {σ π : Type}

inductive EngineCall where
  /-- The flag tells whether the token of the query has fired already. -/
  | execute (query : Query) (tx : Option TxId) (cancelled : Bool)
  | begin (metadata : TxMetadata) (answer : Except Failure TxId)
  | commit (tx : TxId)
  | rollback (tx : TxId)

namespace EngineCall

def effect (engine : QueryEngine σ π) (now : Instant) (s : σ) : EngineCall → σ
  | execute query tx cancelled => (engine.execute now query tx cancelled s).2
  | begin metadata _ => (engine.begin now metadata s).2
  | commit tx => (engine.commit now tx s).2
  | rollback tx => (engine.rollback now tx s).2

def hold (held : Option TxId) : EngineCall → Option TxId
  | execute _ _ _ => held
  | begin _ answer => answer.toOption.or held
  | commit _ | rollback _ => none

def Names (tx : TxId) : EngineCall → Prop
  | execute _ named _ => named = some tx
  | begin _ _ => False
  | commit named | rollback named => named = tx

/-- A call that a caller with this transaction may make of an engine in this state. -/
def Due (engine : QueryEngine σ π) (now : Instant) (held : Option TxId) (s : σ) : EngineCall → Prop
  | execute _ named _ => named = none ∨ named = held
  | begin metadata answer => held = none ∧ answer = (engine.begin now metadata s).1
  | commit tx | rollback tx => held = some tx

def Dues (engine : QueryEngine σ π) (now : Instant) : Option TxId → σ → List EngineCall → Prop
  | _, _, [] => True
  | held, s, call :: rest => call.Due engine now held s ∧
      Dues engine now (call.hold held) (call.effect engine now s) rest

variable {engine : QueryEngine σ π} {now : Instant} {held : Option TxId} {s : σ}

theorem dues_append {early late : List EngineCall} (first : Dues engine now held s early)
    (rest : Dues engine now (early.foldl hold held) (early.foldl (effect engine now) s) late) :
    Dues engine now held s (early ++ late) := by
  induction early generalizing held s with
  | nil => exact rest
  | cons call early ih => exact ⟨first.1, ih first.2 rest⟩

theorem dues_singleton {call : EngineCall} (due : call.Due engine now held s) :
    Dues engine now held s [call] := ⟨due, trivial⟩

end EngineCall

end GraphProtocol
