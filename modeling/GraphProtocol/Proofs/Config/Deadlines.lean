import GraphProtocol.Config.Document
import GraphProtocol.Session

/-!
# What accepted settings guarantee

Settings that are accepted name known versions and have sizes that every layer of a connection can
work with, so the layers can be chosen for each enabled version. The time that a connection may be
without traffic is not looked at. How far a moment can lie in the future is limited, and beyond that
limit a session has no deadline.
-/

set_option autoImplicit false

namespace GraphProtocol

/-! ## Moments in the future -/

namespace Instant

variable {start : Instant} {span : Span}

/-- Whole seconds are added to whole seconds. -/
theorem seconds_add (start : Instant) (n : Nat) :
    seconds (start + (Span.ofSeconds n).nanos) = seconds start + n :=
  Nat.add_mul_div_right start n (by decide)

end Instant

/-! ## Accepted settings -/

namespace NetworkSettings

variable {n : NetworkSettings}

theorem validate_ok (accepted : n.validate = .ok ()) :
    0 < n.maxChunkSize ∧ n.maxChunkSize ≤ Frame.maxChunkSize ∧ 0 < n.maxMessageSize ∧
      0 < n.maxConnections := by
  unfold validate at accepted
  split at accepted
  · cases accepted
  next chunks =>
  split at accepted
  · cases accepted
  next messages =>
  split at accepted
  · cases accepted
  next connections =>
  omega

end NetworkSettings

namespace Pipeline

variable {version : Version} {limits : WireLimits}

/-- The layers of a connection exist for every size that a chunk may have. -/
theorem select_ok (pos : 0 < limits.maxChunkSize)
    (small : limits.maxChunkSize ≤ Frame.maxChunkSize) :
    Pipeline.select version limits =
      .ok ⟨version, .fresh limits.maxMessageSize, ⟨limits.maxChunkSize, pos, small⟩⟩ := by
  have sized : Frame.Chunker.ofSize limits.maxChunkSize = .ok ⟨limits.maxChunkSize, pos, small⟩ :=
    dif_pos ⟨pos, small⟩
  rw [select, sized]
  rfl

end Pipeline

namespace Config

variable {c : Config}

theorem validate_ok (accepted : c.validate = .ok ()) :
    c.network.validate = .ok () ∧ ∃ versions, c.protocol.versions = .ok versions := by
  unfold validate at accepted
  cases network : c.network.validate with
  | error fault =>
    rw [network] at accepted
    cases accepted
  | ok _ =>
    cases enabled : c.protocol.versions with
    | error fault =>
      rw [network, enabled] at accepted
      cases accepted
    | ok versions => exact ⟨rfl, versions, rfl⟩

/-- The deadline of a session is as far behind its last traffic as the settings say. There is one
if and only if the seconds up to it can be counted. -/
theorem idleDeadline?_iff {π : Type} (c : Config) (s : Session π) (moment : Instant) :
    s.idleDeadline? c.network.idleTimeout = some moment ↔
      moment = s.lastActivity + c.network.idleTimeout.nanos ∧
        s.lastActivity.seconds + c.network.idleTimeoutSecs ≤ Instant.maxSeconds := by
  unfold Session.idleDeadline?
  rw [Instant.later?_eq_some]
  apply and_congr_right
  rintro rfl
  rw [NetworkSettings.idleTimeout, Instant.seconds_add]

/-- With accepted settings the layers of a connection can be chosen for every enabled version, also
for the one that a client's opening leads to. A session has a deadline if and only if the seconds of
its last traffic and those of the timeout together can be counted. -/
theorem accepted_serves (c : Config) (accepted : c.validate = .ok ()) :
    ∃ versions, c.protocol.versions = .ok versions ∧
      (∀ version ∈ versions, ∃ p, Pipeline.select version c.network.limits = .ok p ∧
        p.version = version ∧ p.chunker.size = c.network.maxChunkSize ∧
        p.dechunker = .fresh c.network.maxMessageSize) ∧
      (∀ opening handshake version, Handshake.decode opening = .ok handshake →
        handshake.negotiate versions = .ok version →
        ∃ p, Pipeline.negotiate opening versions c.network.limits = .ok p ∧
          p.version = version) ∧
      ∀ (π : Type) (s : Session π),
        (∃ moment, s.idleDeadline? c.network.idleTimeout = some moment) ↔
          s.lastActivity.seconds + c.network.idleTimeoutSecs ≤ Instant.maxSeconds := by
  obtain ⟨network, versions, enabled⟩ := validate_ok accepted
  obtain ⟨pos, small, -, -⟩ := NetworkSettings.validate_ok network
  have select (version : Version) := @Pipeline.select_ok version c.network.limits pos small
  refine ⟨versions, enabled, fun version _ => ⟨_, select version, rfl, rfl, rfl⟩, ?_, ?_⟩
  · intro opening handshake version decoded agreed
    refine ⟨_, Eq.trans ?_ (select version), rfl⟩
    rw [Pipeline.negotiate, decoded]
    change (handshake.negotiate versions >>= fun version => Pipeline.select version _) = _
    rw [agreed]
    rfl
  · intro π s
    simp only [idleDeadline?_iff, exists_eq_left]

def patient : Config :=
  { Config.default with
    network := { NetworkSettings.default with idleTimeoutSecs := Instant.maxSeconds } }

def aged (nanos : Nat) : Session Unit := .fresh "a" .v1 nanos

theorem patient_serves :
    patient.validate = .ok () ∧ (∃ p, Pipeline.select .v1 patient.network.limits = .ok p) ∧
      (∃ moment, (aged 999999999).idleDeadline? patient.network.idleTimeout = some moment) ∧
      ¬∃ moment, (aged 1000000000).idleDeadline? patient.network.idleTimeout = some moment := by
  have accepted : patient.validate = .ok () := rfl
  obtain ⟨versions, enabled, select, -, deadline⟩ := accepted_serves patient accepted
  obtain rfl : Version.all = versions := by
    have all : patient.protocol.versions = .ok Version.all := rfl
    simpa [all] using enabled
  obtain ⟨p, selected, -⟩ := select .v1 (by decide)
  exact ⟨accepted, ⟨p, selected⟩, (deadline Unit (aged 999999999)).mpr (by decide),
    fun reached => absurd ((deadline Unit (aged 1000000000)).mp reached) (by decide)⟩

def never : Environment := fun name =>
  if name = "GRAPHWIRE_IDLE_TIMEOUT" then some "18446744073709551615" else none

/-- The timeout is accepted, and no session has a deadline then. -/
theorem never_breaks :
    (ofEnvironment never).network.idleTimeoutSecs = 18446744073709551615 ∧
      (ofEnvironment never).validate = .ok () ∧
      ∀ (s : Session Unit) (moment : Instant),
        s.idleDeadline? (ofEnvironment never).network.idleTimeout ≠ some moment := by
  have spelt : (ofEnvironment never).network.idleTimeoutSecs = 18446744073709551615 := by
    decide +kernel
  refine ⟨spelt, rfl, fun s moment reached => ?_⟩
  obtain ⟨-, countable⟩ := (idleDeadline?_iff _ s moment).mp reached
  have largest : Instant.maxSeconds = 9223372036854775807 := rfl
  omega

end Config

end GraphProtocol
