import GraphProtocol.Proofs.Connection.Inbox
import GraphProtocol.Proofs.Connection.Scenarios
import GraphProtocol.Server.Visit

/-!
# Counting visitors

A listener never has more clients than its limit, and has counted everyone who came: they are here
or have left. Who leaves with a failure is an error. A connection that breaks down is not noticed to
have left, and its place is lost.
-/

set_option autoImplicit false

namespace GraphProtocol

namespace Listener

/-- The listeners that can be come to, and how those went who have left, the last one first. -/
inductive Served (settings : ServerSettings) : Listener → List (Except ServerError Unit) → Prop
  | start : Served settings (.start settings) []
  | welcome {l : Listener} {gone : List (Except ServerError Unit)} : Served settings l gone →
      l.hasRoom = true → Served settings l.welcome gone
  | refuse {l : Listener} {gone : List (Except ServerError Unit)} : Served settings l gone →
      Served settings l.refuse gone
  | dismiss {l : Listener} {gone : List (Except ServerError Unit)}
      {outcome : Except ServerError Unit} : Served settings l gone → 0 < l.stats.active →
      Served settings (l.dismiss outcome) (outcome :: gone)
  /-- The connections keep the same metrics. -/
  | measured {l : Listener} {gone : List (Except ServerError Unit)} {metrics : Metrics} :
      Served settings l gone → Served settings { l with metrics } gone
  | shutDown {l : Listener} {gone : List (Except ServerError Unit)} : Served settings l gone →
      Served settings l.shutDown gone

structure Balanced (settings : ServerSettings) (l : Listener)
    (gone : List (Except ServerError Unit)) : Prop where
  settings : l.settings = settings
  room : l.stats.active ≤ l.settings.network.maxConnections
  total : l.stats.total = l.stats.active + gone.length
  errors : l.stats.errors = gone.countP isFailure

variable {settings : ServerSettings} {l : Listener} {gone : List (Except ServerError Unit)}

theorem served_balanced (served : Served settings l gone) : l.Balanced settings gone := by
  induction served with
  | start => exact ⟨rfl, Nat.zero_le _, rfl, rfl⟩
  | welcome _ room ih =>
    refine ⟨ih.settings, Nat.succ_le_of_lt (of_decide_eq_true room), ?_, ih.errors⟩
    have total := ih.total
    simp only [welcome, total]
    omega
  | refuse _ ih => exact ⟨ih.settings, ih.room, ih.total, ih.errors⟩
  | dismiss _ here ih =>
    refine ⟨ih.settings, (Nat.sub_le _ _).trans ih.room, ?_, ?_⟩
    · have total := ih.total
      simp only [dismiss, total, List.length_cons]
      omega
    · simp only [dismiss, ih.errors, List.countP_cons]
  | measured _ ih => exact ⟨ih.settings, ih.room, ih.total, ih.errors⟩
  | shutDown _ ih => exact ⟨ih.settings, ih.room, ih.total, ih.errors⟩

end Listener

namespace Server

variable {σ π : Type} {settings : ServerSettings} {server : Server σ π}
  {gone : List (Except ServerError Unit)}

/-- What a client sends and reads is a scenario like any other. -/
theorem converse_played {s : Scenario σ π} (played : s.IsPlayed) (requests : List (List UInt8)) :
    (converse s requests).2.2.IsPlayed := by
  induction requests generalizing s with
  | nil => exact played
  | cons request requests ih =>
    exact ih (Scenario.readResponses_played (Scenario.play_played played (.send request)))

theorem host_served (served : Listener.Served settings server.listener gone)
    (here : 0 < server.listener.stats.active) (pipeline : Pipeline) (selected : List UInt8)
    (visitor : Visitor) :
    ∃ left, Listener.Served settings (server.host pipeline selected visitor).2.listener
      (left ++ gone) := by
  have counted (metrics : Metrics) (progress : Progress) : ∃ left, Listener.Served settings
      (((outcome progress).map { server.listener with metrics }.dismiss).getD
        { server.listener with metrics }) (left ++ gone) := by
    cases outcome progress with
    | none => exact ⟨[], served.measured⟩
    | some result => exact ⟨[result], served.measured.dismiss here⟩
  exact counted _ _

theorem receive_served (served : Listener.Served settings server.listener gone)
    (visitor : Visitor) :
    ∃ left, Listener.Served settings (server.receive visitor).2.listener (left ++ gone) := by
  unfold receive
  split
  next room =>
    have welcomed := served.welcome room
    have here : 0 < server.listener.welcome.stats.active := Nat.succ_pos _
    dsimp only
    cases Opening.ofBytes server.listener.welcome.settings visitor.opening with
    | agreed pipeline => exact host_served welcomed here pipeline _ visitor
    | refused answer reason => exact ⟨[_], welcomed.refuse.dismiss here⟩
    | failed error => exact ⟨[_], welcomed.dismiss here⟩
  · exact ⟨[], served⟩

/-- Whoever comes, and whatever comes of it. -/
theorem entertain_balanced {reach : Net.Reach} {visitors : List Visitor} {visits : List Visit}
    {after : Server σ π} (served : Listener.Served settings server.listener gone)
    (entertained : server.entertain reach visitors = .ok (visits, after)) :
    ∃ left, after.listener.Balanced settings (left ++ gone) := by
  induction visitors generalizing server visits gone with
  | nil =>
    cases entertained
    exact ⟨[], Listener.served_balanced served⟩
  | cons visitor visitors ih =>
    unfold entertain at entertained
    obtain ⟨⟨⟩, -, entertained⟩ := except_bind_ok entertained
    obtain ⟨⟨visits, later⟩, others, same⟩ := except_bind_ok entertained
    cases same
    obtain ⟨left, received⟩ := receive_served served visitor
    obtain ⟨further, balanced⟩ := ih received others
    rw [← List.append_assoc] at balanced
    exact ⟨further ++ left, balanced⟩

end Server

end GraphProtocol
