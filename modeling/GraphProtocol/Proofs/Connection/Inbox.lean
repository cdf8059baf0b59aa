import GraphProtocol.Proofs.Connection.Moves

/-!
# Messages in the inbox

A request keeps the kind that its signature names, and its handler answers it the
way its kind is answered in every version. A handler that waits in the inbox has
not answered anything yet.
-/

set_option autoImplicit false

namespace GraphProtocol

def RequestKind.reply : RequestKind → ReplyStrategy
  | .pullAll => .stream
  | .discardAll => .discard
  | .goodbye => .silent
  | _ => .summary

theorem layout_reply {version : Version} {l : RequestLayout}
    (known : l ∈ RequestLayout.ofVersion version) : l.reply = l.kind.reply := by
  unfold RequestLayout.ofVersion at known
  rw [List.mem_mergeSort] at known
  revert l
  cases version <;> decide

theorem except_bind_ok {ε α β : Type} {x : Except ε α} {f : α → Except ε β} {v : β}
    (h : (x >>= f) = .ok v) : ∃ u, x = .ok u ∧ f u = .ok v := by
  cases x with
  | error e => cases h
  | ok u => exact ⟨u, rfl, h⟩

theorem fields_kind {l : RequestLayout} {values : List Value} {r : Request}
    (h : Request.ofFields l values = .ok r) : r.kind = l.kind := by
  unfold Request.ofFields at h
  cases kind : l.kind with
  | init =>
    simp only [kind] at h
    obtain ⟨agent, -, h⟩ := except_bind_ok h
    obtain ⟨auth, -, h⟩ := except_bind_ok h
    obtain ⟨⟨⟩, -, h⟩ := except_bind_ok h
    cases h; rfl
  | hello =>
    simp only [kind] at h
    obtain ⟨extra, -, h⟩ := except_bind_ok h
    obtain ⟨⟨⟩, -, h⟩ := except_bind_ok h
    split at h <;> cases h
    rfl
  | run =>
    simp only [kind] at h
    obtain ⟨statement, -, h⟩ := except_bind_ok h
    obtain ⟨parameters, -, h⟩ := except_bind_ok h
    split at h
    · obtain ⟨map, -, h⟩ := except_bind_ok h
      obtain ⟨metadata, -, h⟩ := except_bind_ok h
      cases h; rfl
    · cases h; rfl
  | begin =>
    simp only [kind] at h
    obtain ⟨map, -, h⟩ := except_bind_ok h
    obtain ⟨metadata, -, h⟩ := except_bind_ok h
    cases h; rfl
  | pullAll | discardAll | reset | commit | rollback | goodbye =>
    simp only [kind] at h
    cases h; rfl

theorem decode_kind {version : Version} {message : List UInt8} {r : Request}
    {reply : ReplyStrategy} (h : Request.decode version message = .ok (r, reply)) :
    reply = r.kind.reply := by
  unfold Request.decode at h
  split at h
  · cases h
  next fields signature cursor _ =>
  split at h
  · cases h
  next l found =>
  split at h <;> cases h
  next rest read =>
  unfold Request.readFields at read
  split at read
  · obtain ⟨values, c, -, read⟩ := bind_ok read
    obtain ⟨⟨⟩, d, -, read⟩ := bind_ok read
    cases made : Request.ofFields l values with
    | error e => rw [made] at read; cases read
    | ok request =>
      rw [made] at read
      cases read
      rw [fields_kind made]
      exact layout_reply (List.mem_of_find?_eq_some found)
  · cases read

structure Handler.Untouched (h : Handler) : Prop where
  unanswered : h.done = false
  reply : h.reply = h.kind.reply
  loud : h.kind ≠ .goodbye

theorem untouched_loud {h : Handler} (untouched : h.Untouched) : h.reply ≠ .silent := by
  have loud := untouched.loud
  rw [untouched.reply]
  cases kind : h.kind <;> simp_all [RequestKind.reply]

/-- A message as it enters the inbox. -/
def Inbound.Genuine : Inbound → Prop
  | .request r h => h.kind = r.kind ∧ h.Untouched
  | .invalid h _ => h.done = false ∧ h.reply = .summary
  | .unknown _ => True

theorem read_genuine {version : Version} {now : Instant} {message : List UInt8} {m : Inbound}
    (h : Inbound.read? version now message = some m) : m.Genuine := by
  unfold Inbound.read? at h
  split at h
  next r reply decoded =>
    split at h <;> cases h
    next stays => exact ⟨rfl, rfl, decode_kind decoded, stays⟩
  · cases h; trivial
  · cases h; exact ⟨rfl, rfl⟩
  · cases h

end GraphProtocol
