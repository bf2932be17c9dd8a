import Mathlib.Data.List.Basic
import Mathlib.Tactic.Lemma
import AgentFlow.Backend.Client

/-!
Calls one after the other.

A call is one exchange: the request goes out, unless the line is down, and what the call comes to
depends on the reply alone. Asking the same again and again uses up the replies of the line from
first to last.
-/

namespace AgentFlow

/-! ### Lines and channels -/

/-- The reply to the request after the next `n`. -/
def Line.reply? : Line → ℕ → Option Reply
  | .down, _ => none
  | .up replies, n => replies[n]?

namespace Channel

/-- The channel after sending the request `n` times; where the line is down, nothing goes out. -/
def after (ch : Channel) (r : Request) (n : ℕ) : Channel :=
  match ch.line with
  | .down => ch
  | .up replies => ⟨.up (replies.drop n), ch.sent ++ List.replicate n r⟩

variable (ch : Channel) (r : Request)

@[simp] lemma after_zero : ch.after r 0 = ch := by
  obtain ⟨_ | replies, sent⟩ := ch <;> simp [after]

lemma after_after (m n : ℕ) : (ch.after r m).after r n = ch.after r (m + n) := by
  obtain ⟨_ | replies, sent⟩ := ch
  · rfl
  · simp [after]

lemma reply?_after (m n : ℕ) : (ch.after r m).line.reply? n = ch.line.reply? (m + n) := by
  obtain ⟨_ | replies, sent⟩ := ch
  · rfl
  · simp [after, Line.reply?]

lemma exchange_eq : ch.exchange r = (ch.line.reply? 0, ch.after r 1) := by
  obtain ⟨_ | _ | ⟨reply, replies⟩, sent⟩ := ch <;> rfl

lemma reply?_pending : ch.line.reply? ch.pending = none := by
  obtain ⟨_ | replies, sent⟩ := ch
  · rfl
  · exact List.getElem?_eq_none (Nat.le_refl _)

variable {ch} in
lemma sent_after (h : ch.line ≠ .down) (n : ℕ) :
    (ch.after r n).sent = ch.sent ++ List.replicate n r := by
  rw [after]
  split
  · next hdown => exact absurd hdown h
  · rfl

variable {ch} in
lemma sent_exchange (h : ch.line ≠ .down) : (ch.exchange r).2.sent = ch.sent ++ [r] := by
  rw [exchange_eq]
  exact sent_after r h 1

end Channel

/-! ### Calls -/

namespace Client

variable {α : Type}

/-- What a call comes to, given the reply, or that there is none. -/
def answer (c : Client) (call : Call α) : Option Reply → Except CallError α
  | none => .error (.transport (call.operation.request c.baseUrl).url)
  | some reply =>
    if reply.isSuccess then
      match call.accept reply.body with
      | some a => .ok a
      | none => .error (.decode (call.operation.request c.baseUrl).url)
    else .error (.status reply.status (Reply.detail reply.body))

lemma perform_eq (c : Client) (call : Call α) (ch : Channel) :
    c.perform call ch = (c.answer call (ch.line.reply? 0),
      ch.after (call.operation.request c.baseUrl) 1) := by
  rw [perform, Channel.exchange_eq]
  cases ch.line.reply? 0 with
  | none => rfl
  | some reply =>
    simp only [answer]
    cases reply.isSuccess with
    | false => rfl
    | true => cases call.accept reply.body <;> rfl

/-- A call is one exchange, whatever becomes of it. -/
lemma channel_perform (c : Client) (call : Call α) (ch : Channel) :
    (c.perform call ch).2 = (ch.exchange (call.operation.request c.baseUrl)).2 := by
  rw [perform_eq, Channel.exchange_eq]

end Client

end AgentFlow
