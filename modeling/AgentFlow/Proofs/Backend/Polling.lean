import Mathlib.Data.Nat.Find
import AgentFlow.Proofs.Backend.Calls

/-!
Asking for a knowledge base until an answer ends the wait.

The two waits are one loop. They differ in which answers end them: the wait for a document looks at
the first document with its id alone, and a document that is pending holds it up; the wait for a
knowledge base looks at all documents, and those that are pending do not hold it up.
-/

namespace AgentFlow

lemma DocumentStatus.isSettled_iff {s : DocumentStatus} :
    s.isSettled = true ↔ s = .completed ∨ s = .error := by
  cases s <;> decide

lemma KnowledgeBase.isProcessing_eq_false_iff {kb : KnowledgeBase} :
    kb.isProcessing = false ↔ ∀ d ∈ kb.documents, d.status ≠ .processing := by
  simp [isProcessing]

namespace Client

variable (c : Client) (base : String)

def baseRequest : Request := ⟨.get, c.baseUrl ++ ("/knowledge-bases/" ++ base), [], .none⟩

def baseAnswer (ch : Channel) (n : ℕ) : Except CallError KnowledgeBase :=
  c.answer (.getBase base) (ch.line.reply? n)

lemma baseAnswer_after (ch : Channel) (r : Request) (m n : ℕ) :
    c.baseAnswer base (ch.after r m) n = c.baseAnswer base ch (m + n) := by
  rw [baseAnswer, Channel.reply?_after, baseAnswer]

variable {c base} in
lemma of_perform_getBase {ch ch' : Channel} {answer : Except CallError KnowledgeBase}
    (h : c.perform (.getBase base) ch = (answer, ch')) :
    c.baseAnswer base ch 0 = answer ∧ ch.after (c.baseRequest base) 1 = ch' :=
  Prod.mk.inj ((c.perform_eq (.getBase base) ch).symm.trans h)

/-! ### A loop that asks -/

section Loop

variable {α : Type} (Ends : Except CallError KnowledgeBase → Except CallError α → Prop)
  (wait : Channel → Outcome α)

/-- A loop takes one answer at a time: it ends with what the answer ends it with, or it goes on. -/
structure Polls : Prop where
  failed : ∀ e, Ends (.error e) (.error e)
  step : ∀ ch r, Ends (c.baseAnswer base ch 0) r → wait ch = (r, ch.after (c.baseRequest base) 1)
  again : ∀ ch, (∀ r, ¬Ends (c.baseAnswer base ch 0) r) →
    wait ch = wait (ch.after (c.baseRequest base) 1)

/-- A loop stops at the first answer that ends it: it ends with what this answer ends it with, and
the request has gone out once for this answer and once for each before it. Up to there it goes on,
whatever is still to come. -/
structure StopsAtFirst (ch : Channel) : Prop where
  stops : ∃ k r, (∀ i < k, ∀ r', ¬Ends (c.baseAnswer base ch i) r') ∧
    Ends (c.baseAnswer base ch k) r ∧ wait ch = (r, ch.after (c.baseRequest base) (k + 1))
  goesOn : ∀ n, (∀ i < n, ∀ r, ¬Ends (c.baseAnswer base ch i) r) →
    wait ch = wait (ch.after (c.baseRequest base) n)

variable {c base Ends wait}

lemma Polls.goesOn (h : c.Polls base Ends wait) {ch : Channel} :
    ∀ n, (∀ i < n, ∀ r, ¬Ends (c.baseAnswer base ch i) r) →
      wait ch = wait (ch.after (c.baseRequest base) n)
  | 0, _ => by rw [Channel.after_zero]
  | n + 1, hn => by
    have hlast : ∀ r, ¬Ends (c.baseAnswer base (ch.after (c.baseRequest base) n) 0) r := by
      rw [baseAnswer_after]
      exact hn n (Nat.lt_succ_self n)
    rw [h.goesOn n fun i hi => hn i (Nat.lt_succ_of_lt hi), h.again _ hlast, Channel.after_after]

/-- The line falls silent in the end, and silence ends a loop. -/
lemma Polls.exists_ends (h : c.Polls base Ends wait) (ch : Channel) :
    ∃ n r, Ends (c.baseAnswer base ch n) r := by
  have hsilent : c.baseAnswer base ch ch.pending = .error (.transport (c.baseRequest base).url) := by
    rw [baseAnswer, Channel.reply?_pending]
    rfl
  exact ⟨ch.pending, _, hsilent ▸ h.failed _⟩

lemma Polls.stopsAtFirst (h : c.Polls base Ends wait) (ch : Channel) :
    c.StopsAtFirst base Ends wait ch := by
  classical
  have hex := h.exists_ends ch
  -- the loop is run up to the answer before the least that ends it, and then once more
  have hbefore : ∀ i < Nat.find hex, ∀ r, ¬Ends (c.baseAnswer base ch i) r :=
    fun i hi r hr => Nat.find_min hex hi ⟨r, hr⟩
  obtain ⟨r, hr⟩ := Nat.find_spec hex
  refine ⟨⟨Nat.find hex, r, hbefore, hr, ?_⟩, fun n => h.goesOn n⟩
  have hlast : Ends (c.baseAnswer base (ch.after (c.baseRequest base) (Nat.find hex)) 0) r := by
    rw [baseAnswer_after]
    exact hr
  rw [h.goesOn _ hbefore, h.step _ r hlast, Channel.after_after]

end Loop

/-! ### The wait for a document -/

/-- The answers that end the wait for a document, and what they end it with. -/
inductive DocumentEnds (base document : String) :
    Except CallError KnowledgeBase → Except CallError Document → Prop
  | failed (e : CallError) : DocumentEnds base document (.error e) (.error e)
  | missing {kb : KnowledgeBase} (h : ∀ d ∈ kb.documents, d.id ≠ document) :
    DocumentEnds base document (.ok kb) (.error (.documentNotFound base document))
  | settled {kb : KnowledgeBase} {d : Document} {before rest : List Document}
    (hdocs : kb.documents = before ++ d :: rest) (hbefore : ∀ d' ∈ before, d'.id ≠ document)
    (hid : d.id = document) (hstatus : d.status = .completed ∨ d.status = .error) :
    DocumentEnds base document (.ok kb) (.ok d)

lemma waitForDocument_eq (document : String) (ch : Channel) :
    c.waitForDocument base document ch =
      match c.baseAnswer base ch 0 with
      | .error e => (.error e, ch.after (c.baseRequest base) 1)
      | .ok kb =>
        match kb.documents.find? (·.id = document) with
        | none => (.error (.documentNotFound base document), ch.after (c.baseRequest base) 1)
        | some d =>
          if d.status.isSettled then (.ok d, ch.after (c.baseRequest base) 1)
          else c.waitForDocument base document (ch.after (c.baseRequest base) 1) := by
  rw [waitForDocument]
  split
  · next e ch' h =>
    obtain ⟨hanswer, rfl⟩ := of_perform_getBase h
    simp only [hanswer]
  · next kb ch' h =>
    obtain ⟨hanswer, rfl⟩ := of_perform_getBase h
    cases hfind : kb.documents.find? (·.id = document) <;> simp only [hanswer, hfind]

lemma polls_waitForDocument (document : String) :
    c.Polls base (DocumentEnds base document) (c.waitForDocument base document) where
  failed := .failed
  step ch r hr := by
    rw [waitForDocument_eq]
    generalize c.baseAnswer base ch 0 = answer at hr
    cases hr with
    | failed e => rfl
    | @missing kb h =>
      have hnone : kb.documents.find? (·.id = document) = none := by simpa using h
      simp only [hnone]
    | @settled kb d before rest hdocs hbefore hid hstatus =>
      have hfirst : kb.documents.find? (·.id = document) = some d :=
        List.find?_eq_some_iff_append.2
          ⟨by simpa using hid, before, rest, hdocs, by simpa using hbefore⟩
      simp only [hfirst, DocumentStatus.isSettled_iff.2 hstatus, if_true]
  again ch hno := by
    rw [waitForDocument_eq]
    cases hanswer : c.baseAnswer base ch 0 with
    | error e => exact absurd (hanswer ▸ .failed e) (hno (.error e))
    | ok kb =>
      rw [hanswer] at hno
      dsimp only
      cases hfind : kb.documents.find? (·.id = document) with
      | none =>
        refine absurd (.missing fun d hd => ?_) (hno _)
        simpa using List.find?_eq_none.1 hfind d hd
      | some d =>
        obtain ⟨hid, before, rest, hdocs, hbefore⟩ := List.find?_eq_some_iff_append.1 hfind
        dsimp only
        split
        · next hsettled =>
          have hstatus := DocumentStatus.isSettled_iff.1 hsettled
          refine absurd (.settled hdocs (fun d' hd' => ?_) ?_ hstatus) (hno _)
          · simpa using hbefore d' hd'
          · simpa using hid
        · rfl

/-! ### The wait for a knowledge base -/

/-- The answers that end the wait for a knowledge base, and what they end it with. -/
inductive BaseEnds :
    Except CallError KnowledgeBase → Except CallError KnowledgeBase → Prop
  | failed (e : CallError) : BaseEnds (.error e) (.error e)
  | processed {kb : KnowledgeBase} (h : ∀ d ∈ kb.documents, d.status ≠ .processing) :
    BaseEnds (.ok kb) (.ok kb)

lemma waitUntilProcessed_eq (ch : Channel) :
    c.waitUntilProcessed base ch =
      match c.baseAnswer base ch 0 with
      | .error e => (.error e, ch.after (c.baseRequest base) 1)
      | .ok kb =>
        if kb.isProcessing then c.waitUntilProcessed base (ch.after (c.baseRequest base) 1)
        else (.ok kb, ch.after (c.baseRequest base) 1) := by
  rw [waitUntilProcessed]
  split
  · next e ch' h =>
    obtain ⟨hanswer, rfl⟩ := of_perform_getBase h
    simp only [hanswer]
  · next kb ch' h =>
    obtain ⟨hanswer, rfl⟩ := of_perform_getBase h
    simp only [hanswer]

lemma polls_waitUntilProcessed : c.Polls base BaseEnds (c.waitUntilProcessed base) where
  failed := .failed
  step ch r hr := by
    rw [waitUntilProcessed_eq]
    generalize c.baseAnswer base ch 0 = answer at hr
    cases hr with
    | failed e => rfl
    | @processed kb h =>
      simp only [KnowledgeBase.isProcessing_eq_false_iff.2 h, Bool.false_eq_true, if_false]
  again ch hno := by
    rw [waitUntilProcessed_eq]
    cases hanswer : c.baseAnswer base ch 0 with
    | error e => exact absurd (hanswer ▸ .failed e) (hno (.error e))
    | ok kb =>
      rw [hanswer] at hno
      dsimp only
      cases hprocessing : kb.isProcessing with
      | true => rfl
      | false =>
        exact absurd (.processed (KnowledgeBase.isProcessing_eq_false_iff.1 hprocessing)) (hno _)

/-! ### Both waits -/

/-- What is to be said of the waits on a knowledge base: each stops at the first answer that ends
it, and a document that is waited for has not been given back before it is settled. -/
structure WaitsExactly (ch : Channel) : Prop where
  document : ∀ document,
    c.StopsAtFirst base (DocumentEnds base document) (c.waitForDocument base document) ch
  unsettled : ∀ document d, (c.waitForDocument base document ch).1 = .ok d →
    d.status ≠ .pending ∧ d.status ≠ .processing
  processed : c.StopsAtFirst base BaseEnds (c.waitUntilProcessed base) ch

/-- **Waiting asks exactly until the first answer that ends it.** Whatever the backend answers, the
wait for a document ends with the first answer that is a failure, lacks the document, or tells it to
be completed or failed; the wait for a knowledge base ends with the first answer that is a failure
or tells of no document that is being processed. The request goes out once for each answer up to
that one, and nothing else does. -/
theorem waitsExactly (ch : Channel) : c.WaitsExactly base ch where
  document document := (c.polls_waitForDocument base document).stopsAtFirst ch
  unsettled document d hd := by
    obtain ⟨k, r, -, hends, hwait⟩ := ((c.polls_waitForDocument base document).stopsAtFirst ch).stops
    obtain rfl : r = .ok d := (congrArg Prod.fst hwait).symm.trans hd
    generalize c.baseAnswer base ch k = answer at hends
    cases hends with
    | settled hdocs hbefore hid hstatus =>
      rcases hstatus with hstatus | hstatus <;> rw [hstatus] <;> decide
  processed := (c.polls_waitUntilProcessed base).stopsAtFirst ch

end Client

end AgentFlow
