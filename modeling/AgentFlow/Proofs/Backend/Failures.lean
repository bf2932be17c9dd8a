import AgentFlow.Proofs.Backend.Calls
import AgentFlow.Proofs.Json.Rereading

/-!
What is told of calls that fail.

A reply whose status is not one of success fails the call, and its body is not read as a result.
What is told of the failure is the member `detail` of the body: as it is if it is a text with
something in it, else as JSON. An empty text counts as data here, and is told with its quotes; only
where there is no detail, or `null` for it, a fixed text stands in.
-/

namespace AgentFlow

namespace Reply

/-- The body is an object with a member `detail` of this value. -/
def HasDetail (body : String) (v : Json) : Prop :=
  ∃ ms, Json.parse? body = some (.object ms) ∧ ("detail", v) ∈ ms

/-- What the body of a failure tells. -/
inductive Tells (body : String) : String → Prop
  | text {s : String} (detail : HasDetail body (.string s)) (filled : s ≠ "") : Tells body s
  | data {v : Json} (detail : HasDetail body v) (known : v ≠ .null) (coded : ∀ s, v ≠ .string s) :
    Tells body v.toText
  | quotes (detail : HasDetail body (.string "")) : Tells body "\"\""
  | nothing (detail : ∀ v, HasDetail body v → v = .null) : Tells body fallbackDetail

variable {body told : String} {v : Json}

lemma isSuccess_eq_false_iff {r : Reply} :
    r.isSuccess = false ↔ r.status < 200 ∨ 300 ≤ r.status := by
  rw [isSuccess, Bool.and_eq_false_iff, decide_eq_false_iff_not, decide_eq_false_iff_not, not_le,
    not_lt]

/-- The detail is what is looked up under its name, since an object has no name twice. -/
lemma hasDetail_iff : HasDetail body v ↔ (Json.parse? body).bind (·.get? "detail") = some v := by
  rw [Option.bind_eq_some_iff]
  constructor
  · rintro ⟨ms, hparse, hmem⟩
    cases Json.canonical_of_parse? hparse with
    | object hsorted => exact ⟨_, hparse, hsorted.lookup_eq_some_iff.2 hmem⟩
  · rintro ⟨w, hparse, hget⟩
    cases w with
    | object ms =>
      cases Json.canonical_of_parse? hparse with
      | object hsorted => exact ⟨ms, hparse, hsorted.lookup_eq_some_iff.1 hget⟩
    | _ => cases hget

lemma tells_detail (body : String) : Tells body (detail body) := by
  cases hfound : (Json.parse? body).bind (·.get? "detail") with
  | none =>
    simp only [detail, hfound]
    exact .nothing fun v hv => by cases hfound.symm.trans (hasDetail_iff.1 hv)
  | some v =>
    have hv : HasDetail body v := hasDetail_iff.2 hfound
    cases v with
    | null =>
      simp only [detail, hfound]
      exact .nothing fun w hw =>
        (Option.some.inj (hfound.symm.trans (hasDetail_iff.1 hw))).symm
    | string s =>
      simp only [detail, hfound]
      split
      · next hs =>
        obtain rfl := String.isEmpty_iff.1 hs
        exact .quotes hv
      · next hs => exact .text hv fun h => hs (String.isEmpty_iff.2 h)
    | _ =>
      simp only [detail, hfound]
      exact .data hv (by simp) (by simp)

lemma Tells.eq_detail (h : Tells body told) : told = detail body := by
  cases h with
  | text hs filled =>
    simp only [detail, hasDetail_iff.1 hs]
    rw [if_neg fun h => filled (String.isEmpty_iff.1 h)]
  | @data v hv known coded =>
    cases v with
    | null => exact absurd rfl known
    | string s => exact absurd rfl (coded s)
    | _ => simp only [detail, hasDetail_iff.1 hv]
  | quotes hs =>
    simp only [detail, hasDetail_iff.1 hs]
    rfl
  | nothing hnone =>
    cases hfound : (Json.parse? body).bind (·.get? "detail") with
    | none => simp only [detail, hfound]
    | some v =>
      obtain rfl := hnone v (hasDetail_iff.2 hfound)
      simp only [detail, hfound]

/-- The bodies that objects are written in: the detail is read as it was written, but for its
numbers, unless the object nests deeper than the limit. -/
lemma hasDetail_iff_of_text {ms : List (String × Json)} (hms : (Json.object ms).WellFormed)
    (hbody : body = (Json.object ms).toText ∨ body = (Json.object ms).toPrettyText) :
    HasDetail body v ↔
      (Json.object ms).nesting ≤ Json.depthLimit ∧ ∃ w, ("detail", w) ∈ ms ∧ w.reread = v := by
  have hparse : Json.parse? body =
      if (Json.object ms).nesting ≤ Json.depthLimit then some (Json.object ms).reread else none := by
    rcases hbody with rfl | rfl
    · exact Json.parse?_toText hms
    · exact Json.parse?_toPrettyText hms
  rw [HasDetail, hparse]
  split
  · next hle => simp [hle, Json.reread, Json.rereadMembers_eq_map]
  · next hgt => simp [hgt]

lemma HasDetail.parse?_toText (h : HasDetail body v) : Json.parse? v.toText = some v.reread := by
  obtain ⟨ms, hparse, hmem⟩ := h
  cases Json.canonical_of_parse? hparse with
  | object hsorted hmembers =>
    obtain ⟨hwell, hnesting⟩ := Json.canonical_iff.1 (hmembers _ hmem)
    have hle : v.nesting ≤ Json.depthLimit := Nat.le_succ_of_le hnesting
    rw [Json.parse?_toText hwell, if_pos hle]

def emptyDetail : Reply := ⟨404, "\x7b\"detail\":\"\"\x7d"⟩

lemma hasDetail_emptyDetail_iff {v : Json} :
    HasDetail emptyDetail.body v ↔ v = .string "" := by
  have hparse : Json.parse? emptyDetail.body = some (.object [("detail", .string "")]) := by
    decide +kernel
  simp [HasDetail, hparse]

end Reply

namespace Client

variable {c : Client} {reply : Reply}

/-- Whatever is asked for, a reply of failure is not read as an answer to it. -/
lemma perform_of_failure {α : Type} (hreply : reply.isSuccess = false) (call : Call α)
    (replies : List Reply) (sent : List Request) :
    c.perform call ⟨.up (reply :: replies), sent⟩ =
      (.error (.status reply.status (Reply.detail reply.body)),
        ⟨.up replies, sent ++ [call.operation.request c.baseUrl]⟩) := by
  have hanswer : c.answer call (some reply) =
      .error (.status reply.status (Reply.detail reply.body)) := by
    rw [answer, hreply]
    rfl
  exact (c.perform_eq call _).trans (Prod.ext hanswer rfl)

/-- What is to be said of a reply of failure: every call that is given it fails with its status and
with the one thing that its body tells, having sent one request. Details are read as they were
written, and told so that they can be read again. -/
structure FailsWith (c : Client) (reply : Reply) (told : String) : Prop where
  tells : Reply.Tells reply.body told
  unique : ∀ other, Reply.Tells reply.body other → other = told
  call : ∀ {α : Type} (call : Call α) (replies : List Reply) (sent : List Request),
    c.perform call ⟨.up (reply :: replies), sent⟩ =
      (.error (.status reply.status told),
        ⟨.up replies, sent ++ [call.operation.request c.baseUrl]⟩)
  upload : ∀ {fs : Files} {path : String} {content : Content}, fs.read path = .ok content →
    ∀ (base : String) (replies : List Reply) (sent : List Request),
      c.uploadFile base fs path ⟨.up (reply :: replies), sent⟩ =
        (.error (.status reply.status told), ⟨.up replies,
          sent ++ [(Operation.upload base (uploadName path) content).request c.baseUrl]⟩)
  written : ∀ ms, (Json.object ms).WellFormed →
    reply.body = (Json.object ms).toText ∨ reply.body = (Json.object ms).toPrettyText →
    ∀ v, Reply.HasDetail reply.body v ↔
      (Json.object ms).nesting ≤ Json.depthLimit ∧ ∃ w, ("detail", w) ∈ ms ∧ w.reread = v
  readBack : ∀ v, Reply.HasDetail reply.body v → Json.parse? v.toText = some v.reread

/-- **A failed call tells its status and its detail.** The detail of a reply whose status is not one
of success is told as it is if it is a text with something in it, as JSON if it is anything else but
`null`, and by a fixed text if there is none; the body is never read as a result. -/
theorem reportsFailure (c : Client) (h : reply.status < 200 ∨ 300 ≤ reply.status) :
    ∃ told, c.FailsWith reply told := by
  have hreply : reply.isSuccess = false := Reply.isSuccess_eq_false_iff.2 h
  refine ⟨Reply.detail reply.body, ?_⟩
  exact
    { tells := Reply.tells_detail reply.body
      unique := fun _ hother => hother.eq_detail
      call := fun call replies sent => perform_of_failure hreply call replies sent
      upload := fun hread base replies sent => by
        rw [uploadFile, hread]
        exact perform_of_failure hreply _ replies sent
      written := fun _ hms hbody _ => Reply.hasDetail_iff_of_text hms hbody
      readBack := fun _ hv => hv.parse?_toText }

/-- A detail that is empty is told by two quotes. -/
theorem reportsFailure_emptyDetail :
    (Reply.emptyDetail.status < 200 ∨ 300 ≤ Reply.emptyDetail.status) ∧
      FailsWith ⟨"http://studio.test"⟩ .emptyDetail "\"\"" := by
  have hstatus : Reply.emptyDetail.status < 200 ∨ 300 ≤ Reply.emptyDetail.status := by decide
  obtain ⟨told, h⟩ := reportsFailure ⟨"http://studio.test"⟩ hstatus
  obtain rfl := h.unique _ (.quotes (Reply.hasDetail_emptyDetail_iff.2 rfl))
  exact ⟨hstatus, h⟩

/-- The fixed text does not stand in for a detail that is empty. -/
theorem not_fallsBack_emptyDetail :
    ¬∀ (c : Client) (call : Call Agent) (reply : Reply),
      reply.status < 200 ∨ 300 ≤ reply.status →
      (∀ v, Reply.HasDetail reply.body v → v = .null ∨ v = .string "") →
      (c.perform call ⟨.up [reply], []⟩).1 =
        .error (.status reply.status "API request failed") := by
  intro h
  have hfails := h ⟨"http://studio.test"⟩ (.getAgent "a1") .emptyDetail (by decide)
    fun v hv => .inr (Reply.hasDetail_emptyDetail_iff.1 hv)
  rw [perform_of_failure rfl] at hfails
  have hquotes : "\"\"" = Reply.detail Reply.emptyDetail.body :=
    Reply.Tells.eq_detail (.quotes (Reply.hasDetail_emptyDetail_iff.2 rfl))
  rw [← hquotes] at hfails
  exact absurd (CallError.status.inj (Except.error.inj hfails)).2 (by decide)

end Client

end AgentFlow
