import AgentFlow.CommandLine.Run
import AgentFlow.Proofs.Backend.Calls
import AgentFlow.Proofs.Saved.Stability
import AgentFlow.Proofs.Workflow.Gate
import AgentFlow.Proofs.Workflow.Offering

/-!
What goes out when a flow is saved as a new agent.

Nothing goes out unless the file loads and the workflow is in order. What goes out then is not the
text of the file: the workflow is saved anew. A workflow that is in order holds nothing that saving
would change.
-/

namespace AgentFlow

/-! ### Steps of a command -/

namespace CommandLine.Script

variable {α β ε : Type} {x : Script α} {f : α → Script β} {w v : World}

lemma run_bind_of_ok {a : α} (h : x.run w = (.ok a, v)) : (x >>= f).run w = (f a).run v := by
  change (match x.run w with | (r, v) => ExceptT.bindCont f r v) = _
  rw [h]
  rfl

lemma run_bind_of_error {e : Failure} (h : x.run w = (.error e, v)) :
    (x >>= f).run w = (.error e, v) := by
  change (match x.run w with | (r, v) => ExceptT.bindCont f r v) = _
  rw [h]
  rfl

lemma run_attempt (wrap : ε → Failure) (r : Except ε α) :
    (attempt wrap r).run w = (r.mapError wrap, w) := by
  cases r <;> rfl

lemma run_loadFlow {path : String} {r : Except LoadError Graph}
    (h : FlowFile.load w.files path = r) : (loadFlow path).run w = (r.mapError .load, w) := by
  have hget : (get : Script World).run w = (.ok w, w) := rfl
  rw [← h]
  exact (run_bind_of_ok hget).trans (run_attempt _ _)

/-- A call changes the channel and nothing else. -/
lemma run_call (c : Client) (request : Call α) :
    (call c request).run w =
      ((c.perform request w.channel).1.mapError .call,
        { w with channel := (c.perform request w.channel).2 }) := by
  have hget : (get : Script World).run w = (.ok w, w) := rfl
  rw [call, calls, run_bind_of_ok hget]
  exact (run_bind_of_ok rfl).trans (run_attempt _ _)

/-- The texts of issues as they are told, one on each line. -/
def told (issues : List Issue) (err : String) : String :=
  issues.foldl (fun err i => err ++ i.text ++ "\n") err

lemma run_complaints (issues : List Issue) (w : World) :
    (issues.forM fun i => complain i.text).run w =
      (.ok (), { w with err := told issues w.err }) := by
  induction issues generalizing w with
  | nil => rfl
  | cons i issues ih =>
    have hfirst : (complain i.text).run w =
        (.ok (), { w with err := w.err ++ i.text ++ "\n" }) := rfl
    exact (run_bind_of_ok hfirst).trans (ih _)

end CommandLine.Script

/-! ### What goes out -/

lemma FlowFile.exists_of_load {fs : Files} {path : String} {g : Graph} (h : load fs path = .ok g) :
    ∃ text f, SavedFlow.ofText? text = some f ∧ f.decode = .ok g := by
  obtain ⟨f, hread, hdecode⟩ := exists_of_bind_ok h
  obtain ⟨text, -, hread⟩ := exists_of_bind_ok hread
  split at hread
  · next hflow =>
    cases hread
    exact ⟨text, f, hflow, hdecode⟩
  · cases hread

/-- A workflow in order has no temperature that cannot be saved. -/
lemma Graph.hasFiniteTemperature_of_isOk {g : Graph} (h : g.diagnose.isOk = true) :
    ∀ n ∈ g.nodes, n.config.hasFiniteTemperature = true := by
  intro n hn
  obtain ⟨-, hconfig, -⟩ := (Diagnosis.noError_diagnose_iff.1 (Diagnosis.isOk_iff.1 h)).2.2 n hn
  cases hc : n.config with
  | llm settings => exact (Diagnosis.harmless_config_iff.1 hconfig settings hc).1
  | _ => rfl

/-- The flow is loaded as a workflow in order with the nodes and edges of `g`, and it is read from
its JSON if the numbers in it are. -/
structure SavedFlow.Carries (f : SavedFlow) (g : Graph) : Prop where
  loads : ∃ h, f.decode = .ok h ∧ h.nodes = g.nodes ∧ h.edges = g.edges ∧ h.diagnose.isOk = true
  reads : f.toJson.Legible → SavedFlow.reader Json.depthLimit f.toJson.toTerm = some f

lemma Graph.carries_encode {text : String} {f : SavedFlow} {g : Graph}
    (htext : SavedFlow.ofText? text = some f) (hdecode : f.decode = .ok g)
    (hok : g.diagnose.isOk = true) : g.encode.Carries g := by
  obtain ⟨h, hload, hnodes, hedges⟩ := g.exists_decode_encode
  obtain ⟨hn, he⟩ := normalized_of_decode hdecode (hasFiniteTemperature_of_isOk hok)
  rw [hn] at hnodes
  rw [he] at hedges
  have hwritable := writable_encode (SavedFlow.writable_of_ofText? htext) hdecode
  refine ⟨⟨h, hload, hnodes, hedges, ?_⟩, fun hlegible => ?_⟩
  · rw [diagnose_congr hnodes hedges, hok]
  · rw [SavedFlow.reader_toTerm hwritable.fits, SavedFlow.reread_eq hwritable hlegible]

/-- The request asks for a new agent whose flow carries `g`. -/
structure Request.Uploads (r : Request) (baseUrl : String) (g : Graph) : Prop where
  method : r.method = .post
  url : r.url = baseUrl ++ "/agents/"
  query : r.query = []
  body : ∃ (v : Json) (flow : SavedFlow), r.payload = .json v ∧
    v.get? "flow_json" = some flow.toJson ∧ flow.Carries g

lemma AgentDraft.get?_flow (d : AgentDraft) : d.toJson.get? "flow_json" = some d.flow.toJson := by
  obtain ⟨name, description, icon, flow⟩ := d
  cases description <;> cases icon <;> rfl

lemma Request.uploads_createAgent {flow : SavedFlow} {g : Graph} (hflow : flow.Carries g)
    (baseUrl name : String) (description : Option String) :
    (Operation.request baseUrl (.createAgent ⟨name, description, none, flow⟩)).Uploads baseUrl g :=
  ⟨rfl, rfl, rfl, _, flow, rfl, AgentDraft.get?_flow _, hflow⟩

namespace CommandLine

open Script

/-- How the command that saves a flow as a new agent runs in the world `w`: a file that does not
load and a workflow with errors leave the channel as it is, and a workflow in order takes one
exchange. -/
structure UploadsChecked (s : Settings) (name path : String) (description : Option String)
    (w : World) : Prop where
  unloaded : ∀ e, FlowFile.load w.files path = .error e →
    (runCommand s (.createAgent name path description)).run w = (.error (.load e), w)
  refused : ∀ g, FlowFile.load w.files path = .ok g → g.diagnose.isOk = false →
    (runCommand s (.createAgent name path description)).run w =
      (.error .refusedUpload, { w with err := told g.diagnose.errors w.err })
  sent : ∀ g, FlowFile.load w.files path = .ok g → g.diagnose.isOk = true →
    ∃ r : Request, r.Uploads (Client.ofUrl s.baseUrl).baseUrl g ∧
      ((runCommand s (.createAgent name path description)).run w).2.channel =
        (w.channel.exchange r).2 ∧
      (w.channel.line ≠ .down →
        ((runCommand s (.createAgent name path description)).run w).2.channel.sent =
          w.channel.sent ++ [r])

lemma runCommand_createAgent (s : Settings) (name path : String) (description : Option String) :
    runCommand s (.createAgent name path description) =
      runCreateAgent (Client.ofUrl s.baseUrl) name path description := rfl

lemma run_createAgent_of_isOk {w : World} {path : String} {g : Graph}
    (hload : FlowFile.load w.files path = .ok g) (hok : g.diagnose.isOk = true) (s : Settings)
    (name : String) (description : Option String) :
    ((runCommand s (.createAgent name path description)).run w).2.channel =
      (w.channel.exchange ((Operation.createAgent ⟨name, description, none, g.encode⟩).request
        (Client.ofUrl s.baseUrl).baseUrl)).2 := by
  have hloaded : (loadFlow path).run w = (.ok g, w) := run_loadFlow hload
  have hcall := run_call (w := w) (Client.ofUrl s.baseUrl)
    (.createAgent ⟨name, description, none, g.encode⟩)
  rw [runCommand_createAgent, runCreateAgent, run_bind_of_ok hloaded]
  simp only [hok, Bool.not_true, Bool.false_eq_true, if_false]
  cases hresult : ((Client.ofUrl s.baseUrl).perform
      (.createAgent ⟨name, description, none, g.encode⟩) w.channel).1 with
  | error e =>
    rw [hresult] at hcall
    rw [run_bind_of_error hcall]
    exact Client.channel_perform _ _ _
  | ok agent =>
    rw [hresult] at hcall
    rw [run_bind_of_ok hcall]
    exact Client.channel_perform _ _ _

/-- **Only flows in order are uploaded**, and they are still in order as they are uploaded: a file
that does not load or has errors sends nothing, and any other sends one request, with a flow that is
loaded with the same nodes and edges. -/
theorem uploadsChecked (s : Settings) (name path : String) (description : Option String)
    (w : World) : UploadsChecked s name path description w where
  unloaded e hload := by
    have hfailed : (loadFlow path).run w = (.error (.load e), w) := run_loadFlow hload
    exact run_bind_of_error hfailed
  refused g hload hbad := by
    have hloaded : (loadFlow path).run w = (.ok g, w) := run_loadFlow hload
    rw [runCommand_createAgent, runCreateAgent, run_bind_of_ok hloaded]
    simp only [hbad, Bool.not_false, if_true]
    exact run_bind_of_ok (run_complaints g.diagnose.errors w)
  sent g hload hok := by
    obtain ⟨text, f, htext, hdecode⟩ := FlowFile.exists_of_load hload
    have hcarries := Graph.carries_encode htext hdecode hok
    have hchannel := run_createAgent_of_isOk hload hok s name description
    refine ⟨_, Request.uploads_createAgent hcarries _ name description, hchannel, fun hline => ?_⟩
    rw [hchannel, Channel.sent_exchange _ hline]

end CommandLine

end AgentFlow
