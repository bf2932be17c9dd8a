import Mathlib.Data.UInt
import AgentFlow.Proofs.Editor.Runs

/-!
The selection of a session, and the tickets taken from it.

The count of a session goes up by one with every change of the selection and with nothing else. A
ticket therefore outlives exactly the operations that leave the selection alone, unless the count
has come round to it.
-/

namespace AgentFlow.Session

/-- The selected node, if there is one, is a node of the graph. -/
def SelectionExists (s : Session) : Prop :=
  ∀ id, s.selected = some id → ∃ n ∈ s.graph.nodes, n.id = id

/-! ### One operation -/

/-- What an operation makes of the selection. -/
inductive SelectionStep (s : Session) : Session → Prop where
  | kept {t : Session} (selected : t.selected = s.selected) (epoch : t.epoch = s.epoch)
      (exist : s.SelectionExists → t.SelectionExists) : s.SelectionStep t
  | changed {t : Session} (selected : t.selected ≠ s.selected) (epoch : t.epoch = s.epoch + 1)
      (exist : t.SelectionExists) : s.SelectionStep t

variable (s : Session)

lemma selectionStep_of_kept {op : Operation} (selected : (s.after op).selected = s.selected)
    (epoch : (s.after op).epoch = s.epoch) (hop : ∀ id ∈ s.selected, op ≠ .removeNode id) :
    s.SelectionStep (s.after op) := by
  obtain ⟨gone, hchange, hgone⟩ := s.change_after op
  -- only the removal of the selected node could leave the selection without its node
  refine .kept selected epoch fun hs id hid => hchange.exists_id (fun hmem => ?_) ?_
  · exact hop id (selected ▸ hid) (hgone id hmem)
  · exact hs id (selected ▸ hid)

lemma selectionStep_removeNode (id : String) : s.SelectionStep (s.after (.removeNode id)) := by
  cases hrem : s.graph.remove? id with
  | error e =>
    have hafter : s.after (.removeNode id) = s := by
      simp only [after, perform?, removeNode, hrem]
      rfl
    rw [hafter]
    exact .kept rfl rfl fun hs => hs
  | ok r =>
    by_cases hsel : s.selected = some id
    · have hafter : s.after (.removeNode id) =
          { s with graph := r.2, selected := none, epoch := s.epoch + 1 } := by
        simp only [after, perform?, removeNode, hrem]
        simp [hsel, clearSelection, bind, Except.bind, pure, Except.pure, Except.map]
      rw [hafter]
      exact .changed (by simp [hsel]) rfl fun _ hnone => by cases hnone
    · have hafter : s.after (.removeNode id) = { s with graph := r.2 } := by
        simp only [after, perform?, removeNode, hrem]
        simp [hsel, bind, Except.bind, pure, Except.pure, Except.map]
      refine s.selectionStep_of_kept (by rw [hafter]) (by rw [hafter]) fun other hother heq => ?_
      cases heq
      exact hsel hother

lemma selectionStep_select (id : String) : s.SelectionStep (s.after (.select id)) := by
  have hsame : s.SelectionStep s := .kept rfl rfl fun hs => hs
  by_cases hid : s.graph.contains id = true
  · by_cases hsel : s.selected = some id
    · simpa [after, perform?, select, hid, hsel] using hsame
    · have hafter : s.after (.select id) =
          { s with selected := some id, epoch := s.epoch + 1 } := by
        simp [after, perform?, select, hid, hsel]
      rw [hafter]
      refine .changed (Ne.symm hsel) rfl fun other hother => ?_
      cases hother
      exact Graph.mem_ids_iff.1 (s.graph.contains_iff_mem.1 hid)
  · simpa [after, perform?, select, hid] using hsame

lemma selectionStep_clearSelection : s.SelectionStep (s.after .clearSelection) := by
  simp only [after, perform?, clearSelection]
  by_cases hsel : s.selected.isSome = true
  · rw [if_pos hsel]
    refine .changed (fun hnone => ?_) rfl fun _ hnone => by cases hnone
    simp [← hnone] at hsel
  · rw [if_neg hsel]
    exact .kept rfl rfl fun hs => hs

/-- Every operation keeps the selection and the count, or changes the selection and counts it. -/
lemma selectionStep_after (op : Operation) : s.SelectionStep (s.after op) := by
  cases op with
  | removeNode id => exact s.selectionStep_removeNode id
  | select id => exact s.selectionStep_select id
  | clearSelection => exact s.selectionStep_clearSelection
  | addNode kind label position =>
    refine s.selectionStep_of_kept ?_ ?_ (by simp) <;>
      (simp only [after, perform?, addNode]; split <;> rfl)
  | moveNode id position =>
    refine s.selectionStep_of_kept ?_ ?_ (by simp) <;>
      (simp only [after, perform?, moveNode]; cases s.graph.modify? _ _ <;> rfl)
  | connect c =>
    refine s.selectionStep_of_kept ?_ ?_ (by simp) <;>
      (simp only [after, perform?, connect]; cases s.graph.connect? _ <;> rfl)
  | removeEdge id =>
    refine s.selectionStep_of_kept ?_ ?_ (by simp) <;>
      (simp only [after, perform?, removeEdge]; cases s.graph.removeEdge? _ <;> rfl)
  | updateNode id u =>
    refine s.selectionStep_of_kept ?_ ?_ (by simp) <;>
      (simp only [after, perform?, updateNode]; cases s.graph.update? _ _ <;> rfl)
  | setAgent agent => exact s.selectionStep_of_kept rfl rfl (by simp)

/-! ### Runs -/

def selectionChanges (s : Session) : List Operation → ℕ
  | [] => 0
  | op :: ops =>
    (if (s.after op).selected = s.selected then 0 else 1) + (s.after op).selectionChanges ops

lemma selectionChanges_append (ops ops' : List Operation) : s.selectionChanges (ops ++ ops') =
    s.selectionChanges ops + (s.run ops).selectionChanges ops' := by
  induction ops generalizing s with
  | nil => simp [selectionChanges]
  | cons op ops ih => rw [List.cons_append, selectionChanges, ih, selectionChanges, run_cons,
      Nat.add_assoc]

lemma selectionExists_run {s : Session} (hs : s.SelectionExists) (ops : List Operation) :
    (s.run ops).SelectionExists := by
  induction ops generalizing s with
  | nil => exact hs
  | cons op ops ih =>
    refine ih ?_
    cases s.selectionStep_after op with
    | kept _ _ exist => exact exist hs
    | changed _ _ exist => exact exist

lemma epoch_run (ops : List Operation) :
    (s.run ops).epoch = s.epoch + UInt64.ofNat (s.selectionChanges ops) := by
  induction ops generalizing s with
  | nil => simp [selectionChanges]
  | cons op ops ih =>
    rw [run_cons, ih, selectionChanges]
    cases s.selectionStep_after op with
    | kept selected epoch _ => rw [if_pos selected, epoch, Nat.zero_add]
    | changed selected epoch _ =>
      rw [if_neg selected, epoch, UInt64.ofNat_add]
      exact add_assoc _ _ _

lemma selectionChanges_eq_zero_iff (ops : List Operation) : s.selectionChanges ops = 0 ↔
    ∀ early op late, ops = early ++ op :: late →
      ((s.run early).after op).selected = (s.run early).selected := by
  induction ops generalizing s with
  | nil => simp [selectionChanges]
  | cons op ops ih =>
    rw [selectionChanges, Nat.add_eq_zero_iff, ih]
    constructor
    · rintro ⟨hop, hops⟩ (_ | ⟨first, early⟩) op' late heq
      · cases heq
        by_contra hne
        exact absurd hop (by simp [show ¬ (s.after op).selected = s.selected from hne])
      · rw [List.cons_append, List.cons.injEq] at heq
        obtain ⟨rfl, heq⟩ := heq
        exact hops early op' late heq
    · intro hall
      exact ⟨if_pos (hall [] op ops rfl), fun early op' late heq =>
        hall (op :: early) op' late (by rw [heq, List.cons_append])⟩

lemma selected_run_of_unchanged {ops : List Operation} (hnone : s.selectionChanges ops = 0) :
    (s.run ops).selected = s.selected := by
  induction ops generalizing s with
  | nil => rfl
  | cons op ops ih =>
    obtain ⟨hop, hops⟩ := Nat.add_eq_zero_iff.1 hnone
    have hselected : (s.after op).selected = s.selected := by
      by_contra hne
      exact absurd hop (by simp [hne])
    exact (ih _ hops).trans hselected

/-- As long as the count has not come round, a ticket is current exactly if nothing was counted. -/
lemma isCurrent_run_iff {ops : List Operation} (hfew : s.selectionChanges ops < 2 ^ 64) :
    (s.run ops).isCurrent s.ticket = true ↔ s.selectionChanges ops = 0 := by
  simp only [isCurrent, ticket, decide_eq_true_eq, Ticket.mk.injEq, epoch_run]
  constructor
  · rintro ⟨hepoch, -⟩
    have hzero : UInt64.ofNat (s.selectionChanges ops) = 0 := left_eq_add.1 hepoch
    -- below `2 ^ 64` the count has not come round
    have hval := congrArg UInt64.toNat hzero
    rwa [UInt64.toNat_ofNat_of_lt' hfew] at hval
  · intro hnone
    exact ⟨by simp [hnone], (s.selected_run_of_unchanged hnone).symm⟩

/-! ### What the selection and the tickets keep -/

/-- What holds of the selection of a session and of the ticket taken for it. -/
structure SelectionKept (s : Session) : Prop where
  /-- The ticket is current after a run exactly if no operation of the run changed the selection. -/
  current : ∀ later, s.selectionChanges later < 2 ^ 64 →
    ((s.run later).isCurrent s.ticket = true ↔ ∀ early op late, later = early ++ op :: late →
      ((s.run early).after op).selected = (s.run early).selected)
  /-- A ticket that has gone stale stays so. -/
  stale : ∀ later rest, s.selectionChanges (later ++ rest) < 2 ^ 64 →
    (s.run later).isCurrent s.ticket = false → (s.run (later ++ rest)).isCurrent s.ticket = false
  /-- Selecting the selected node again changes nothing. -/
  reselect : ∀ id, s.selected = some id → s.select id = .ok s
  /-- Dropping no selection changes nothing. -/
  clear : s.selected = none → s.clearSelection = s
  /-- Taking the selected node out drops the selection, and with it the ticket. -/
  remove : ∀ id, s.selected = some id → ∃ n t, s.removeNode id = .ok (n, t) ∧
    t.selected = none ∧ t.isCurrent s.ticket = false
  /-- The selected node is a node of the graph. -/
  exist : s.SelectionExists
  /-- A current ticket names no node that has been taken out. -/
  named : ∀ t id, s.isCurrent t = true → t.node = some id → ∃ n ∈ s.graph.nodes, n.id = id
  /-- There is something to inspect exactly if something is selected. -/
  inspected : s.inspect.isSome = s.selected.isSome

lemma isCurrent_iff {t : Ticket} : s.isCurrent t = true ↔ t = s.ticket := by
  simp [isCurrent]

lemma selectionKept_of_exists {s : Session} (hs : s.SelectionExists) : s.SelectionKept where
  current later hfew := (s.isCurrent_run_iff hfew).trans (s.selectionChanges_eq_zero_iff later)
  stale later rest hfew hstale := by
    rw [selectionChanges_append] at hfew
    rw [← Bool.not_eq_true, s.isCurrent_run_iff (by omega)] at hstale
    rw [← Bool.not_eq_true, s.isCurrent_run_iff (by rwa [selectionChanges_append]),
      selectionChanges_append]
    omega
  reselect id hid := by
    have hcontains : s.graph.contains id = true :=
      s.graph.contains_iff_mem.2 (Graph.mem_ids_iff.2 (hs id hid))
    simp [select, hcontains, hid]
  clear hnone := by simp [clearSelection, hnone]
  remove id hid := by
    cases hrem : s.graph.remove? id with
    | error e =>
      have hmissing := Graph.remove?_eq_error_iff.1 ⟨e, hrem⟩
      obtain ⟨n, hn, hid⟩ := hs id hid
      exact absurd hid (hmissing n hn)
    | ok r =>
      refine ⟨r.1, ({ s with graph := r.2 } : Session).clearSelection, ?_, ?_, ?_⟩
      · simp [removeNode, hrem, hid, bind, Except.bind, pure, Except.pure]
      · simp [clearSelection, hid]
      · simp [isCurrent, ticket, clearSelection, hid]
  exist := hs
  named t id ht hid := by
    cases s.isCurrent_iff.1 ht
    exact hs id hid
  inspected := by
    rw [inspect, selectedNode?, Option.isSome_map]
    cases hid : s.selected with
    | none => rfl
    | some id =>
      obtain ⟨n, hn, rfl⟩ := hs id hid
      rw [Option.bind_some, s.graph.node?_eq_some_iff.2 ⟨hn, rfl⟩]
      rfl

/-- **A ticket is current as long as the selection is left alone**, from whatever graph the session
began and whatever was done before the ticket was taken; and the selection always names a node. -/
theorem selectionKept_run (agent : Option String) (g : Graph) (before : List Operation) :
    ((ofGraph agent g).run before).SelectionKept :=
  selectionKept_of_exists (selectionExists_run (fun _ hnone => by cases hnone) before)

/-- Going to the other node and back makes the ticket stale, though the same node is selected. -/
theorem stale_away_and_back :
    let s := (ofGraph none .starter).run [.select Graph.startId]
    let t := s.run [.select Graph.finishId, .select Graph.startId]
    t.selected = s.selected ∧ t.isCurrent s.ticket = false := by
  have hkept := selectionKept_run none .starter [.select Graph.startId]
  refine ⟨by decide +kernel, Bool.eq_false_iff.2 fun hcurrent => ?_⟩
  have hleft := (hkept.current _ (by decide +kernel)).1 hcurrent [] (.select Graph.finishId)
    [.select Graph.startId] rfl
  exact absurd hleft (by decide +kernel)

end AgentFlow.Session
