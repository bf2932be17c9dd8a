import Mathlib.Data.List.Perm.Subperm
import Mathlib.Order.Bounds.Basic
import AgentFlow.Proofs.Workflow.Refinement

/-!
Fresh ids.

Different numbers have different ids, so that the nodes of a graph can take no more numbers than
there are nodes. The search for a free number therefore ends after at most one candidate more than
that. It starts behind the last number that was handed out; no id is handed out twice, whatever
becomes of the nodes in between.
-/

namespace AgentFlow.Graph

/-! ### Numbered ids -/

lemma toList_numberedId (k : ℕ) : (numberedId k).toList = "node_".toList ++ Nat.toDigits 10 k := by
  rw [numberedId, String.toList_append, Nat.toString_eq_repr, Nat.toList_repr]

lemma numberedId_injective : Function.Injective numberedId := by
  intro j k h
  have hdigits := congrArg String.toList h
  rw [toList_numberedId, toList_numberedId] at hdigits
  have hvalue := congrArg (Nat.ofDigitChars 10 · 0) (List.append_cancel_left hdigits)
  simpa only [Nat.ofDigitChars_ten_toDigits] using hvalue

lemma isDigit_of_mem_numberedId {k : ℕ} {c : Char} (h : c ∈ (numberedId k).toList) :
    c ∈ "node_".toList ∨ c.isDigit = true := by
  rw [toList_numberedId, List.mem_append] at h
  exact h.imp_right (Nat.isDigit_of_mem_toDigits (by decide) (by decide))

/-! ### The search for a free number -/

def IsFree (g : Graph) (id : String) : Prop := ∀ n ∈ g.nodes, n.id ≠ id

/-- Candidates are tried from number `n` on: `k` is the first with a free id, and the last of
`tries` candidates. -/
inductive Seeks (g : Graph) : (n tries k : ℕ) → Prop where
  | free {n : ℕ} (h : g.IsFree (numberedId n)) : g.Seeks n 1 n
  | taken {n tries k : ℕ} (h : ¬g.IsFree (numberedId n)) (next : g.Seeks (n + 1) tries k) :
    g.Seeks n (tries + 1) k

variable {g : Graph} {fuel n tries k : ℕ}

lemma isFree_iff {id : String} : g.IsFree id ↔ ¬g.contains id = true := by
  rw [contains_iff_mem, notMem_ids_iff, IsFree]

lemma Seeks.isLeast (h : g.Seeks n tries k) : IsLeast {j | n ≤ j ∧ g.IsFree (numberedId j)} k := by
  induction h with
  | free h => exact ⟨⟨le_refl _, h⟩, fun j hj => hj.1⟩
  | @taken n tries k h _ ih =>
    refine ⟨⟨Nat.le_of_succ_le ih.1.1, ih.1.2⟩, fun j hj => ih.2 ⟨?_, hj.2⟩⟩
    -- the number that is taken is not `j`
    rcases Nat.eq_or_lt_of_le hj.1 with rfl | hlt
    · exact absurd hj.2 h
    · exact hlt

lemma le_freeNumber (g : Graph) (fuel n : ℕ) : n ≤ g.freeNumber fuel n := by
  induction fuel generalizing n with
  | zero => exact Nat.le_refl n
  | succ fuel ih =>
    unfold freeNumber
    split
    · exact Nat.le_of_succ_le (ih (n + 1))
    · exact Nat.le_refl n

/-- With a free number in its reach, the search is the trial of one candidate after the other. -/
lemma seeks_freeNumber (h : ∃ j, n ≤ j ∧ j ≤ n + fuel ∧ g.IsFree (numberedId j)) :
    ∃ tries ≤ fuel + 1, g.Seeks n tries (g.freeNumber fuel n) := by
  obtain ⟨j, hle, hreach, hj⟩ := h
  induction fuel generalizing n with
  | zero =>
    obtain rfl : j = n := by omega
    exact ⟨1, le_refl 1, .free hj⟩
  | succ fuel ih =>
    unfold freeNumber
    by_cases hn : g.contains (numberedId n) = true
    · have htaken : ¬g.IsFree (numberedId n) := fun hfree => isFree_iff.1 hfree hn
      have hne : j ≠ n := fun heq => htaken (heq ▸ hj)
      obtain ⟨tries, htries, hseeks⟩ := ih (n := n + 1) (by omega) (by omega)
      rw [if_pos hn]
      exact ⟨tries + 1, by omega, .taken htaken hseeks⟩
    · rw [if_neg hn]
      exact ⟨1, by omega, .free (isFree_iff.2 hn)⟩

/-- Of one number more than there are nodes, one is free. -/
lemma exists_isFree (g : Graph) (n : ℕ) : ∃ j, n ≤ j ∧ j ≤ n + g.size ∧ g.IsFree (numberedId j) := by
  by_contra hnone
  have htaken : (List.range' n (g.size + 1)).map numberedId ⊆ g.nodes.map Node.id := by
    intro id hid
    obtain ⟨j, hj, rfl⟩ := List.mem_map.1 hid
    rw [List.mem_range'_1] at hj
    by_contra hfree
    exact hnone ⟨j, hj.1, by omega, notMem_ids_iff.1 hfree⟩
  have hnodup : ((List.range' n (g.size + 1)).map numberedId).Nodup :=
    List.Nodup.map numberedId_injective List.nodup_range'
  have hlength := (hnodup.subperm htaken).length_le
  rw [List.length_map, List.length_map, List.length_range'] at hlength
  exact absurd hlength (Nat.not_succ_le_self _)

lemma seeks_freshId (g : Graph) :
    ∃ tries ≤ g.size + 1, g.Seeks g.nextNumber tries (g.freeNumber g.size g.nextNumber) :=
  seeks_freeNumber (g.exists_isFree g.nextNumber)

lemma isFree_freshId (g : Graph) : g.IsFree g.freshId.1 := by
  obtain ⟨tries, -, hseeks⟩ := g.seeks_freshId
  exact hseeks.isLeast.1.2

/-! ### Ids handed out in a run -/

def handedOut (g : Graph) : List Edit → List String
  | [] => []
  | .freshId :: es => g.freshId.1 :: g.freshId.2.handedOut es
  | e :: es => (e.after g).handedOut es

lemma nextNumber_of_remove? {g h : Graph} {id : String} {n : Node}
    (hrem : g.remove? id = .ok (n, h)) : h.nextNumber = g.nextNumber := by
  unfold remove? at hrem
  split at hrem <;> cases hrem
  rfl

lemma nextNumber_of_modify? {g h : Graph} {id : String} {f : Node → Node}
    (hmod : g.modify? id f = .ok h) : h.nextNumber = g.nextNumber := by
  unfold modify? at hmod
  split at hmod <;> cases hmod
  rfl

lemma nextNumber_of_connect? {g h : Graph} {e : Edge} {id : String}
    (hcon : g.connect? e = .ok (id, h)) : h.nextNumber = g.nextNumber := by
  unfold connect? at hcon
  repeat' split at hcon
  all_goals cases hcon
  all_goals rfl

lemma nextNumber_of_removeEdge? {g h : Graph} {id : String} {e : Edge}
    (hrem : g.removeEdge? id = .ok (e, h)) : h.nextNumber = g.nextNumber := by
  unfold removeEdge? at hrem
  split at hrem <;> cases hrem
  rfl

/-- Only handing out an id moves the number from which free ids are sought. -/
lemma nextNumber_after (g : Graph) {e : Edit} (he : e ≠ .freshId) :
    (e.after g).nextNumber = g.nextNumber := by
  cases e with
  | insert n =>
    simp only [Edit.after, Edit.perform?, Editable.insert?]
    cases hins : g.insert? n with
    | error e => rfl
    | ok h => exact nextNumber_of_insert? hins
  | remove id =>
    simp only [Edit.after, Edit.perform?, Editable.remove?]
    cases hrem : g.remove? id with
    | error e => rfl
    | ok r => exact nextNumber_of_remove? hrem
  | modify id f =>
    simp only [Edit.after, Edit.perform?, Editable.modify?]
    cases hmod : g.modify? id f with
    | error e => rfl
    | ok h => exact nextNumber_of_modify? hmod
  | connect e =>
    simp only [Edit.after, Edit.perform?, Editable.connect?]
    cases hcon : g.connect? e with
    | error e => rfl
    | ok r => exact nextNumber_of_connect? hcon
  | removeEdge id =>
    simp only [Edit.after, Edit.perform?, Editable.removeEdge?]
    cases hrem : g.removeEdge? id with
    | error e => rfl
    | ok r => exact nextNumber_of_removeEdge? hrem
  | freshId => exact absurd rfl he

/-- The numbers that are handed out rise. -/
lemma exists_handedOut_eq_map (g : Graph) (es : List Edit) :
    ∃ ks : List ℕ, g.handedOut es = ks.map numberedId ∧ ks.Pairwise (· < ·) ∧
      ∀ k ∈ ks, g.nextNumber ≤ k := by
  induction es generalizing g with
  | nil => exact ⟨[], rfl, .nil, by simp⟩
  | cons e es ih =>
    by_cases he : e = .freshId
    · subst he
      obtain ⟨ks, hmap, hrise, hle⟩ := ih g.freshId.2
      have hnext := g.le_freeNumber g.size g.nextNumber
      refine ⟨g.freeNumber g.size g.nextNumber :: ks, congrArg _ hmap,
        List.pairwise_cons.2 ⟨hle, hrise⟩, List.forall_mem_cons.2 ⟨hnext, fun k hk => ?_⟩⟩
      exact hnext.trans (Nat.le_of_succ_le (hle k hk))
    · obtain ⟨ks, hmap, hrise, hle⟩ := ih (e.after g)
      rw [g.nextNumber_after he] at hle
      refine ⟨ks, ?_, hrise, hle⟩
      rw [← hmap]
      cases e with
      | freshId => exact absurd rfl he
      | _ => rfl

lemma nodup_handedOut (g : Graph) (es : List Edit) : (g.handedOut es).Nodup := by
  obtain ⟨ks, hmap, hrise, -⟩ := g.exists_handedOut_eq_map es
  rw [hmap]
  exact hrise.nodup.map numberedId_injective

/-- What a graph hands out is fresh. -/
structure HandsOutFresh (g : Graph) : Prop where
  /-- The search ends, with the least number whose id is free. -/
  found : ∃ tries k, g.Seeks g.nextNumber tries k ∧ tries ≤ g.size + 1 ∧
    IsLeast {j | g.nextNumber ≤ j ∧ g.IsFree (numberedId j)} k ∧
    g.freshId = (numberedId k, { g with nextNumber := k + 1 })
  /-- No id is handed out twice, whatever operations come in between. -/
  distinct : ∀ es, (g.handedOut es).Nodup

lemma handsOutFresh (g : Graph) : g.HandsOutFresh where
  found := by
    obtain ⟨tries, htries, hseeks⟩ := g.seeks_freshId
    exact ⟨tries, _, hseeks, htries, hseeks.isLeast, rfl⟩
  distinct := g.nodup_handedOut

end AgentFlow.Graph
