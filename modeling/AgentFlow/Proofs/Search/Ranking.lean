import Mathlib.Data.List.Sort
import AgentFlow.Proofs.Decimal.BinaryValue
import AgentFlow.Search.Ranking

/-!
The order of ranked hits.

Ranking sorts the hits by a key of their scores and keeps the order of hits that share one. There is
only one such order, so that dropping hits and ranking may change places. A threshold is compared by
value and not by that key; without NaNs the one follows the other, and the hits that pass come
before the hits that do not.
-/

namespace AgentFlow

/-! ### Sorting by a key -/

section Sorting

variable {α κ : Type*} [LinearOrder κ] {key : α → κ} {l m : List α}

lemma mem_iff_of_filter_key_eq (h : ∀ k, l.filter (key · = k) = m.filter (key · = k)) (a : α) :
    a ∈ l ↔ a ∈ m := by
  have ha : a ∈ l.filter (key · = key a) ↔ a ∈ m.filter (key · = key a) := by rw [h]
  simpa using ha

/-- Rows sorted by a key are equal if the elements of each key come in the same order. -/
lemma eq_of_filter_key_eq (hl : l.Pairwise (key · ≤ key ·)) (hm : m.Pairwise (key · ≤ key ·))
    (h : ∀ k, l.filter (key · = k) = m.filter (key · = k)) : l = m := by
  induction l generalizing m with
  | nil =>
    refine (List.eq_nil_iff_forall_not_mem.2 fun a ha => ?_).symm
    exact List.not_mem_nil ((mem_iff_of_filter_key_eq h a).2 ha)
  | cons a l ih =>
    have ha := (mem_iff_of_filter_key_eq h a).1 List.mem_cons_self
    cases m with
    | nil => exact absurd ha List.not_mem_nil
    | cons b m =>
      have hb := (mem_iff_of_filter_key_eq h b).2 List.mem_cons_self
      rw [List.pairwise_cons] at hl hm
      -- each head has the least key of the elements, which are the same
      have hab : key a ≤ key b := (List.mem_cons.1 hb).elim (fun e => e ▸ le_refl _) (hl.1 b)
      have hba : key b ≤ key a := (List.mem_cons.1 ha).elim (fun e => e ▸ le_refl _) (hm.1 a)
      have hkey : key b = key a := le_antisymm hba hab
      have hheads := h (key a)
      rw [List.filter_cons_of_pos (by simp), List.filter_cons_of_pos (by simpa using hkey),
        List.cons.injEq] at hheads
      obtain ⟨rfl, hrest⟩ := hheads
      rw [ih hl.2 hm.2]
      intro k
      by_cases hk : key a = k
      · exact hk ▸ hrest
      · simpa [List.filter_cons, hk] using h k

lemma le_trans_key (a b c : α) (hab : decide (key a ≤ key b) = true)
    (hbc : decide (key b ≤ key c) = true) : decide (key a ≤ key c) = true :=
  decide_eq_true (le_trans (of_decide_eq_true hab) (of_decide_eq_true hbc))

lemma le_total_key (a b : α) : (decide (key a ≤ key b) || decide (key b ≤ key a)) = true := by
  simpa using le_total (key a) (key b)

variable (key) (l)

lemma pairwise_mergeSort_key : (l.mergeSort (key · ≤ key ·)).Pairwise (key · ≤ key ·) :=
  (List.pairwise_mergeSort le_trans_key le_total_key l).imp of_decide_eq_true

lemma filter_key_mergeSort (k : κ) :
    (l.mergeSort (key · ≤ key ·)).filter (key · = k) = l.filter (key · = k) := by
  have hsame : (l.filter (key · = k)).Pairwise fun a b => decide (key a ≤ key b) = true := by
    refine List.pairwise_of_forall_mem_list fun a ha b hb => ?_
    have hak : key a = k := by simpa using (List.mem_filter.1 ha).2
    have hbk : key b = k := by simpa using (List.mem_filter.1 hb).2
    exact decide_eq_true (hak.trans hbk.symm).le
  have hsub := (List.sublist_mergeSort le_trans_key le_total_key hsame List.filter_sublist).filter
    fun a => decide (key a = k)
  rw [List.filter_filter] at hsub
  simp only [Bool.and_self] at hsub
  exact (hsub.eq_of_length ((List.mergeSort_perm l _).filter _).length_eq.symm).symm

/-- Elements may be dropped before sorting or after it. -/
lemma filter_mergeSort (p : α → Bool) :
    (l.mergeSort (key · ≤ key ·)).filter p = (l.filter p).mergeSort (key · ≤ key ·) := by
  refine eq_of_filter_key_eq ((pairwise_mergeSort_key key l).filter p)
    (pairwise_mergeSort_key key _) fun k => ?_
  rw [filter_key_mergeSort, List.filter_comm, filter_key_mergeSort, List.filter_comm]

end Sorting

/-- Where an element that passes lets all pass that stand before it, what passes stands in front. -/
lemma filter_prefix_of_pairwise {α : Type*} {p : α → Bool} {l : List α}
    (h : l.Pairwise fun a b => p b = true → p a = true) : l.filter p <+: l := by
  induction l with
  | nil => exact List.nil_prefix
  | cons a l ih =>
    rw [List.pairwise_cons] at h
    by_cases ha : p a = true
    · rw [List.filter_cons_of_pos ha]
      exact (List.prefix_cons_inj a).2 (ih h.2)
    · have hnone : (a :: l).filter p = [] := by
        refine List.filter_eq_nil_iff.2 fun b hb hpass => ha ?_
        exact (List.mem_cons.1 hb).elim (fun e => e ▸ hpass) fun hb => h.1 b hb hpass
      rw [hnone]
      exact List.nil_prefix

/-! ### Scores -/

namespace Binary64

variable {x y : Binary64}

/-- The total order is finer than the order of values. -/
lemma toRat_le_of_totalKey_le (h : x.totalKey ≤ y.totalKey) : x.toRat ≤ y.toRat := by
  rw [← valueKey_le_iff]
  unfold totalKey at h
  unfold valueKey
  cases hx : x.isNegative <;> cases hy : y.isNegative <;>
    simp only [hx, hy, if_true, if_false, Bool.false_eq_true] at h ⊢ <;> omega

end Binary64

namespace ScoreOrder

def key (order : ScoreOrder) (x : Binary64) : ℤ :=
  match order with
  | .higherIsBetter => -x.totalKey
  | .lowerIsBetter => x.totalKey

/-- By its value, the score is at least as good as the threshold. -/
def Reaches (order : ScoreOrder) (score threshold : Binary64) : Prop :=
  match order with
  | .higherIsBetter => threshold.toRat ≤ score.toRat
  | .lowerIsBetter => score.toRat ≤ threshold.toRat

variable {order : ScoreOrder} {x y t : Binary64}

lemma passes_iff :
    order.passes x t = true ↔ x.isNaN = false ∧ t.isNaN = false ∧ order.Reaches x t := by
  cases order with
  | higherIsBetter =>
    exact Binary64.atMost_eq_true_iff.trans and_left_comm
  | lowerIsBetter => exact Binary64.atMost_eq_true_iff

lemma compare_ne_gt_iff : order.compare x y ≠ .gt ↔ order.key x ≤ order.key y := by
  cases order with
  | higherIsBetter =>
    rw [compare, Binary64.totalCompare, compare_le_iff_le, key, key, Int.neg_le_neg_iff]
  | lowerIsBetter => exact compare_le_iff_le

lemma compare_eq_iff : order.compare x y = .eq ↔ order.key x = order.key y := by
  cases order with
  | higherIsBetter =>
    rw [compare, Binary64.totalCompare, compare_eq_iff_eq, key, key, Int.neg_inj, eq_comm]
  | lowerIsBetter => exact compare_eq_iff_eq

lemma reaches_of_key_le (h : order.key x ≤ order.key y) (hy : order.Reaches y t) :
    order.Reaches x t := by
  cases order with
  | higherIsBetter =>
    have hvalue : y.toRat ≤ x.toRat := Binary64.toRat_le_of_totalKey_le (Int.neg_le_neg_iff.1 h)
    exact le_trans hy hvalue
  | lowerIsBetter =>
    have hvalue : x.toRat ≤ y.toRat := Binary64.toRat_le_of_totalKey_le h
    exact le_trans hvalue hy

lemma passes_of_key_le (hx : x.isNaN = false) (h : order.key x ≤ order.key y)
    (hy : order.passes y t = true) : order.passes x t = true := by
  rw [passes_iff] at hy ⊢
  exact ⟨hx, hy.2.1, reaches_of_key_le h hy.2.2⟩

end ScoreOrder

/-! ### Ranking -/

section Ranking

variable {order : ScoreOrder} {hits : List Hit}

lemma rank_eq_mergeSort (order : ScoreOrder) (hits : List Hit) :
    rank order hits = hits.mergeSort fun a b => order.key a.score ≤ order.key b.score := by
  simp only [rank, ne_eq, ← ScoreOrder.compare_ne_gt_iff]

lemma rankWithin_eq_rank_filter (order : ScoreOrder) (hits : List Hit) (t : Binary64) :
    rankWithin order (some t) hits = rank order (hits.filter (order.passes ·.score t)) := by
  rw [rankWithin, rank_eq_mergeSort, rank_eq_mergeSort]
  exact filter_mergeSort (fun h : Hit => order.key h.score) hits _

lemma pairwise_rank (order : ScoreOrder) (hits : List Hit) :
    (rank order hits).Pairwise fun a b => order.key a.score ≤ order.key b.score :=
  rank_eq_mergeSort order hits ▸ pairwise_mergeSort_key (fun h : Hit => order.key h.score) hits

/-- What ranking and a threshold make of hits. -/
structure RanksBestFirst (order : ScoreOrder) (hits : List Hit) : Prop where
  perm : (rank order hits).Perm hits
  /-- No hit stands behind one that is worse. -/
  sorted : (rank order hits).Pairwise fun a b => order.compare a.score b.score ≠ .gt
  /-- Hits of equal scores stay in their order. -/
  stable : ∀ x, (rank order hits).filter (order.compare ·.score x = .eq) =
    hits.filter (order.compare ·.score x = .eq)
  unlimited : rankWithin order none hits = rank order hits
  within : ∀ t, rankWithin order (some t) hits = rank order (hits.filter (order.passes ·.score t))
  kept : ∀ t, (rankWithin order (some t) hits).Sublist (rank order hits)
  /-- A score passes if it reaches the threshold by value; no NaN does or is reached. -/
  passes : ∀ score t, order.passes score t = true ↔
    score.isNaN = false ∧ t.isNaN = false ∧ order.Reaches score t
  /-- Without NaNs, the hits that pass are the first ones. -/
  front : (∀ h ∈ hits, h.score.isNaN = false) →
    ∀ t, rankWithin order (some t) hits <+: rank order hits

/-- **Ranking is a stable sort, best first, and a threshold commutes with it.** -/
theorem ranksBestFirst (order : ScoreOrder) (hits : List Hit) : RanksBestFirst order hits where
  perm := List.mergeSort_perm _ _
  sorted := (pairwise_rank order hits).imp ScoreOrder.compare_ne_gt_iff.2
  stable x := by
    simp only [rank_eq_mergeSort, ScoreOrder.compare_eq_iff]
    exact filter_key_mergeSort (fun h : Hit => order.key h.score) hits _
  unlimited := rfl
  within := rankWithin_eq_rank_filter order hits
  kept _ := List.filter_sublist
  passes _ _ := ScoreOrder.passes_iff
  front hnan t := by
    refine filter_prefix_of_pairwise ?_
    refine (pairwise_rank order hits).imp_of_mem fun {a b} ha _ hab hb => ?_
    have hmem : a ∈ hits := (List.mergeSort_perm _ _).mem_iff.1 ha
    exact ScoreOrder.passes_of_key_le (hnan a hmem) hab hb

end Ranking

end AgentFlow
