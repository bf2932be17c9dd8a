import AgentFlow.Json.Term
import AgentFlow.Proofs.Decimal.Rounding
import AgentFlow.Proofs.Json.Parsing

/-!
Values that stand in a text.

What a term denotes is canonical: its numbers are in range, the names of its objects rise and its
containers do not nest too deep.
-/

namespace AgentFlow.Json

/-! ### The range of literals -/

namespace Numeral

lemma gather_lt {n : ℕ} (hn : n < pow2 64) (ds : List Char) : (gather n ds).1 < pow2 64 := by
  induction ds generalizing n with
  | nil => exact hn
  | cons d ds ih =>
    unfold gather
    dsimp only
    split
    · next h => exact ih h
    · exact hn

lemma magnitude_ofNat_le {n : ℕ} (hn : n < pow2 64) :
    (Binary64.ofNat n).magnitude ≤ (64 + 1023) * pow2 52 := by
  refine Binary64.magnitude_ofRatio_le false one_pos ?_
  rw [Nat.cast_one, div_one, ← cast_pow2]
  exact_mod_cast hn

lemma le_magnitude_pow10 (k : ℕ) : 1023 * pow2 52 ≤ (Binary64.ofNat (pow10 k)).magnitude :=
  Binary64.le_magnitude_ofRatio false one_pos (Nat.pow_pos (by omega))

/-- Scaling a row of digits overflows nowhere: a product too large is refused, and quotients only
get smaller. -/
lemma isFinite_of_scaled {n : ℕ} (hn : n < pow2 64) {exponent : ℤ} {y : Binary64}
    (h : scaled (.ofNat n) exponent = some y) : y.isFinite = true := by
  have hx := magnitude_ofNat_le hn
  unfold scaled at h
  split at h
  · split at h
    · cases h
      exact Binary64.isFinite_of_magnitude_le hx (by omega)
    · cases h
  split at h
  · dsimp only at h
    split at h
    · cases h
    · next hfinite =>
      cases h
      exact Binary64.isFinite_ofRatio hfinite
  split at h
  · cases h
    exact Binary64.isFinite_of_magnitude_le
      (Binary64.magnitude_div_le hx (le_magnitude_pow10 _)) (by omega)
  split at h
  · cases h
    have honce := Binary64.magnitude_div_le hx (le_magnitude_pow10 308)
    exact Binary64.isFinite_of_magnitude_le
      (Binary64.magnitude_div_le honce (le_magnitude_pow10 _)) (by omega)
  · cases h
    decide

lemma inRange_of_integer? {literal : Numeral} {i : ℤ} (h : literal.integer? = some i) :
    (Number.int i).InRange := by
  have h63 : pow2 63 = 9223372036854775808 := rfl
  have h64 : pow2 64 = 18446744073709551616 := rfl
  unfold integer? at h
  dsimp only at h
  simp only [Number.InRange]
  split at h
  · cases h
  split at h
  · split at h
    · cases h
      omega
    · cases h
  · split at h
    · cases h
      omega
    · cases h

/-- **Literals denote numbers in range**: an integer of sixty-four bits, or a finite number. -/
theorem inRange_of_toNumber? {literal : Numeral} {n : Number} (h : literal.toNumber? = some n) :
    n.InRange := by
  unfold toNumber? at h
  split at h
  · next hint =>
    cases h
    exact inRange_of_integer? hint
  · obtain ⟨x, hx, rfl⟩ := Option.map_eq_some_iff.1 h
    have hlead : (gather 0 literal.whole).1 < pow2 64 := gather_lt (Nat.pow_pos (by omega)) _
    have hfinite : x.isFinite = true := isFinite_of_scaled (gather_lt hlead _) hx
    simp only [Number.InRange]
    split
    · exact Binary64.isFinite_negate hfinite
    · exact hfinite

end Numeral

lemma Number.InRange.isFinite_toBinary64 {n : Number} (h : n.InRange) :
    n.toBinary64.isFinite = true := by
  cases n with
  | real x => exact h
  | int i =>
    obtain ⟨hlow, hhigh⟩ := h
    have h63 : pow2 63 = 9223372036854775808 := rfl
    have h64 : pow2 64 = 18446744073709551616 := rfl
    have hsize : i.natAbs < pow2 64 := by omega
    refine Binary64.isFinite_of_magnitude_le (k := 64) ?_ (by omega)
    refine Binary64.magnitude_ofRatio_le _ one_pos ?_
    rw [Nat.cast_one, div_one, ← cast_pow2]
    exact_mod_cast hsize

/-! ### Canonical values -/

/-- A value that a text can hold at a place where containers may nest `depth` deep. -/
inductive Canonical : ℕ → Json → Prop where
  | null (depth : ℕ) : Canonical depth .null
  | bool (depth : ℕ) (b : Bool) : Canonical depth (.bool b)
  | number (depth : ℕ) {n : Number} (h : n.InRange) : Canonical depth (.number n)
  | string (depth : ℕ) (s : String) : Canonical depth (.string s)
  | array {depth : ℕ} {items : List Json} (h : ∀ v ∈ items, Canonical depth v) :
      Canonical (depth + 1) (.array items)
  | object {depth : ℕ} {ms : List (String × Json)} (hs : Sorted ms)
      (h : ∀ m ∈ ms, Canonical depth m.2) : Canonical (depth + 1) (.object ms)

/-! ### Objects in order -/

lemma sorted_of_keys {ms : List (String × Json)} (h : (ms.map Prod.fst).Pairwise (· < ·)) :
    Sorted ms :=
  List.pairwise_map.1 h

lemma insertMember_of_last {key : String} {v : Json} {ms : List (String × Json)}
    (h : ∀ m ∈ ms, m.1 < key) : insertMember key v ms = ms ++ [(key, v)] := by
  induction ms with
  | nil => rfl
  | cons m rest ih =>
    obtain ⟨k, w⟩ := m
    have hk : k < key := h (k, w) List.mem_cons_self
    have hne : key ≠ k := fun heq => String.lt_irrefl k (heq ▸ hk)
    rw [insertMember, if_neg (String.lt_asymm hk), if_neg hne,
      ih fun m hm => h m (List.mem_cons_of_mem _ hm), List.cons_append]

lemma entries_foldl_insert (o : Object) {ms : List (String × Json)}
    (h : Sorted (o.entries ++ ms)) :
    (ms.foldl (fun o (k, v) => o.insert k v) o).entries = o.entries ++ ms := by
  induction ms generalizing o with
  | nil => simp
  | cons m rest ih =>
    obtain ⟨k, v⟩ := m
    have hlast : ∀ e ∈ o.entries, e.1 < k := fun e he =>
      (List.pairwise_append.1 h).2.2 e he (k, v) List.mem_cons_self
    have hinsert : (o.insert k v).entries = o.entries ++ [(k, v)] := insertMember_of_last hlast
    rw [List.foldl_cons, ih (o.insert k v) (by rw [hinsert]; simpa using h), hinsert]
    simp

lemma entries_ofMembers {ms : List (String × Json)} (h : Sorted ms) :
    (Object.ofMembers ms).entries = ms :=
  entries_foldl_insert .empty h

/-- Under the name of a member stands its value, and no other. -/
lemma Sorted.lookup_eq_some_iff {ms : List (String × Json)} (h : Sorted ms) {key : String}
    {v : Json} : ms.lookup key = some v ↔ (key, v) ∈ ms := by
  constructor
  · intro hlookup
    obtain ⟨before, rest, rfl, -⟩ := List.lookup_eq_some_iff.1 hlookup
    simp
  · intro hmem
    obtain ⟨before, rest, rfl⟩ := List.append_of_mem hmem
    refine List.lookup_eq_some_iff.2 ⟨before, rest, rfl, fun m hm => bne_iff_ne.2 fun heq => ?_⟩
    have hlt : m.1 < key := (List.pairwise_append.1 h).2.2 m hm (key, v) List.mem_cons_self
    exact String.lt_irrefl key (heq ▸ hlt)

lemma mem_of_mem_foldl_insert {o : Object} {ms : List (String × Json)} {m : String × Json}
    (h : m ∈ (ms.foldl (fun o (k, v) => o.insert k v) o).entries) : m ∈ o.entries ∨ m ∈ ms := by
  induction ms generalizing o with
  | nil => exact .inl h
  | cons a rest ih =>
    rcases ih h with h | h
    · rcases mem_insertMember h with rfl | h
      · exact .inr List.mem_cons_self
      · exact .inl h
    · exact .inr (List.mem_cons_of_mem _ h)

lemma mem_of_mem_ofMembers {ms : List (String × Json)} {m : String × Json}
    (h : m ∈ (Object.ofMembers ms).entries) : m ∈ ms :=
  (mem_of_mem_foldl_insert h).resolve_left List.not_mem_nil

/-! ### What terms denote -/

namespace Term

mutual

lemma canonical_of_toJson? : ∀ {t : Term} {depth : ℕ} {v : Json},
    t.toJson? depth = some v → Canonical depth v
  | .null, _, _, h => by cases h; exact .null _
  | .bool b, _, _, h => by cases h; exact .bool _ b
  | .number literal, _, _, h => by
    obtain ⟨n, hn, rfl⟩ := Option.map_eq_some_iff.1 h
    exact .number _ (Numeral.inRange_of_toNumber? hn)
  | .string s, _, _, h => by
    obtain ⟨s, -, rfl⟩ := Option.map_eq_some_iff.1 h
    exact .string _ s
  | .array items, 0, _, h => by cases h
  | .array items, d + 1, _, h => by
    obtain ⟨vs, hvs, rfl⟩ := Option.map_eq_some_iff.1 h
    exact .array (canonical_of_itemsToJson? hvs)
  | .object ms, 0, _, h => by cases h
  | .object ms, d + 1, _, h => by
    obtain ⟨vs, hvs, rfl⟩ := Option.map_eq_some_iff.1 h
    exact .object (Object.ofMembers vs).sorted fun m hm =>
      canonical_of_membersToJson? hvs m (mem_of_mem_ofMembers hm)

lemma canonical_of_itemsToJson? : ∀ {items : List Term} {depth : ℕ} {vs : List Json},
    itemsToJson? depth items = some vs → ∀ v ∈ vs, Canonical depth v
  | [], _, _, h => by cases h; simp
  | t :: ts, depth, _, h => by
    simp only [itemsToJson?, bind, Option.bind_eq_some_iff, pure, Option.some.injEq] at h
    obtain ⟨v, hv, vs, hvs, rfl⟩ := h
    intro w hw
    rcases List.mem_cons.1 hw with rfl | hw
    · exact canonical_of_toJson? hv
    · exact canonical_of_itemsToJson? hvs w hw

lemma canonical_of_membersToJson? :
    ∀ {ms : List (Option String × Term)} {depth : ℕ} {vs : List (String × Json)},
      membersToJson? depth ms = some vs → ∀ m ∈ vs, Canonical depth m.2
  | [], _, _, h => by cases h; simp
  | (k, t) :: ms, depth, _, h => by
    simp only [membersToJson?, bind, Option.bind_eq_some_iff, pure, Option.some.injEq] at h
    obtain ⟨key, -, v, hv, vs, hvs, rfl⟩ := h
    intro w hw
    rcases List.mem_cons.1 hw with rfl | hw
    · exact canonical_of_toJson? hv
    · exact canonical_of_membersToJson? hvs w hw

end

lemma toJson?_eq_null {t : Term} {depth : ℕ} : t.toJson? depth = some .null ↔ t = .null := by
  constructor
  · intro h
    cases t with
    | null => rfl
    | bool => cases h
    | number | string =>
      obtain ⟨_, -, h⟩ := Option.map_eq_some_iff.1 h
      cases h
    | array | object =>
      cases depth with
      | zero => cases h
      | succ d =>
        obtain ⟨_, -, h⟩ := Option.map_eq_some_iff.1 h
        cases h
  · rintro rfl
    rfl

end Term

/-- What is read from a text is canonical. -/
lemma canonical_of_parse? {text : String} {v : Json} (h : parse? text = some v) :
    Canonical depthLimit v := by
  obtain ⟨t, -, ht⟩ := Option.bind_eq_some_iff.1 h
  exact Term.canonical_of_toJson? ht

end AgentFlow.Json
