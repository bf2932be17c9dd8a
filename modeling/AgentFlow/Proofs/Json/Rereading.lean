import AgentFlow.Proofs.Json.Values

/-!
Values as they are read back.

The text of a value gives the value back but for its numbers, which are rounded once more, as long
as its containers nest no deeper than the reader follows them.
-/

namespace AgentFlow

namespace Json

/-! ### Numbers of a value -/

mutual

/-- The numbers that stand in a value. -/
def numbers : Json → List Number
  | .number n => [n]
  | .array items => itemNumbers items
  | .object ms => memberNumbers ms
  | .null | .bool _ | .string _ => []

def itemNumbers : List Json → List Number
  | [] => []
  | v :: rest => numbers v ++ itemNumbers rest

def memberNumbers : List (String × Json) → List Number
  | [] => []
  | (_, v) :: rest => numbers v ++ memberNumbers rest

end

/-- Every number of the value reads back. -/
def Legible (v : Json) : Prop := ∀ n ∈ v.numbers, n.ReadsBack

lemma mem_itemNumbers {n : Number} {items : List Json} :
    n ∈ itemNumbers items ↔ ∃ v ∈ items, n ∈ v.numbers := by
  induction items with
  | nil => simp [itemNumbers]
  | cons v rest ih => simp [itemNumbers, ih]

lemma mem_memberNumbers {n : Number} {ms : List (String × Json)} :
    n ∈ memberNumbers ms ↔ ∃ m ∈ ms, n ∈ m.2.numbers := by
  induction ms with
  | nil => simp [memberNumbers]
  | cons m rest ih => obtain ⟨k, v⟩ := m; simp [memberNumbers, ih]

lemma Legible.item {items : List Json} (h : (array items).Legible) : ∀ v ∈ items, v.Legible :=
  fun v hv n hn => h n (mem_itemNumbers.2 ⟨v, hv, hn⟩)

lemma Legible.member {ms : List (String × Json)} (h : (object ms).Legible) :
    ∀ m ∈ ms, m.2.Legible :=
  fun m hm n hn => h n (mem_memberNumbers.2 ⟨m, hm, hn⟩)

lemma Legible.number {n : Number} (h : (number n).Legible) : n.ReadsBack :=
  h n List.mem_cons_self

lemma Canonical.inRange {depth : ℕ} {v : Json} (h : Canonical depth v) :
    ∀ n ∈ v.numbers, n.InRange := by
  induction h with
  | null | bool | string => simp [numbers]
  | number depth h => simpa [numbers] using h
  | array h ih =>
    intro n hn
    obtain ⟨v, hv, hn⟩ := mem_itemNumbers.1 hn
    exact ih v hv n hn
  | object hs h ih =>
    intro n hn
    obtain ⟨m, hm, hn⟩ := mem_memberNumbers.1 hn
    exact ih m hm n hn

/-! ### Rereading -/

namespace Number

/-- The number that the literal of a number denotes. -/
def reread (n : Number) : Number := n.literal.toNumber?.getD n

lemma toNumber?_literal {n : Number} (h : n.InRange) : n.literal.toNumber? = some n.reread := by
  have hsome : n.literal.toNumber?.isSome = true := by
    cases n with
    | int n =>
      have hread := readsBack_int h
      rw [ReadsBack, ofChars?_chars, Option.bind_some] at hread
      rw [hread]
      rfl
    | real x =>
      obtain ⟨y, hy⟩ := exists_toNumber?_literal h
      rw [hy]
      rfl
  obtain ⟨m, hm⟩ := Option.isSome_iff_exists.1 hsome
  rw [reread, hm, Option.getD_some]

lemma inRange_reread {n : Number} (h : n.InRange) : n.reread.InRange :=
  Numeral.inRange_of_toNumber? (toNumber?_literal h)

lemma ReadsBack.reread_eq {n : Number} (h : n.ReadsBack) : n.reread = n := by
  rw [ReadsBack, ofChars?_chars, Option.bind_some] at h
  rw [reread, h, Option.getD_some]

end Number

mutual

/-- The value with its numbers as they are read back. -/
def reread : Json → Json
  | .null => .null
  | .bool b => .bool b
  | .number n => .number n.reread
  | .string s => .string s
  | .array items => .array (rereadItems items)
  | .object ms => .object (rereadMembers ms)

def rereadItems : List Json → List Json
  | [] => []
  | v :: rest => reread v :: rereadItems rest

def rereadMembers : List (String × Json) → List (String × Json)
  | [] => []
  | (k, v) :: rest => (k, reread v) :: rereadMembers rest

end

lemma rereadItems_eq_map (items : List Json) : rereadItems items = items.map reread := by
  induction items with
  | nil => rfl
  | cons v rest ih => rw [rereadItems, ih, List.map_cons]

lemma rereadMembers_eq_map (ms : List (String × Json)) :
    rereadMembers ms = ms.map (Prod.map id reread) := by
  induction ms with
  | nil => rfl
  | cons m rest ih => rw [rereadMembers, ih, List.map_cons]; rfl

lemma Sorted.rereadMembers {ms : List (String × Json)} (h : Sorted ms) :
    Sorted (rereadMembers ms) := by
  rw [rereadMembers_eq_map]
  exact List.pairwise_map.2 h

mutual

lemma Legible.reread_eq : ∀ {v : Json}, v.Legible → v.reread = v
  | .null, _ => rfl
  | .bool _, _ => rfl
  | .number n, h => by rw [reread, h.number.reread_eq]
  | .string _, _ => rfl
  | .array items, h => by rw [reread, rereadItems_eq_self h.item]
  | .object ms, h => by rw [reread, rereadMembers_eq_self h.member]

lemma rereadItems_eq_self : ∀ {items : List Json}, (∀ v ∈ items, v.Legible) →
    rereadItems items = items
  | [], _ => rfl
  | v :: rest, h => by
    have hv : v.reread = v := (h v List.mem_cons_self).reread_eq
    rw [rereadItems, hv, rereadItems_eq_self fun w hw => h w (List.mem_cons_of_mem _ hw)]

lemma rereadMembers_eq_self : ∀ {ms : List (String × Json)}, (∀ m ∈ ms, m.2.Legible) →
    rereadMembers ms = ms
  | [], _ => rfl
  | (k, v) :: rest, h => by
    have hv : v.reread = v := (h (k, v) List.mem_cons_self).reread_eq
    rw [rereadMembers, hv, rereadMembers_eq_self fun m hm => h m (List.mem_cons_of_mem _ hm)]

end

def Object.reread (o : Object) : Object := ⟨rereadMembers o.entries, o.sorted.rereadMembers⟩

lemma Object.reread_eq {o : Object} (h : o.toJson.Legible) : o.reread = o :=
  ext_entries (rereadMembers_eq_self h.member)

/-! ### Nesting -/

mutual

/-- How deep the containers of a value nest. -/
def nesting : Json → ℕ
  | .array items => itemNesting items + 1
  | .object ms => memberNesting ms + 1
  | .null | .bool _ | .number _ | .string _ => 0

def itemNesting : List Json → ℕ
  | [] => 0
  | v :: rest => max (nesting v) (itemNesting rest)

def memberNesting : List (String × Json) → ℕ
  | [] => 0
  | (_, v) :: rest => max (nesting v) (memberNesting rest)

end

lemma itemNesting_le_iff {items : List Json} {depth : ℕ} :
    itemNesting items ≤ depth ↔ ∀ v ∈ items, v.nesting ≤ depth := by
  induction items with
  | nil => simp [itemNesting]
  | cons v rest ih => simp [itemNesting, ih]

lemma memberNesting_le_iff {ms : List (String × Json)} {depth : ℕ} :
    memberNesting ms ≤ depth ↔ ∀ m ∈ ms, m.2.nesting ≤ depth := by
  induction ms with
  | nil => simp [memberNesting]
  | cons m rest ih => obtain ⟨k, v⟩ := m; simp [memberNesting, ih]

/-- A value that some text can hold, however deep its containers nest. -/
def WellFormed (v : Json) : Prop := ∃ depth, Canonical depth v

/-- A well-formed value is canonical as far down as it nests, and no farther. -/
lemma canonical_iff {depth : ℕ} {v : Json} :
    Canonical depth v ↔ v.WellFormed ∧ v.nesting ≤ depth := by
  constructor
  · intro h
    refine ⟨⟨depth, h⟩, ?_⟩
    induction h with
    | null | bool | number | string => exact Nat.zero_le _
    | array h ih =>
      rw [nesting, Nat.add_le_add_iff_right]
      exact itemNesting_le_iff.2 ih
    | object hs h ih =>
      rw [nesting, Nat.add_le_add_iff_right]
      exact memberNesting_le_iff.2 ih
  · rintro ⟨⟨_, h⟩, hnesting⟩
    induction h generalizing depth with
    | null => exact .null depth
    | bool _ b => exact .bool depth b
    | number _ h => exact .number depth h
    | string _ s => exact .string depth s
    | array h ih =>
      obtain ⟨d, rfl⟩ : ∃ d, depth = d + 1 := ⟨depth - 1, by rw [nesting] at hnesting; omega⟩
      rw [nesting, Nat.add_le_add_iff_right, itemNesting_le_iff] at hnesting
      exact .array fun v hv => ih v hv (hnesting v hv)
    | object hs h ih =>
      obtain ⟨d, rfl⟩ : ∃ d, depth = d + 1 := ⟨depth - 1, by rw [nesting] at hnesting; omega⟩
      rw [nesting, Nat.add_le_add_iff_right, memberNesting_le_iff] at hnesting
      exact .object hs fun m hm => ih m hm (hnesting m hm)

namespace Term

/-! ### The term of a value -/

lemma itemsToJson?_itemTerms {depth : ℕ} {items : List Json}
    (h : ∀ v ∈ items, v.toTerm.toJson? depth = some v.reread) :
    itemsToJson? depth (itemTerms items) = some (rereadItems items) := by
  induction items with
  | nil => rfl
  | cons v rest ih =>
    rw [itemTerms, itemsToJson?, h v List.mem_cons_self,
      ih fun w hw => h w (List.mem_cons_of_mem _ hw)]
    rfl

lemma membersToJson?_memberTerms {depth : ℕ} {ms : List (String × Json)}
    (h : ∀ m ∈ ms, m.2.toTerm.toJson? depth = some m.2.reread) :
    membersToJson? depth (memberTerms ms) = some (rereadMembers ms) := by
  induction ms with
  | nil => rfl
  | cons m rest ih =>
    obtain ⟨k, v⟩ := m
    have hv : v.toTerm.toJson? depth = some v.reread := h (k, v) List.mem_cons_self
    rw [memberTerms, membersToJson?, hv, ih fun w hw => h w (List.mem_cons_of_mem _ hw)]
    rfl

/-- The term of a canonical value denotes it, but for its numbers. -/
lemma toJson?_toTerm {depth : ℕ} {v : Json} (h : Canonical depth v) :
    v.toTerm.toJson? depth = some v.reread := by
  induction h with
  | null | bool | string => rfl
  | number depth h =>
    rw [toTerm, toJson?, Number.toNumber?_literal h]
    rfl
  | array h ih =>
    rw [toTerm, toJson?, itemsToJson?_itemTerms ih]
    rfl
  | object hs h ih =>
    rw [toTerm, toJson?, membersToJson?_memberTerms ih, Option.map_some, Object.toJson,
      entries_ofMembers hs.rereadMembers, reread]

mutual

/-- Where containers may nest no deeper, no deeper value is read. -/
lemma nesting_le_of_toJson? : ∀ {v w : Json} {depth : ℕ},
    v.toTerm.toJson? depth = some w → v.nesting ≤ depth
  | .null, _, _, _ => Nat.zero_le _
  | .bool _, _, _, _ => Nat.zero_le _
  | .number _, _, _, _ => Nat.zero_le _
  | .string _, _, _, _ => Nat.zero_le _
  | .array items, _, 0, h => by cases h
  | .array items, _, d + 1, h => by
    obtain ⟨vs, hvs, -⟩ := Option.map_eq_some_iff.1 h
    rw [nesting, Nat.add_le_add_iff_right]
    exact itemNesting_le_of_itemsToJson? hvs
  | .object ms, _, 0, h => by cases h
  | .object ms, _, d + 1, h => by
    obtain ⟨vs, hvs, -⟩ := Option.map_eq_some_iff.1 h
    rw [nesting, Nat.add_le_add_iff_right]
    exact memberNesting_le_of_membersToJson? hvs

lemma itemNesting_le_of_itemsToJson? : ∀ {items vs : List Json} {depth : ℕ},
    itemsToJson? depth (itemTerms items) = some vs → itemNesting items ≤ depth
  | [], _, _, _ => Nat.zero_le _
  | v :: rest, _, depth, h => by
    simp only [itemTerms, itemsToJson?, bind, Option.bind_eq_some_iff] at h
    obtain ⟨w, hw, ws, hws, -⟩ := h
    exact max_le (nesting_le_of_toJson? hw) (itemNesting_le_of_itemsToJson? hws)

lemma memberNesting_le_of_membersToJson? :
    ∀ {ms vs : List (String × Json)} {depth : ℕ},
      membersToJson? depth (memberTerms ms) = some vs → memberNesting ms ≤ depth
  | [], _, _, _ => Nat.zero_le _
  | (k, v) :: rest, _, depth, h => by
    simp only [memberTerms, membersToJson?, bind, Option.bind_eq_some_iff] at h
    obtain ⟨_, -, w, hw, ws, hws, -⟩ := h
    exact max_le (nesting_le_of_toJson? hw) (memberNesting_le_of_membersToJson? hws)

end

end Term

/-- A text that holds the term of a well-formed value is read as this value, but for its numbers,
exactly if the containers of the value nest no deeper than the limit. -/
lemma parse?_of_term {text : String} {v : Json} (h : v.WellFormed)
    (hterm : Term.parse? text.toList = some v.toTerm) :
    parse? text = if v.nesting ≤ depthLimit then some v.reread else none := by
  rw [parse?, hterm, Option.bind_some]
  split
  · next hle => exact Term.toJson?_toTerm (canonical_iff.2 ⟨h, hle⟩)
  · next hgt =>
    rw [Option.eq_none_iff_forall_ne_some]
    exact fun w hw => hgt (Term.nesting_le_of_toJson? hw)

/-- **Printing and reading back**: a well-formed value is read back from its pretty text, but for
its numbers, exactly if its containers nest no deeper than the limit. -/
theorem parse?_toPrettyText {v : Json} (h : v.WellFormed) :
    parse? v.toPrettyText = if v.nesting ≤ depthLimit then some v.reread else none := by
  refine parse?_of_term h ?_
  rw [toPrettyText, String.toList_ofList, term_prettyAt]

/-- It is read back in the same way from its compact text. -/
theorem parse?_toText {v : Json} (h : v.WellFormed) :
    parse? v.toText = if v.nesting ≤ depthLimit then some v.reread else none := by
  refine parse?_of_term h ?_
  rw [toText, String.toList_ofList, term_compact]

end Json

/-! ### Numbers of the binary64 format -/

namespace Binary64

open Json (Number)

/-- The number as it is read back from its text; one that is not finite has none. -/
def reread (x : Binary64) : Binary64 :=
  if x.isFinite then (Number.real x).reread.toBinary64 else x

lemma reread_real {x : Binary64} (hx : x.isFinite = true) :
    (Number.real x).reread = .real x.reread := by
  obtain ⟨y, hy⟩ := Number.exists_toNumber?_literal hx
  rw [reread, if_pos hx, Number.reread, hy]
  rfl

lemma isFinite_reread (x : Binary64) : x.reread.isFinite = x.isFinite := by
  by_cases hx : x.isFinite = true
  · have hrange := Number.inRange_reread (n := .real x) hx
    rw [reread_real hx] at hrange
    rw [hx]
    exact hrange
  · rw [reread, if_neg hx]

/-- A number in a value is read back as the number that stands in the value that is read back. -/
lemma reread_ofBinary64 (x : Binary64) :
    (Json.ofBinary64 x).reread = Json.ofBinary64 x.reread := by
  unfold Json.ofBinary64
  rw [isFinite_reread]
  split
  · next hx => rw [Json.reread, reread_real hx]
  · rfl

lemma reread_eq {x : Binary64} (h : (Json.ofBinary64 x).Legible) : x.reread = x := by
  by_cases hx : x.isFinite = true
  · rw [Json.ofBinary64, if_pos hx] at h
    rw [reread, if_pos hx, h.number.reread_eq]
    rfl
  · rw [reread, if_neg hx]

end Binary64

end AgentFlow
