import AgentFlow.Json.Basic

/-!
Objects of free-form data: maps from names to values, held sorted by name.

Names are ordered by their characters, which is also the order of their UTF-8 bytes.
-/

namespace AgentFlow.Json

/-- Whether the names of the members rise from each member to every later one. -/
def Sorted (ms : List (String × Json)) : Prop := ms.Pairwise fun a b => a.1 < b.1

/-- Puts a member in its place; a member of that name is replaced. -/
def insertMember (key : String) (v : Json) : List (String × Json) → List (String × Json)
  | [] => [(key, v)]
  | (k, w) :: rest =>
    if key < k then (key, v) :: (k, w) :: rest
    else if key = k then (key, v) :: rest
    else (k, w) :: insertMember key v rest

theorem mem_insertMember {key : String} {v : Json} {ms : List (String × Json)} {m : String × Json}
    (h : m ∈ insertMember key v ms) : m = (key, v) ∨ m ∈ ms := by
  induction ms with
  | nil => simpa [insertMember] using h
  | cons a rest ih =>
    obtain ⟨k, w⟩ := a
    unfold insertMember at h
    split at h
    · simpa using h
    · split at h
      · rcases List.mem_cons.1 h with h | h
        · exact .inl h
        · exact .inr (List.mem_cons_of_mem _ h)
      · rcases List.mem_cons.1 h with h | h
        · exact .inr (h ▸ List.mem_cons_self)
        · exact (ih h).imp_right (List.mem_cons_of_mem _)

theorem Sorted.insertMember {key : String} {v : Json} {ms : List (String × Json)}
    (h : Sorted ms) : Sorted (insertMember key v ms) := by
  induction ms with
  | nil => simp [Json.insertMember, Sorted]
  | cons a rest ih =>
    obtain ⟨k, w⟩ := a
    obtain ⟨hk, hrest⟩ := List.pairwise_cons.1 h
    unfold Json.insertMember
    split
    · next hlt =>
      refine List.pairwise_cons.2 ⟨fun m hm => ?_, h⟩
      rcases List.mem_cons.1 hm with rfl | hm
      · exact hlt
      · exact String.lt_trans hlt (hk m hm)
    · split
      · next heq => exact List.pairwise_cons.2 ⟨fun m hm => heq ▸ hk m hm, hrest⟩
      · next hlt hne =>
        refine List.pairwise_cons.2 ⟨fun m hm => ?_, ih hrest⟩
        rcases mem_insertMember hm with rfl | hm
        · exact Decidable.byContradiction fun h =>
            hne (String.le_antisymm (String.not_lt.1 h) (String.not_lt.1 hlt))
        · exact hk m hm

theorem lookup_insertMember (key name : String) (v : Json) (ms : List (String × Json)) :
    (insertMember key v ms).lookup name = if name = key then some v else ms.lookup name := by
  induction ms with
  | nil =>
    rw [Json.insertMember, List.lookup_cons]
    split <;> simp_all
  | cons a rest ih =>
    obtain ⟨k, w⟩ := a
    unfold Json.insertMember
    split
    · rw [List.lookup_cons]
      split <;> simp_all
    · split
      · next hk =>
        subst hk
        simp only [List.lookup_cons]
        split <;> simp_all
      · next hk =>
        simp only [List.lookup_cons, ih]
        split
        · next hname => rw [if_neg (fun h : name = key => hk (h.symm.trans (eq_of_beq hname)))]
        · rfl

theorem filter_insertMember {key : String} (v : Json) {p : String → Bool} (hp : p key = false)
    (ms : List (String × Json)) :
    (insertMember key v ms).filter (fun m => p m.1) = ms.filter fun m => p m.1 := by
  induction ms with
  | nil => simp [Json.insertMember, hp]
  | cons a rest ih =>
    obtain ⟨k, w⟩ := a
    unfold Json.insertMember
    split
    · simp [hp]
    · split
      · next hk => simp [hp, ← hk]
      · simp only [List.filter_cons, ih]

/-- A map from names to values. -/
structure Object where
  entries : List (String × Json)
  sorted : Sorted entries

namespace Object

theorem ext_entries {o p : Object} (h : o.entries = p.entries) : o = p := by
  cases o; cases p; cases h; rfl

instance : DecidableEq Object := fun o p =>
  if h : o.entries = p.entries then isTrue (ext_entries h) else isFalse fun e => h (e ▸ rfl)

def empty : Object := ⟨[], .nil⟩

instance : Inhabited Object := ⟨empty⟩

def isEmpty (o : Object) : Bool := o.entries.isEmpty

def keys (o : Object) : List String := o.entries.map Prod.fst

def get? (o : Object) (key : String) : Option Json := o.entries.lookup key

def insert (o : Object) (key : String) (v : Json) : Object :=
  ⟨insertMember key v o.entries, o.sorted.insertMember⟩

/-- Keeps the entries whose names satisfy `p`. -/
def filterKeys (o : Object) (p : String → Bool) : Object :=
  ⟨o.entries.filter fun e => p e.1, o.sorted.filter _⟩

def erase (o : Object) (key : String) : Object := o.filterKeys (· ≠ key)

/-- Inserts members from first to last, so that the last of one name stays. -/
def ofMembers (ms : List (String × Json)) : Object :=
  ms.foldl (fun o (k, v) => o.insert k v) empty

/-- Adds the entries of `p`, which win over those of `o`. -/
def extend (o p : Object) : Object := p.entries.foldl (fun o (k, v) => o.insert k v) o

def insert? (o : Object) (key : String) : Option Json → Object
  | none => o
  | some v => o.insert key v

def toJson (o : Object) : Json := .object o.entries

@[simp] theorem get?_insert (o : Object) (key name : String) (v : Json) :
    (o.insert key v).get? name = if name = key then some v else o.get? name :=
  lookup_insertMember key name v o.entries

@[simp] theorem get?_filterKeys (o : Object) (p : String → Bool) (name : String) :
    (o.filterKeys p).get? name = if p name then o.get? name else none := by
  obtain ⟨entries, sorted⟩ := o
  simp only [filterKeys, get?]
  clear sorted
  induction entries with
  | nil => simp
  | cons m ms ih =>
    obtain ⟨k, v⟩ := m
    by_cases hname : name = k
    · subst hname
      by_cases hp : p name <;> simp [hp, ih]
    · have hbeq : (name == k) = false := beq_false_of_ne hname
      by_cases hp : p k <;> simp [List.lookup_cons, hp, hbeq, ih]

theorem filterKeys_insert (o : Object) {key : String} (v : Json) {p : String → Bool}
    (hp : p key = false) : (o.insert key v).filterKeys p = o.filterKeys p :=
  ext_entries (filter_insertMember v hp o.entries)

@[simp] theorem filterKeys_true (o : Object) : o.filterKeys (fun _ => true) = o :=
  ext_entries (by simp [filterKeys])

theorem filterKeys_filterKeys (o : Object) (p q : String → Bool) :
    (o.filterKeys p).filterKeys q = o.filterKeys fun key => p key && q key :=
  ext_entries (by simp [filterKeys, Bool.and_comm])

@[simp] theorem filterKeys_self (o : Object) (p : String → Bool) :
    (o.filterKeys p).filterKeys p = o.filterKeys p := by
  rw [filterKeys_filterKeys]
  simp only [Bool.and_self]

end Object

end AgentFlow.Json
