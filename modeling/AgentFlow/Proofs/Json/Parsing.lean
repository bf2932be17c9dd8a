import AgentFlow.Json.Term
import AgentFlow.Proofs.Json.Lexing

/-!
The term of printed text.

From any state in which a value may begin, the machine reads the tokens of a value and hands the
value's term to the innermost open container.
-/

namespace AgentFlow.Json

/-! ### The term of a value -/

mutual

/-- The term that the text of a value holds. -/
def toTerm : Json → Term
  | .null => .null
  | .bool b => .bool b
  | .number n => .number n.literal
  | .string s => .string (some s)
  | .array items => .array (itemTerms items)
  | .object ms => .object (memberTerms ms)

def itemTerms : List Json → List Term
  | [] => []
  | v :: rest => toTerm v :: itemTerms rest

def memberTerms : List (String × Json) → List (Option String × Term)
  | [] => []
  | (k, v) :: rest => (some k, toTerm v) :: memberTerms rest

end

lemma itemTerms_eq_map (items : List Json) : itemTerms items = items.map toTerm := by
  induction items with
  | nil => rfl
  | cons v rest ih => rw [itemTerms, ih, List.map_cons]

namespace Term.Machine

/-! ### The machine -/

lemma run?_of_step {m next : Machine} {t : Token} (h : m.step? t = some next) (ts : List Token) :
    m.run? (t :: ts) = next.run? ts := by
  rw [run?, h, Option.bind_some]

/-- No value begins with the closing bracket, so a value may be the first item of an array. -/
lemma run?_firstItem (frames : List Frame) (v : Json) (ts : List Token) :
    run? ⟨frames, .firstItem⟩ (v.tokens ++ ts) = run? ⟨frames, .value⟩ (v.tokens ++ ts) := by
  have hfirst : ∀ {t : Token}, t ≠ .closeArray → ∀ rest,
      run? ⟨frames, .firstItem⟩ (t :: rest) = run? ⟨frames, .value⟩ (t :: rest) := by
    intro t ht rest
    have hstep : step? ⟨frames, .firstItem⟩ t = step? ⟨frames, .value⟩ t := by
      cases frames with
      | nil => rfl
      | cons frame frames => cases frame <;> cases t <;> first | rfl | exact absurd rfl ht
    rw [run?, run?, hstep]
  cases v <;> simp only [tokens, List.cons_append, List.nil_append] <;>
    exact hfirst (by simp) _

lemma exists_itemTokens_cons (v : Json) (items : List Json) :
    ∃ tail, itemTokens (v :: items) = v.tokens ++ tail := by
  cases items with
  | nil => exact ⟨[], by rw [itemTokens, List.append_nil]⟩
  | cons w rest => exact ⟨_, rfl⟩

lemma run?_firstItems (frames : List Frame) (v : Json) (items : List Json) (ts : List Token) :
    run? ⟨frames, .firstItem⟩ (itemTokens (v :: items) ++ ts) =
      run? ⟨frames, .value⟩ (itemTokens (v :: items) ++ ts) := by
  obtain ⟨tail, htail⟩ := exists_itemTokens_cons v items
  rw [htail, List.append_assoc, run?_firstItem]

lemma run?_name (members : List (Option String × Term)) (frames : List Frame) (k : String)
    (ts : List Token) :
    run? ⟨frames, .key members⟩ (.string (some k) :: .colon :: ts) =
      run? ⟨.object members (some k) :: frames, .value⟩ ts := by
  have hkey : step? ⟨frames, .key members⟩ (.string (some k)) =
      some ⟨frames, .colon members (some k)⟩ := by
    cases members <;> rfl
  rw [run?_of_step hkey, run?_of_step rfl]

mutual

/-- The machine reads the tokens of a value as its term. -/
lemma run?_tokens (frames : List Frame) (ts : List Token) :
    ∀ v : Json, run? ⟨frames, .value⟩ (v.tokens ++ ts) = (supply v.toTerm frames).run? ts
  | .null => run?_of_step rfl ts
  | .bool b => run?_of_step rfl ts
  | .number n => run?_of_step rfl ts
  | .string s => run?_of_step rfl ts
  | .array [] => by
    have hopen : step? ⟨frames, .value⟩ .openArray = some ⟨.array [] :: frames, .firstItem⟩ := rfl
    have hclose : step? ⟨.array [] :: frames, .firstItem⟩ .closeArray =
        some (supply (.array []) frames) := rfl
    simp only [tokens, itemTokens, List.cons_append, List.nil_append]
    rw [run?_of_step hopen, run?_of_step hclose]
    rfl
  | .array (v :: items) => by
    have hopen : step? ⟨frames, .value⟩ .openArray = some ⟨.array [] :: frames, .firstItem⟩ := rfl
    simp only [tokens, List.cons_append, List.append_assoc, List.nil_append]
    rw [run?_of_step hopen, run?_firstItems,
      run?_itemTokens [] frames (.closeArray :: ts) (v :: items) (List.cons_ne_nil v items)]
    refine (run?_of_step rfl ts).trans ?_
    simp [toTerm]
  | .object [] => by
    have hopen : step? ⟨frames, .value⟩ .openObject = some ⟨frames, .key []⟩ := rfl
    have hclose : step? ⟨frames, .key []⟩ .closeObject = some (supply (.object []) frames) := rfl
    simp only [tokens, memberTokens, List.cons_append, List.nil_append]
    rw [run?_of_step hopen, run?_of_step hclose]
    rfl
  | .object (m :: ms) => by
    have hopen : step? ⟨frames, .value⟩ .openObject = some ⟨frames, .key []⟩ := rfl
    simp only [tokens, List.cons_append, List.append_assoc, List.nil_append]
    rw [run?_of_step hopen,
      run?_memberTokens [] frames (.closeObject :: ts) (m :: ms) (List.cons_ne_nil m ms)]
    refine (run?_of_step rfl ts).trans ?_
    simp [toTerm]

lemma run?_itemTokens (found : List Term) (frames : List Frame) (ts : List Token) :
    ∀ items : List Json, items ≠ [] →
      run? ⟨.array found :: frames, .value⟩ (itemTokens items ++ ts) =
        run? ⟨.array ((itemTerms items).reverse ++ found) :: frames, .next⟩ ts
  | [], hne => absurd rfl hne
  | [v], _ => by
    rw [itemTokens, run?_tokens (.array found :: frames) ts v]
    rfl
  | v :: w :: items, _ => by
    have hcomma : step? ⟨.array (v.toTerm :: found) :: frames, .next⟩ .comma =
        some ⟨.array (v.toTerm :: found) :: frames, .value⟩ := rfl
    rw [itemTokens, List.append_assoc, List.cons_append,
      run?_tokens (.array found :: frames) _ v, supply, run?_of_step hcomma,
      run?_itemTokens (v.toTerm :: found) frames ts (w :: items) (List.cons_ne_nil w items)]
    simp [itemTerms]

lemma run?_memberTokens (found : List (Option String × Term)) (frames : List Frame)
    (ts : List Token) :
    ∀ ms : List (String × Json), ms ≠ [] →
      run? ⟨frames, .key found⟩ (memberTokens ms ++ ts) =
        run? ⟨.object ((memberTerms ms).reverse ++ found) none :: frames, .next⟩ ts
  | [], hne => absurd rfl hne
  | [(k, v)], _ => by
    rw [memberTokens, List.cons_append, List.cons_append, run?_name,
      run?_tokens (.object found (some k) :: frames) ts v]
    rfl
  | (k, v) :: m :: ms, _ => by
    have hcomma : step? ⟨.object ((some k, v.toTerm) :: found) none :: frames, .next⟩ .comma =
        some ⟨frames, .key ((some k, v.toTerm) :: found)⟩ := rfl
    simp only [memberTokens, List.cons_append, List.append_assoc]
    rw [run?_name, run?_tokens (.object found (some k) :: frames) _ v, supply, run?_of_step hcomma,
      run?_memberTokens ((some k, v.toTerm) :: found) frames ts (m :: ms) (List.cons_ne_nil m ms)]
    simp [memberTerms]

end

end Term.Machine

lemma term_of_tokens {text : List Char} {v : Json} (h : tokens? text = some v.tokens) :
    Term.parse? text = some v.toTerm := by
  have hrun := Term.Machine.run?_tokens [] [] v
  rw [List.append_nil] at hrun
  simp [Term.parse?, h, hrun, Term.Machine.supply, Term.Machine.run?, Term.Machine.result?]

/-- **Pretty text holds the term of its value.** -/
theorem term_prettyAt (v : Json) (level : ℕ) :
    Term.parse? (v.prettyAt level) = some v.toTerm :=
  term_of_tokens (tokens?_prettyAt v level)

/-- So does compact text. -/
theorem term_compact (v : Json) : Term.parse? v.compact = some v.toTerm :=
  term_of_tokens (tokens?_compact v)

end AgentFlow.Json
