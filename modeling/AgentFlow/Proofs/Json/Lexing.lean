import AgentFlow.Proofs.Json.Quotes
import AgentFlow.Proofs.Json.Reals

/-!
The tokens of compact text and of pretty text.

A value is written as its tokens; pretty text has blanks between them. A literal ends where a character follows
that no literal has, so the text of a value may stand before anything that does not begin with one.
-/

namespace AgentFlow.Json

/-! ### Tokens of a value -/

mutual

/-- The tokens that a value is written as. -/
def tokens : Json → List Token
  | .null => [.null]
  | .bool b => [.bool b]
  | .number n => [.number n.literal]
  | .string s => [.string (some s)]
  | .array items => .openArray :: itemTokens items ++ [.closeArray]
  | .object ms => .openObject :: memberTokens ms ++ [.closeObject]

def itemTokens : List Json → List Token
  | [] => []
  | [v] => tokens v
  | v :: w :: rest => tokens v ++ .comma :: itemTokens (w :: rest)

def memberTokens : List (String × Json) → List Token
  | [] => []
  | [(k, v)] => .string (some k) :: .colon :: tokens v
  | (k, v) :: m :: rest =>
    .string (some k) :: .colon :: tokens v ++ .comma :: memberTokens (m :: rest)

end

namespace Token

/-! ### Words -/

/-- A literal may end before the text. -/
def Ends (cs : List Char) : Prop := ∀ c ∈ cs.head?, isWordChar c = false

lemma ends_nil : Ends [] := fun c hc => by cases hc

lemma ends_cons {c : Char} {cs : List Char} (h : isWordChar c = false) : Ends (c :: cs) := by
  intro d hd
  cases hd
  exact h

lemma ends_lineBreak (level : ℕ) (cs : List Char) : Ends (lineBreak level ++ cs) :=
  ends_cons (by decide)

lemma enter?_word {c : Char} (done : List Token) (h : isWordChar c = true) :
    enter? done c = some (.word [c], done) := by
  have hspace : isSpace c = false := by
    rw [Bool.eq_false_iff]
    intro hs
    simp only [isSpace, Bool.or_eq_true, decide_eq_true_eq] at hs
    rcases hs with ((rfl | rfl) | rfl) | rfl <;> exact absurd h (by decide)
  have hquote : c ≠ '"' := by
    rintro rfl
    exact absurd h (by decide)
  simp [enter?, hspace, hquote, h]

lemma lex?_collect (read : List Char) (done : List Token) {word : List Char}
    (hword : ∀ c ∈ word, isWordChar c = true) (rest : List Char) :
    lex? (.word read) done (word ++ rest) = lex? (.word (word.reverse ++ read)) done rest := by
  induction word generalizing read with
  | nil => rfl
  | cons c word ih =>
    have hc : isWordChar c = true := hword c List.mem_cons_self
    have hstep : step? (.word read) done c = some (.word (c :: read), done) := if_pos hc
    rw [List.cons_append, lex?_of_step hstep,
      ih (c :: read) fun d hd => hword d (List.mem_cons_of_mem _ hd)]
    simp

/-- A collected word is one token, whatever follows its end. -/
lemma lex?_endOfWord {read rest : List Char} (done : List Token) {t : Token}
    (ht : ofWord? read.reverse = some t) (hrest : Ends rest) :
    lex? (.word read) done rest = lex? .gap (t :: done) rest := by
  cases rest with
  | nil => simp [lex?, ht]
  | cons c cs =>
    have hc : isWordChar c = false := hrest c rfl
    simp [lex?_cons, step?, hc, ht]

lemma lex?_word {word rest : List Char} (done : List Token) {t : Token} (hne : word ≠ [])
    (hword : ∀ c ∈ word, isWordChar c = true) (ht : ofWord? word = some t) (hrest : Ends rest) :
    lex? .gap done (word ++ rest) = lex? .gap (t :: done) rest := by
  obtain ⟨c, word, rfl⟩ := List.exists_cons_of_ne_nil hne
  have hstep : step? .gap done c = some (.word [c], done) :=
    enter?_word done (hword c List.mem_cons_self)
  rw [List.cons_append, lex?_of_step hstep,
    lex?_collect [c] done fun d hd => hword d (List.mem_cons_of_mem _ hd)]
  exact lex?_endOfWord done (by simpa using ht) hrest

/-- The three names are no literals. -/
lemma ofWord?_of_ofChars? {cs : List Char} {literal : Numeral}
    (h : Numeral.ofChars? cs = some literal) : ofWord? cs = some (.number literal) := by
  have hname : ∀ name ∈ ["null", "true", "false"], cs ≠ name.toList := by
    rintro name hname rfl
    have hnone : ∀ name ∈ ["null", "true", "false"], Numeral.ofChars? name.toList = none := by
      decide
    rw [hnone name hname] at h
    cases h
  simp only [List.mem_cons, List.not_mem_nil, or_false, forall_eq_or_imp, forall_eq] at hname
  obtain ⟨hnull, htrue, hfalse⟩ := hname
  rw [ofWord?, if_neg hnull, if_neg htrue, if_neg hfalse, h, Option.map_some]

lemma lex?_number (done : List Token) (n : Number) {rest : List Char} (hrest : Ends rest) :
    lex? .gap done (n.chars ++ rest) = lex? .gap (.number n.literal :: done) rest := by
  obtain ⟨hne, hword⟩ := Numeral.isWordChar_of_ofChars? n.ofChars?_chars
  exact lex?_word done hne hword (ofWord?_of_ofChars? n.ofChars?_chars) hrest

/-! ### Blanks and marks -/

lemma lex?_space (done : List Token) {c : Char} (hc : isSpace c = true) (cs : List Char) :
    lex? .gap done (c :: cs) = lex? .gap done cs := by
  simp [lex?_cons, step?, enter?, hc]

lemma lex?_lineBreak (done : List Token) (level : ℕ) (cs : List Char) :
    lex? .gap done (lineBreak level ++ cs) = lex? .gap done cs := by
  rw [lineBreak, List.cons_append, lex?_space done (by decide)]
  induction 2 * level with
  | zero => rfl
  | succ n ih => rw [List.replicate_succ, List.cons_append, lex?_space done (by decide), ih]

lemma lex?_mark (done : List Token) {c : Char} {t : Token} (ht : punctuation? c = some t)
    (cs : List Char) : lex? .gap done (c :: cs) = lex? .gap (t :: done) cs := by
  have hplain : isSpace c = false ∧ c ≠ '"' ∧ isWordChar c = false := by
    unfold punctuation? at ht
    split at ht <;> first | decide | cases ht
  obtain ⟨hspace, hquote, hword⟩ := hplain
  simp [lex?_cons, step?, enter?, hspace, hquote, hword, ht]

end Token

/-! ### Values -/

open Token

mutual

/-- The walk over the compact text of a value finds its tokens. -/
lemma lex?_compact (done : List Token) (rest : List Char) (hrest : Ends rest) :
    ∀ v : Json, lex? .gap done (v.compact ++ rest) = lex? .gap (v.tokens.reverse ++ done) rest
  | .null => by
    rw [compact]
    exact lex?_word done (List.cons_ne_nil _ _) (List.all_eq_true.1 rfl) (by decide) hrest
  | .bool true => by
    rw [compact]
    exact lex?_word done (List.cons_ne_nil _ _) (List.all_eq_true.1 rfl) (by decide) hrest
  | .bool false => by
    rw [compact]
    exact lex?_word done (List.cons_ne_nil _ _) (List.all_eq_true.1 rfl) (by decide) hrest
  | .number n => lex?_number done n hrest
  | .string s => lex?_quote done s rest
  | .array items => by
    simp only [compact, tokens, List.cons_append, List.append_assoc, List.nil_append]
    rw [lex?_mark done rfl,
      lex?_compactItems _ _ (ends_cons (by decide)) items,
      lex?_mark _ rfl]
    simp
  | .object ms => by
    simp only [compact, tokens, List.cons_append, List.append_assoc, List.nil_append]
    rw [lex?_mark done rfl,
      lex?_compactMembers _ _ (ends_cons (by decide)) ms,
      lex?_mark _ rfl]
    simp

lemma lex?_compactItems (done : List Token) (rest : List Char) (hrest : Ends rest) :
    ∀ items : List Json,
      lex? .gap done (compactItems items ++ rest) =
        lex? .gap ((itemTokens items).reverse ++ done) rest
  | [] => rfl
  | [v] => by rw [compactItems, lex?_compact done rest hrest v, itemTokens]
  | v :: w :: items => by
    rw [compactItems, List.append_assoc, List.cons_append,
      lex?_compact done _ (ends_cons (by decide)) v,
      lex?_mark _ rfl,
      lex?_compactItems _ rest hrest (w :: items), itemTokens]
    simp

lemma lex?_compactMembers (done : List Token) (rest : List Char) (hrest : Ends rest) :
    ∀ ms : List (String × Json),
      lex? .gap done (compactMembers ms ++ rest) =
        lex? .gap ((memberTokens ms).reverse ++ done) rest
  | [] => rfl
  | [(k, v)] => by
    rw [compactMembers, List.append_assoc, lex?_quote, List.cons_append, lex?_mark _ rfl,
      lex?_compact _ rest hrest v, memberTokens]
    simp
  | (k, v) :: m :: ms => by
    rw [compactMembers, List.append_assoc, List.append_assoc, lex?_quote, List.cons_append,
      lex?_mark _ rfl, List.cons_append, lex?_compact _ _ (ends_cons (by decide)) v,
      lex?_mark _ rfl,
      lex?_compactMembers _ rest hrest (m :: ms), memberTokens]
    simp

end

mutual

/-- The walk over the pretty text of a value finds its tokens. -/
lemma lex?_prettyAt (level : ℕ) (done : List Token) (rest : List Char) (hrest : Ends rest) :
    ∀ v : Json,
      lex? .gap done (v.prettyAt level ++ rest) = lex? .gap (v.tokens.reverse ++ done) rest
  | .null => lex?_compact done rest hrest .null
  | .bool b => by
    rw [prettyAt]
    exact lex?_compact done rest hrest (.bool b)
  | .number n => lex?_number done n hrest
  | .string s => lex?_quote done s rest
  | .array [] => by
    simp only [prettyAt, tokens, itemTokens, List.cons_append, List.nil_append]
    rw [lex?_mark done rfl,
      lex?_mark _ rfl]
    rfl
  | .array (v :: items) => by
    simp only [prettyAt, tokens, List.cons_append, List.append_assoc, List.nil_append]
    rw [lex?_mark done rfl,
      lex?_prettyItems (level + 1) _ _ (ends_lineBreak level _) (v :: items),
      lex?_lineBreak,
      lex?_mark _ rfl]
    simp
  | .object [] => by
    simp only [prettyAt, tokens, memberTokens, List.cons_append, List.nil_append]
    rw [lex?_mark done rfl,
      lex?_mark _ rfl]
    rfl
  | .object (m :: ms) => by
    simp only [prettyAt, tokens, List.cons_append, List.append_assoc, List.nil_append]
    rw [lex?_mark done rfl,
      lex?_prettyMembers (level + 1) _ _ (ends_lineBreak level _) (m :: ms),
      lex?_lineBreak,
      lex?_mark _ rfl]
    simp

lemma lex?_prettyItems (level : ℕ) (done : List Token) (rest : List Char) (hrest : Ends rest) :
    ∀ items : List Json,
      lex? .gap done (prettyItems level items ++ rest) =
        lex? .gap ((itemTokens items).reverse ++ done) rest
  | [] => rfl
  | [v] => by
    rw [prettyItems, List.append_assoc, lex?_lineBreak, lex?_prettyAt level done rest hrest v,
      itemTokens]
  | v :: w :: items => by
    rw [prettyItems, List.append_assoc, List.append_assoc, lex?_lineBreak, List.cons_append,
      lex?_prettyAt level done _ (ends_cons (by decide)) v,
      lex?_mark _ rfl,
      lex?_prettyItems level _ rest hrest (w :: items), itemTokens]
    simp

lemma lex?_prettyMembers (level : ℕ) (done : List Token) (rest : List Char) (hrest : Ends rest) :
    ∀ ms : List (String × Json),
      lex? .gap done (prettyMembers level ms ++ rest) =
        lex? .gap ((memberTokens ms).reverse ++ done) rest
  | [] => rfl
  | [(k, v)] => by
    rw [prettyMembers, List.append_assoc, List.append_assoc, lex?_lineBreak, lex?_quote,
      List.cons_append, List.cons_append, lex?_mark _ rfl,
      lex?_space _ (by decide), lex?_prettyAt level _ rest hrest v, memberTokens]
    simp
  | (k, v) :: m :: ms => by
    rw [prettyMembers, List.append_assoc, List.append_assoc, List.append_assoc, lex?_lineBreak,
      lex?_quote, List.cons_append, List.cons_append,
      lex?_mark _ rfl, lex?_space _ (by decide),
      List.cons_append, lex?_prettyAt level _ _ (ends_cons (by decide)) v,
      lex?_mark _ rfl,
      lex?_prettyMembers level _ rest hrest (m :: ms), memberTokens]
    simp

end

/-- A text is made of the tokens that the walk over it adds. -/
lemma tokens?_of_lex? {text : List Char} {ts : List Token}
    (h : lex? .gap [] (text ++ []) = lex? .gap (ts.reverse ++ []) []) :
    tokens? text = some ts := by
  rw [List.append_nil, List.append_nil] at h
  rw [tokens?, h, lex?, List.reverse_reverse]

lemma tokens?_compact (v : Json) : tokens? v.compact = some v.tokens :=
  tokens?_of_lex? (lex?_compact [] [] ends_nil v)

/-- **Pretty text is made of the tokens of its value.** -/
theorem tokens?_prettyAt (v : Json) (level : ℕ) : tokens? (v.prettyAt level) = some v.tokens :=
  tokens?_of_lex? (lex?_prettyAt level [] [] ends_nil v)

end AgentFlow.Json
