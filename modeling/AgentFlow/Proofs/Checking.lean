import AgentFlow.Proofs.Success

/-!
Computations that check one thing after another.

Such a computation succeeds when everything is good, and otherwise reports what is wrong with the
first thing that is not. Checks compose as the lists of what they check do.
-/

namespace AgentFlow

variable {α β γ ε : Type} {Good : α → Prop} {Bad : α → ε → Prop} {as bs : List α} {e : ε}

/-- The error of the first bad element of a list; everything before it is good. -/
inductive FirstBad (Good : α → Prop) (Bad : α → ε → Prop) : List α → ε → Prop where
  | here {a : α} {as : List α} {e : ε} (bad : Bad a e) : FirstBad Good Bad (a :: as) e
  | later {a : α} {as : List α} {e : ε} (good : Good a) (rest : FirstBad Good Bad as e) :
    FirstBad Good Bad (a :: as) e

lemma not_firstBad_nil : ¬FirstBad Good Bad [] e := nofun

lemma firstBad_cons_iff {a : α} :
    FirstBad Good Bad (a :: as) e ↔ Bad a e ∨ Good a ∧ FirstBad Good Bad as e := by
  constructor
  · rintro (bad | ⟨good, rest⟩)
    · exact .inl bad
    · exact .inr ⟨good, rest⟩
  · rintro (bad | ⟨good, rest⟩)
    · exact .here bad
    · exact .later good rest

lemma firstBad_append_iff :
    FirstBad Good Bad (as ++ bs) e ↔
      FirstBad Good Bad as e ∨ (∀ a ∈ as, Good a) ∧ FirstBad Good Bad bs e := by
  induction as with
  | nil => simp [not_firstBad_nil]
  | cons a as ih =>
    rw [List.cons_append, firstBad_cons_iff, firstBad_cons_iff, ih, List.forall_mem_cons]
    simp only [and_or_left, or_assoc, and_assoc]

lemma firstBad_iff_findSome? {f : α → Option ε} :
    FirstBad (fun a => f a = none) (fun a e => f a = some e) as e ↔ as.findSome? f = some e := by
  induction as with
  | nil => simp [not_firstBad_nil]
  | cons a as ih =>
    rw [firstBad_cons_iff, ih, List.findSome?_cons]
    cases f a <;> simp

/-- The computation checks the elements of a list in their order. -/
structure Checks (Good : α → Prop) (Bad : α → ε → Prop) (as : List α) (x : Except ε β) : Prop where
  ok_iff : (∃ b, x = .ok b) ↔ ∀ a ∈ as, Good a
  error_iff : ∀ e, x = .error e ↔ FirstBad Good Bad as e

namespace Checks

lemma of_ok (b : β) : Checks Good Bad [] (.ok b) where
  ok_iff := by simp
  error_iff e := by simp [not_firstBad_nil]

/-- A single check, where nothing is both good and bad, or bad for two reasons. -/
lemma single {a : α} {x : Except ε β} (hgood : ∀ e, Good a → ¬Bad a e)
    (hbad : ∀ e e', Bad a e → Bad a e' → e = e') (hok : ∀ b, x = .ok b → Good a)
    (herror : ∀ e, x = .error e → Bad a e) : Checks Good Bad [a] x := by
  cases x with
  | ok b =>
    have ha := hok b rfl
    refine ⟨by simpa using ha, fun e => ?_⟩
    simp [firstBad_cons_iff, not_firstBad_nil, hgood e ha]
  | error e =>
    have ha := herror e rfl
    refine ⟨by simpa using fun h => hgood e h ha, fun e' => ?_⟩
    simp only [Except.error.injEq, firstBad_cons_iff, not_firstBad_nil, and_false, or_false]
    exact ⟨fun h => h ▸ ha, hbad e e' ha⟩

lemma bind {x : Except ε β} {f : β → Except ε γ} (hx : Checks Good Bad as x)
    (hf : ∀ b, x = .ok b → Checks Good Bad bs (f b)) : Checks Good Bad (as ++ bs) (x >>= f) := by
  cases x with
  | ok b =>
    have hgood := hx.ok_iff.1 ⟨b, rfl⟩
    have hnone : ∀ e, ¬FirstBad Good Bad as e := fun e => by simp [← hx.error_iff e]
    have hb := hf b rfl
    refine ⟨hb.ok_iff.trans ?_, fun e => (hb.error_iff e).trans ?_⟩
    · rw [List.forall_mem_append]
      exact (and_iff_right hgood).symm
    · rw [firstBad_append_iff, or_iff_right (hnone e), and_iff_right hgood]
  | error e =>
    have hstop : (Except.error e >>= f : Except ε γ) = .error e := rfl
    have hbad : ¬∀ a ∈ as, Good a := by
      rw [← hx.ok_iff]
      simp
    rw [hstop]
    refine ⟨?_, fun e' => ?_⟩
    · rw [List.forall_mem_append]
      simp [hbad]
    · rw [firstBad_append_iff, or_iff_left (fun h => hbad h.1), ← hx.error_iff]
      simp

lemma not_firstBad {x : Except ε β} (h : Checks Good Bad as x) (hgood : ∀ a ∈ as, Good a) :
    ¬FirstBad Good Bad as e := by
  obtain ⟨b, hb⟩ := h.ok_iff.2 hgood
  simp [← h.error_iff, hb]

lemma firstBad_unique {x : Except ε β} {e' : ε} (h : Checks Good Bad as x)
    (he : FirstBad Good Bad as e) (he' : FirstBad Good Bad as e') : e = e' :=
  Except.error.inj (((h.error_iff e).2 he).symm.trans ((h.error_iff e').2 he'))

lemma mapM {f : α → Except ε β} (hf : ∀ a, Checks Good Bad [a] (f a)) (as : List α) :
    Checks Good Bad as (as.mapM f) := by
  induction as with
  | nil => exact .of_ok []
  | cons a as ih =>
    rw [List.mapM_cons]
    refine (hf a).bind fun b _ => ?_
    have hcons : Checks Good Bad (as ++ []) (as.mapM f >>= fun bs => .ok (b :: bs)) :=
      ih.bind fun bs _ => .of_ok (b :: bs)
    rwa [List.append_nil] at hcons

/-- Reporting the first problem checks a list for the elements that have none. -/
lemma of_findSome? {f : α → Option ε} {x : Except ε β}
    (hx : ∀ e, x = .error e ↔ as.findSome? f = some e) :
    Checks (fun a => f a = none) (fun a e => f a = some e) as x where
  ok_iff := by
    rw [← List.findSome?_eq_none_iff, Option.eq_none_iff_forall_ne_some]
    simp only [← hx, ne_eq]
    cases x <;> simp
  error_iff e := (hx e).trans firstBad_iff_findSome?.symm

/-- A reader checks a list for the elements that it reads. -/
lemma of_reader {f : α → Except ε β} (hread : ∀ a, (∃ b, f a = .ok b) ↔ Good a) (as : List α) :
    Checks Good (fun a e => f a = .error e) as (as.mapM f) := by
  refine mapM (fun a => .single ?_ ?_ (fun b hb => (hread a).1 ⟨b, hb⟩) fun e he => he) as
  · intro e ha he
    obtain ⟨b, hb⟩ := (hread a).2 ha
    cases hb.symm.trans he
  · intro e e' he he'
    exact Except.error.inj (he.symm.trans he')

end Checks

end AgentFlow
