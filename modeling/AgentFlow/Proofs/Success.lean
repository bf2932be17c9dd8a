import Mathlib.Data.List.Forall2
import Mathlib.Tactic.Lemma

/-!
Computations that succeed.
-/

namespace AgentFlow

variable {α β ε : Type}

lemma bind_eq_ok_iff {x : Except ε α} {f : α → Except ε β} {b : β} :
    x >>= f = .ok b ↔ ∃ a, x = .ok a ∧ f a = .ok b := by
  constructor
  · intro h
    cases x with
    | error e => cases h
    | ok a => exact ⟨a, rfl, h⟩
  · rintro ⟨a, rfl, h⟩
    exact h

lemma bind_eq_error_iff {x : Except ε α} {f : α → Except ε β} {e : ε} :
    x >>= f = .error e ↔ x = .error e ∨ ∃ a, x = .ok a ∧ f a = .error e := by
  cases x with
  | error e' =>
    constructor
    · intro h
      cases h
      exact .inl rfl
    · rintro (h | ⟨a, h, -⟩)
      · cases h
        rfl
      · cases h
  | ok a =>
    constructor
    · intro h
      exact .inr ⟨a, rfl, h⟩
    · rintro (h | ⟨a, ha, h⟩)
      · cases h
      · cases ha
        exact h

lemma exists_of_bind_ok {x : Except ε α} {f : α → Except ε β} {b : β} (h : x >>= f = .ok b) :
    ∃ a, x = .ok a ∧ f a = .ok b := bind_eq_ok_iff.1 h

/-- What is kept of the results agrees where it agrees after a first computation. -/
lemma map_bind_congr {γ : Type} {x : Except ε α} {f f' : α → Except ε β} {keep : β → γ}
    (h : ∀ a, (f a).map keep = (f' a).map keep) :
    (x >>= f).map keep = (x >>= f').map keep := by
  cases x with
  | error e => rfl
  | ok a => exact h a

lemma exists_of_map_eq {γ : Type} {x y : Except ε α} {keep : α → γ} {a : α}
    (h : x.map keep = y.map keep) (hx : x = .ok a) : ∃ b, y = .ok b ∧ keep a = keep b := by
  subst hx
  cases y with
  | error e => cases h
  | ok b => exact ⟨b, rfl, Except.ok.inj h⟩

lemma error_of_map_eq {γ : Type} {x y : Except ε α} {keep : α → γ} {e : ε}
    (h : x.map keep = y.map keep) (hx : x = .error e) : y = .error e := by
  subst hx
  cases y with
  | error e' => cases h; rfl
  | ok b => cases h

lemma ok_of_mapError {δ : Type} {f : ε → δ} {x : Except ε α} {a : α} (h : x.mapError f = .ok a) :
    x = .ok a := by
  cases x with
  | error e => cases h
  | ok b => cases h; rfl

lemma error_of_mapError {δ : Type} {f : ε → δ} {x : Except ε α} {e : δ}
    (h : x.mapError f = .error e) : ∃ cause, x = .error cause ∧ e = f cause := by
  cases x with
  | error cause => cases h; exact ⟨cause, rfl, rfl⟩
  | ok b => cases h

/-- Each result comes from the element in its place. -/
lemma forall₂_of_mapM {f : α → Except ε β} {as : List α} {bs : List β} (h : as.mapM f = .ok bs) :
    List.Forall₂ (fun a b => f a = .ok b) as bs := by
  induction as generalizing bs with
  | nil =>
    cases h
    exact .nil
  | cons a as ih =>
    rw [List.mapM_cons] at h
    obtain ⟨b, hb, h⟩ := exists_of_bind_ok h
    obtain ⟨rest, hrest, h⟩ := exists_of_bind_ok h
    cases h
    exact .cons hb (ih hrest)

lemma exists_of_mem_mapM {f : α → Except ε β} {as : List α} {bs : List β}
    (h : as.mapM f = .ok bs) : ∀ b ∈ bs, ∃ a ∈ as, f a = .ok b := by
  induction as generalizing bs with
  | nil => cases h; simp
  | cons a as ih =>
    rw [List.mapM_cons] at h
    obtain ⟨b, hb, h⟩ := exists_of_bind_ok h
    obtain ⟨rest, hrest, h⟩ := exists_of_bind_ok h
    cases h
    intro c hc
    rcases List.mem_cons.1 hc with rfl | hc
    · exact ⟨a, List.mem_cons_self, hb⟩
    · obtain ⟨d, hd, hread⟩ := ih hrest c hc
      exact ⟨d, List.mem_cons_of_mem _ hd, hread⟩

lemma map_mapM {γ : Type} (f : α → Except ε β) (keep : β → γ) (as : List α) :
    (as.mapM f).map (List.map keep) = as.mapM fun a => (f a).map keep := by
  induction as with
  | nil => rfl
  | cons a as ih =>
    rw [List.mapM_cons, List.mapM_cons, ← ih]
    cases f a with
    | error e => rfl
    | ok b => cases as.mapM f <;> rfl

/-- A computation that was checked to succeed, with a property of its result. -/
lemma exists_ok_of_any {x : Except ε α} {P : α → Prop} [DecidablePred P]
    (h : x.toOption.any (P ·) = true) : ∃ a, x = .ok a ∧ P a := by
  cases x with
  | error e => cases h
  | ok a => exact ⟨a, rfl, of_decide_eq_true h⟩

end AgentFlow
