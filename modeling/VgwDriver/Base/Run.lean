import Mathlib.Data.Int.Notation
import Mathlib.Data.List.Induction
import Mathlib.Data.Nat.Notation
import Mathlib.Tactic.Common

/-!
# Runs of a step function

A deterministic system is a step function `σ → α → σ`; a run feeds it a list of inputs.  Two ways of
saying "at every step of the run" are used and connected here: the recursive `EachStep`, which is what
inductions go over, and the split of the run into a prefix, an input and a rest, which is what a reader
of a statement wants to see.

* `eachStep_iff_split` — the two forms agree;
* `forall_prefix_iff` — a property of every state of a run, step by step;
* `run_invariant` — an invariant kept by each step holds at the end of a run;
* `run_rel` — what each step relates, a run relates;
* `EachStep.iff_of_invariant` — two per-step properties that agree wherever an invariant holds agree on
  whole runs, when one of them keeps the invariant;
* `forall_split_iff_of_step` — the same for properties that look at the whole history before the step;
* `Since` — the windows of a run: opened by one input and not ended by a later one;
* `untilError_rel` — what each function of a sequence keeps, the sequence keeps, wherever it gives up.
-/

namespace VgwDriver.Base

variable {σ α : Type*} (step : σ → α → σ)

/-- The state after the inputs `l`. -/
def run (s : σ) (l : List α) : σ := l.foldl step s

@[simp] theorem run_nil (s : σ) : run step s [] = s := rfl

@[simp] theorem run_cons (s : σ) (a : α) (l : List α) :
    run step s (a :: l) = run step (step s a) l := rfl

theorem run_append (s : σ) (l₁ l₂ : List α) :
    run step s (l₁ ++ l₂) = run step (run step s l₁) l₂ := List.foldl_append

@[simp] theorem run_snoc (s : σ) (l : List α) (a : α) :
    run step s (l ++ [a]) = step (run step s l) a := by
  rw [run_append]
  rfl

/-- `P` holds of the state before and the input of each step of the run. -/
def EachStep (P : σ → α → Prop) : σ → List α → Prop
  | _, [] => True
  | s, a :: l => P s a ∧ EachStep P (step s a) l

variable {step} {P Q G : σ → α → Prop} {Inv : σ → Prop}

/-- **The two forms of "at every step".** -/
theorem eachStep_iff_split {s : σ} {l : List α} :
    EachStep step P s l ↔ ∀ pre a post, l = pre ++ a :: post → P (run step s pre) a := by
  induction l generalizing s with
  | nil => simp [EachStep]
  | cons b l ih =>
    constructor
    · rintro ⟨hb, hl⟩ pre a post hsplit
      cases pre with
      | nil =>
        obtain ⟨rfl, -⟩ := List.cons.inj hsplit
        exact hb
      | cons c pre =>
        obtain ⟨rfl, hrest⟩ := List.cons.inj hsplit
        exact ih.mp hl pre a post hrest
    · intro h
      refine ⟨h [] b l rfl, ih.mpr fun pre a post hsplit => ?_⟩
      exact h (b :: pre) a post (by rw [hsplit]; rfl)

/-- **Invariant rule.**  What every step keeps holds at the end of a run. -/
theorem run_invariant {s : σ} (hs : Inv s) (hstep : ∀ s a, Inv s → Inv (step s a)) (l : List α) :
    Inv (run step s l) := by
  induction l generalizing s with
  | nil => exact hs
  | cons a l ih => exact ih (hstep s a hs)

/-- **Relation rule.**  What each step relates is related by a run, if every state on the way is as the steps
need it. -/
theorem run_rel {R : σ → σ → Prop} (hrefl : ∀ s, R s s) (htrans : ∀ {a b c}, R a b → R b c → R a c)
    (hstep : ∀ s a, Inv s → R s (step s a)) {s : σ} {l : List α} (h : ∀ pre, pre <+: l → Inv (run step s pre)) :
    R s (run step s l) := by
  induction l using List.reverseRecOn with
  | nil => exact hrefl s
  | append_singleton l a ih =>
    have hbefore := ih fun pre hpre => h pre (hpre.trans (List.prefix_append l [a]))
    rw [run_snoc]
    exact htrans hbefore (hstep _ a (h l (List.prefix_append l [a])))

/-- **Equivalence rule.**  Along a run whose steps all satisfy the guard `G`, two per-step properties
that agree on invariant states agree on the whole run, provided the first keeps the invariant. -/
theorem EachStep.iff_of_invariant {s : σ} {l : List α}
    (hiff : ∀ s a, Inv s → G s a → (P s a ↔ Q s a))
    (hstep : ∀ s a, Inv s → G s a → P s a → Inv (step s a))
    (hs : Inv s) (hG : EachStep step G s l) :
    EachStep step P s l ↔ EachStep step Q s l := by
  induction l generalizing s with
  | nil => exact Iff.rfl
  | cons a l ih =>
    have hhead := hiff s a hs hG.1
    constructor
    · rintro ⟨hp, hl⟩
      exact ⟨hhead.mp hp, (ih (hstep s a hs hG.1 hp) hG.2).mp hl⟩
    · rintro ⟨hq, hl⟩
      have hp := hhead.mpr hq
      exact ⟨hp, (ih (hstep s a hs hG.1 hp) hG.2).mpr hl⟩

/-- **A property of every state of a run** is one of the first state and of the state behind each step. -/
theorem forall_prefix_iff {s : σ} {l : List α} :
    (∀ pre, pre <+: l → Inv (run step s pre)) ↔
      Inv s ∧ EachStep step (fun s a => Inv (step s a)) s l := by
  rw [eachStep_iff_split]
  constructor
  · intro h
    refine ⟨h [] List.nil_prefix, ?_⟩
    rintro pre a post rfl
    have hpre := h (pre ++ [a]) ⟨post, by simp⟩
    rwa [run_snoc] at hpre
  · rintro ⟨hs, h⟩ pre ⟨post, rfl⟩
    rcases List.eq_nil_or_concat pre with rfl | ⟨pre, a, rfl⟩
    · exact hs
    · rw [List.concat_eq_append, run_snoc]
      exact h pre a post (by simp)

/-! ### Histories -/

section History

variable {l : List α}

/-- **Equivalence rule for histories.**  Two properties of an input and the inputs before it agree along a
run if they agree wherever the first holds of the input just before. -/
theorem forall_split_iff_of_step {P Q : List α → α → Prop}
    (hstep : ∀ pre a, (∀ pre' a', pre = pre' ++ [a'] → P pre' a') → (P pre a ↔ Q pre a)) :
    (∀ pre a post, l = pre ++ a :: post → P pre a) ↔ ∀ pre a post, l = pre ++ a :: post → Q pre a := by
  have hprev : ∀ {pre a post pre' a'}, l = pre ++ a :: post → pre = pre' ++ [a'] →
      l = pre' ++ a' :: a :: post := by
    intro pre a post pre' a' hsplit hpre
    rw [hsplit, hpre, List.append_assoc]
    rfl
  constructor
  · intro hP pre a post hsplit
    exact (hstep pre a fun pre' a' hpre => hP pre' a' _ (hprev hsplit hpre)).mp (hP pre a post hsplit)
  · intro hQ pre
    -- on the history: `P` of the input before the last one is the hypothesis of `hstep`
    induction pre using List.reverseRecOn with
    | nil =>
      intro a post hsplit
      exact (hstep [] a fun pre' a' hpre => by simp at hpre).mpr (hQ [] a post hsplit)
    | append_singleton pre b ih =>
      intro a post hsplit
      refine (hstep _ a fun pre' a' hpre => ?_).mpr (hQ _ a post hsplit)
      obtain ⟨rfl, rfl⟩ := List.append_singleton_inj.mp hpre
      exact ih _ _ (hprev hsplit rfl)

/-- The inputs of a run with one more are those before and the last one. -/
theorem forall_split_snoc {P : List α → α → Prop} {b : α} :
    (∀ pre a post, l ++ [b] = pre ++ a :: post → P pre a) ↔
      (∀ pre a post, l = pre ++ a :: post → P pre a) ∧ P l b := by
  constructor
  · intro h
    refine ⟨fun pre a post hsplit => h pre a (post ++ [b]) (by rw [hsplit]; simp), h l b [] rfl⟩
  · rintro ⟨hbefore, hlast⟩ pre a post hsplit
    cases post using List.reverseRecOn with
    | nil =>
      obtain ⟨rfl, rfl⟩ := List.append_singleton_inj.mp hsplit
      exact hlast
    | append_singleton post d =>
      rw [← List.cons_append, ← List.append_assoc] at hsplit
      exact hbefore pre a post (List.append_singleton_inj.mp hsplit).1

/-- A property of every prefix of a run holds if it holds at first and each input keeps it. -/
theorem forall_prefix_iff_of_step {Inv : List α → Prop} {Ok : List α → α → Prop} (hnil : Inv [])
    (hstep : ∀ pre a, Inv pre → (Inv (pre ++ [a]) ↔ Ok pre a)) :
    (∀ pre, pre <+: l → Inv pre) ↔ ∀ pre a post, l = pre ++ a :: post → Ok pre a := by
  have hsnoc : (∀ pre, pre <+: l → Inv pre) ↔ ∀ pre a post, l = pre ++ a :: post → Inv (pre ++ [a]) := by
    constructor
    · intro h pre a post hsplit
      exact h _ ⟨post, by simp [hsplit]⟩
    · intro h pre hpre
      obtain ⟨post, hsplit⟩ := hpre
      rcases List.eq_nil_or_concat pre with rfl | ⟨pre, a, rfl⟩
      · exact hnil
      · rw [List.concat_eq_append] at *
        exact h pre a post (by rw [← hsplit, List.append_assoc]; rfl)
  rw [hsnoc]
  refine forall_split_iff_of_step fun pre a hprev => hstep pre a ?_
  rcases List.eq_nil_or_concat pre with rfl | ⟨pre, b, rfl⟩
  · exact hnil
  · rw [List.concat_eq_append]
    exact hprev pre b (List.concat_eq_append)

/-- Some input of the run opens a window, and no later one ends it. -/
def Since (opens ends : α → Prop) (l : List α) : Prop :=
  ∃ pre a mid, l = pre ++ a :: mid ∧ opens a ∧ ∀ b ∈ mid, ¬ ends b

variable {opens ends : α → Prop}

theorem not_since_nil : ¬ Since opens ends [] := by
  intro hsince
  obtain ⟨pre, a, mid, hsplit, -, -⟩ := hsince
  simp at hsplit

/-- **A window after one more input**: opened by it, or open before and not ended by it. -/
theorem since_snoc {a : α} :
    Since opens ends (l ++ [a]) ↔ opens a ∨ (Since opens ends l ∧ ¬ ends a) := by
  constructor
  · intro hsince
    obtain ⟨pre, r, mid, hsplit, hr, hmid⟩ := hsince
    cases mid using List.reverseRecOn with
    | nil =>
      obtain ⟨-, rfl⟩ := List.append_singleton_inj.mp hsplit
      exact .inl hr
    | append_singleton mid d =>
      rw [← List.cons_append, ← List.append_assoc] at hsplit
      obtain ⟨rfl, rfl⟩ := List.append_singleton_inj.mp hsplit
      exact .inr ⟨⟨pre, r, mid, rfl, hr, fun x hx => hmid x (by simp [hx])⟩, hmid _ (by simp)⟩
  · intro hopen
    rcases hopen with hr | ⟨⟨pre, r, mid, rfl, hr, hmid⟩, hc⟩
    · exact ⟨l, a, [], rfl, hr, by simp⟩
    · refine ⟨pre, r, mid ++ [a], by simp, hr, fun x hx => ?_⟩
      rcases List.mem_append.mp hx with hx | hx
      · exact hmid x hx
      · rw [List.mem_singleton.mp hx]
        exact hc

end History

/-! ### Functions that give up -/

/-- Functions that return an error number, one after the other, until one returns a negative number. -/
def untilError : List (σ → ℤ × σ) → σ → ℤ × σ
  | [], s => (0, s)
  | f :: l, s =>
    match f s with
    | (err, s) => if err < 0 then (err, s) else untilError l s

section UntilError

variable {f : σ → ℤ × σ} {l : List (σ → ℤ × σ)} {s : σ}

theorem untilError_error (h : (f s).1 < 0) : untilError (f :: l) s = f s := if_pos h

theorem untilError_goOn (h : ¬ (f s).1 < 0) : untilError (f :: l) s = untilError l (f s).2 := if_neg h

/-- Behind functions that do not give up, the others run. -/
theorem untilError_append {l₁ l₂ : List (σ → ℤ × σ)} (h : ¬ (untilError (l₁ ++ l₂) s).1 < 0) :
    ¬ (untilError l₁ s).1 < 0 ∧ untilError (l₁ ++ l₂) s = untilError l₂ (untilError l₁ s).2 := by
  induction l₁ generalizing s with
  | nil => exact ⟨Int.lt_irrefl 0, rfl⟩
  | cons f l₁ ih =>
    rw [List.cons_append] at h ⊢
    by_cases herr : (f s).1 < 0
    · rw [untilError_error herr] at h
      exact absurd herr h
    · rw [untilError_goOn herr] at h ⊢
      rw [untilError_goOn herr]
      exact ih h

/-- What each of the functions keeps is kept, also where one of them gives up. -/
theorem untilError_rel {R : σ → σ → Prop} (hrefl : ∀ s, R s s) (htrans : ∀ {a b c}, R a b → R b c → R a c)
    (h : ∀ f ∈ l, ∀ s, R s (f s).2) (s : σ) : R s (untilError l s).2 := by
  induction l generalizing s with
  | nil => exact hrefl s
  | cons f l ih =>
    have hhead := h f List.mem_cons_self s
    by_cases herr : (f s).1 < 0
    · rw [untilError_error herr]
      exact hhead
    · rw [untilError_goOn herr]
      exact htrans hhead (ih (fun g hg => h g (List.mem_cons_of_mem f hg)) (f s).2)

/-- Functions that have nothing to change. -/
theorem untilError_fix (h : ∀ f ∈ l, f s = (0, s)) : untilError l s = (0, s) := by
  induction l with
  | nil => rfl
  | cons f l ih =>
    have hf := h f List.mem_cons_self
    rw [untilError_goOn (by rw [hf]; exact Int.lt_irrefl 0), hf]
    exact ih fun g hg => h g (List.mem_cons_of_mem f hg)

end UntilError

end VgwDriver.Base
