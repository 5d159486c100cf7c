import Mathlib.Data.List.Count
import Mathlib.Data.List.Induction
import Mathlib.Data.Nat.Notation
import Mathlib.Logic.Function.Basic
import Mathlib.Logic.Relation
import Mathlib.Tactic.Common

/-!
# Objects with reference counts

Objects that are allocated, each with a count of the references to it.  An object may hold one reference
itself, to its parent, and drops it when it is freed, so that dropping one reference may free a whole line of
ancestors.  The counts are `Exact` for the references `held` from outside: then no object is freed while
somebody refers to it, and none stays behind when nobody does.

* `Exact.get`, `Exact.put`, `Exact.insert` — taking, dropping and handing out references keeps them exact;
* `Exact.reached` — what is left is held, or an ancestor of an object that is.
-/

namespace VgwDriver.Base

/-- The objects that are allocated, the counts in them, and their parents. -/
structure Counted (α : Type*) where
  live : List α
  count : α → ℕ
  parent : α → Option α

namespace Counted

variable {α : Type*} [DecidableEq α]

/-- How many objects hold a reference to `p`. -/
def children (s : Counted α) (p : α) : ℕ := s.live.countP fun q => s.parent q = some p

/-- Take a reference to `p`. -/
def get (s : Counted α) (p : α) : Counted α := { s with count := Function.update s.count p (s.count p + 1) }

/-- Drop one of several references to `p`. -/
def dec (s : Counted α) (p : α) : Counted α := { s with count := Function.update s.count p (s.count p - 1) }

/-- Drop the last one: `p` is gone. -/
def free (s : Counted α) (p : α) : Counted α := { s.dec p with live := s.live.erase p }

/-- Drop a reference, where at most `n` objects may be freed. -/
def release : ℕ → Counted α → α → Counted α
  | 0, s, _ => s
  | n + 1, s, p =>
    if s.count p ≠ 1 then s.dec p
    else
      match s.parent p with
      | none => s.free p
      | some q => release n (s.free p) q

/-- Drop a reference. -/
def put (s : Counted α) (p : α) : Counted α := release s.live.length s p

/-- A new object of the parent `m`, with `n` references. -/
def insert (s : Counted α) (p : α) (m : Option α) (n : ℕ) : Counted α :=
  ⟨p :: s.live, Function.update s.count p n, Function.update s.parent p m⟩

@[simp] theorem get_live (s : Counted α) (p : α) : (s.get p).live = s.live := rfl
@[simp] theorem get_parent (s : Counted α) (p : α) : (s.get p).parent = s.parent := rfl
@[simp] theorem dec_live (s : Counted α) (p : α) : (s.dec p).live = s.live := rfl
@[simp] theorem dec_parent (s : Counted α) (p : α) : (s.dec p).parent = s.parent := rfl
@[simp] theorem free_live (s : Counted α) (p : α) : (s.free p).live = s.live.erase p := rfl
@[simp] theorem free_parent (s : Counted α) (p : α) : (s.free p).parent = s.parent := rfl
@[simp] theorem children_get (s : Counted α) (p q : α) : (s.get p).children q = s.children q := rfl
@[simp] theorem children_dec (s : Counted α) (p q : α) : (s.dec p).children q = s.children q := rfl

theorem free_count_of_ne {s : Counted α} {p q : α} (h : q ≠ p) : (s.free p).count q = s.count q :=
  Function.update_of_ne h _ _

/-! ### References from outside -/

/-- One reference more, and one less. -/
def more (held : α → ℕ) (p : α) : α → ℕ := Function.update held p (held p + 1)
def less (held : α → ℕ) (p : α) : α → ℕ := Function.update held p (held p - 1)

theorem more_apply (held : α → ℕ) (p q : α) : more held p q = if q = p then held p + 1 else held q :=
  Function.update_apply held p _ q

theorem less_apply (held : α → ℕ) (p q : α) : less held p q = if q = p then held p - 1 else held q :=
  Function.update_apply held p _ q

@[simp] theorem less_more (held : α → ℕ) (p : α) : less (more held p) p = held := by
  funext q
  rw [less_apply, more_apply, more_apply]
  by_cases hq : q = p
  · rw [if_pos hq, if_pos rfl, hq, Nat.add_sub_cancel]
  · rw [if_neg hq, if_neg hq]

/-- The counts are exact: every reference is held from outside or by a child, an object that is left has one,
and a reference that is held leads to an object. -/
structure Exact (s : Counted α) (held : α → ℕ) : Prop where
  nodup : s.live.Nodup
  count : ∀ p ∈ s.live, s.count p = held p + s.children p
  pos : ∀ p ∈ s.live, 0 < s.count p
  held : ∀ p, 0 < held p → p ∈ s.live
  parent : ∀ q ∈ s.live, ∀ p, s.parent q = some p → p ∈ s.live

variable {s : Counted α} {held : α → ℕ} {p : α}

theorem Exact.congr {held' : α → ℕ} (h : s.Exact held) (heq : ∀ p, held' p = held p) : s.Exact held' := by
  rwa [show held' = held from funext heq]

/-- **A reference taken** to what is there. -/
theorem Exact.get (h : s.Exact held) (hp : p ∈ s.live) : (s.get p).Exact (more held p) where
  nodup := h.nodup
  count := by
    intro q hq
    have hcount := h.count q hq
    show Function.update s.count p (s.count p + 1) q = _
    rw [Function.update_apply, more_apply, children_get]
    by_cases hqp : q = p
    · subst hqp
      rw [if_pos rfl, if_pos rfl]
      omega
    · rw [if_neg hqp, if_neg hqp]
      exact hcount
  pos := by
    intro q hq
    have hpos := h.pos q hq
    show 0 < Function.update s.count p (s.count p + 1) q
    rw [Function.update_apply]
    split <;> omega
  held := by
    intro q hq
    rw [more_apply] at hq
    by_cases hqp : q = p
    · exact hqp ▸ hp
    · rw [if_neg hqp] at hq
      exact h.held q hq
  parent := h.parent

/-- One of several references is dropped. -/
theorem Exact.dec (h : s.Exact held) (hp : 0 < held p) (hone : s.count p ≠ 1) :
    (s.dec p).Exact (less held p) where
  nodup := h.nodup
  count := by
    intro q hq
    have hcount := h.count q hq
    show Function.update s.count p (s.count p - 1) q = _
    rw [Function.update_apply, less_apply, children_dec]
    by_cases hqp : q = p
    · subst hqp
      rw [if_pos rfl, if_pos rfl]
      omega
    · rw [if_neg hqp, if_neg hqp]
      exact hcount
  pos := by
    intro q hq
    have hpos := h.pos q hq
    show 0 < Function.update s.count p (s.count p - 1) q
    rw [Function.update_apply]
    by_cases hqp : q = p
    · subst hqp
      rw [if_pos rfl]
      omega
    · rw [if_neg hqp]
      exact hpos
  held := by
    intro q hq
    rw [less_apply] at hq
    by_cases hqp : q = p
    · exact hqp ▸ h.held p hp
    · rw [if_neg hqp] at hq
      exact h.held q hq
  parent := h.parent

/-- The children of an object once `p` is gone. -/
theorem children_free (hp : p ∈ s.live) (q : α) :
    s.children q = (s.free p).children q + if s.parent p = some q then 1 else 0 := by
  have hcount := List.countP_erase (fun r => decide (s.parent r = some q)) s.live p
  show s.live.countP (fun r => decide (s.parent r = some q))
    = (s.live.erase p).countP (fun r => decide (s.parent r = some q)) + _
  rw [hcount]
  by_cases hpq : s.parent p = some q
  · have hpos : 0 < s.live.countP fun r => s.parent r = some q :=
      List.countP_pos_iff.mpr ⟨p, hp, decide_eq_true hpq⟩
    rw [if_pos ⟨hp, decide_eq_true hpq⟩, if_pos hpq]
    omega
  · rw [if_neg (fun h => hpq (of_decide_eq_true h.2)), if_neg hpq]
    omega

/-- The references from outside once `p` is gone: the one it held to its parent is still to be dropped. -/
def afterFree (s : Counted α) (held : α → ℕ) (p : α) : α → ℕ :=
  match s.parent p with
  | none => less held p
  | some q => more (less held p) q

theorem afterFree_apply {q : α} (hq : q ≠ p) :
    s.afterFree held p q = held q + if s.parent p = some q then 1 else 0 := by
  unfold afterFree
  cases hpar : s.parent p with
  | none =>
    dsimp only
    rw [less_apply, if_neg hq, if_neg (by simp)]
    rfl
  | some r =>
    dsimp only
    by_cases hqr : q = r
    · subst hqr
      rw [more_apply, if_pos rfl, less_apply, if_neg hq, if_pos rfl]
    · rw [more_apply, if_neg hqr, less_apply, if_neg hq, if_neg fun h => hqr (Option.some.inj h).symm]
      rfl

/-- The last reference is dropped. -/
theorem Exact.free (h : s.Exact held) (hp : 0 < held p) (hone : s.count p = 1) :
    (s.free p).Exact (s.afterFree held p) := by
  have hlive := h.held p hp
  have hcount := h.count p hlive
  have hchildless : ∀ q ∈ s.live, s.parent q ≠ some p := by
    intro q hq hpar
    have hchild : 0 < s.children p := List.countP_pos_iff.mpr ⟨q, hq, decide_eq_true hpar⟩
    omega
  have hmem : ∀ {q}, q ∈ (s.free p).live ↔ q ≠ p ∧ q ∈ s.live := h.nodup.mem_erase_iff
  refine ⟨h.nodup.erase p, ?_, ?_, ?_, ?_⟩
  · intro q hq
    obtain ⟨hqp, hq⟩ := hmem.mp hq
    have hq' := h.count q hq
    rw [children_free hlive q] at hq'
    rw [free_count_of_ne hqp, afterFree_apply hqp]
    omega
  · intro q hq
    obtain ⟨hqp, hq⟩ := hmem.mp hq
    rw [free_count_of_ne hqp]
    exact h.pos q hq
  · intro q hq
    by_cases hqp : q = p
    · subst hqp
      -- nobody is left who refers to it
      have hgone : s.afterFree held q q = 0 := by
        unfold afterFree
        cases hpar : s.parent q with
        | none =>
          dsimp only
          rw [less_apply, if_pos rfl]
          omega
        | some r =>
          have hr : q ≠ r := fun heq => hchildless q hlive (heq ▸ hpar)
          dsimp only
          rw [more_apply, if_neg hr, less_apply, if_pos rfl]
          omega
      omega
    · rw [afterFree_apply hqp] at hq
      refine hmem.mpr ⟨hqp, ?_⟩
      by_cases hpar : s.parent p = some q
      · exact h.parent p hlive q hpar
      · rw [if_neg hpar] at hq
        exact h.held q hq
  · intro q hq r hpar
    obtain ⟨hqp, hq⟩ := hmem.mp hq
    exact hmem.mpr ⟨fun heq => hchildless q hq (heq ▸ hpar), h.parent q hq r hpar⟩

/-- One of several references is all that is dropped. -/
theorem put_of_count_ne_one (hp : p ∈ s.live) (hone : s.count p ≠ 1) : s.put p = s.dec p := by
  obtain ⟨n, hn⟩ := Nat.exists_eq_succ_of_ne_zero (Nat.pos_iff_ne_zero.mp (List.length_pos_of_mem hp))
  rw [put, hn]
  exact if_pos hone

theorem Exact.release {n : ℕ} (h : s.Exact held) (hn : s.live.length ≤ n) (hp : 0 < held p) :
    (release n s p).Exact (less held p) := by
  induction n generalizing s held p with
  | zero =>
    have hlive := h.held p hp
    rw [List.length_eq_zero_iff.mp (Nat.le_zero.mp hn)] at hlive
    cases hlive
  | succ n ih =>
    unfold Counted.release
    by_cases hone : s.count p = 1
    · have hfree := h.free hp hone
      rw [if_neg (not_not.mpr hone)]
      unfold afterFree at hfree
      cases hpar : s.parent p with
      | none =>
        rw [hpar] at hfree
        exact hfree
      | some q =>
        rw [hpar] at hfree
        dsimp only at hfree
        -- the reference that `p` held is dropped in turn
        have hlen : (s.free p).live.length ≤ n := by
          rw [free_live, List.length_erase_of_mem (h.held p hp)]
          omega
        have hrest := ih hfree hlen (by rw [more_apply, if_pos rfl]; omega)
        rwa [less_more] at hrest
    · rw [if_pos hone]
      exact h.dec hp hone

/-- **A reference dropped** that was held. -/
theorem Exact.put (h : s.Exact held) (hp : 0 < held p) : (s.put p).Exact (less held p) :=
  h.release (Nat.le_refl _) hp

/-- **A new object**; its parent's reference comes out of those that are held. -/
theorem Exact.insert {m : Option α} {n : ℕ} (h : s.Exact held) (hp : p ∉ s.live) (hn : 0 < n)
    (hm : ∀ q, m = some q → 0 < held q) :
    (s.insert p m n).Exact fun q =>
      if q = p then n else held q - if m = some q then 1 else 0 := by
  have hne : ∀ {q}, q ∈ s.live → q ≠ p := by
    rintro q hq rfl
    exact hp hq
  have hself : (s.insert p m n).parent p = m := Function.update_self _ _ _
  have hparent : ∀ {q}, q ∈ s.live → (s.insert p m n).parent q = s.parent q :=
    fun hq => Function.update_of_ne (hne hq) _ _
  have hcongr : ∀ q, s.live.countP (fun r => decide ((s.insert p m n).parent r = some q)) = s.children q := by
    intro q
    refine List.countP_congr fun r hr => ?_
    rw [hparent hr]
  have hchildren : ∀ q, (s.insert p m n).children q = s.children q + if m = some q then 1 else 0 := by
    intro q
    show (p :: s.live).countP _ = _
    rw [List.countP_cons, hcongr q, hself]
    by_cases hmq : m = some q <;> simp [hmq]
  refine ⟨List.nodup_cons.mpr ⟨hp, h.nodup⟩, ?_, ?_, ?_, ?_⟩
  · intro q hq
    rw [hchildren]
    show Function.update s.count p n q = _
    rw [Function.update_apply]
    rcases List.mem_cons.mp hq with rfl | hq
    · -- nobody refers to it yet, itself not either
      have hnone : s.children q = 0 := by
        refine List.countP_eq_zero.mpr fun r hr hpar => hp ?_
        exact h.parent r hr q (of_decide_eq_true hpar)
      have hown : m ≠ some q := fun heq => hp (h.held q (hm q heq))
      rw [if_pos rfl, if_pos rfl, hnone, if_neg hown]
      rfl
    · have hcount := h.count q hq
      rw [if_neg (hne hq), if_neg (hne hq)]
      by_cases hmq : m = some q
      · have hpos := hm q hmq
        rw [if_pos hmq]
        omega
      · rw [if_neg hmq]
        omega
  · intro q hq
    show 0 < Function.update s.count p n q
    rw [Function.update_apply]
    rcases List.mem_cons.mp hq with rfl | hq
    · rw [if_pos rfl]
      exact hn
    · rw [if_neg (hne hq)]
      exact h.pos q hq
  · intro q hq
    by_cases hqp : q = p
    · exact hqp ▸ List.mem_cons_self
    · rw [if_neg hqp] at hq
      exact List.mem_cons_of_mem p (h.held q (by omega))
  · intro q hq r hpar
    rcases List.mem_cons.mp hq with rfl | hq
    · exact List.mem_cons_of_mem q (h.held r (hm r (hself.symm.trans hpar)))
    · rw [hparent hq] at hpar
      exact List.mem_cons_of_mem p (h.parent q hq r hpar)

/-! ### What dropping a reference leaves -/

theorem release_parent (n : ℕ) (s : Counted α) (p : α) : (release n s p).parent = s.parent := by
  induction n generalizing s p with
  | zero => rfl
  | succ n ih =>
    unfold release
    split
    · rfl
    · split
      · rfl
      · rw [ih]
        rfl

@[simp] theorem put_parent (s : Counted α) (p : α) : (s.put p).parent = s.parent := release_parent _ s p

theorem release_live (n : ℕ) (s : Counted α) (p : α) : (release n s p).live.Sublist s.live := by
  induction n generalizing s p with
  | zero => exact List.Sublist.refl _
  | succ n ih =>
    unfold release
    split
    · exact List.Sublist.refl _
    · split
      · exact List.erase_sublist
      · exact (ih _ _).trans List.erase_sublist

/-- Nothing comes back. -/
theorem put_live (s : Counted α) (p : α) : (s.put p).live.Sublist s.live := release_live _ s p

/-! ### Nothing is left behind -/

/-- The parents of an object are older than it; `live` lists the newest object first. -/
structure Older (s : Counted α) : Prop where
  before : s.live.Pairwise fun p q => s.parent q ≠ some p
  irrefl : ∀ p ∈ s.live, s.parent p ≠ some p

/-- **Nothing is left behind**: every object is held, or an ancestor of one that is. -/
theorem Exact.reached (h : s.Exact held) (hold : s.Older) (hp : p ∈ s.live) :
    ∃ q ∈ s.live, 0 < held q ∧ Relation.ReflTransGen (fun a b => s.parent a = some b) q p := by
  -- on the objects that are newer than `p`
  have hall : ∀ l₁ l₂, s.live = l₁ ++ l₂ → ∀ p ∈ l₁, ∃ q ∈ s.live, 0 < held q ∧
      Relation.ReflTransGen (fun a b => s.parent a = some b) q p := by
    intro l₁
    induction l₁ using List.reverseRecOn with
    | nil =>
      intro l₂ _ p hp
      cases hp
    | append_singleton l₁ r ih =>
      intro l₂ hsplit p hp
      rw [List.append_assoc, List.singleton_append] at hsplit
      have hnewer := ih (r :: l₂) hsplit
      rcases List.mem_append.mp hp with hp | hp
      · exact hnewer p hp
      · obtain rfl := List.mem_singleton.mp hp
        have hlive : p ∈ s.live := by
          rw [hsplit]
          simp
        by_cases hheld : 0 < held p
        · exact ⟨p, hlive, hheld, .refl⟩
        · have hpos := h.pos p hlive
          rw [h.count p hlive] at hpos
          have hchildren : 0 < s.children p := by omega
          obtain ⟨c, hc, hpar⟩ := List.countP_pos_iff.mp hchildren
          replace hpar : s.parent c = some p := of_decide_eq_true hpar
          have hbefore := hold.before
          rw [hsplit] at hc hbefore
          rcases List.mem_append.mp hc with hc | hc
          · obtain ⟨q, hq, hqheld, hpath⟩ := hnewer c hc
            exact ⟨q, hq, hqheld, hpath.tail hpar⟩
          · rcases List.mem_cons.mp hc with rfl | hc
            · exact absurd hpar (hold.irrefl _ hlive)
            · exact absurd hpar (List.rel_of_pairwise_cons (List.pairwise_append.mp hbefore).2.1 hc)
  exact hall s.live [] (List.append_nil _).symm p hp

end Counted

end VgwDriver.Base
