import Mathlib.Data.Int.Notation
import Mathlib.Data.List.Count
import Mathlib.Tactic.Common

/-!
# Counted references

A holder takes references to objects and drops them.  `Refs α` is its account: for each object the
references taken less the references dropped, so an account below zero is a reference dropped that the
holder did not have.  `Holds` says which references an account amounts to.

* `Holds.get`, `Holds.put` — what taking and dropping a reference does to them;
* `Holds.left_iff` — an account that holds too much.

An account forgets the order.  `RefM ρ α β` is a computation on the records of counted objects that logs,
in order, each reference it takes or drops and each access of a record.

* `RefM.Accesses` — only the record of one object is accessed, and no reference taken or dropped;
* `RefM.Accesses.bracketed` — such a computation between taking a reference and dropping it.
-/

namespace VgwDriver.Base

/-- For each object, the references taken less the references dropped. -/
def Refs (α : Type*) := α → ℤ

namespace Refs

variable {α : Type*} [DecidableEq α]

/-- The account of a holder that has not taken any reference. -/
def none : Refs α := fun _ => 0

/-- Take a reference to `p`. -/
def get (r : Refs α) (p : α) : Refs α := fun q => if q = p then r q + 1 else r q

/-- Drop a reference to `p`. -/
def put (r : Refs α) (p : α) : Refs α := fun q => if q = p then r q - 1 else r q

/-- The references held are those of the list, each as often as it stands there. -/
def Holds (r : Refs α) (l : List α) : Prop := ∀ p, r p = l.count p

variable {r : Refs α} {l l' : List α} {p : α}

theorem none_holds : (none : Refs α).Holds [] := fun p => by
  rw [List.count_nil]
  rfl

theorem Holds.perm (h : r.Holds l) (hperm : l.Perm l') : r.Holds l' := by
  intro p
  rw [h p, hperm.count_eq]

/-- **A reference taken** is one more. -/
theorem Holds.get (h : r.Holds l) (p : α) : (r.get p).Holds (p :: l) := by
  intro q
  show (if q = p then r q + 1 else r q) = _
  by_cases hq : q = p
  · subst hq
    rw [if_pos rfl, h q, List.count_cons_self]
    rfl
  · rw [if_neg hq, h q, List.count_cons_of_ne (Ne.symm hq)]

/-- **A reference dropped** was held, and is gone. -/
theorem Holds.put (h : r.Holds (p :: l)) : (r.put p).Holds l := by
  intro q
  have hq := h q
  show (if q = p then r q - 1 else r q) = _
  by_cases hqp : q = p
  · subst hqp
    rw [List.count_cons_self] at hq
    rw [if_pos rfl, hq]
    push_cast
    omega
  · rw [List.count_cons_of_ne (Ne.symm hqp)] at hq
    rw [if_neg hqp, hq]

/-- **An account that holds too much.** -/
theorem Holds.left_iff (h : r.Holds (l ++ l')) : r.Holds l ↔ l' = [] := by
  constructor
  · intro hl
    rw [List.eq_nil_iff_forall_not_mem]
    intro p hp
    have hcount := List.count_pos_iff.mpr hp
    have hsum := h p
    rw [hl p, List.count_append] at hsum
    omega
  · intro hnil
    rw [hnil, List.append_nil] at h
    exact h

end Refs

/-! ### Logs -/

/-- A reference to an object is taken, one is dropped, or the object's record is read or written. -/
inductive RefEvent (α : Type) where
  | get (p : α)
  | put (p : α)
  | access (p : α)
  deriving DecidableEq, Repr

/-- Only the record of `p` is accessed, and no reference is taken or dropped. -/
def AccessesOnly {α : Type} (p : α) (l : List (RefEvent α)) : Prop := ∀ e ∈ l, e = .access p

/-- One reference to `p` is taken first and one dropped last; in between only the record of `p` is accessed. -/
def Bracketed {α : Type} (p : α) (l : List (RefEvent α)) : Prop :=
  ∃ inner, AccessesOnly p inner ∧ l = .get p :: inner ++ [.put p]

theorem AccessesOnly.append {α : Type} {p : α} {l l' : List (RefEvent α)} (h : AccessesOnly p l)
    (h' : AccessesOnly p l') : AccessesOnly p (l ++ l') := by
  intro e he
  exact (List.mem_append.mp he).elim (h e) (h' e)

/-- A computation with a value on the records `α → ρ`, and the log of what it does. -/
def RefM (ρ α β : Type) : Type := (α → ρ) → β × (α → ρ) × List (RefEvent α)

variable {ρ α β γ : Type}

instance : Monad (RefM ρ α) where
  pure b := fun h => (b, h, [])
  bind f g := fun h => ((g (f h).1 (f h).2.1).1, (g (f h).1 (f h).2.1).2.1,
    (f h).2.2 ++ (g (f h).1 (f h).2.1).2.2)

namespace RefM

/-- The three parts of a computation started with the records `h`. -/
def value (f : RefM ρ α β) (h : α → ρ) : β := (f h).1
def records (f : RefM ρ α β) (h : α → ρ) : α → ρ := (f h).2.1
def log (f : RefM ρ α β) (h : α → ρ) : List (RefEvent α) := (f h).2.2

/-- Read the record of `p`. -/
def read (p : α) : RefM ρ α ρ := fun h => (h p, h, [.access p])

variable [DecidableEq α]

/-- Change the record of `p`. -/
def write (p : α) (f : ρ → ρ) : RefM ρ α Unit :=
  fun h => ((), fun q => if q = p then f (h q) else h q, [.access p])

/-- Take a reference to `p`, which `f` counts in its record. -/
def get (p : α) (f : ρ → ρ) : RefM ρ α Unit :=
  fun h => ((), fun q => if q = p then f (h q) else h q, [.get p])

/-- Drop a reference to `p`. -/
def put (p : α) (f : ρ → ρ) : RefM ρ α Unit :=
  fun h => ((), fun q => if q = p then f (h q) else h q, [.put p])

omit [DecidableEq α]

variable {f : RefM ρ α β} {g : β → RefM ρ α γ} {h : α → ρ} {p : α}

@[simp] theorem value_pure (b : β) : (pure b : RefM ρ α β).value h = b := rfl
@[simp] theorem records_pure (b : β) : (pure b : RefM ρ α β).records h = h := rfl
@[simp] theorem log_pure (b : β) : (pure b : RefM ρ α β).log h = [] := rfl

@[simp] theorem value_read : (read p : RefM ρ α ρ).value h = h p := rfl
@[simp] theorem records_read : (read p : RefM ρ α ρ).records h = h := rfl

@[simp] theorem value_bind : (f >>= g).value h = (g (f.value h)).value (f.records h) := rfl
@[simp] theorem records_bind : (f >>= g).records h = (g (f.value h)).records (f.records h) := rfl
@[simp] theorem log_bind : (f >>= g).log h = f.log h ++ (g (f.value h)).log (f.records h) := rfl

/-- Whatever the records are, only that of `p` is accessed. -/
def Accesses (p : α) (f : RefM ρ α β) : Prop := ∀ h, AccessesOnly p (f.log h)

theorem Accesses.pure (b : β) : Accesses p (Pure.pure b : RefM ρ α β) := fun _ _ he => nomatch he

theorem Accesses.read : Accesses p (read p : RefM ρ α ρ) := fun _ _ he => List.mem_singleton.mp he

theorem Accesses.write [DecidableEq α] (k : ρ → ρ) : Accesses p (write p k : RefM ρ α Unit) :=
  fun _ _ he => List.mem_singleton.mp he

theorem Accesses.bind (hf : Accesses p f) (hg : ∀ b, Accesses p (g b)) : Accesses p (f >>= g) :=
  fun h => (hf h).append (hg _ _)

/-- **A computation between taking a reference and dropping it.** -/
theorem Accesses.bracketed [DecidableEq α] (hf : Accesses p f) (take drop : ρ → ρ) (k : β → γ)
    (h : α → ρ) :
    Bracketed p (RefM.log (do
      RefM.get p take
      let b ← f
      RefM.put p drop
      return k b) h) :=
  ⟨f.log _, hf _, rfl⟩

end RefM

end VgwDriver.Base
