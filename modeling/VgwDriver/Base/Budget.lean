import VgwDriver.Base.Sink

/-!
# How much room a writer needs

An output stays within a budget of `n` bytes if it never takes more than `n` and never fails where `n` bytes
are left.  Budgets add up along a sequence of writers, so the room a message needs follows from the parts of
which it is made.

* `Out.Within` — the output stays within `n` bytes;
* `Out.Within.fixed`, `Out.Within.seq`, `Out.Within.nest`, `Out.Within.fitting` — the rules;
* `Out.AtLeast` — the output takes `n` bytes or more, and fails where they are not left; its rules are the
  same, and together the two say when a buffer is too small.
-/

namespace VgwDriver.Base

/-- The size of an attribute with a payload of `n` bytes, padding included. -/
def nlaTotalSize (n : ℕ) : ℕ := align4 (attrHdrLen + n)

theorem nlaTotalSize_payload (a : Attr) : nlaTotalSize a.payload.length = align4 a.len := rfl

theorem nlaTotalSize_mono {m n : ℕ} (h : m ≤ n) : nlaTotalSize m ≤ nlaTotalSize n := by
  rw [nlaTotalSize, nlaTotalSize, align4, align4]
  omega

/-- One more byte of payload takes at most one more word. -/
theorem nlaTotalSize_succ (n : ℕ) : nlaTotalSize (n + 1) ≤ nlaTotalSize n + 4 := by
  rw [nlaTotalSize, nlaTotalSize, align4, align4]
  omega

/-- Where a length fills its last word, one more byte takes one more word. -/
theorem nlaTotalSize_succ_of_dvd {n : ℕ} (h : 4 ∣ n) : nlaTotalSize (n + 1) = nlaTotalSize n + 4 := by
  rw [nlaTotalSize, nlaTotalSize, align4, align4, attrHdrLen]
  omega

/-- The output takes at most `n` bytes, and all it wants where they are left. -/
def Out.Within (n : ℕ) (o : Out) : Prop :=
  ∀ room, (n ≤ room → (o room).isSome) ∧ ∀ l, o room = some l → attrsSize l ≤ n

variable {e : Endian} {o o₁ o₂ : Out} {m n : ℕ}

theorem Out.Within.mono (h : o.Within m) (hle : m ≤ n) : o.Within n := by
  intro room
  refine ⟨fun hroom => (h room).1 (by omega), fun l hl => ?_⟩
  have := (h room).2 l hl
  omega

theorem Out.Within.fixed {l : List Attr} (h : attrsSize l ≤ n) : (fixedOut l).Within n := by
  intro room
  constructor
  · intro hroom
    rw [fixedOut_of_le (by omega)]
    rfl
  · intro l' hl'
    rw [fixedOut] at hl'
    split at hl'
    · cases hl'
      exact h
    · cases hl'

theorem Out.Within.nil : (fixedOut []).Within 0 := Out.Within.fixed (Nat.le_refl 0)

/-- **Budgets add up.** -/
theorem Out.Within.seq (h₁ : o₁.Within m) (h₂ : o₂.Within n) : (seqOut o₁ o₂).Within (m + n) := by
  intro room
  constructor
  · intro hroom
    obtain ⟨l₁, hl₁⟩ := Option.isSome_iff_exists.mp ((h₁ room).1 (by omega))
    have hsize := (h₁ room).2 l₁ hl₁
    obtain ⟨l₂, hl₂⟩ := Option.isSome_iff_exists.mp ((h₂ (room - attrsSize l₁)).1 (by omega))
    simp [seqOut, hl₁, hl₂]
  · intro l hl
    simp only [seqOut, Option.bind_eq_some_iff, Option.map_eq_some_iff] at hl
    obtain ⟨l₁, hl₁, l₂, hl₂, rfl⟩ := hl
    have hsize₁ := (h₁ room).2 l₁ hl₁
    have hsize₂ := (h₂ (room - attrsSize l₁)).2 l₂ hl₂
    rw [attrsSize_append]
    omega

/-- A nested attribute takes its header and what its children take. -/
theorem Out.Within.nest (type : UInt16) (h : o.Within n) : (nestOut e type o).Within (attrHdrLen + n) := by
  intro room
  constructor
  · intro hroom
    obtain ⟨kids, hkids⟩ := Option.isSome_iff_exists.mp ((h (room - attrHdrLen)).1 (by omega))
    rw [nestOut, if_pos (by omega), hkids]
    rfl
  · intro l hl
    rw [nestOut] at hl
    split at hl
    · obtain ⟨kids, hkids, rfl⟩ := Option.map_eq_some_iff.mp hl
      have hsize := (h _).2 kids hkids
      rw [attrsSize_cons, attrsSize_nil, nestAttr_len]
      omega
    · cases hl

/-- A part that may be left out. -/
theorem Out.Within.ite (b : Bool) (h : o.Within n) : (if b then o else fixedOut []).Within n := by
  cases b with
  | true => exact h
  | false => exact Out.Within.nil.mono (Nat.zero_le n)

theorem attrsSize_fittingAttrs (l : List Attr) (room : ℕ) : attrsSize (fittingAttrs l room) ≤ attrsSize l := by
  induction l generalizing room with
  | nil => exact Nat.le_refl _
  | cons a l ih =>
    rw [fittingAttrs]
    split
    · have := ih (room - align4 a.len)
      rw [attrsSize_cons, attrsSize_cons]
      omega
    · exact Nat.zero_le _

/-- Where there is room for all of them, all of them fit. -/
theorem fittingAttrs_of_le {l : List Attr} : ∀ {room : ℕ}, attrsSize l ≤ room → fittingAttrs l room = l := by
  induction l with
  | nil => exact fun _ => rfl
  | cons a l ih =>
    intro room h
    rw [attrsSize_cons] at h
    rw [fittingAttrs, if_pos (by omega), ih (by omega)]

theorem Out.Within.fitting (l : List Attr) : (fittingOut l).Within (attrsSize l) := by
  intro room
  refine ⟨fun _ => rfl, fun out hout => ?_⟩
  obtain rfl := Option.some.inj hout
  exact attrsSize_fittingAttrs l room

/-! ### From below -/

/-- The output takes at least `n` bytes, and never more than are left. -/
def Out.AtLeast (n : ℕ) (o : Out) : Prop := ∀ room l, o room = some l → n ≤ attrsSize l ∧ attrsSize l ≤ room

/-- **A buffer too small** for an output. -/
theorem Out.AtLeast.eq_none (h : o.AtLeast n) {room : ℕ} (hroom : room < n) : o room = none := by
  cases ho : o room with
  | none => rfl
  | some l =>
    have := h room l ho
    omega

theorem Out.AtLeast.fixed {l : List Attr} (h : n ≤ attrsSize l) : (fixedOut l).AtLeast n := by
  intro room l' hl'
  rw [fixedOut] at hl'
  split at hl'
  · cases hl'
    exact ⟨h, by assumption⟩
  · cases hl'

theorem Out.AtLeast.seq (h₁ : o₁.AtLeast m) (h₂ : o₂.AtLeast n) : (seqOut o₁ o₂).AtLeast (m + n) := by
  intro room l hl
  simp only [seqOut, Option.bind_eq_some_iff, Option.map_eq_some_iff] at hl
  obtain ⟨l₁, hl₁, l₂, hl₂, rfl⟩ := hl
  have hsize₁ := h₁ room l₁ hl₁
  have hsize₂ := h₂ _ l₂ hl₂
  rw [attrsSize_append]
  omega

theorem Out.AtLeast.nest (type : UInt16) (h : o.AtLeast n) :
    (nestOut e type o).AtLeast (attrHdrLen + n) := by
  intro room l hl
  rw [nestOut] at hl
  split at hl
  · obtain ⟨kids, hkids, rfl⟩ := Option.map_eq_some_iff.mp hl
    have hsize := h _ kids hkids
    rw [attrsSize_cons, attrsSize_nil, nestAttr_len]
    omega
  · cases hl

end VgwDriver.Base
