import VgwDriver.Base.Sink

/-!
# Well-formed strings of attributes

What a reader of attributes expects of a message: the string splits into whole attributes, padding included,
and so does the payload of every attribute that carries the nesting flag.

* `Forest` — the strings that do;
* `Sound` — attributes that are well formed as soon as their length field does not overflow;
* `Sound.nestAttr` — **a nested attribute of sound children is sound**;
* `forest_attrsBytes` — the encoding of sound attributes is a forest;
* `Out.All.nestOf`, `Out.All.fitting` — what holds of every attribute a writer can append.
-/

namespace VgwDriver.Base

/-- A string of whole attributes, the payload of each nested one such a string again. -/
inductive Forest (e : Endian) : Bytes → Prop where
  | mk {bs : Bytes} {l : List Attr} (hparse : parseAttrs e bs = some l) (hsize : attrsSize l = bs.length)
      (hkids : ∀ a ∈ l, a.type &&& nestedFlag ≠ 0 → Forest e a.payload) : Forest e bs

/-- An attribute whose payload is a forest if it says that it is nested. -/
def Attr.WellFormed (e : Endian) (a : Attr) : Prop := a.type &&& nestedFlag ≠ 0 → Forest e a.payload

/-- Well formed unless the length field overflows. -/
def Attr.Sound (e : Endian) (a : Attr) : Prop := a.Fits → a.WellFormed e

/-- Every attribute of the list is sound. -/
def Sound (e : Endian) (l : List Attr) : Prop := ∀ a ∈ l, a.Sound e

variable {e : Endian}

/-- **The encoding of sound attributes is a forest.** -/
theorem forest_attrsBytes {l : List Attr} (hsize : attrsSize l < 65536) (h : Sound e l) :
    Forest e (attrsBytes e l) := by
  have hfits := fits_of_attrsSize hsize
  refine Forest.mk (parseAttrs_attrsBytes e l hfits) (length_attrsBytes e l).symm ?_
  intro a ha
  exact h a ha (hfits a ha)

theorem Attr.WellFormed.sound {a : Attr} (h : a.WellFormed e) : a.Sound e := fun _ => h

/-- An attribute without the flag is sound. -/
theorem Attr.sound_leaf {a : Attr} (h : a.type &&& nestedFlag = 0) : a.Sound e :=
  fun _ hflag => absurd h hflag

/-- **A nested attribute of sound children is sound.** -/
theorem Sound.nestAttr {kids : List Attr} (h : Sound e kids) (type : UInt16) :
    (Base.nestAttr e type kids).Sound e := by
  intro hfits _
  have hlen : attrsSize kids ≤ (Base.nestAttr e type kids).len := by
    show attrsSize kids ≤ attrHdrLen + (attrsBytes e kids).length
    rw [length_attrsBytes]
    omega
  have hsize : attrsSize kids < 65536 := Nat.lt_of_le_of_lt hlen hfits
  exact forest_attrsBytes hsize h

theorem Sound.nil (e : Endian) : Sound e [] := fun _ ha => by cases ha

theorem Sound.cons {a : Attr} {l : List Attr} (ha : a.Sound e) (hl : Sound e l) : Sound e (a :: l) := by
  intro x hx
  rcases List.mem_cons.mp hx with rfl | hx
  · exact ha
  · exact hl x hx

theorem Sound.single {a : Attr} (ha : a.Sound e) : Sound e [a] := Sound.cons ha (Sound.nil e)

theorem Sound.append {l₁ l₂ : List Attr} (h₁ : Sound e l₁) (h₂ : Sound e l₂) : Sound e (l₁ ++ l₂) := by
  intro a ha
  rcases List.mem_append.mp ha with ha | ha
  · exact h₁ a ha
  · exact h₂ a ha

/-- A list of attributes of the types `ts`, none of which has the flag, is sound. -/
theorem Sound.leaves {l : List Attr} (ts : List UInt16) (hl : l.map Attr.type = ts)
    (h : (ts.all fun t => t &&& nestedFlag = 0) = true) : Sound e l := by
  intro a ha
  have hmem : a.type ∈ ts := by
    rw [← hl]
    exact List.mem_map_of_mem ha
  exact Attr.sound_leaf (of_decide_eq_true (List.all_eq_true.mp h _ hmem))

/-! ### Outputs -/

/-- What the children of a nested output satisfy carries over to the attribute around them. -/
theorem Out.All.nestOf {P Q : Attr → Prop} {type : UInt16} {o : Out} (ho : Out.All Q o)
    (h : ∀ kids, (∀ a ∈ kids, Q a) → P (Base.nestAttr e type kids)) :
    Out.All P (nestOut e type o) := by
  intro room l hl a ha
  rw [nestOut] at hl
  split at hl
  · obtain ⟨kids, hkids, rfl⟩ := Option.map_eq_some_iff.mp hl
    rw [List.mem_singleton.mp ha]
    exact h kids (ho _ _ hkids)
  · cases hl

theorem fittingAttrs_subset (l : List Attr) (room : ℕ) : fittingAttrs l room ⊆ l := by
  induction l generalizing room with
  | nil => exact List.Subset.refl _
  | cons a l ih =>
    rw [fittingAttrs]
    split
    · exact List.cons_subset_cons a (ih _)
    · exact List.nil_subset _

theorem Out.All.fitting {P : Attr → Prop} {l : List Attr} (h : ∀ a ∈ l, P a) :
    Out.All P (fittingOut l) := by
  intro room out hout a ha
  obtain rfl := Option.some.inj hout
  exact h a (fittingAttrs_subset l room ha)

end VgwDriver.Base
