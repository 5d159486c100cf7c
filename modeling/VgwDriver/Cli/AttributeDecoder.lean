import Mathlib.Data.Int.Notation
import VgwDriver.Base.Tlv

/-!
# The CLI's attribute decoder

`netlink.AttributeDecoder` of the vendored library, which the CLI reads conntrack messages with: an iterator
over the attributes of a byte string.  It counts the attributes when it is made, and stops at the first that
is cut off; the value readers and the loops over it report an error that makes the whole decoding fail.

* `newAttributeDecoder_attrsBytes` — a decoder of an encoded list yields the list;
* `foldlM_keeps`, `foldlM_sets` — what a loop leaves in a field that only one attribute sets, and
  `foldlM_sets_value` in one whose setters agree;
* `Decodes` — what a loop makes of a whole list, with its rules for each way a list is put together.
-/

namespace VgwDriver

open Base

/-- The Go conversion `uint32(i)`. -/
def goUint32 (i : ℤ) : UInt32 := UInt32.ofNat (i % 4294967296).toNat

/-- The errors of the decoders, without the texts the callers wrap around them. -/
inductive DecodeError where
  | errInvalidAttribute
  | errMessageLen
  | errNotUint (type : UInt16) (bits length : ℕ)
  | errUnknownAttribute (type : UInt16)
  | errNotNested (type : UInt16)
  | errNeedSingleChild
  | errNeedChildren
  | errIncorrectSize
  | errReusedProtoInfo
  | errMismatchLength (length : ℕ)
  deriving DecidableEq, Repr

/-- What a call of a decoder returns. -/
abbrev Decode := Except DecodeError

/-! ### Iteration -/

/-- `AttributeDecoder.available`: how many attributes have a length field that is not zero. -/
def availableFuel (e : Endian) : ℕ → Bytes → Decode ℕ
  | _, [] => .ok 0
  | 0, _ :: _ => .error .errInvalidAttribute
  | fuel + 1, b :: bs =>
    if (b :: bs).length < attrHdrLen then .error .errInvalidAttribute
    else
      let l := (get16 e ((b :: bs).take 2)).toNat
      (availableFuel e fuel ((b :: bs).drop (align4 (max l attrHdrLen)))).map
        (· + if l ≠ 0 then 1 else 0)

/-- `Attribute.unmarshal`: the length field and the attribute. -/
def attributeUnmarshal (e : Endian) (b : Bytes) : Decode (ℕ × Attr) :=
  if b.length < attrHdrLen then .error .errInvalidAttribute
  else
    let length := (get16 e (b.take 2)).toNat
    let type := get16 e ((b.drop 2).take 2)
    if b.length < length then .error .errInvalidAttribute
    else if length = 0 then .ok (length, ⟨type, []⟩)
    else if length < attrHdrLen then .error .errInvalidAttribute
    else .ok (length, ⟨type, (b.drop attrHdrLen).take (length - attrHdrLen)⟩)

/-- The attributes that calls of `Next` yield, and the error that ends them, if one does. -/
def nextFuel (e : Endian) : ℕ → Bytes → List Attr × Option DecodeError
  | _, [] => ([], none)
  | 0, _ :: _ => ([], some .errInvalidAttribute)
  | fuel + 1, b :: bs =>
    match attributeUnmarshal e (b :: bs) with
    | .error err => ([], some err)
    | .ok (length, a) =>
      let step := if length < attrHdrLen then attrHdrLen else align4 length
      let (l, err) := nextFuel e fuel ((b :: bs).drop step)
      (a :: l, err)

/-- `AttributeDecoder`: what `Next` still yields and what ends it, and `Len`. -/
structure AttributeDecoder where
  attrs : List Attr
  err : Option DecodeError
  length : ℕ
  deriving DecidableEq, Repr

/-- `NewAttributeDecoder`.  Each attribute takes at least its header, so `b.length` steps do. -/
def newAttributeDecoder (e : Endian) (b : Bytes) : Decode AttributeDecoder := do
  let length ← availableFuel e b.length b
  let (attrs, err) := nextFuel e b.length b
  pure ⟨attrs, err, length⟩

/-- `for ad.Next() { … }; return ad.Err()`. -/
def eachAttr {σ : Type} (ad : AttributeDecoder) (step : σ → Attr → Decode σ) (s : σ) : Decode σ := do
  let s ← ad.attrs.foldlM step s
  match ad.err with
  | some err => .error err
  | none => .ok s

/-- `ad.Nested(fn)`. -/
def nested {α : Type} (e : Endian) (a : Attr) (fn : AttributeDecoder → Decode α) : Decode α := do
  let nad ← newAttributeDecoder e a.payload
  fn nad

/-- The attribute's type as the `uint8` enumerations of the conntrack library hold it. -/
def Base.Attr.enum (a : Attr) : UInt16 := a.kind &&& 0xff

/-! ### Values -/

/-- `ad.Uint8()`. -/
def adUint8 (a : Attr) : Decode UInt8 :=
  if a.payload.length ≠ 1 then .error (.errNotUint a.kind 8 a.payload.length)
  else .ok (a.payload.getD 0 0)

/-- `ad.Uint16()`, in the byte order of netfilter attributes. -/
def adUint16 (a : Attr) : Decode UInt16 :=
  if a.payload.length ≠ 2 then .error (.errNotUint a.kind 16 a.payload.length)
  else .ok (get16 .big a.payload)

/-- `ad.Uint32()`. -/
def adUint32 (a : Attr) : Decode UInt32 :=
  if a.payload.length ≠ 4 then .error (.errNotUint a.kind 32 a.payload.length)
  else .ok (get32 .big a.payload)

/-- `ad.Uint64()`. -/
def adUint64 (a : Attr) : Decode UInt64 :=
  if a.payload.length ≠ 8 then .error (.errNotUint a.kind 64 a.payload.length)
  else .ok (get64 .big a.payload)

/-- `ad.String()`: the payload without the zero bytes at its end. -/
def adString (a : Attr) : Bytes := (a.payload.reverse.dropWhile (· = 0)).reverse

/-! ### Encoded lists -/

theorem availableFuel_attrsBytes (e : Endian) {l : List Attr} (hl : ∀ a ∈ l, a.Fits) :
    ∀ fuel, l.length ≤ fuel → availableFuel e fuel (attrsBytes e l) = .ok l.length := by
  induction l with
  | nil => intro fuel _; cases fuel <;> rfl
  | cons a l ih =>
    intro fuel hfuel
    obtain ⟨b, bs, hb⟩ := a.bytes_eq_cons e
    cases fuel with
    | zero => simp at hfuel
    | succ fuel =>
      have htail := ih (fun x hx => hl x (List.mem_cons_of_mem a hx)) fuel (by simpa using hfuel)
      have hlen : (get16 e ((a.bytes e ++ attrsBytes e l).take 2)).toNat = a.len := by
        have htake : (a.bytes e ++ attrsBytes e l).take 2 = put16 e (UInt16.ofNat a.len) := by
          simp [Attr.bytes, attrHdr]
        rw [htake, get16_put16, UInt16.toNat_ofNat']
        exact Nat.mod_eq_of_lt (hl a List.mem_cons_self)
      have hhdr : attrHdrLen ≤ a.len := Nat.le_add_right _ _
      have hsize : (a.bytes e).length = align4 a.len := a.length_bytes e
      have hle : a.len ≤ align4 a.len := le_align4 _
      have hdrop : (a.bytes e ++ attrsBytes e l).drop (align4 (max a.len attrHdrLen))
          = attrsBytes e l := by
        rw [Nat.max_eq_left hhdr, ← hsize, List.drop_left]
      have hshort : ¬ (a.bytes e ++ attrsBytes e l).length < attrHdrLen := by
        rw [List.length_append]
        omega
      have hpos : a.len ≠ 0 := by
        simp only [attrHdrLen] at hhdr
        omega
      rw [attrsBytes_cons, hb] at *
      simp only [List.cons_append] at *
      rw [availableFuel, if_neg hshort]
      simp only [hlen, hdrop, htail, hpos, ne_eq, not_false_eq_true, if_true]
      rfl

theorem attributeUnmarshal_bytes (e : Endian) {a : Attr} (ha : a.Fits) (rest : Bytes) :
    attributeUnmarshal e (a.bytes e ++ rest) = .ok (a.len, a) := by
  have hnext := nextAttr_bytes e ha rest
  have hhdr : attrHdrLen ≤ a.len := Nat.le_add_right _ _
  have htake : (a.bytes e ++ rest).take 2 = put16 e (UInt16.ofNat a.len) := by
    simp [Attr.bytes, attrHdr]
  have hlen : (get16 e ((a.bytes e ++ rest).take 2)).toNat = a.len := by
    rw [htake, get16_put16, UInt16.toNat_ofNat']
    exact Nat.mod_eq_of_lt ha
  have hpos : a.len ≠ 0 := by
    simp only [attrHdrLen] at hhdr
    omega
  -- the same reads as `nextAttr`
  unfold nextAttr at hnext
  unfold attributeUnmarshal
  simp only [hlen] at *
  split at hnext
  · cases hnext
  · rename_i hok
    simp only [not_or, Nat.not_lt] at hok
    obtain ⟨h₁, h₂, h₃⟩ := hok
    have hattr := (Prod.mk.inj (Option.some.inj hnext)).1
    rw [if_neg (Nat.not_lt.mpr h₁), if_neg (Nat.not_lt.mpr h₃), if_neg hpos, if_neg (Nat.not_lt.mpr h₂)]
    exact congrArg (fun x => Except.ok (a.len, x)) hattr

theorem nextFuel_attrsBytes (e : Endian) {l : List Attr} (hl : ∀ a ∈ l, a.Fits) :
    ∀ fuel, l.length ≤ fuel → nextFuel e fuel (attrsBytes e l) = (l, none) := by
  induction l with
  | nil => intro fuel _; cases fuel <;> rfl
  | cons a l ih =>
    intro fuel hfuel
    obtain ⟨b, bs, hb⟩ := a.bytes_eq_cons e
    cases fuel with
    | zero => simp at hfuel
    | succ fuel =>
      have htail := ih (fun x hx => hl x (List.mem_cons_of_mem a hx)) fuel (by simpa using hfuel)
      have hread := attributeUnmarshal_bytes e (hl a List.mem_cons_self) (attrsBytes e l)
      have hsize : (a.bytes e).length = align4 a.len := a.length_bytes e
      have hhdr : ¬ a.len < attrHdrLen := Nat.not_lt.mpr (Nat.le_add_right _ _)
      have hdrop : (a.bytes e ++ attrsBytes e l).drop (align4 a.len) = attrsBytes e l := by
        rw [← hsize, List.drop_left]
      rw [attrsBytes_cons, hb] at *
      simp only [List.cons_append] at *
      simp only [nextFuel, hread, hhdr, if_false, hdrop, htail]

/-- **A decoder of an encoded list yields the list.** -/
theorem newAttributeDecoder_attrsBytes (e : Endian) {l : List Attr} (hl : ∀ a ∈ l, a.Fits) :
    newAttributeDecoder e (attrsBytes e l) = .ok ⟨l, none, l.length⟩ := by
  have hfuel : l.length ≤ (attrsBytes e l).length := by
    rw [length_attrsBytes]
    exact length_le_attrsSize l
  unfold newAttributeDecoder
  rw [availableFuel_attrsBytes e hl _ hfuel, nextFuel_attrsBytes e hl _ hfuel]
  rfl

/-! ### Loops -/

variable {σ τ : Type} {step : σ → Attr → Decode σ} {field : σ → τ}

/-- A field that no attribute of the list changes. -/
theorem foldlM_keeps {l : List Attr}
    (hkeep : ∀ a ∈ l, ∀ s s', step s a = .ok s' → field s' = field s) :
    ∀ {s s'}, l.foldlM step s = .ok s' → field s' = field s := by
  induction l with
  | nil =>
    intro s s' h
    cases h
    rfl
  | cons a l ih =>
    intro s s' h
    rw [List.foldlM_cons] at h
    cases hs : step s a with
    | error err => rw [hs] at h; cases h
    | ok t =>
      rw [hs] at h
      have htail := ih (fun x hx => hkeep x (List.mem_cons_of_mem a hx)) h
      exact htail.trans (hkeep a List.mem_cons_self s t hs)

/-- **A field that one attribute of the list sets**: the step made there, from the field's first value. -/
theorem foldlM_sets {pre post : List Attr} {a : Attr}
    (hpre : ∀ x ∈ pre, ∀ s s', step s x = .ok s' → field s' = field s)
    (hpost : ∀ x ∈ post, ∀ s s', step s x = .ok s' → field s' = field s) {s s' : σ}
    (h : (pre ++ a :: post).foldlM step s = .ok s') :
    ∃ t t', field t = field s ∧ step t a = .ok t' ∧ field s' = field t' := by
  rw [List.foldlM_append] at h
  cases ht : pre.foldlM step s with
  | error err => rw [ht] at h; cases h
  | ok t =>
    rw [ht] at h
    have hrest : (a :: post).foldlM step t = .ok s' := h
    rw [List.foldlM_cons] at hrest
    cases ht' : step t a with
    | error err => rw [ht'] at hrest; cases hrest
    | ok t' =>
      rw [ht'] at hrest
      exact ⟨t, t', foldlM_keeps hpre ht, ht', foldlM_keeps hpost hrest⟩

/-- A field that every attribute leaves alone or sets to `v`. -/
theorem foldlM_keeps_or {v : τ} {l : List Attr}
    (hset : ∀ a ∈ l, ∀ s s', step s a = .ok s' → field s' = field s ∨ field s' = v) :
    ∀ {s s'}, l.foldlM step s = .ok s' → field s' = field s ∨ field s' = v := by
  induction l with
  | nil =>
    intro s s' h
    cases h
    exact .inl rfl
  | cons a l ih =>
    intro s s' h
    rw [List.foldlM_cons] at h
    obtain ⟨t, ht, h⟩ := bind_eq_ok h
    rcases ih (fun x hx => hset x (List.mem_cons_of_mem a hx)) h with hkeep | hv
    · rcases hset a List.mem_cons_self s t ht with hkeep' | hv
      · exact .inl (hkeep.trans hkeep')
      · exact .inr (hkeep.trans hv)
    · exact .inr hv

/-- **A field that only attributes set that agree on it**: their value, if there is one of them. -/
theorem foldlM_sets_value {v : τ} {l : List Attr} {a : Attr} (ha : a ∈ l)
    (hset : ∀ x ∈ l, ∀ s s', step s x = .ok s' → field s' = field s ∨ field s' = v)
    (hval : ∀ s s', step s a = .ok s' → field s' = v) {s s' : σ} (h : l.foldlM step s = .ok s') :
    field s' = v := by
  obtain ⟨pre, post, rfl⟩ := List.append_of_mem ha
  rw [List.foldlM_append] at h
  obtain ⟨t, -, h⟩ := bind_eq_ok h
  rw [List.foldlM_cons] at h
  obtain ⟨t', ht', h⟩ := bind_eq_ok h
  have hpost : ∀ x ∈ post, ∀ s s', step s x = .ok s' → field s' = field s ∨ field s' = v :=
    fun x hx => hset x (List.mem_append_right pre (List.mem_cons_of_mem a hx))
  rcases foldlM_keeps_or hpost h with hkeep | hv
  · exact hkeep.trans (hval t t' ht')
  · exact hv

/-- A nested attribute of encoded children is decoded from its children. -/
theorem nested_attrsBytes {e : Endian} {a : Attr} {l : List Attr} (hpayload : a.payload = attrsBytes e l)
    (hl : ∀ x ∈ l, x.Fits) (fn : AttributeDecoder → Decode σ) :
    nested e a fn = fn ⟨l, none, l.length⟩ := by
  unfold nested
  rw [hpayload, newAttributeDecoder_attrsBytes e hl]
  rfl

@[simp] theorem eachAttr_mk (l : List Attr) (n : ℕ) (s : σ) :
    eachAttr ⟨l, none, n⟩ step s = l.foldlM step s := by
  unfold eachAttr
  cases l.foldlM step s <;> rfl

/-! ### Whole lists -/

/-- A loop over the attributes `l` of a message takes `s` to `s'`. -/
def Decodes (step : σ → Attr → Decode σ) (l : List Attr) (s s' : σ) : Prop :=
  attrsSize l < 65536 → l.foldlM step s = .ok s'

/-- A decoder of nested attributes makes `x` of the children `kids`. -/
def DecodesTo (fn : AttributeDecoder → Decode σ) (kids : List Attr) (x : σ) : Prop :=
  attrsSize kids < 65536 → fn ⟨kids, none, kids.length⟩ = .ok x

section Decodes

variable {l l₁ l₂ : List Attr} {s s' s'' : σ}

theorem Decodes.nil (step : σ → Attr → Decode σ) (s : σ) : Decodes step [] s s := fun _ => rfl

theorem Decodes.append (h₁ : Decodes step l₁ s s') (h₂ : Decodes step l₂ s' s'') :
    Decodes step (l₁ ++ l₂) s s'' := by
  intro hsize
  rw [attrsSize_append] at hsize
  rw [List.foldlM_append, h₁ (by omega)]
  exact h₂ (by omega)

theorem Decodes.cons {a : Attr} (ha : step s a = .ok s') (hl : Decodes step l s' s'') :
    Decodes step (a :: l) s s'' := by
  intro hsize
  rw [attrsSize_cons] at hsize
  rw [List.foldlM_cons, ha]
  exact hl (by omega)

theorem Decodes.single {a : Attr} (ha : step s a = .ok s') : Decodes step [a] s s' :=
  .cons ha (.nil step s')

/-- A nested attribute in front of a list. -/
theorem Decodes.consNest {e : Endian} {type : UInt16} {kids : List Attr} (mid : σ)
    (ha : attrsSize kids < 65536 → step s (nestAttr e type kids) = .ok mid) (hl : Decodes step l mid s'') :
    Decodes step (nestAttr e type kids :: l) s s'' := by
  intro hsize
  rw [attrsSize_cons, nestAttr_len] at hsize
  rw [List.foldlM_cons, ha (by omega)]
  exact hl (by omega)

theorem Decodes.nest {e : Endian} {type : UInt16} {kids : List Attr}
    (ha : attrsSize kids < 65536 → step s (nestAttr e type kids) = .ok s') :
    Decodes step [nestAttr e type kids] s s' :=
  .consNest s' ha (.nil step s')

theorem Decodes.eachAttr (h : Decodes step l s s') (hsize : attrsSize l < 65536) :
    eachAttr ⟨l, none, l.length⟩ step s = .ok s' := by
  rw [eachAttr_mk]
  exact h hsize

theorem DecodesTo.nested {kids : List Attr} {fn : AttributeDecoder → Decode σ} {x : σ} (h : DecodesTo fn kids x)
    (e : Endian) (type : UInt16) (hsize : attrsSize kids < 65536) :
    nested e (nestAttr e type kids) fn = .ok x := by
  rw [nested_attrsBytes rfl (fits_of_attrsSize hsize)]
  exact h hsize

/-- A loop over attributes that are each within its length field takes `s` to `s'`. -/
def DecodesFit (step : σ → Attr → Decode σ) (l : List Attr) (s s' : σ) : Prop :=
  (∀ a ∈ l, a.Fits) → l.foldlM step s = .ok s'

theorem DecodesFit.nil (step : σ → Attr → Decode σ) (s : σ) : DecodesFit step [] s s := fun _ => rfl

theorem DecodesFit.single {a : Attr} (ha : step s a = .ok s') : DecodesFit step [a] s s' := by
  intro _
  rw [List.foldlM_cons, ha]
  rfl

theorem DecodesFit.append (h₁ : DecodesFit step l₁ s s') (h₂ : DecodesFit step l₂ s' s'') :
    DecodesFit step (l₁ ++ l₂) s s'' := by
  intro hfits
  rw [List.foldlM_append, h₁ fun a ha => hfits a (List.mem_append_left l₂ ha)]
  exact h₂ fun a ha => hfits a (List.mem_append_right l₁ ha)

/-- A nested attribute within its length field is as short as any message. -/
theorem Decodes.fit {e : Endian} {type : UInt16} {kids : List Attr}
    (h : Decodes step [nestAttr e type kids] s s') : DecodesFit step [nestAttr e type kids] s s' := by
  intro hfits
  have hmod := attrsSize_mod kids
  have hlen : attrHdrLen + (attrsBytes e kids).length < 65536 := hfits _ (List.mem_singleton_self _)
  rw [length_attrsBytes] at hlen
  refine h ?_
  rw [attrsSize_cons, nestAttr_len, attrsSize_nil]
  exact hlen

end Decodes

end VgwDriver
