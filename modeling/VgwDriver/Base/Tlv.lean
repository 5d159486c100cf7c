import VgwDriver.Base.Bytes

/-!
# Aligned type-length-value attributes

The attribute format of netlink: a four-byte header (total length, type, both in host byte order), a
payload, and zero padding up to a multiple of four.  A nested attribute is one whose payload is itself
a string of attributes, so the format needs no separate tree type: `nestAttr` puts the encoding of its
children into a payload.

* `nextAttr_bytes` — reading the first attribute of an encoded string gives that attribute and the rest;
* `parseAttrs_attrsBytes` — **the format round-trips**: parsing the encoding of a list gives the list;
* `attrsSize_mod` — an encoded string is always aligned, so encodings can be concatenated;
* `payloadsAt` — the payloads at a path of types through nested attributes.
-/

namespace VgwDriver.Base

/-- One attribute: its type (flag bits included) and its payload. -/
structure Attr where
  type : UInt16
  payload : Bytes
  deriving DecidableEq, Repr

/-- The size of an attribute header. -/
def attrHdrLen : ℕ := 4

/-- The attribute's own length field: header and payload, without the padding. -/
def Attr.len (a : Attr) : ℕ := attrHdrLen + a.payload.length

/-- `n` rounded up to a multiple of four. -/
def align4 (n : ℕ) : ℕ := (n + 3) / 4 * 4

theorem le_align4 (n : ℕ) : n ≤ align4 n := by unfold align4; omega

theorem align4_mod (n : ℕ) : align4 n % 4 = 0 := by unfold align4; omega

theorem align4_of_mod {n : ℕ} (h : n % 4 = 0) : align4 n = n := by unfold align4; omega

theorem align4_hdr_add (n : ℕ) : align4 (attrHdrLen + n) = attrHdrLen + align4 n := by
  unfold align4 attrHdrLen; omega

/-- An attribute header. -/
def attrHdr (e : Endian) (len : ℕ) (type : UInt16) : Bytes :=
  put16 e (UInt16.ofNat len) ++ put16 e type

@[simp] theorem length_attrHdr (e : Endian) (len : ℕ) (type : UInt16) :
    (attrHdr e len type).length = attrHdrLen := by simp [attrHdr, attrHdrLen]

/-- The padding behind a payload of `n` bytes. -/
def attrPad (n : ℕ) : Bytes := List.replicate (align4 n - n) 0

/-- The encoding of one attribute. -/
def Attr.bytes (e : Endian) (a : Attr) : Bytes :=
  attrHdr e a.len a.type ++ (a.payload ++ attrPad a.payload.length)

/-- The encoding of a list of attributes. -/
def attrsBytes (e : Endian) (l : List Attr) : Bytes := l.flatMap (Attr.bytes e)

@[simp] theorem attrsBytes_nil (e : Endian) : attrsBytes e [] = [] := rfl

@[simp] theorem attrsBytes_cons (e : Endian) (a : Attr) (l : List Attr) :
    attrsBytes e (a :: l) = a.bytes e ++ attrsBytes e l := by
  simp [attrsBytes]

@[simp] theorem attrsBytes_append (e : Endian) (l₁ l₂ : List Attr) :
    attrsBytes e (l₁ ++ l₂) = attrsBytes e l₁ ++ attrsBytes e l₂ := by
  simp [attrsBytes]

theorem Attr.length_bytes (e : Endian) (a : Attr) : (a.bytes e).length = align4 a.len := by
  have := le_align4 a.payload.length
  rw [Attr.bytes, Attr.len, align4_hdr_add]
  simp only [List.length_append, length_attrHdr, attrPad, List.length_replicate]
  omega

/-- The size of an encoded list of attributes. -/
def attrsSize (l : List Attr) : ℕ := (l.map fun a => align4 a.len).sum

@[simp] theorem attrsSize_nil : attrsSize [] = 0 := rfl

@[simp] theorem attrsSize_cons (a : Attr) (l : List Attr) :
    attrsSize (a :: l) = align4 a.len + attrsSize l := rfl

@[simp] theorem attrsSize_append (l₁ l₂ : List Attr) :
    attrsSize (l₁ ++ l₂) = attrsSize l₁ + attrsSize l₂ := by
  simp [attrsSize]

@[simp] theorem length_attrsBytes (e : Endian) (l : List Attr) :
    (attrsBytes e l).length = attrsSize l := by
  induction l with
  | nil => rfl
  | cons a l ih => simp [Attr.length_bytes, ih]

theorem attrsSize_mod (l : List Attr) : attrsSize l % 4 = 0 := by
  induction l with
  | nil => rfl
  | cons a l ih =>
    have := align4_mod a.len
    rw [attrsSize_cons]
    omega

/-! ### Reading -/

/-- Read the attribute at the front of `bs`; `none` when the header or the payload does not fit. -/
def nextAttr (e : Endian) (bs : Bytes) : Option (Attr × Bytes) :=
  let len := (get16 e (bs.take 2)).toNat
  if bs.length < attrHdrLen ∨ len < attrHdrLen ∨ bs.length < len then none
  else some (⟨get16 e ((bs.drop 2).take 2), (bs.drop attrHdrLen).take (len - attrHdrLen)⟩,
    bs.drop (align4 len))

/-- The attributes of `bs`, read with at most `fuel` steps; `none` when some attribute is cut off. -/
def parseAttrsFuel (e : Endian) : ℕ → Bytes → Option (List Attr)
  | _, [] => some []
  | 0, _ :: _ => none
  | fuel + 1, b :: bs =>
    match nextAttr e (b :: bs) with
    | none => none
    | some (a, rest) => (parseAttrsFuel e fuel rest).map (a :: ·)

/-- The attributes of `bs`.  Every attribute takes at least its header, so `bs.length` steps do. -/
def parseAttrs (e : Endian) (bs : Bytes) : Option (List Attr) := parseAttrsFuel e bs.length bs

/-- The attributes of `bs` up to the first that is cut off, for readers that ignore the rest. -/
def scanAttrsFuel (e : Endian) : ℕ → Bytes → List Attr
  | 0, _ => []
  | fuel + 1, bs =>
    match nextAttr e bs with
    | none => []
    | some (a, rest) => a :: scanAttrsFuel e fuel rest

def scanAttrs (e : Endian) (bs : Bytes) : List Attr := scanAttrsFuel e bs.length bs

/-- An attribute whose length field does not overflow. -/
def Attr.Fits (a : Attr) : Prop := a.len < 65536

instance (a : Attr) : Decidable a.Fits := inferInstanceAs (Decidable (_ < _))

/-- **Reading the first attribute of an encoded string.** -/
theorem nextAttr_bytes (e : Endian) {a : Attr} (ha : a.Fits) (rest : Bytes) :
    nextAttr e (a.bytes e ++ rest) = some (a, rest) := by
  have hlen : (UInt16.ofNat a.len).toNat = a.len := by
    rw [UInt16.toNat_ofNat']
    exact Nat.mod_eq_of_lt ha
  have hsize : (a.bytes e).length = align4 a.len := a.length_bytes e
  have hle : a.len ≤ align4 a.len := le_align4 _
  have hhdr : attrHdrLen ≤ a.len := Nat.le_add_right _ _
  have htake : (a.bytes e ++ rest).take 2 = put16 e (UInt16.ofNat a.len) := by
    simp [Attr.bytes, attrHdr]
  have htype : ((a.bytes e ++ rest).drop 2).take 2 = put16 e a.type := by
    simp [Attr.bytes, attrHdr]
  have hpayload : ((a.bytes e ++ rest).drop attrHdrLen).take (a.len - attrHdrLen) = a.payload := by
    simp [Attr.bytes, attrHdr, List.take_append, List.drop_append, Attr.len, attrHdrLen]
  have hrest : (a.bytes e ++ rest).drop (align4 a.len) = rest := by
    rw [← hsize, List.drop_left]
  unfold nextAttr
  simp only [htake, get16_put16, hlen, htype, hpayload, hrest]
  rw [if_neg]
  simp only [List.length_append, hsize]
  omega

/-- The encoding of an attribute is never empty. -/
theorem Attr.bytes_eq_cons (e : Endian) (a : Attr) : ∃ b bs, a.bytes e = b :: bs := by
  have hpos : 0 < (a.bytes e).length := by
    have := le_align4 a.len
    have : attrHdrLen ≤ a.len := Nat.le_add_right _ _
    rw [Attr.length_bytes]
    simp only [attrHdrLen] at *
    omega
  exact List.exists_cons_of_length_pos hpos

theorem parseAttrsFuel_attrsBytes (e : Endian) (l : List Attr) (hl : ∀ a ∈ l, a.Fits) :
    ∀ fuel, l.length ≤ fuel → parseAttrsFuel e fuel (attrsBytes e l) = some l := by
  induction l with
  | nil => intro fuel _; cases fuel <;> rfl
  | cons a l ih =>
    intro fuel hfuel
    obtain ⟨b, bs, hb⟩ := a.bytes_eq_cons e
    cases fuel with
    | zero => simp at hfuel
    | succ fuel =>
      have hnext := nextAttr_bytes e (hl a List.mem_cons_self) (attrsBytes e l)
      have htail := ih (fun x hx => hl x (List.mem_cons_of_mem a hx)) fuel
        (by simpa using hfuel)
      rw [attrsBytes_cons, hb] at *
      simp only [List.cons_append] at *
      simp only [parseAttrsFuel, hnext, htail, Option.map_some]

theorem length_le_attrsSize (l : List Attr) : l.length ≤ attrsSize l := by
  induction l with
  | nil => exact Nat.le_refl 0
  | cons a l ih =>
    have := le_align4 a.len
    have : attrHdrLen ≤ a.len := Nat.le_add_right _ _
    simp only [attrsSize_cons, List.length_cons, attrHdrLen] at *
    omega

/-- **Round trip.**  Parsing the encoding of a list of attributes gives the list back. -/
theorem parseAttrs_attrsBytes (e : Endian) (l : List Attr) (hl : ∀ a ∈ l, a.Fits) :
    parseAttrs e (attrsBytes e l) = some l :=
  parseAttrsFuel_attrsBytes e l hl _ (by simpa using length_le_attrsSize l)

/-- A reader that ignores what is cut off reads the same list. -/
theorem scanAttrs_attrsBytes (e : Endian) (l : List Attr) (hl : ∀ a ∈ l, a.Fits) :
    scanAttrs e (attrsBytes e l) = l := by
  have key : ∀ (l : List Attr), (∀ a ∈ l, a.Fits) →
      ∀ fuel, l.length ≤ fuel → scanAttrsFuel e fuel (attrsBytes e l) = l := by
    intro l
    induction l with
    | nil =>
      intro _ fuel _
      cases fuel <;> rfl
    | cons a l ih =>
      intro hl fuel hfuel
      cases fuel with
      | zero => simp at hfuel
      | succ fuel =>
        have htail := ih (fun x hx => hl x (List.mem_cons_of_mem a hx)) fuel (by simpa using hfuel)
        rw [attrsBytes_cons, scanAttrsFuel, nextAttr_bytes e (hl a List.mem_cons_self)]
        show a :: scanAttrsFuel e fuel (attrsBytes e l) = a :: l
        rw [htail]
  exact key l hl _ (by simpa using length_le_attrsSize l)

/-- What is encoded in fewer than `65536` bytes has length fields that do not overflow. -/
theorem fits_of_attrsSize {l : List Attr} (h : attrsSize l < 65536) : ∀ a ∈ l, a.Fits := by
  induction l with
  | nil => simp
  | cons b l ih =>
    intro a ha
    rw [attrsSize_cons] at h
    rcases List.mem_cons.mp ha with rfl | ha
    · have := le_align4 a.len
      show a.len < 65536
      omega
    · exact ih (by omega) a ha

/-! ### Nested attributes -/

/-- The flag bit of a nested attribute. -/
def nestedFlag : UInt16 := 0x8000

/-- The bits of the type field that are the type. -/
def typeMask : UInt16 := 0x3fff

/-- A nested attribute: its payload is the encoding of its children. -/
def nestAttr (e : Endian) (type : UInt16) (kids : List Attr) : Attr :=
  ⟨type ||| nestedFlag, attrsBytes e kids⟩

theorem nestAttr_len (e : Endian) (type : UInt16) (kids : List Attr) :
    align4 (nestAttr e type kids).len = attrHdrLen + attrsSize kids := by
  have hmod := attrsSize_mod kids
  simp only [nestAttr, Attr.len, length_attrsBytes, align4, attrHdrLen]
  omega

/-- A nested attribute needs no padding of its own. -/
theorem nestAttr_bytes (e : Endian) (type : UInt16) (kids : List Attr) :
    (nestAttr e type kids).bytes e
      = attrHdr e (attrHdrLen + attrsSize kids) (type ||| nestedFlag) ++ attrsBytes e kids := by
  have hmod := attrsSize_mod kids
  simp [Attr.bytes, nestAttr, Attr.len, attrPad, align4_of_mod hmod]

/-! ### Paths -/

/-- The attribute's type without its flag bits. -/
def Attr.kind (a : Attr) : UInt16 := a.type &&& typeMask

/-- The payloads found by following a path of types through nested attributes. -/
def payloadsAt (e : Endian) : List UInt16 → Bytes → List Bytes
  | [], bs => [bs]
  | t :: path, bs =>
    ((parseAttrs e bs).getD []).flatMap fun a =>
      if a.kind = t then payloadsAt e path a.payload else []

/-- The payloads one attribute contributes to a path. -/
def Attr.payloadsAt (e : Endian) (t : UInt16) (path : List UInt16) (a : Attr) : List Bytes :=
  if a.kind = t then Base.payloadsAt e path a.payload else []

theorem payloadsAt_attrsBytes (e : Endian) (t : UInt16) (path : List UInt16) {l : List Attr}
    (hl : attrsSize l < 65536) :
    payloadsAt e (t :: path) (attrsBytes e l) = l.flatMap (Attr.payloadsAt e t path) := by
  simp only [payloadsAt, parseAttrs_attrsBytes e l (fits_of_attrsSize hl)]
  rfl

/-- Nothing stands at a path that no attribute of the list begins. -/
theorem flatMap_payloadsAt_nil {e : Endian} {t : UInt16} {path : List UInt16} {l : List Attr}
    (h : ∀ a ∈ l, a.kind ≠ t) : l.flatMap (Attr.payloadsAt e t path) = [] := by
  rw [List.flatMap_eq_nil_iff]
  intro a ha
  rw [Attr.payloadsAt, if_neg (h a ha)]

theorem align4_le_attrsSize {a : Attr} {l : List Attr} (h : a ∈ l) : align4 a.len ≤ attrsSize l := by
  induction l with
  | nil => cases h
  | cons b l ih =>
    rw [attrsSize_cons]
    rcases List.mem_cons.mp h with rfl | h
    · omega
    · have := ih h
      omega

/-- A payload takes no more room than the list its attribute stands in. -/
theorem payload_le_attrsSize {a : Attr} {l : List Attr} (h : a ∈ l) :
    a.payload.length ≤ attrsSize l := by
  have hsize := align4_le_attrsSize h
  have hle := le_align4 a.len
  have hlen : a.payload.length ≤ a.len := Nat.le_add_left _ _
  omega

/-! ### Fallible readers -/

/-- A reader whose first part succeeds goes on with what it read. -/
theorem ok_bind {ε α β : Type} (a : α) (rest : α → Except ε β) : (.ok a >>= rest) = rest a := rfl

/-- A reader in two parts that succeeds has read its first part. -/
theorem bind_eq_ok {ε α β : Type} {first : Except ε α} {rest : α → Except ε β} {out : β}
    (h : first >>= rest = .ok out) : ∃ mid, first = .ok mid ∧ rest mid = .ok out := by
  cases first with
  | ok mid => exact ⟨mid, rfl, h⟩
  | error err => cases h

end VgwDriver.Base
