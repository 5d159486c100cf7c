import VgwDriver.Base.Tlv

/-!
# Writing attributes into a buffer of fixed size

A `Buf` is an append-only byte buffer of fixed capacity; a `Writer` is a program that appends to it, may
fail for lack of room, and threads a further state `σ` along.  A failed writer leaves what it had already
written behind, so a caller that wants all or nothing has to trim the buffer back itself.

`EmitsFrom e f s out s' fail` describes the writer `f` started in the state `s`: with `room` bytes left it
appends the attributes `out room` and ends in `s'`, or `out room = none`, it fails in the state `fail room`,
and only bytes behind the old end of the buffer have changed.  `Emits e f out` is the case of a writer that
leaves the state alone.  The rules follow the shape of a program, so one fact a function is enough for its
callers.

* `Buf.trim_of_extends` — trimming a failed write restores the buffer exactly;
* `EmitsFrom.bind`, `Emits.bind`, `Emits.nestSeq` — the rules;
* `seqOut_fixed`, `nestOut_fixed` — writers of fixed output compose to writers of fixed output.
-/

namespace VgwDriver.Base

/-- An append-only buffer: the bytes written so far never exceed the capacity, and the capacity stays
below the largest length an attribute header can state. -/
@[ext] structure Buf where
  data : Bytes
  cap : ℕ
  le_cap : data.length ≤ cap
  cap_lt : cap < 65536

/-- The bytes still free. -/
def Buf.room (b : Buf) : ℕ := b.cap - b.data.length

/-- An empty buffer. -/
def Buf.empty (cap : ℕ) (h : cap < 65536) : Buf := ⟨[], cap, Nat.zero_le _, h⟩

def Buf.append (b : Buf) (bs : Bytes) (h : bs.length ≤ b.room) : Buf :=
  ⟨b.data ++ bs, b.cap, by
    have := b.le_cap
    simp only [List.length_append, Buf.room] at *
    omega, b.cap_lt⟩

/-- Cut the buffer back to its first `n` bytes. -/
def Buf.trim (b : Buf) (n : ℕ) : Buf :=
  ⟨b.data.take n, b.cap, by
    have := b.le_cap
    simp only [List.length_take]
    omega, b.cap_lt⟩

/-- Write `bs` over what stands at `off`. -/
def overwrite : Bytes → ℕ → Bytes → Bytes
  | data, _, [] => data
  | data, off, b :: bs => overwrite (data.set off b) (off + 1) bs

@[simp] theorem length_overwrite (data : Bytes) (off : ℕ) (bs : Bytes) :
    (overwrite data off bs).length = data.length := by
  induction bs generalizing data off with
  | nil => rfl
  | cons b bs ih => simp [overwrite, ih]

def Buf.patch (b : Buf) (off : ℕ) (bs : Bytes) : Buf :=
  ⟨overwrite b.data off bs, b.cap, by rw [length_overwrite]; exact b.le_cap, b.cap_lt⟩

@[simp] theorem Buf.append_data (b : Buf) (bs : Bytes) (h : bs.length ≤ b.room) :
    (b.append bs h).data = b.data ++ bs := rfl

@[simp] theorem Buf.append_cap (b : Buf) (bs : Bytes) (h : bs.length ≤ b.room) :
    (b.append bs h).cap = b.cap := rfl

@[simp] theorem Buf.empty_room (cap : ℕ) (h : cap < 65536) : (Buf.empty cap h).room = cap := rfl

@[simp] theorem Buf.patch_data (b : Buf) (off : ℕ) (bs : Bytes) :
    (b.patch off bs).data = overwrite b.data off bs := rfl

@[simp] theorem Buf.patch_cap (b : Buf) (off : ℕ) (bs : Bytes) : (b.patch off bs).cap = b.cap := rfl

/-- Overwriting a middle part of equal length replaces exactly that part. -/
theorem overwrite_append (pre old post new : Bytes) (h : old.length = new.length) :
    overwrite (pre ++ old ++ post) pre.length new = pre ++ new ++ post := by
  induction new generalizing pre old with
  | nil =>
    rw [List.length_nil, List.length_eq_zero_iff] at h
    rw [h]
    rfl
  | cons b bs ih =>
    cases old with
    | nil => simp at h
    | cons a old =>
      have hset : (pre ++ (a :: old) ++ post).set pre.length b = (pre ++ [b]) ++ old ++ post := by
        simp
      have hrest := ih (pre ++ [b]) old (by simpa using h)
      rw [overwrite, hset]
      simpa using hrest

/-- `b'` is `b` with something written behind its end. -/
def Buf.Extends (b b' : Buf) : Prop := b.data <+: b'.data ∧ b'.cap = b.cap

theorem Buf.Extends.refl (b : Buf) : b.Extends b := ⟨List.prefix_refl _, rfl⟩

theorem Buf.Extends.trans {a b c : Buf} (hab : a.Extends b) (hbc : b.Extends c) : a.Extends c :=
  ⟨hab.1.trans hbc.1, hbc.2.trans hab.2⟩

/-- `b'` is `b` with exactly `bs` written behind its end. -/
def Buf.Appended (b : Buf) (bs : Bytes) (b' : Buf) : Prop := b'.data = b.data ++ bs ∧ b'.cap = b.cap

theorem Buf.appended_append (b : Buf) (bs : Bytes) (h : bs.length ≤ b.room) :
    b.Appended bs (b.append bs h) := ⟨rfl, rfl⟩

theorem Buf.Appended.extends {b b' : Buf} {bs : Bytes} (h : b.Appended bs b') : b.Extends b' :=
  ⟨⟨bs, h.1.symm⟩, h.2⟩

theorem Buf.Appended.nil (b : Buf) : b.Appended [] b := ⟨(List.append_nil _).symm, rfl⟩

theorem Buf.Appended.trans {a b c : Buf} {xs ys : Bytes} (hab : a.Appended xs b)
    (hbc : b.Appended ys c) : a.Appended (xs ++ ys) c :=
  ⟨by rw [hbc.1, hab.1, List.append_assoc], hbc.2.trans hab.2⟩

theorem Buf.Appended.room {b b' : Buf} {bs : Bytes} (h : b.Appended bs b') :
    b'.room = b.room - bs.length := by
  simp only [Buf.room, h.1, h.2, List.length_append]
  omega

theorem Buf.Appended.length_le {b b' : Buf} {bs : Bytes} (h : b.Appended bs b') :
    bs.length ≤ b.room := by
  have hle := b'.le_cap
  rw [h.1, h.2, List.length_append] at hle
  unfold Buf.room
  omega

/-- Overwriting behind the end of `b` keeps `b` a prefix. -/
theorem Buf.Extends.patch {b b' : Buf} (h : b.Extends b') (off : ℕ) (bs : Bytes)
    (hoff : b.data.length ≤ off) : b.Extends (b'.patch off bs) := by
  refine ⟨?_, h.2⟩
  have key : ∀ (bs d : Bytes) (off : ℕ), b.data.length ≤ off → b.data <+: d →
      b.data <+: overwrite d off bs := by
    intro bs
    induction bs with
    | nil => intro d _ _ hd; exact hd
    | cons c bs ih =>
      intro d off hoff hd
      obtain ⟨t, rfl⟩ := hd
      refine ih _ (off + 1) (by omega) ?_
      rw [List.set_append_right off c hoff]
      exact List.prefix_append _ _
  exact key bs b'.data off hoff h.1

/-- **Trimming undoes a failed write.** -/
theorem Buf.trim_of_extends {b b' : Buf} (h : b.Extends b') : b'.trim b.data.length = b := by
  obtain ⟨⟨t, ht⟩, hcap⟩ := h
  refine Buf.ext ?_ hcap
  simp only [Buf.trim, ← ht, List.take_left]

/-! ### Writers -/

/-- A program that appends to a buffer, may fail, and threads a state `σ` along. -/
def Writer (ε σ α : Type) : Type := σ × Buf → Except ε α × σ × Buf

variable {ε σ α β : Type}

instance : Monad (Writer ε σ) where
  pure a := fun s => (.ok a, s)
  bind f g := fun s =>
    match f s with
    | (.ok a, s') => g a s'
    | (.error e, s') => (.error e, s')

/-- Stop with an error. -/
def Writer.fail (e : ε) : Writer ε σ α := fun s => (.error e, s)

/-- Run `f` and hand its outcome to the caller instead of stopping on an error. -/
def Writer.attempt (f : Writer ε σ α) : Writer ε σ (Except ε α) := fun s =>
  match f s with
  | (r, s') => (.ok r, s')

/-- Stop with the error of `r`, if it is one. -/
def Writer.lift (r : Except ε α) : Writer ε σ α := fun s => (r, s)

theorem Writer.pure_apply (a : α) (s : σ × Buf) : (pure a : Writer ε σ α) s = (.ok a, s) := rfl

theorem Writer.bind_apply (f : Writer ε σ α) (g : α → Writer ε σ β) (s : σ × Buf) :
    (f >>= g) s = match f s with
      | (.ok a, s') => g a s'
      | (.error e, s') => (.error e, s') := rfl

theorem Writer.bind_assoc {γ : Type} (f : Writer ε σ α) (g : α → Writer ε σ β) (h : β → Writer ε σ γ) :
    (f >>= g) >>= h = f >>= fun a => g a >>= h := by
  funext s
  rw [Writer.bind_apply, Writer.bind_apply, Writer.bind_apply]
  cases f s with
  | mk r s' =>
    cases r with
    | ok a => rfl
    | error x => rfl

/-- Append `bs` or fail, whole or not at all. -/
def putBytes (err : ε) (bs : Bytes) : Writer ε σ Unit := fun (s, b) =>
  if h : bs.length ≤ b.room then (.ok (), s, b.append bs h) else (.error err, s, b)

/-- Append one attribute, whole or not at all. -/
def putAttr (err : ε) (e : Endian) (a : Attr) : Writer ε σ Unit := putBytes err (a.bytes e)

/-- Append the attributes of `l` one by one, up to the first that does not fit. -/
def putAttrs (err : ε) (e : Endian) : List Attr → Writer ε σ Unit
  | [] => pure ()
  | a :: l => do
    putAttr err e a
    putAttrs err e l

/-- Open a nested attribute: append its header; the result is where it stands. -/
def nestStart (err : ε) (e : Endian) (type : UInt16) : Writer ε σ ℕ := fun (s, b) =>
  match putBytes err (attrHdr e attrHdrLen (type ||| nestedFlag)) (s, b) with
  | (.ok (), s') => (.ok b.data.length, s')
  | (.error x, s') => (.error x, s')

/-- Close the nested attribute at `start`: its length field becomes the distance to the end. -/
def nestEnd (e : Endian) (start : ℕ) : Writer ε σ Unit := fun (s, b) =>
  (.ok (), s, b.patch start (put16 e (UInt16.ofNat (b.data.length - start))))

/-- Change the state and hand on a value of it. -/
def Writer.exchange (f : σ → α × σ) : Writer ε σ α := fun (s, b) => (.ok (f s).1, (f s).2, b)

/-! ### What a writer appends -/

/-- The attributes appended when `room` bytes are left; `none` if the writer fails then. -/
abbrev Out := ℕ → Option (List Attr)

/-- Started in `s`, `f` appends `out room` and ends in `s'`, or fails in `fail room`. -/
def EmitsFrom (e : Endian) (f : Writer ε σ Unit) (s : σ) (out : Out) (s' : σ) (fail : ℕ → σ) : Prop :=
  ∀ b : Buf,
    (∀ l, out b.room = some l → ∃ b', f (s, b) = (.ok (), s', b') ∧ b.Appended (attrsBytes e l) b') ∧
    (out b.room = none → ∃ x b', f (s, b) = (.error x, fail b.room, b') ∧ b.Extends b')

/-- `f` appends `out room`, or fails, and leaves the state alone. -/
def Emits (e : Endian) (f : Writer ε σ Unit) (out : Out) : Prop :=
  ∀ s, EmitsFrom e f s out s fun _ => s

/-- The output `l`, whatever room there is for it. -/
def fixedOut (l : List Attr) : Out := fun room => if attrsSize l ≤ room then some l else none

/-- One output behind another. -/
def seqOut (o₁ o₂ : Out) : Out := fun room =>
  (o₁ room).bind fun l₁ => (o₂ (room - attrsSize l₁)).map (l₁ ++ ·)

/-- The output `o` as the payload of a nested attribute. -/
def nestOut (e : Endian) (type : UInt16) (o : Out) : Out := fun room =>
  if attrHdrLen ≤ room then (o (room - attrHdrLen)).map fun kids => [nestAttr e type kids] else none

/-- The state a sequence of writers fails in: the first one's, or the second one's. -/
def seqFail (o₁ : Out) (fail₁ fail₂ : ℕ → σ) : ℕ → σ := fun room =>
  match o₁ room with
  | none => fail₁ room
  | some l => fail₂ (room - attrsSize l)

theorem fixedOut_of_le {l : List Attr} {room : ℕ} (h : attrsSize l ≤ room) :
    fixedOut l room = some l := if_pos h

/-- A fixed output puts out its list. -/
theorem eq_of_fixedOut {l l' : List Attr} {room : ℕ} (h : fixedOut l room = some l') : l' = l := by
  unfold fixedOut at h
  split at h
  · exact (Option.some.inj h).symm
  · cases h

/-- A sequence puts out what its two parts do. -/
theorem of_seqOut {o₁ o₂ : Out} {room : ℕ} {l : List Attr} (h : seqOut o₁ o₂ room = some l) :
    ∃ l₁ l₂, o₁ room = some l₁ ∧ o₂ (room - attrsSize l₁) = some l₂ ∧ l = l₁ ++ l₂ := by
  simp only [seqOut, Option.bind_eq_some_iff, Option.map_eq_some_iff] at h
  obtain ⟨l₁, h₁, l₂, h₂, rfl⟩ := h
  exact ⟨l₁, l₂, h₁, h₂, rfl⟩

/-- A nested output puts out one attribute. -/
theorem of_nestOut {e : Endian} {type : UInt16} {o : Out} {room : ℕ} {l : List Attr}
    (h : nestOut e type o room = some l) :
    ∃ kids, o (room - attrHdrLen) = some kids ∧ l = [nestAttr e type kids] := by
  unfold nestOut at h
  split at h
  · obtain ⟨kids, hkids, rfl⟩ := Option.map_eq_some_iff.mp h
    exact ⟨kids, hkids, rfl⟩
  · cases h

theorem fixedOut_eq_none {l : List Attr} {room : ℕ} :
    fixedOut l room = none ↔ room < attrsSize l := by
  simp [fixedOut]

@[simp] theorem fixedOut_nil_seq (o : Out) : seqOut (fixedOut []) o = o := by
  funext room
  simp [seqOut, fixedOut]

@[simp] theorem seqOut_fixed_nil (o : Out) : seqOut o (fixedOut []) = o := by
  funext room
  cases h : o room <;> simp [seqOut, fixedOut, h]

@[simp] theorem seqOut_fixed (l₁ l₂ : List Attr) :
    seqOut (fixedOut l₁) (fixedOut l₂) = fixedOut (l₁ ++ l₂) := by
  funext room
  simp only [seqOut, fixedOut, attrsSize_append]
  by_cases h₁ : attrsSize l₁ ≤ room
  · by_cases h₂ : attrsSize l₂ ≤ room - attrsSize l₁
    · simp [h₁, h₂, show attrsSize l₁ + attrsSize l₂ ≤ room by omega]
    · simp [h₁, h₂, show ¬ attrsSize l₁ + attrsSize l₂ ≤ room by omega]
  · simp [h₁, show ¬ attrsSize l₁ + attrsSize l₂ ≤ room by omega]

/-- **A nested attribute of fixed payload is a fixed output.** -/
@[simp] theorem nestOut_fixed (e : Endian) (type : UInt16) (kids : List Attr) :
    nestOut e type (fixedOut kids) = fixedOut [nestAttr e type kids] := by
  funext room
  simp only [nestOut, fixedOut, attrsSize_cons, attrsSize_nil, nestAttr_len, Nat.add_zero]
  by_cases hh : attrHdrLen ≤ room
  · by_cases hk : attrsSize kids ≤ room - attrHdrLen
    · simp [hh, hk, show attrHdrLen + attrsSize kids ≤ room by omega]
    · simp [hh, hk, show ¬ attrHdrLen + attrsSize kids ≤ room by omega]
  · simp [hh, show ¬ attrHdrLen + attrsSize kids ≤ room by omega]

theorem seqOut_assoc (a b c : Out) : seqOut (seqOut a b) c = seqOut a (seqOut b c) := by
  funext room
  simp only [seqOut]
  cases ha : a room with
  | none => rfl
  | some x =>
    cases hb : b (room - attrsSize x) with
    | none => simp [hb]
    | some y =>
      simp only [Option.bind_some, hb, Option.map_some, attrsSize_append, Nat.sub_add_eq]
      cases c (room - attrsSize x - attrsSize y) with
      | none => rfl
      | some z => simp

@[simp] theorem seqFail_const (o : Out) (s : σ) :
    seqFail o (fun _ => s) (fun _ => s) = fun _ => s := by
  funext room
  unfold seqFail
  split <;> rfl

/-! ### What all attributes of an output satisfy -/

/-- Every attribute the output can contain satisfies `P`. -/
def Out.All (P : Attr → Prop) (o : Out) : Prop := ∀ room l, o room = some l → ∀ a ∈ l, P a

theorem Out.All.fixed {P : Attr → Prop} {l : List Attr} (h : ∀ a ∈ l, P a) : Out.All P (fixedOut l) := by
  intro room l' hl'
  rw [eq_of_fixedOut hl']
  exact h

theorem Out.All.seq {P : Attr → Prop} {o₁ o₂ : Out} (h₁ : Out.All P o₁) (h₂ : Out.All P o₂) :
    Out.All P (seqOut o₁ o₂) := by
  intro room l hl a ha
  obtain ⟨l₁, l₂, hl₁, hl₂, rfl⟩ := of_seqOut hl
  rcases List.mem_append.mp ha with ha | ha
  · exact h₁ _ _ hl₁ a ha
  · exact h₂ _ _ hl₂ a ha

theorem Out.All.nest {P : Attr → Prop} {e : Endian} {type : UInt16} (o : Out)
    (h : ∀ kids, P (nestAttr e type kids)) : Out.All P (nestOut e type o) := by
  intro room l hl a ha
  obtain ⟨kids, -, rfl⟩ := of_nestOut hl
  rw [List.mem_singleton.mp ha]
  exact h kids

/-! ### The rules -/

variable {e : Endian} {f g : Writer ε σ Unit} {o o₁ o₂ : Out}

theorem EmitsFrom.pure (s : σ) : EmitsFrom e (pure () : Writer ε σ Unit) s (fixedOut []) s fun _ => s := by
  intro b
  refine ⟨fun l h => ?_, fun h => ?_⟩
  · rw [fixedOut_of_le (Nat.zero_le _)] at h
    cases h
    exact ⟨b, rfl, Buf.Appended.nil b⟩
  · simp [fixedOut] at h

/-- **Sequencing.** -/
theorem EmitsFrom.bind {s s₁ s₂ : σ} {fail₁ fail₂ : ℕ → σ} (hf : EmitsFrom e f s o₁ s₁ fail₁)
    (hg : EmitsFrom e g s₁ o₂ s₂ fail₂) :
    EmitsFrom e (f >>= fun _ => g) s (seqOut o₁ o₂) s₂ (seqFail o₁ fail₁ fail₂) := by
  intro b
  cases h₁ : o₁ b.room with
  | none =>
    refine ⟨fun l h => by simp [seqOut, h₁] at h, fun _ => ?_⟩
    obtain ⟨x, b', hrun, hext⟩ := (hf b).2 h₁
    exact ⟨x, b', by rw [Writer.bind_apply, hrun, seqFail, h₁], hext⟩
  | some l₁ =>
    obtain ⟨b₁, hrun₁, happ₁⟩ := (hf b).1 l₁ h₁
    have hgb := hg b₁
    rw [happ₁.room, length_attrsBytes] at hgb
    have hbind : (f >>= fun _ => g) (s, b) = g (s₁, b₁) := by rw [Writer.bind_apply, hrun₁]
    refine ⟨fun l h => ?_, fun h => ?_⟩
    · simp only [seqOut, h₁, Option.bind_some, Option.map_eq_some_iff] at h
      obtain ⟨l₂, h₂, rfl⟩ := h
      obtain ⟨b₂, hrun₂, happ₂⟩ := hgb.1 l₂ h₂
      exact ⟨b₂, hbind.trans hrun₂, by rw [attrsBytes_append]; exact happ₁.trans happ₂⟩
    · simp only [seqOut, h₁, Option.bind_some, Option.map_eq_none_iff] at h
      obtain ⟨x, b₂, hrun₂, hext⟩ := hgb.2 h
      exact ⟨x, b₂, by rw [hbind, hrun₂, seqFail, h₁], happ₁.extends.trans hext⟩

/-- Reading or changing the state appends nothing. -/
theorem EmitsFrom.exchange {h : α → Writer ε σ Unit} {k : σ → α × σ} {s s' : σ} {fail : ℕ → σ}
    (hh : EmitsFrom e (h (k s).1) (k s).2 o s' fail) :
    EmitsFrom e (Writer.exchange k >>= h) s o s' fail := hh

theorem Emits.pure : Emits e (Pure.pure () : Writer ε σ Unit) (fixedOut []) := EmitsFrom.pure

theorem Emits.bind (hf : Emits e f o₁) (hg : Emits e g o₂) :
    Emits e (f >>= fun _ => g) (seqOut o₁ o₂) := by
  intro s
  have h := (hf s).bind (hg s)
  rw [seqFail_const] at h
  exact h

theorem Emits.putAttr (err : ε) (a : Attr) :
    Emits e (putAttr err e a : Writer ε σ Unit) (fixedOut [a]) := by
  intro s b
  have hsize : (a.bytes e).length = attrsSize [a] := by simp [Attr.length_bytes]
  refine ⟨fun l h => ?_, fun h => ?_⟩
  · by_cases hle : (a.bytes e).length ≤ b.room
    · rw [fixedOut_of_le (by omega)] at h
      cases h
      refine ⟨b.append _ hle, by simp [Base.putAttr, putBytes, hle], ?_⟩
      simpa using b.appended_append _ hle
    · rw [fixedOut_eq_none.mpr (by omega)] at h
      cases h
  · have hlt : ¬ (a.bytes e).length ≤ b.room := by
      have := fixedOut_eq_none.mp h
      omega
    exact ⟨err, b, by simp [Base.putAttr, putBytes, hlt], Buf.Extends.refl b⟩

theorem Emits.putAttrs (err : ε) (l : List Attr) :
    Emits e (putAttrs err e l : Writer ε σ Unit) (fixedOut l) := by
  induction l with
  | nil => exact Emits.pure
  | cons a l ih =>
    have h := (Emits.putAttr err a).bind ih
    rw [seqOut_fixed] at h
    exact h

theorem Emits.fail (err : ε) : Emits e (Writer.fail err : Writer ε σ Unit) fun _ => none := by
  intro s b
  constructor
  · intro l h
    cases h
  · intro _
    exact ⟨err, b, rfl, Buf.Extends.refl b⟩

theorem nestStart_room (err : ε) (e : Endian) (type : UInt16) (s : σ) {b : Buf}
    (h : attrHdrLen ≤ b.room) :
    ∃ b', nestStart err e type (s, b) = (.ok b.data.length, s, b') ∧
      b.Appended (attrHdr e attrHdrLen (type ||| nestedFlag)) b' := by
  have hle : (attrHdr e attrHdrLen (type ||| nestedFlag)).length ≤ b.room := by simpa using h
  exact ⟨b.append _ hle, by simp [nestStart, putBytes, h], b.appended_append _ hle⟩

theorem nestStart_full (err : ε) (e : Endian) (type : UInt16) (s : σ) {b : Buf}
    (h : b.room < attrHdrLen) : nestStart err e type (s, b) = (.error err, s, b) := by
  simp [nestStart, putBytes, Nat.not_le.mpr h]

/-- Writing the final length over a provisional header of `n` bytes, of which `k` are the length. -/
theorem Buf.Appended.patchLen {b b' : Buf} {len rest body : Bytes} (len' : Bytes)
    (hlen : len.length = len'.length) (h : b.Appended (len ++ rest ++ body) b') :
    b.Appended (len' ++ rest ++ body) (b'.patch b.data.length len') := by
  refine ⟨?_, h.2⟩
  have hdata : b'.data = b.data ++ len ++ (rest ++ body) := by
    rw [h.1]
    simp
  rw [Buf.patch_data, hdata, overwrite_append _ _ _ _ hlen]
  simp

/-- Closing a nested attribute turns the provisional header into the final one. -/
theorem Buf.Appended.nestEnd {b b' : Buf} {type : UInt16} {kids : List Attr}
    (h : b.Appended (attrHdr e attrHdrLen (type ||| nestedFlag) ++ attrsBytes e kids) b') :
    b.Appended (attrsBytes e [nestAttr e type kids])
      (b'.patch b.data.length (put16 e (UInt16.ofNat (b'.data.length - b.data.length)))) := by
  have hlen : b'.data.length - b.data.length = attrHdrLen + attrsSize kids := by
    rw [h.1]
    simp
  rw [hlen]
  have hpatch := Buf.Appended.patchLen (put16 e (UInt16.ofNat (attrHdrLen + attrsSize kids)))
    (by simp) h
  simpa [nestAttr_bytes, attrHdr] using hpatch

/-- A nested attribute closed only when its body succeeds, where the body changes the state only if it does. -/
theorem EmitsFrom.nest {s s' : σ} (err : ε) (type : UInt16) (hf : EmitsFrom e f s o s' fun _ => s) :
    EmitsFrom e (do
      let start ← nestStart err e type
      f
      nestEnd e start) s (nestOut e type o) s' fun _ => s := by
  intro b
  by_cases hroom : attrHdrLen ≤ b.room
  · obtain ⟨b₁, hstart, happ₁⟩ := nestStart_room err e type s hroom
    have hfb := hf b₁
    rw [happ₁.room, length_attrHdr] at hfb
    constructor
    · intro l hl
      simp only [nestOut, hroom, if_true, Option.map_eq_some_iff] at hl
      obtain ⟨kids, hkids, rfl⟩ := hl
      obtain ⟨b₂, hrun, happ₂⟩ := hfb.1 kids hkids
      refine ⟨_, ?_, (happ₁.trans happ₂).nestEnd⟩
      simp only [Writer.bind_apply, hstart, hrun, nestEnd]
    · intro hnone
      simp only [nestOut, hroom, if_true, Option.map_eq_none_iff] at hnone
      obtain ⟨x, b₂, hrun, hext⟩ := hfb.2 hnone
      refine ⟨x, b₂, ?_, happ₁.extends.trans hext⟩
      simp only [Writer.bind_apply, hstart, hrun]
  · have hfull := nestStart_full err e type s (Nat.lt_of_not_le hroom)
    refine ⟨fun l h => by simp [nestOut, hroom] at h, fun _ => ?_⟩
    exact ⟨err, b, by simp only [Writer.bind_apply, hfull], Buf.Extends.refl b⟩

/-- **Nesting.**  A nested attribute whose body is `f`, on whose failure it is left open, and then `g`, after
which it is closed on every path and only then the outcome returned. -/
theorem Emits.nestSeq (err : ε) (type : UInt16) (hf : Emits e f o₁) (hg : Emits e g o₂) :
    Emits e (do
      let start ← nestStart err e type
      f
      let ret ← g.attempt
      nestEnd e start
      Writer.lift ret) (nestOut e type (seqOut o₁ o₂)) := by
  intro s b
  by_cases hroom : attrHdrLen ≤ b.room
  · obtain ⟨b₁, hstart, happ₁⟩ := nestStart_room err e type s hroom
    have hfb := hf s b₁
    rw [happ₁.room, length_attrHdr] at hfb
    cases h₁ : o₁ (b.room - attrHdrLen) with
    | none =>
      refine ⟨fun l h => by simp [nestOut, seqOut, h₁] at h, fun _ => ?_⟩
      obtain ⟨x, b₂, hrun, hext⟩ := hfb.2 h₁
      refine ⟨x, b₂, ?_, happ₁.extends.trans hext⟩
      simp only [Writer.bind_apply, hstart, hrun]
    | some l₁ =>
      obtain ⟨b₂, hrun₁, happ₂⟩ := hfb.1 l₁ h₁
      have hgb := hg s b₂
      rw [happ₂.room, happ₁.room, length_attrHdr, length_attrsBytes] at hgb
      refine ⟨fun l h => ?_, fun h => ?_⟩
      · simp only [nestOut, hroom, if_true, seqOut, h₁, Option.bind_some, Option.map_eq_some_iff] at h
        obtain ⟨-, ⟨l₂, h₂, rfl⟩, rfl⟩ := h
        obtain ⟨b₃, hrun₂, happ₃⟩ := hgb.1 l₂ h₂
        have happ := happ₁.trans (happ₂.trans happ₃)
        rw [← attrsBytes_append] at happ
        refine ⟨_, ?_, happ.nestEnd⟩
        simp only [Writer.bind_apply, Writer.attempt, Writer.lift, hstart, hrun₁, hrun₂, nestEnd]
      · simp only [nestOut, hroom, if_true, seqOut, h₁, Option.bind_some, Option.map_eq_none_iff] at h
        obtain ⟨x, b₃, hrun₂, hext⟩ := hgb.2 h
        have hclosed := (happ₁.extends.trans (happ₂.extends.trans hext)).patch b.data.length
          (put16 e (UInt16.ofNat (b₃.data.length - b.data.length))) (Nat.le_refl _)
        refine ⟨x, _, ?_, hclosed⟩
        simp only [Writer.bind_apply, Writer.attempt, Writer.lift, hstart, hrun₁, hrun₂, nestEnd]
  · have hfull := nestStart_full err e type s (Nat.lt_of_not_le hroom)
    refine ⟨fun l h => by simp [nestOut, hroom] at h, fun _ => ?_⟩
    exact ⟨err, b, by simp only [Writer.bind_apply, hfull], Buf.Extends.refl b⟩

/-- A nested attribute closed only when its body succeeds. -/
theorem Emits.nest (err : ε) (type : UInt16) (hf : Emits e f o) :
    Emits e (do
      let start ← nestStart err e type
      f
      nestEnd e start) (nestOut e type o) := fun s => (hf s).nest err type

/-- A nested attribute closed whatever its body returns. -/
theorem Emits.nestRet (err : ε) (type : UInt16) (hf : Emits e f o) :
    Emits e (do
      let start ← nestStart err e type
      let ret ← f.attempt
      nestEnd e start
      Writer.lift ret) (nestOut e type o) := by
  have h := Emits.nestSeq err type Emits.pure hf
  rw [fixedOut_nil_seq] at h
  exact h

/-- The attributes of `l` that go into `room` bytes, up to the first that does not fit. -/
def fittingAttrs : List Attr → ℕ → List Attr
  | [], _ => []
  | a :: l, room => if align4 a.len ≤ room then a :: fittingAttrs l (room - align4 a.len) else []

/-- What a run of `putAttrs` leaves behind when nobody looks at its outcome. -/
def fittingOut (l : List Attr) : Out := fun room => some (fittingAttrs l room)

/-- **Ignoring a failure.**  What fitted stays, and the writer goes on. -/
theorem Emits.putAttrsIgnored (err : ε) (l : List Attr) :
    Emits e (do
      let _ ← (Base.putAttrs err e l : Writer ε σ Unit).attempt
      Pure.pure ()) (fittingOut l) := by
  intro s b
  refine ⟨?_, fun h => by simp [fittingOut] at h⟩
  intro out hout
  obtain rfl := Option.some.inj hout
  -- what fitted is appended, whether or not the rest made `putAttrs` fail
  have key : ∀ (l : List Attr) (b : Buf), ∃ r b',
      (Base.putAttrs err e l : Writer ε σ Unit) (s, b) = (r, s, b') ∧
        b.Appended (attrsBytes e (fittingAttrs l b.room)) b' := by
    intro l
    induction l with
    | nil => intro b; exact ⟨_, b, rfl, Buf.Appended.nil b⟩
    | cons a l ih =>
      intro b
      by_cases ha : (a.bytes e).length ≤ b.room
      · have happ := b.appended_append (a.bytes e) ha
        obtain ⟨r, b', hrun, happ'⟩ := ih (b.append (a.bytes e) ha)
        refine ⟨r, b', ?_, ?_⟩
        · simp only [Base.putAttrs, Writer.bind_apply, Base.putAttr, putBytes, ha, dite_true, hrun]
        · rw [happ.room] at happ'
          rw [a.length_bytes] at ha happ'
          simpa [fittingAttrs, ha] using happ.trans happ'
      · refine ⟨.error err, b, ?_, ?_⟩
        · simp only [Base.putAttrs, Writer.bind_apply, Base.putAttr, putBytes, ha, dite_false]
        · rw [a.length_bytes] at ha
          simpa [fittingAttrs, ha] using Buf.Appended.nil b
  obtain ⟨r, b', hrun, happ⟩ := key l b
  exact ⟨b', by simp only [Writer.bind_apply, Writer.attempt, hrun, Writer.pure_apply], happ⟩

end VgwDriver.Base
