import VgwDriver.Netlink.ExpectDump
import VgwDriver.Netlink.TupleParse

/-!
# The identifier of an expectation

A message about an expectation tells its `CTA_EXPECT_ID`, and a get or delete request may name it again, so
that it is not answered for another expectation that has taken the same tuple.

* `ctnetlinkGetExpect`, `ctnetlinkDelExpect` — the two requests;
* `expFillInfo_id` — what a message tells;
* `get_expect_id`, `del_expect_id` — what each request makes of an identifier;
* `expIdAgreed_iff` — **the producer and both consumers agree** exactly if the identifier, in network order,
  is the low half of the expectation's address.
-/

namespace VgwDriver

open Base

/-! ### The table of expectations -/

/-- The expectations: which are in `nf_ct_expect_hash`, whose timers are pending, and the records, with the
conntracks they belong to. -/
structure ExpHash where
  listed : List ExpPtr
  pending : ExpPtr → Bool
  exps : ExpHeap
  heap : CtHeap

/-- The timer of an expectation runs while it is in the table, and each of the two holds a reference. -/
structure ExpHash.Ok (t : ExpHash) : Prop where
  pending : ∀ p ∈ t.listed, t.pending p = true
  use : ∀ p ∈ t.listed, 2 ≤ (t.exps p).use

namespace ExpHash

/-- `refcount_inc` and `nf_ct_expect_put`. -/
def get (t : ExpHash) (p : ExpPtr) : ExpHash := { t with exps := t.exps.modifyUse p (· + 1) }
def put (t : ExpHash) (p : ExpPtr) : ExpHash := { t with exps := t.exps.modifyUse p (· - 1) }

/-- `del_timer`, where the timer is pending. -/
def delTimer (t : ExpHash) (p : ExpPtr) : ExpHash :=
  { t with pending := fun q => if q = p then false else t.pending q }

/-- `nf_ct_unlink_expect_report`, which drops the reference of the table. -/
def unlink (t : ExpHash) (p : ExpPtr) : ExpHash :=
  { t with listed := t.listed.filter (· ≠ p) }.put p

/-- What both requests do to delete an expectation: only who stops the timer unlinks it. -/
def remove (t : ExpHash) (p : ExpPtr) : ExpHash :=
  if t.pending p then ((t.delTimer p).unlink p).put p else t

/-- The conntrack of the expectation at `p`. -/
def master (t : ExpHash) (p : ExpPtr) : NfConn := t.heap (t.exps p).master

end ExpHash

/-- `nf_ct_tuple_equal`: everything but the direction. -/
def nfCtTupleEqual (t₁ t₂ : NfConntrackTuple) : Prop :=
  t₁.src = t₂.src ∧ t₁.dst.u3 = t₂.dst.u3 ∧ t₁.dst.u = t₂.dst.u ∧ t₁.dst.protonum = t₂.dst.protonum

instance (t₁ t₂ : NfConntrackTuple) : Decidable (nfCtTupleEqual t₁ t₂) :=
  inferInstanceAs (Decidable (_ ∧ _))

/-- `nf_ct_expect_find_get`, without the reference it takes. -/
abbrev NfExpectFind := ExpHash → NetPtr → NfConntrackZone → NfConntrackTuple → Option ExpPtr

/-- `nf_ct_expect_iterate_net`. -/
def nfCtExpectIterateNet (net : NetPtr) (iter : NfConntrackExpect → Bool) (t : ExpHash) : ExpHash :=
  t.listed.foldl (fun t p => if (t.master p).net = net ∧ iter (t.exps p) then t.remove p else t) t

/-! ### The requests -/

/-- What `ctnetlink_get_expect` returns and leaves, with the message it hands to `nfnetlink_unicast`. -/
structure ExpGetResult where
  err : ℤ
  hash : ExpHash
  reply : Option Buf

section Requests

variable (env : ExpEnv) (fenv : FilterEnv) (find : NfExpectFind) (info : NfnlInfo) (cda : NlaTable)

/-- `nf_ct_expect_find_get` with the reference, which an expectation without any does not give. -/
def nfCtExpectFindGet (t : ExpHash) (tuple : NfConntrackTuple) : Option (ExpPtr × ExpHash) :=
  match find t info.net (ctnetlinkParseZone (cda ctaExpectZone)) tuple with
  | none => none
  | some p => if (t.exps p).use = 0 then none else some (p, t.get p)

/-- The answer about the expectation at `p`: the return value, and the message; `skb2` is what `nlmsg_new`
returns. -/
def expGetAnswer (skb2 : Option Buf) (t : ExpHash) (p : ExpPtr) : ℤ × Option Buf :=
  match skb2 with
  | none => (-enomem, none)
  | some skb2 =>
    match ctnetlinkExpFillInfo env info.portid info.seq p (t.exps p) (t.master p) skb2 with
    | (err, skb) => if err ≤ 0 then (-enomem, none) else (0, some skb)

/-- The tuple of a get request. -/
def expGetTuple : Except ℤ NfConntrackTuple :=
  match cda ctaExpectTuple, cda ctaExpectMaster with
  | some a, _ => ctnetlinkParseTupleNoZone fenv a ctaExpectTuple info.family
  | none, some a => ctnetlinkParseTupleNoZone fenv a ctaExpectMaster info.family
  | none, none => .error (-einval)

/-- `ctnetlink_get_expect`, for a request without `NLM_F_DUMP`. -/
def ctnetlinkGetExpect (skb2 : Option Buf) (t : ExpHash) : ExpGetResult :=
  match expGetTuple fenv info cda with
  | .error err => ⟨err, t, none⟩
  | .ok tuple =>
    match nfCtExpectFindGet find info cda t tuple with
    | none => ⟨-enoent, t, none⟩
    | some (p, t) =>
      -- the id is compared as it stands in memory
      if (cda ctaExpectId).any fun id => nlaGetU32 env.endian id ≠ nfExpectGetId env p (t.exps p) then
        ⟨-enoent, t.put p, none⟩
      else
        let answer := expGetAnswer env info skb2 t p
        ⟨answer.1, t.put p, answer.2⟩

/-- `expect_iter_name`; an expectation's master has the extension. -/
def expectIterName (heap : CtHeap) (name : Bytes) (exp : NfConntrackExpect) : Bool :=
  match (heap exp.master).help with
  | some (some helper) => helper.name = name
  | _ => false

/-- `ctnetlink_del_expect`. -/
def ctnetlinkDelExpect (t : ExpHash) : ℤ × ExpHash :=
  match cda ctaExpectTuple with
  | some a =>
    match ctnetlinkParseTupleNoZone fenv a ctaExpectTuple info.family with
    | .error err => (err, t)
    | .ok tuple =>
      match nfCtExpectFindGet find info cda t tuple with
      | none => (-enoent, t)
      | some (p, t) =>
        -- the id in host order is compared with the address
        if (cda ctaExpectId).any fun id => nlaGetBe32 id ≠ UInt32.ofNat p then (-enoent, t.put p)
        else (0, (t.remove p).put p)
  | none =>
    match cda ctaExpectHelpName with
    | some a =>
      (0, nfCtExpectIterateNet info.net (expectIterName t.heap (a.payload.takeWhile (· ≠ 0))) t)
    | none => (0, nfCtExpectIterateNet info.net (fun _ => true) t)

end Requests

/-! ### What a message tells -/

section Message

variable (env : ExpEnv) (p : ExpPtr) (exp : NfConntrackExpect) (master : NfConn)

/-- The attribute `CTA_EXPECT_ID` of the expectation at `p`. -/
def expIdAttr : Attr := ⟨ctaExpectId, put32 env.endian (nfExpectGetId env p exp)⟩

def expTupleAttr (tuple : NfConntrackTuple) (type : UInt16) : Attr :=
  nestAttr env.endian type (tupleAttrs env.toNlEnv tuple)

def expNatAttrs : List Attr :=
  if exp.savedAddr ≠ ⟨0, 0, 0, 0⟩ ∨ exp.savedProto ≠ 0 then
    [nestAttr env.endian ctaExpectNat
      [nlaBe32 ctaExpectNatDir exp.dir,
        expTupleAttr env
          ⟨⟨exp.savedAddr, exp.savedProto, nfCtL3num master⟩, ⟨⟨0, 0, 0, 0⟩, 0, nfCtProtonum master, 0⟩⟩
          ctaExpectNatTuple]]
  else []

/-- What a message says in front of the identifier, and behind it. -/
def expFrontAttrs : List Attr :=
  [expTupleAttr env exp.tuple ctaExpectTuple, expTupleAttr env (maskTuple exp.tuple exp.mask) ctaExpectMask,
      expTupleAttr env master.tupleOrig ctaExpectMaster] ++
    (expNatAttrs env exp master ++ [nlaBe32 ctaExpectTimeout (UInt32.ofNat (expTimeout env exp))])

def expBackAttrs : List Attr :=
  [nlaBe32 ctaExpectFlags exp.flags, nlaBe32 ctaExpectClass exp.cls] ++
    ((match master.help with
      | some (some helper) => [nlaString ctaExpectHelpName helper.name]
      | _ => []) ++
    match env.expectfnName exp.expectfn with
    | some name => [nlaString ctaExpectFn name]
    | none => [])

theorem emits_expDumpTuple (tuple : NfConntrackTuple) (type : UInt16) :
    Emits env.endian (ctnetlinkExpDumpTuple env tuple type) (fixedOut [expTupleAttr env tuple type]) := by
  have h := Emits.nest (-1) type (emits_dumpTuples env.toNlEnv tuple)
  rw [nestOut_fixed] at h
  exact h

theorem emits_expDumpMask (tuple : NfConntrackTuple) (mask : NfConntrackTupleMask) :
    Emits env.endian (ctnetlinkExpDumpMask env tuple mask)
      (fixedOut [expTupleAttr env (maskTuple tuple mask) ctaExpectMask]) := by
  have h := Emits.nest (-1) ctaExpectMask ((emits_dumpTuplesIp env.toNlEnv (maskTuple tuple mask)).bind
    (emits_dumpTuplesProto env.toNlEnv (maskTuple tuple mask)))
  rw [seqOut_fixed, nestOut_fixed] at h
  simp only [Writer.bind_assoc] at h
  exact h

theorem emits_expDumpNat :
    Emits env.endian (expDumpNat env master exp) (fixedOut (expNatAttrs env exp master)) := by
  obtain ⟨tuple, htuple⟩ : ∃ tuple : NfConntrackTuple, tuple =
      ⟨⟨exp.savedAddr, exp.savedProto, nfCtL3num master⟩, ⟨⟨0, 0, 0, 0⟩, 0, nfCtProtonum master, 0⟩⟩ :=
    ⟨_, rfl⟩
  rw [expDumpNat, expNatAttrs, ← htuple]
  split
  · have h := Emits.nest (-1) ctaExpectNat ((Emits.putAttr (-1) (nlaBe32 ctaExpectNatDir exp.dir)).bind
      (emits_expDumpTuple env tuple ctaExpectNatTuple))
    rw [seqOut_fixed, nestOut_fixed] at h
    simp only [Writer.bind_assoc] at h
    exact h
  · exact Emits.pure

/-- **The layout of a message** about an expectation. -/
theorem emits_expDumpExpect : Emits env.endian (ctnetlinkExpDumpExpect env p exp master)
    (fixedOut (expFrontAttrs env exp master ++ expIdAttr env p exp :: expBackAttrs env exp master)) := by
  have hfront := (emits_expDumpTuple env exp.tuple ctaExpectTuple).bind
    ((emits_expDumpMask env exp.tuple exp.mask).bind
      ((emits_expDumpTuple env master.tupleOrig ctaExpectMaster).bind
        ((emits_expDumpNat env exp master).bind
          (Emits.putAttr (-1) (nlaBe32 ctaExpectTimeout (UInt32.ofNat (expTimeout env exp)))))))
  have hname : Emits env.endian (match master.help with
      | some (some helper) => putAttr (-1) env.endian (nlaString ctaExpectHelpName helper.name)
      | _ => (pure () : NlWriter))
      (fixedOut (match master.help with
        | some (some helper) => [nlaString ctaExpectHelpName helper.name]
        | _ => [])) := by
    split
    · exact Emits.putAttr _ _
    · exact Emits.pure
  have hfn : Emits env.endian (match env.expectfnName exp.expectfn with
      | some name => putAttr (-1) env.endian (nlaString ctaExpectFn name)
      | none => (pure () : NlWriter))
      (fixedOut (match env.expectfnName exp.expectfn with
        | some name => [nlaString ctaExpectFn name]
        | none => [])) := by
    split
    · exact Emits.putAttr _ _
    · exact Emits.pure
  have hback := (Emits.putAttr (-1) (expIdAttr env p exp)).bind
    ((Emits.putAttr (-1) (nlaBe32 ctaExpectFlags exp.flags)).bind
      ((Emits.putAttr (-1) (nlaBe32 ctaExpectClass exp.cls)).bind (hname.bind hfn)))
  have h := hfront.bind hback
  simp only [seqOut_fixed, Writer.bind_assoc] at h
  exact h

theorem expIdAttr_kind : (expIdAttr env p exp).kind = ctaExpectId :=
  show ctaExpectId &&& typeMask = ctaExpectId by decide

/-- Nothing behind the identifier is one. -/
theorem expBackAttrs_kind : ∀ a ∈ expBackAttrs env exp master, a.kind ≠ ctaExpectId := by
  have hname : ∀ a ∈ (match master.help with
      | some (some helper) => [nlaString ctaExpectHelpName helper.name]
      | _ => ([] : List Attr)), a.kind ≠ ctaExpectId := by
    intro a ha
    split at ha
    · rw [List.mem_singleton.mp ha]
      exact show ctaExpectHelpName &&& typeMask ≠ ctaExpectId by decide
    · cases ha
  have hfn : ∀ a ∈ (match env.expectfnName exp.expectfn with
      | some name => [nlaString ctaExpectFn name]
      | none => ([] : List Attr)), a.kind ≠ ctaExpectId := by
    intro a ha
    split at ha
    · rw [List.mem_singleton.mp ha]
      exact show ctaExpectFn &&& typeMask ≠ ctaExpectId by decide
    · cases ha
  intro a ha
  simp only [expBackAttrs, List.cons_append, List.nil_append, List.mem_cons, List.mem_append] at ha
  rcases ha with rfl | rfl | ha | ha
  · rw [nlaBe32_kind]; decide
  · rw [nlaBe32_kind]; decide
  · exact hname a ha
  · exact hfn a ha

def ctaExpectMax : UInt16 := 11

/-- The attributes of a message about an expectation, by type. -/
def expMsgTable (e : Endian) (msg : Bytes) : NlaTable :=
  nlaTable ctaExpectMax (scanAttrs e (msg.drop nlMsgHdrLen))

/-- **What a message tells**: the identifier of its expectation. -/
theorem expFillInfo_id {portid seq : UInt32} {b b' : Buf} {len : ℤ} (hb : b.data = [])
    (h : ctnetlinkExpFillInfo env portid seq p exp master b = (len, b')) (hlen : 0 < len) :
    expMsgTable env.endian b'.data ctaExpectId = some (expIdAttr env p exp) := by
  let hdr : NlMsgHdr :=
    ⟨nfnlMsgType nfnlSubsysCtnetlinkExp ipctnlMsgExpNew, if portid ≠ 0 then nlmFMulti else 0, seq, portid,
      exp.tuple.src.l3num.toUInt8, 0, 0⟩
  obtain ⟨hfits, hfull, hshort⟩ := @emits_nlMsg _ _ hdr _ _ _ _ _ (emits_expDumpExpect env p exp master none) b
  have hrun : ctnetlinkExpFillInfo env portid seq p exp master b =
      ((nlMsg env.endian hdr (ctnetlinkExpDumpExpect env p exp master) none b).1,
        (nlMsg env.endian hdr (ctnetlinkExpDumpExpect env p exp master) none b).2.2) := rfl
  rw [hrun] at h
  obtain ⟨l, hl⟩ : ∃ l, l = expFrontAttrs env exp master ++ expIdAttr env p exp :: expBackAttrs env exp master :=
    ⟨_, rfl⟩
  rw [← hl] at hfits hfull
  by_cases hroom : nlMsgHdrLen ≤ b.room
  · by_cases hsize : attrsSize l ≤ b.room - nlMsgHdrLen
    · obtain ⟨b'', hb'', happ⟩ := hfits l hroom (fixedOut_of_le hsize)
      rw [hb''] at h
      obtain rfl : b'' = b' := (Prod.mk.inj h).2
      have hdata : b''.data = nlMsgBytes env.endian hdr l := by
        rw [happ.1, hb, List.nil_append]
      have hlt : attrsSize l < 65536 := by
        have hcap := b.cap_lt
        rw [Buf.room] at hsize
        omega
      rw [expMsgTable, hdata, drop_nlMsgBytes, scanAttrs_attrsBytes _ _ (fits_of_attrsSize hlt), hl]
      exact nlaTable_last (by decide) (expIdAttr_kind env p exp) (expBackAttrs_kind env exp master)
    · rw [hfull hroom (fixedOut_eq_none.mpr (by omega))] at h
      obtain rfl := (Prod.mk.inj h).1
      omega
  · rw [hshort (by omega)] at h
    obtain rfl := (Prod.mk.inj h).1
    omega

end Message

/-! ### Requests that name an expectation -/

/-- The lookup finds what is in the table: the expectation of the given tuple, the direction aside, whose
conntrack is in the given zone. -/
def NfExpectFind.Finds (find : NfExpectFind) (t : ExpHash) : Prop :=
  ∀ p ∈ t.listed, ∀ zone tuple, nfCtTupleEqual tuple (t.exps p).tuple → zone.id = (t.master p).zone.id →
    find t (t.master p).net zone tuple = some p

/-- The request names the tuple and the zone of the expectation at `p`, and comes from its namespace. -/
structure ExpNamed (fenv : FilterEnv) (info : NfnlInfo) (cda : NlaTable) (t : ExpHash) (p : ExpPtr) :
    Prop where
  tuple : ∃ a tuple, cda ctaExpectTuple = some a ∧
    ctnetlinkParseTupleNoZone fenv a ctaExpectTuple info.family = .ok tuple ∧
    nfCtTupleEqual tuple (t.exps p).tuple
  zone : (ctnetlinkParseZone (cda ctaExpectZone)).id = (t.master p).zone.id
  net : info.net = (t.master p).net

/-- The request with the identifier `id`. -/
def NlaTable.withExpId (cda : NlaTable) (id : Attr) : NlaTable := Function.update cda ctaExpectId (some id)

section Agreement

variable (env : ExpEnv) (fenv : FilterEnv) (find : NfExpectFind) (info : NfnlInfo) (cda : NlaTable)
  (t : ExpHash) (p : ExpPtr)

/-- Both requests find the expectation: the first is answered with its message, the second removes it, and
it only. -/
structure ExpAccepted : Prop where
  get : ∀ skb2, ctnetlinkGetExpect env fenv find info cda skb2 t =
    ⟨(expGetAnswer env info skb2 t p).1, t, (expGetAnswer env info skb2 t p).2⟩
  del : ∃ t', ctnetlinkDelExpect fenv find info cda t = (0, t') ∧ p ∉ t'.listed ∧
    ∀ q, q ≠ p → (q ∈ t'.listed ↔ q ∈ t.listed) ∧ t'.exps q = t.exps q

/-- Both requests are answered with `-ENOENT`, and nothing has changed. -/
structure ExpRefused : Prop where
  get : ∀ skb2, ctnetlinkGetExpect env fenv find info cda skb2 t = ⟨-enoent, t, none⟩
  del : ctnetlinkDelExpect fenv find info cda t = (-enoent, t)

/-- The identifier in every message about the expectation at `p` is accepted, and any other refused; the
policy lets attributes of four bytes or more through. -/
structure ExpIdAgreed : Prop where
  reported : ∀ portid seq b len b', b.data = [] →
    ctnetlinkExpFillInfo env portid seq p (t.exps p) (t.master p) b = (len, b') → 0 < len →
      expMsgTable env.endian b'.data ctaExpectId = some (expIdAttr env p (t.exps p))
  accepted : ExpAccepted env fenv find info (cda.withExpId (expIdAttr env p (t.exps p))) t p
  refused : ∀ id : Attr, 4 ≤ id.payload.length →
    nlaGetU32 env.endian id ≠ nlaGetU32 env.endian (expIdAttr env p (t.exps p)) →
      ExpRefused env fenv find info (cda.withExpId id) t

end Agreement

/-! ### Taking and dropping references -/

namespace ExpHash

variable {t : ExpHash} {p q : ExpPtr}

@[simp] theorem get_put (t : ExpHash) (p : ExpPtr) : (t.get p).put p = t := by
  have hexps : (t.exps.modifyUse p (· + 1)).modifyUse p (· - 1) = t.exps := by
    funext q
    by_cases hq : q = p
    · simp [ExpHeap.modifyUse, hq]
    · simp [ExpHeap.modifyUse, hq]
  show { t with exps := (t.exps.modifyUse p (· + 1)).modifyUse p (· - 1) } = t
  rw [hexps]

/-- A reference changes nothing that a message tells. -/
theorem get_exps (t : ExpHash) (p : ExpPtr) :
    (t.get p).exps p = { t.exps p with use := (t.exps p).use + 1 } := by
  simp [get, ExpHeap.modifyUse]

theorem put_exps (t : ExpHash) (h : q ≠ p) : (t.put p).exps q = t.exps q := by
  simp [put, ExpHeap.modifyUse, h]

theorem get_exps_ne (t : ExpHash) (h : q ≠ p) : (t.get p).exps q = t.exps q := by
  simp [get, ExpHeap.modifyUse, h]

@[simp] theorem mem_unlink (t : ExpHash) : q ∈ (t.unlink p).listed ↔ q ∈ t.listed ∧ q ≠ p := by
  simp [unlink, put]

/-- What removing an expectation leaves. -/
theorem mem_remove (h : t.Ok) : q ∈ (t.remove p).listed ↔ q ∈ t.listed ∧ q ≠ p := by
  rw [remove]
  split
  · exact mem_unlink (t.delTimer p)
  · rename_i hoff
    refine ⟨fun hq => ⟨hq, ?_⟩, And.left⟩
    rintro rfl
    exact hoff (h.pending q hq)

theorem remove_exps (t : ExpHash) (h : q ≠ p) : (t.remove p).exps q = t.exps q := by
  rw [remove]
  split
  · rw [put_exps _ h, unlink, put_exps _ h]
    rfl
  · rfl

theorem Ok.get (h : t.Ok) (p : ExpPtr) : (t.get p).Ok where
  pending := h.pending
  use := by
    intro q hq
    have huse := h.use q hq
    by_cases hqp : q = p
    · rw [hqp] at huse ⊢
      rw [get_exps]
      exact Nat.le_succ_of_le huse
    · rwa [get_exps_ne t hqp]

theorem Ok.put (h : t.Ok) (hp : p ∉ t.listed) : (t.put p).Ok where
  pending := h.pending
  use := by
    intro q hq
    have hne : q ≠ p := fun heq => hp (heq ▸ hq)
    rw [put_exps t hne]
    exact h.use q hq

/-- **Removing keeps the invariant**: the references of the table and the timer go with their holders. -/
theorem Ok.remove (h : t.Ok) (p : ExpPtr) : (t.remove p).Ok where
  pending := by
    intro q hq
    obtain ⟨hlisted, hne⟩ := (mem_remove h).mp hq
    have hpending := h.pending q hlisted
    rw [ExpHash.remove]
    split
    · show (if q = p then false else t.pending q) = true
      rw [if_neg hne, hpending]
    · exact hpending
  use := by
    intro q hq
    obtain ⟨hlisted, hne⟩ := (mem_remove h).mp hq
    rw [remove_exps t hne]
    exact h.use q hlisted

end ExpHash

/-! ### The two consumers -/

section Consumers

variable {env : ExpEnv} {fenv : FilterEnv} {find : NfExpectFind} {info : NfnlInfo} {cda : NlaTable}
  {t : ExpHash} {p : ExpPtr}

theorem withExpId_id (cda : NlaTable) (id : Attr) : cda.withExpId id ctaExpectId = some id :=
  Function.update_self ..

theorem withExpId_of_ne (cda : NlaTable) (id : Attr) {type : UInt16} (h : type ≠ ctaExpectId) :
    cda.withExpId id type = cda type := Function.update_of_ne h ..

/-- A request goes on naming what it names when it gets an identifier. -/
theorem ExpNamed.withExpId (h : ExpNamed fenv info cda t p) (id : Attr) :
    ExpNamed fenv info (cda.withExpId id) t p where
  tuple := by
    rw [withExpId_of_ne cda id (by decide)]
    exact h.tuple
  zone := by
    rw [withExpId_of_ne cda id (by decide)]
    exact h.zone
  net := h.net

theorem findGet_named (hok : t.Ok) (hfind : find.Finds t) (hp : p ∈ t.listed)
    (h : ExpNamed fenv info cda t p) {tuple : NfConntrackTuple}
    (htuple : nfCtTupleEqual tuple (t.exps p).tuple) :
    nfCtExpectFindGet find info cda t tuple = some (p, t.get p) := by
  have huse := hok.use p hp
  have hfound := hfind p hp _ tuple htuple h.zone
  rw [← h.net] at hfound
  rw [nfCtExpectFindGet, hfound]
  exact if_neg (by omega)

/-- **The get request** compares its identifier with the one that messages tell. -/
theorem get_expect_id (hok : t.Ok) (hfind : find.Finds t) (hp : p ∈ t.listed)
    (h : ExpNamed fenv info cda t p) {id : Attr} (hid : cda ctaExpectId = some id) (skb2 : Option Buf) :
    ctnetlinkGetExpect env fenv find info cda skb2 t =
      if nlaGetU32 env.endian id ≠ nfExpectGetId env p (t.exps p) then ⟨-enoent, t, none⟩
      else ⟨(expGetAnswer env info skb2 t p).1, t, (expGetAnswer env info skb2 t p).2⟩ := by
  obtain ⟨a, tuple, ha, hparse, htuple⟩ := h.tuple
  have hget : expGetTuple fenv info cda = .ok tuple := by
    rw [expGetTuple, ha]
    exact hparse
  have hexp : nfExpectGetId env p ((t.get p).exps p) = nfExpectGetId env p (t.exps p) := by
    rw [ExpHash.get_exps]
    rfl
  have hanswer : expGetAnswer env info skb2 (t.get p) p = expGetAnswer env info skb2 t p := by
    have hmaster : (t.get p).master p = t.master p := by
      rw [ExpHash.master, ExpHash.get_exps]
      rfl
    cases skb2 with
    | none => rfl
    | some b =>
      have hfill : ctnetlinkExpFillInfo env info.portid info.seq p ((t.get p).exps p) ((t.get p).master p) b =
          ctnetlinkExpFillInfo env info.portid info.seq p (t.exps p) (t.master p) b := by
        rw [ExpHash.get_exps, hmaster]
        rfl
      simp only [expGetAnswer, hfill]
  rw [ctnetlinkGetExpect, hget]
  dsimp only
  rw [findGet_named hok hfind hp h htuple]
  dsimp only
  rw [hid, hexp, hanswer, ExpHash.get_put, Option.any_some]
  simp only [decide_eq_true_eq]

/-- **The delete request** compares its identifier, in host order, with the low half of the address. -/
theorem del_expect_id (hok : t.Ok) (hfind : find.Finds t) (hp : p ∈ t.listed)
    (h : ExpNamed fenv info cda t p) {id : Attr} (hid : cda ctaExpectId = some id) :
    ctnetlinkDelExpect fenv find info cda t =
      if nlaGetBe32 id ≠ UInt32.ofNat p then (-enoent, t)
      else (0, ((t.get p).remove p).put p) := by
  obtain ⟨a, tuple, ha, hparse, htuple⟩ := h.tuple
  rw [ctnetlinkDelExpect, ha]
  dsimp only
  rw [hparse]
  dsimp only
  rw [findGet_named hok hfind hp h htuple]
  dsimp only
  rw [hid, ExpHash.get_put, Option.any_some]
  simp only [decide_eq_true_eq]

/-- What a delete request that goes through leaves of the table. -/
theorem del_removes (hok : t.Ok) :
    p ∉ (((t.get p).remove p).put p).listed ∧
      ∀ q, q ≠ p → (q ∈ (((t.get p).remove p).put p).listed ↔ q ∈ t.listed) ∧
        (((t.get p).remove p).put p).exps q = t.exps q := by
  have hmem : ∀ q, q ∈ (((t.get p).remove p).put p).listed ↔ q ∈ t.listed ∧ q ≠ p := fun q =>
    ExpHash.mem_remove (hok.get p)
  refine ⟨fun hp => ((hmem p).mp hp).2 rfl, fun q hne => ⟨?_, ?_⟩⟩
  · rw [hmem q]
    exact and_iff_left hne
  · rw [ExpHash.put_exps _ hne, ExpHash.remove_exps _ hne, ExpHash.get_exps_ne t hne]

/-- The identifier of a message, in network order. -/
theorem nlaGetBe32_expIdAttr (exp : NfConntrackExpect) :
    nlaGetBe32 (expIdAttr env p exp) = get32 .big (put32 env.endian (nfExpectGetId env p exp)) := by
  rw [nlaGetBe32, expIdAttr, List.take_of_length_le (by simp)]

theorem nlaGetU32_expIdAttr (exp : NfConntrackExpect) :
    nlaGetU32 env.endian (expIdAttr env p exp) = nfExpectGetId env p exp := by
  rw [nlaGetU32, expIdAttr, List.take_of_length_le (by simp), get32_put32]

/-- Two identifiers that differ in host order differ in network order. -/
theorem nlaGetBe32_ne {e : Endian} {a b : Attr} (ha : 4 ≤ a.payload.length) (hb : 4 ≤ b.payload.length)
    (h : nlaGetU32 e a ≠ nlaGetU32 e b) : nlaGetBe32 a ≠ nlaGetBe32 b := by
  have hlena : (a.payload.take 4).length = 4 := List.length_take_of_le ha
  have hlenb : (b.payload.take 4).length = 4 := List.length_take_of_le hb
  rw [nlaGetU32, nlaGetU32, Ne, get32_inj e hlena hlenb] at h
  rw [nlaGetBe32, nlaGetBe32, Ne, get32_inj .big hlena hlenb]
  exact h

/-- **The identifier a message tells is accepted by both requests, and any other refused,** exactly if it is,
in network order, the low half of the expectation's address. -/
theorem expIdAgreed_iff (hok : t.Ok) (hfind : find.Finds t) (hp : p ∈ t.listed)
    (h : ExpNamed fenv info cda t p) :
    ExpIdAgreed env fenv find info cda t p ↔
      get32 .big (put32 env.endian (nfExpectGetId env p (t.exps p))) = UInt32.ofNat p := by
  have hget := fun id skb2 => @get_expect_id env fenv find info _ t p hok hfind hp (h.withExpId id) _
    (withExpId_id cda id) skb2
  have hdel := fun id => del_expect_id hok hfind hp (h.withExpId id) (withExpId_id cda id)
  rw [← nlaGetBe32_expIdAttr]
  constructor
  · intro hagreed
    obtain ⟨t', ht', -⟩ := hagreed.accepted.del
    rw [hdel] at ht'
    by_contra hne
    rw [if_pos hne] at ht'
    have herr := (Prod.mk.inj ht').1
    revert herr
    decide
  · intro hid
    refine ⟨fun portid seq b len b' hb hfill hlen => expFillInfo_id env p _ _ hb hfill hlen, ⟨?_, ?_⟩, ?_⟩
    · intro skb2
      rw [hget, if_neg (not_not.mpr (nlaGetU32_expIdAttr _))]
    · refine ⟨_, ?_, del_removes hok⟩
      rw [hdel, if_neg (not_not.mpr hid)]
    · intro id hlen hne
      have hlen' : 4 ≤ (expIdAttr env p (t.exps p)).payload.length := by simp [expIdAttr]
      have hne' := nlaGetBe32_ne hlen hlen' hne
      rw [hid] at hne'
      rw [nlaGetU32_expIdAttr] at hne
      refine ⟨fun skb2 => ?_, ?_⟩
      · rw [hget, if_pos hne]
      · rw [hdel, if_pos hne']

end Consumers

/-! ### One expectation -/

/-- A lookup: the first expectation with the tuple whose conntrack is in the namespace and the zone. -/
def sampleExpFind : NfExpectFind := fun t net zone tuple =>
  t.listed.find? fun p =>
    (t.master p).net = net && nfCtTupleEqual tuple (t.exps p).tuple && (t.master p).zone.id = zone.id

/-- An expectation at `0x1000`, of a conntrack in zone 100. -/
def sampleExpHash : ExpHash where
  listed := [0x1000]
  pending := fun p => p = 0x1000
  exps := fun _ => { ExpSystem.sampleExpect with use := 2 }
  heap := fun _ => liveConn

/-- A request that names it. -/
def sampleExpKeys : NlaTable := nlaTable ctaExpectMax
  [nestAttr .little ctaExpectTuple
      [nestAttr .little ctaTupleIp [nlaBe32 ctaIpV4Src 0x0a000002, nlaBe32 ctaIpV4Dst 0x0a000001],
        nestAttr .little ctaTupleProto
          [nlaU8 ctaProtoNum ipprotoTcp, nlaBe16 ctaProtoSrcPort 20, nlaBe16 ctaProtoDstPort 5000]],
    nlaBe16 ctaExpectZone 100]

def sampleExpInfo : NfnlInfo := ⟨0, 1, 1, 0, nfprotoIpv4⟩

/-- A host whose keyed hash of everything is `id`. -/
def hashingEnv (id : UInt64) : ExpEnv :=
  { ExpSystem.sampleExpEnv with siphash4u64 := fun _ _ _ _ => id }

theorem sampleExpHash_ok : sampleExpHash.Ok where
  pending := by
    intro p hp
    obtain rfl := List.mem_singleton.mp hp
    rfl
  use := fun _ _ => Nat.le_refl 2

theorem sampleExpFind_finds : sampleExpFind.Finds sampleExpHash := by
  intro p hp zone tuple htuple hzone
  obtain rfl := List.mem_singleton.mp hp
  rw [sampleExpFind]
  show List.find? _ [0x1000] = some 0x1000
  rw [List.find?_cons_of_pos]
  simp [htuple, hzone]

theorem sampleExpKeys_named :
    ExpNamed kernelFilterEnv sampleExpInfo sampleExpKeys sampleExpHash 0x1000 where
  tuple := by
    have hparse : ctnetlinkParseTupleNoZone kernelFilterEnv
        (nestAttr .little ctaExpectTuple
          [nestAttr .little ctaTupleIp [nlaBe32 ctaIpV4Src 0x0a000002, nlaBe32 ctaIpV4Dst 0x0a000001],
            nestAttr .little ctaTupleProto
              [nlaU8 ctaProtoNum ipprotoTcp, nlaBe16 ctaProtoSrcPort 20, nlaBe16 ctaProtoDstPort 5000]])
        ctaExpectTuple nfprotoIpv4 = .ok (sampleTuple 0x0a000002 0x0a000001 20 5000 1) := by decide +kernel
    exact ⟨_, _, rfl, hparse, by decide⟩
  zone := by decide +kernel
  net := rfl

/-- Where the hash happens to be the address in network order, both requests agree. -/
theorem expIdAgreed_sample :
    ExpIdAgreed (hashingEnv 0x00100000) kernelFilterEnv sampleExpFind sampleExpInfo sampleExpKeys
      sampleExpHash 0x1000 :=
  (expIdAgreed_iff sampleExpHash_ok sampleExpFind_finds (List.mem_singleton.mpr rfl)
    sampleExpKeys_named).mpr (by decide)

/-- A delete request with the identifier that was told is answered with `-ENOENT`. -/
theorem toldId_refused : sampleExpHash.Ok ∧ sampleExpFind.Finds sampleExpHash ∧
    0x1000 ∈ sampleExpHash.listed ∧
    ExpNamed kernelFilterEnv sampleExpInfo sampleExpKeys sampleExpHash 0x1000 ∧
    ¬ ExpIdAgreed (hashingEnv 0x12345678) kernelFilterEnv sampleExpFind sampleExpInfo sampleExpKeys
      sampleExpHash 0x1000 := by
  refine ⟨sampleExpHash_ok, sampleExpFind_finds, List.mem_singleton.mpr rfl, sampleExpKeys_named, ?_⟩
  intro hagreed
  obtain ⟨t', ht', -⟩ := hagreed.accepted.del
  have herr : (ctnetlinkDelExpect kernelFilterEnv sampleExpFind sampleExpInfo
      (sampleExpKeys.withExpId (expIdAttr (hashingEnv 0x12345678) 0x1000 (sampleExpHash.exps 0x1000)))
      sampleExpHash).1 ≠ 0 := by decide +kernel
  exact herr (congrArg Prod.fst ht')

end VgwDriver
