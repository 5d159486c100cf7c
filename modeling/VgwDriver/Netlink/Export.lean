import VgwDriver.Netlink.Filter
import VgwDriver.Cli.Flow

/-!
# Where the TCP sequence record is exported

The calls of `ctnetlink_fill_info`, by the kind of request that makes them, and what their messages contain
at the path of `CTA_PROTOINFO_TCP_SEQ_TRACK`.

* `fillInfoOut_eq`, `fillInfoOut_layout` — the order of a message's attributes;
* `seqTrack_exported_iff` — **a message carries the sequence record** exactly in a dump with a filter while
  the export flag is set, for a TCP conntrack that is not offloaded; the CLI reads the conntrack's own
  values out of it; an event never carries it.
-/

namespace VgwDriver

open Base

/-! ### The types of the attributes -/

variable (env : NlEnv)

@[simp] theorem nestAttr_kind (e : Endian) (type : UInt16) (kids : List Attr) :
    (nestAttr e type kids).kind = (type ||| nestedFlag) &&& typeMask := rfl

@[simp] theorem nlaU8_kind (type : UInt16) (x : UInt8) : (nlaU8 type x).kind = type &&& typeMask := rfl

@[simp] theorem nlaBe16_kind (type x : UInt16) : (nlaBe16 type x).kind = type &&& typeMask := rfl

@[simp] theorem nlaBe32_kind (type : UInt16) (x : UInt32) :
    (nlaBe32 type x).kind = type &&& typeMask := rfl

/-- Every attribute of the list has one of the types `s`. -/
def Kinds (s : List UInt16) (l : List Attr) : Prop := ∀ a ∈ l, a.kind ∈ s

theorem Kinds.append {s : List UInt16} {l₁ l₂ : List Attr} (h₁ : Kinds s l₁) (h₂ : Kinds s l₂) :
    Kinds s (l₁ ++ l₂) := by
  intro a ha
  rcases List.mem_append.mp ha with ha | ha
  · exact h₁ a ha
  · exact h₂ a ha

theorem Kinds.mono {s s' : List UInt16} {l : List Attr} (h : Kinds s l) (hs : s ⊆ s') : Kinds s' l :=
  fun a ha => hs (h a ha)

theorem Kinds.of_mem {s : List UInt16} {t : UInt16} {l : List Attr} (h : Kinds [t] l) (ht : t ∈ s) : Kinds s l :=
  h.mono fun _ hk => List.mem_singleton.mp hk ▸ ht

theorem Kinds.nil (s : List UInt16) : Kinds s [] := fun _ ha => by cases ha

theorem Kinds.single {s : List UInt16} {a : Attr} (h : a.kind ∈ s) : Kinds s [a] := by
  intro x hx
  rw [List.mem_singleton.mp hx]
  exact h

/-- The types behind the original tuple and in front of the protocol information. -/
def midKinds : List UInt16 :=
  [ctaTupleReply, ctaZone, ctaStatus, ctaMark, ctaSecctx, ctaId, ctaUse, ctaTupleMaster, ctaTimeout]

/-- Those behind the zone. -/
def infoKinds : List UInt16 := [ctaStatus, ctaMark, ctaSecctx, ctaId, ctaUse, ctaTupleMaster, ctaTimeout]

/-- The types behind the protocol information. -/
def extKinds : List UInt16 :=
  [ctaCountersOrig, ctaCountersReply, ctaTimestamp, ctaHelp, ctaLabels, ctaSeqAdjOrig, ctaSeqAdjReply,
    ctaSynproxy]

theorem kinds_zoneAttrs (zone : NfConntrackZone) (dir : UInt8) :
    Kinds [ctaZone] (zoneAttrs ctaZone zone dir) := by
  unfold zoneAttrs
  split
  · exact Kinds.nil _
  · exact Kinds.single (by rw [nlaBe16_kind]; decide)

theorem infoKinds_subset : infoKinds ⊆ midKinds :=
  fun _ ha => List.mem_cons_of_mem _ (List.mem_cons_of_mem _ ha)

theorem kinds_markAttrs (ct : NfConn) (dump : Bool) : Kinds [ctaMark] (markAttrs ct dump) := by
  unfold markAttrs
  split
  · exact Kinds.nil _
  · exact Kinds.single (by rw [nlaBe32_kind]; decide)

theorem kinds_secctxAttrs (ct : NfConn) : Kinds [ctaSecctx] (secctxAttrs env ct) := by
  unfold secctxAttrs
  split
  · exact Kinds.nil _
  · exact Kinds.single (by rw [nestAttr_kind]; decide)

theorem kinds_masterAttrs (ct : NfConn) : Kinds [ctaTupleMaster] (masterAttrs env ct) := by
  unfold masterAttrs
  split
  · exact Kinds.nil _
  · exact Kinds.single (by rw [nestAttr_kind]; decide)

theorem kinds_timeoutAttrs (ct : NfConn) (skipZero : Bool) :
    Kinds [ctaTimeout] (timeoutAttrs env ct skipZero) := by
  unfold timeoutAttrs
  split
  · exact Kinds.nil _
  · exact Kinds.single (by rw [nlaBe32_kind]; decide)

theorem kinds_idAttr (p : CtPtr) : Kinds [ctaId] [⟨ctaId, put32 env.endian (env.nfCtGetId p)⟩] :=
  Kinds.single (show ctaId &&& typeMask ∈ [ctaId] by decide)

theorem kinds_headAttrs (p : CtPtr) (ct : NfConn) : Kinds infoKinds (headAttrs env p ct) := by
  have hstatus : Kinds infoKinds [nlaBe32 ctaStatus ct.status] :=
    Kinds.single (by rw [nlaBe32_kind]; decide)
  have huse : Kinds infoKinds [nlaBe32 ctaUse (UInt32.ofNat ct.use)] :=
    Kinds.single (by rw [nlaBe32_kind]; decide)
  have hmark := (kinds_markAttrs ct true).of_mem (show ctaMark ∈ infoKinds by decide)
  have hsecctx := (kinds_secctxAttrs env ct).of_mem (show ctaSecctx ∈ infoKinds by decide)
  have hid := (kinds_idAttr env p).of_mem (show ctaId ∈ infoKinds by decide)
  have hmaster := (kinds_masterAttrs env ct).of_mem (show ctaTupleMaster ∈ infoKinds by decide)
  exact hstatus.append (hmark.append (hsecctx.append (hid.append (huse.append hmaster))))

theorem kinds_acctAttrs (acct : Option NfConnAcct) : Kinds extKinds (acctAttrs env acct) := by
  cases acct with
  | none => exact Kinds.nil _
  | some a =>
    have horig : Kinds extKinds [counterAttr env .original a.orig] :=
      Kinds.single (show (ctaCountersOrig ||| nestedFlag) &&& typeMask ∈ extKinds by decide)
    have hreply : Kinds extKinds [counterAttr env .reply a.reply] :=
      Kinds.single (show (ctaCountersReply ||| nestedFlag) &&& typeMask ∈ extKinds by decide)
    exact horig.append hreply

theorem kinds_timestampAttrs (ct : NfConn) : Kinds extKinds (timestampAttrs env ct) := by
  unfold timestampAttrs
  split
  · exact Kinds.nil _
  · exact Kinds.single (by rw [nestAttr_kind]; decide)

theorem kinds_labelsAttrs (ct : NfConn) : Kinds extKinds (labelsAttrs env ct) := by
  unfold labelsAttrs
  split
  · exact Kinds.nil _
  · split
    · exact Kinds.single (show ctaLabels &&& typeMask ∈ extKinds by decide)
    · exact Kinds.nil _

theorem kinds_ctSeqAdjAttrs (ct : NfConn) : Kinds extKinds (ctSeqAdjAttrs env ct) := by
  unfold ctSeqAdjAttrs
  split
  · exact Kinds.nil _
  · split
    · exact Kinds.nil _
    · rename_i orig reply _ _
      have horig : Kinds extKinds [seqAdjAttr env orig ctaSeqAdjOrig] :=
        Kinds.single (show (ctaSeqAdjOrig ||| nestedFlag) &&& typeMask ∈ extKinds by decide)
      have hreply : Kinds extKinds [seqAdjAttr env reply ctaSeqAdjReply] :=
        Kinds.single (show (ctaSeqAdjReply ||| nestedFlag) &&& typeMask ∈ extKinds by decide)
      exact horig.append hreply

theorem kinds_ctSynproxyAttrs (ct : NfConn) : Kinds extKinds (ctSynproxyAttrs env ct) := by
  unfold ctSynproxyAttrs
  split
  · exact Kinds.nil _
  · exact Kinds.single (by rw [nestAttr_kind]; decide)

theorem kinds_helpOut (ct : NfConn) : Out.All (fun a => a.kind ∈ extKinds) (helpOut env ct) := by
  unfold helpOut
  split
  · exact Out.All.fixed (Kinds.nil _)
  · exact Out.All.fixed (Kinds.nil _)
  · exact Out.All.nest _ fun kids => by rw [nestAttr_kind]; decide

theorem kinds_extOut (ct : NfConn) : Out.All (fun a => a.kind ∈ extKinds) (extOut env ct) :=
  (Out.All.fixed (kinds_timestampAttrs env ct)).seq ((kinds_helpOut env ct).seq
    ((Out.All.fixed (kinds_labelsAttrs env ct)).seq
      ((Out.All.fixed (kinds_ctSeqAdjAttrs env ct)).seq
        (Out.All.fixed (kinds_ctSynproxyAttrs env ct)))))

/-! ### The layout of a message -/

/-- The first attribute of every message. -/
def origAttr (ct : NfConn) : Attr :=
  nestAttr env.endian ctaTupleOrig
    (tupleAttrs env ct.tupleOrig ++ zoneAttrs ctaTupleZone ct.zone nfCtZoneDirOrig)

/-- The protocol information in a message: none of an offloaded conntrack. -/
def protoinfoPart (ct : NfConn) (flags : UInt16) : List Attr :=
  if ct.testStatus ipsOffloadBit then [] else protoinfoAttrs env ct false flags

/-- The second attribute of every message. -/
def replyAttr (ct : NfConn) : Attr :=
  nestAttr env.endian ctaTupleReply
    (tupleAttrs env ct.tupleReply ++ zoneAttrs ctaTupleZone ct.zone nfCtZoneDirRepl)

/-- The timeout in a message, which one about an offloaded conntrack does not tell. -/
def timeoutPart (ct : NfConn) : List Attr := if ct.testStatus ipsOffloadBit then [] else timeoutAttrs env ct false

theorem kinds_protoinfoPart (ct : NfConn) (flags : UInt16) :
    Kinds [ctaProtoinfo] (protoinfoPart env ct flags) := by
  have hnest : ∀ kids, Kinds [ctaProtoinfo] [nestAttr env.endian ctaProtoinfo kids] :=
    fun kids => Kinds.single (by rw [nestAttr_kind]; decide)
  unfold protoinfoPart protoinfoAttrs
  split
  · exact Kinds.nil _
  · split
    · exact hnest _
    · split
      · exact Kinds.nil _
      · exact hnest _

theorem kinds_timeoutPart (ct : NfConn) : Kinds [ctaTimeout] (timeoutPart env ct) := by
  unfold timeoutPart
  split
  · exact Kinds.nil _
  · exact kinds_timeoutAttrs env ct false

/-- **The layout of a message**: the two tuples, the zone, what is told of every conntrack, the timeout, the
protocol information, and the extensions. -/
theorem fillInfoOut_eq {p : CtPtr} {ct : NfConn} {extinfo : Bool} {flags : UInt16} {room : ℕ}
    {l : List Attr} (h : fillInfoOut env p ct extinfo flags room = some l) :
    ∃ post, l = origAttr env ct :: replyAttr env ct :: (zoneAttrs ctaZone ct.zone nfCtDefaultZoneDir ++
        (headAttrs env p ct ++ (timeoutPart env ct ++ (protoinfoPart env ct flags ++ post)))) ∧
      Kinds extKinds post := by
  have hpost : Out.All (fun a => a.kind ∈ extKinds)
      (if extinfo then seqOut (fixedOut (acctAttrs env ct.acct)) (extOut env ct) else fixedOut []) := by
    split
    · exact (Out.All.fixed (kinds_acctAttrs env ct.acct)).seq (kinds_extOut env ct)
    · exact Out.All.fixed (Kinds.nil _)
  unfold fillInfoOut seqOut at h
  simp only [Option.bind_eq_some_iff, Option.map_eq_some_iff] at h
  obtain ⟨front, hfront, post, hp, rfl⟩ := h
  have hfixed : front = frontAttrs env p ct flags := by
    unfold fixedOut at hfront
    split at hfront
    · exact (Option.some.inj hfront).symm
    · cases hfront
  subst hfixed
  refine ⟨post, ?_, hpost _ _ hp⟩
  by_cases hoff : ct.testStatus ipsOffloadBit <;>
    simp [frontAttrs, identityAttrs, infoAttrs, origAttr, replyAttr, timeoutPart, protoinfoPart, hoff]

/-- The layout by types. -/
theorem fillInfoOut_parts {p : CtPtr} {ct : NfConn} {extinfo : Bool} {flags : UInt16} {room : ℕ}
    {l : List Attr} (h : fillInfoOut env p ct extinfo flags room = some l) :
    ∃ info post, l = origAttr env ct :: replyAttr env ct ::
        (zoneAttrs ctaZone ct.zone nfCtDefaultZoneDir ++ (info ++ (protoinfoPart env ct flags ++ post))) ∧
      Kinds infoKinds info ∧ Kinds extKinds post := by
  obtain ⟨post, rfl, hpost⟩ := fillInfoOut_eq env h
  have htimeout := (kinds_timeoutPart env ct).of_mem (show ctaTimeout ∈ infoKinds by decide)
  exact ⟨_, post, by simp, (kinds_headAttrs env p ct).append htimeout, hpost⟩

/-- The layout around the protocol information. -/
theorem fillInfoOut_layout {p : CtPtr} {ct : NfConn} {extinfo : Bool} {flags : UInt16} {room : ℕ}
    {l : List Attr} (h : fillInfoOut env p ct extinfo flags room = some l) :
    ∃ mid post, l = origAttr env ct :: (mid ++ (protoinfoPart env ct flags ++ post)) ∧
      Kinds midKinds mid ∧ Kinds extKinds post := by
  obtain ⟨info, post, rfl, hinfo, hpost⟩ := fillInfoOut_parts env h
  have hreply : Kinds midKinds [replyAttr env ct] :=
    Kinds.single (show (ctaTupleReply ||| nestedFlag) &&& typeMask ∈ midKinds by decide)
  have hzone := (kinds_zoneAttrs ct.zone nfCtDefaultZoneDir).of_mem (show ctaZone ∈ midKinds by decide)
  have hmid := hreply.append (hzone.append (hinfo.mono infoKinds_subset))
  exact ⟨_, post, by simp, hmid, hpost⟩

/-! ### Requests -/

/-- What makes a call of `ctnetlink_fill_info`: a call of `ctnetlink_dump_table` in a session with or without
a filter, `ctnetlink_get_conntrack`, or `ctnetlink_dump_one_entry` of the dying list. -/
inductive FillSource where
  | dumpTable (filter : Option CtnetlinkFilter)
  | getConntrack
  | dumpDying

/-- The `flags` the source passes. -/
def FillSource.flags : FillSource → UInt16
  | .dumpTable filter => if filter.isSome then nlmFDumpFiltered else 0
  | .getConntrack => 0
  | .dumpDying => 0

/-- The call the source makes about the conntrack `ct` at `p`; all of them ask for the extensions. -/
def FillSource.call (src : FillSource) (env : NlEnv) (portid seq : UInt32) (type : UInt8) (p : CtPtr)
    (ct : NfConn) : FillCall :=
  ⟨env, portid, seq, type, p, ct, true, src.flags⟩

/-- The message a call appends to the buffer, if it fits. -/
def FillCall.message (c : FillCall) (b : Buf) : Option Bytes :=
  match c.exec b with
  | (ret, _, b') => if ret < 0 then none else some (b'.data.drop b.data.length)

/-- The message of an event, if there is one and it fits. -/
def eventMessage (env : NlEnv) (events portid : UInt32) (p : CtPtr) (ct : NfConn) (b : Buf) :
    Option Bytes :=
  (ctnetlinkConntrackEvent env events portid p ct b).map fun r => r.2.data.drop b.data.length

/-- **A call's message** is its header and the attributes that fit. -/
theorem FillCall.message_eq (c : FillCall) (b : Buf) :
    c.message b = (c.attrs b.room).map (nlMsgBytes c.env.endian c.hdr) := by
  unfold message
  cases h : c.attrs b.room with
  | none =>
    rw [exec_full h]
    rfl
  | some l =>
    obtain ⟨b', hrun, happ⟩ := exec_fits h
    have hnat : ¬ ((b'.data.length : ℤ) < 0) := by omega
    rw [hrun]
    dsimp only
    rw [if_neg hnat, happ.1, List.drop_left]
    rfl

/-- The attributes of a message that fits into a buffer are small enough for their length fields. -/
theorem FillCall.attrs_lt {c : FillCall} {b : Buf} {l : List Attr} (h : c.attrs b.room = some l) :
    attrsSize l < 65536 := by
  obtain ⟨b', -, happ⟩ := exec_fits h
  have hle := happ.length_le
  have hcap := b.cap_lt
  rw [length_nlMsgBytes] at hle
  unfold Buf.room at hle
  omega

/-! ### The sequence record -/

/-- The kernel's own protocols write no attribute the module added: the children of their
`CTA_PROTOINFO_TCP` have the types up to `CTA_PROTOINFO_TCP_FLAGS_REPLY`. -/
def NlEnv.StockCallbacks (env : NlEnv) : Prop :=
  ∀ proto toNlattr, env.toNlattr proto = some toNlattr → ∀ ct destroy, ∀ a ∈ toNlattr ct destroy,
    a.kind = ctaProtoinfoTcp →
      ∃ kids, a.payload = attrsBytes env.endian kids ∧ ∀ k ∈ kids, k.kind ≤ ctaProtoinfoTcpFlagsReply

/-- The payloads a message carries as `CTA_PROTOINFO_TCP_SEQ_TRACK`. -/
def seqTrackPayloads (e : Endian) (msg : Bytes) : List Bytes :=
  payloadsAt e [ctaProtoinfo, ctaProtoinfoTcp, ctaProtoinfoTcpSeqTrack] (msg.drop nlMsgHdrLen)

theorem drop_nlMsgBytes (e : Endian) (hdr : NlMsgHdr) (l : List Attr) :
    (nlMsgBytes e hdr l).drop nlMsgHdrLen = attrsBytes e l := by
  have hlen : (put32 e (UInt32.ofNat (nlMsgHdrLen + attrsSize l)) ++ hdr.rest e).length = nlMsgHdrLen := by
    simp [nlMsgHdrLen]
  rw [nlMsgBytes, List.drop_left' hlen]

/-- What the stock encoding contributes: nothing. -/
theorem stock_payloadsAt {env : NlEnv} (hstock : env.StockCallbacks) {proto : UInt8}
    {toNlattr : NfConn → Bool → List Attr} (hproto : env.toNlattr proto = some toNlattr) (ct : NfConn)
    (destroy : Bool) (hsize : attrsSize (toNlattr ct destroy) < 65536) :
    payloadsAt env.endian [ctaProtoinfoTcp, ctaProtoinfoTcpSeqTrack]
      (attrsBytes env.endian (toNlattr ct destroy)) = [] := by
  rw [payloadsAt_attrsBytes _ _ _ hsize, List.flatMap_eq_nil_iff]
  intro a ha
  unfold Attr.payloadsAt
  split
  · rename_i hkind
    obtain ⟨kids, hpayload, hkids⟩ := hstock proto toNlattr hproto ct destroy a ha hkind
    have hlen : attrsSize kids = a.payload.length := by rw [hpayload, length_attrsBytes]
    have hle := payload_le_attrsSize ha
    rw [hpayload, payloadsAt_attrsBytes _ _ _ (by omega)]
    refine flatMap_payloadsAt_nil fun k hk heq => ?_
    have hk := hkids k hk
    rw [heq] at hk
    exact absurd hk (by decide)
  · rfl

/-- The children of `CTA_PROTOINFO_TCP` that the kernel writes too, and the one it does not. -/
def tcpStockAttrs (ct : NfConn) : List Attr :=
  [nlaU8 ctaProtoinfoTcpState ct.tcp.state.code,
    nlaU8 ctaProtoinfoTcpWscaleOriginal ct.tcp.seen0.tdScale,
    nlaU8 ctaProtoinfoTcpWscaleReply ct.tcp.seen1.tdScale,
    nlaTcpFlags ctaProtoinfoTcpFlagsOriginal ct.tcp.seen0.flags,
    nlaTcpFlags ctaProtoinfoTcpFlagsReply ct.tcp.seen1.flags]

def seqTrackAttr (ct : NfConn) : Attr := ⟨ctaProtoinfoTcpSeqTrack, ipCtTcpVgw env ct.tcp⟩

theorem seqTrackAttr_kind (ct : NfConn) : (seqTrackAttr env ct).kind = ctaProtoinfoTcpSeqTrack := by
  show ctaProtoinfoTcpSeqTrack &&& typeMask = ctaProtoinfoTcpSeqTrack
  decide

theorem tcpAttrs_eq (ct : NfConn) :
    tcpAttrs env ct false = tcpStockAttrs ct ++ [seqTrackAttr env ct] := rfl

theorem kinds_tcpStockAttrs (ct : NfConn) :
    Kinds [ctaProtoinfoTcpState, ctaProtoinfoTcpWscaleOriginal, ctaProtoinfoTcpWscaleReply,
      ctaProtoinfoTcpFlagsOriginal, ctaProtoinfoTcpFlagsReply] (tcpStockAttrs ct) := by
  intro a ha
  simp only [tcpStockAttrs, List.mem_cons, List.not_mem_nil, or_false] at ha
  rcases ha with rfl | rfl | rfl | rfl | rfl
  · rw [nlaU8_kind]; decide
  · rw [nlaU8_kind]; decide
  · rw [nlaU8_kind]; decide
  · show ctaProtoinfoTcpFlagsOriginal &&& typeMask ∈ _
    decide
  · show ctaProtoinfoTcpFlagsReply &&& typeMask ∈ _
    decide

/-- The module's children take 108 bytes. -/
theorem attrsSize_tcpAttrs (ct : NfConn) : attrsSize (tcpAttrs env ct false) = 108 := by
  have hflags : ∀ type x, align4 (nlaTcpFlags type x).len = 8 := by
    intro type x
    simp [nlaTcpFlags, Attr.len, attrHdrLen, align4]
  have hrec : align4 (seqTrackAttr env ct).len = 68 := by
    rw [Attr.len, seqTrackAttr, length_ipCtTcpVgw]
    rfl
  rw [tcpAttrs_eq, attrsSize_append]
  simp [tcpStockAttrs, hflags, hrec]

/-- What the module's encoding contributes: its one record. -/
theorem tcp_payloadsAt (ct : NfConn) :
    payloadsAt env.endian [ctaProtoinfoTcp, ctaProtoinfoTcpSeqTrack]
      (attrsBytes env.endian [nestAttr env.endian ctaProtoinfoTcp (tcpAttrs env ct false)])
      = [ipCtTcpVgw env ct.tcp] := by
  have hsize := attrsSize_tcpAttrs env ct
  have hkind : (nestAttr env.endian ctaProtoinfoTcp (tcpAttrs env ct false)).kind = ctaProtoinfoTcp := by
    rw [nestAttr_kind]
    decide
  have hstock : (tcpStockAttrs ct).flatMap (Attr.payloadsAt env.endian ctaProtoinfoTcpSeqTrack []) = [] := by
    refine flatMap_payloadsAt_nil fun a ha heq => ?_
    have hmem := kinds_tcpStockAttrs ct a ha
    rw [heq] at hmem
    exact absurd hmem (by decide)
  have hrec : (seqTrackAttr env ct).payloadsAt env.endian ctaProtoinfoTcpSeqTrack []
      = [ipCtTcpVgw env ct.tcp] := by
    rw [Attr.payloadsAt, if_pos (seqTrackAttr_kind env ct)]
    rfl
  rw [payloadsAt_attrsBytes _ _ _ (by simp [nestAttr_len, hsize, attrHdrLen])]
  simp only [List.flatMap_cons, List.flatMap_nil, Attr.payloadsAt, hkind, if_true, List.append_nil]
  rw [nestAttr, payloadsAt_attrsBytes _ _ _ (by omega), tcpAttrs_eq, List.flatMap_append, hstock]
  simp only [List.flatMap_cons, List.flatMap_nil, hrec, List.append_nil, List.nil_append]

/-- What the protocol information contributes. -/
theorem protoinfo_payloadsAt {env : NlEnv} (hstock : env.StockCallbacks) (ct : NfConn) (destroy : Bool)
    (flags : UInt16) (hexp : exportsTcp env ct flags → destroy = false)
    (hsize : attrsSize (protoinfoAttrs env ct destroy flags) < 65536) :
    (protoinfoAttrs env ct destroy flags).flatMap (Attr.payloadsAt env.endian ctaProtoinfo
        [ctaProtoinfoTcp, ctaProtoinfoTcpSeqTrack])
      = if exportsTcp env ct flags then [ipCtTcpVgw env ct.tcp] else [] := by
  have hkind : ∀ kids, (nestAttr env.endian ctaProtoinfo kids).kind = ctaProtoinfo := by
    intro kids
    rw [nestAttr_kind]
    decide
  unfold protoinfoAttrs at *
  by_cases h : exportsTcp env ct flags
  · rw [if_pos h, if_pos h, hexp h]
    simp only [List.flatMap_cons, List.flatMap_nil, Attr.payloadsAt, hkind, if_true, List.append_nil]
    exact tcp_payloadsAt env ct
  · rw [if_neg h] at hsize
    rw [if_neg h, if_neg h]
    cases hproto : env.toNlattr (nfCtProtonum ct) with
    | none => rfl
    | some toNlattr =>
      rw [hproto] at hsize
      simp only [attrsSize_cons, attrsSize_nil, nestAttr_len] at hsize
      simp only [List.flatMap_cons, List.flatMap_nil, Attr.payloadsAt, hkind, if_true, List.append_nil]
      exact stock_payloadsAt hstock hproto ct destroy (by omega)

theorem exportsTcp_iff (env : NlEnv) (ct : NfConn) (flags : UInt16) :
    exportsTcp env ct flags = true ↔ flags &&& nlmFDumpFiltered ≠ 0 ∧
      isEnableExportTcpTrack env.tcptrackFlags = true ∧ nfCtProtonum ct = ipprotoTcp := by
  simp [exportsTcp, and_assoc]

/-- The dump's flag reaches the writers only from a session with a filter. -/
theorem fillInfoHdr_filtered (portid seq : UInt32) (ct : NfConn) (src : FillSource) :
    (fillInfoHdr portid seq ct src.flags).flags &&& nlmFDumpFiltered ≠ 0 ↔
      ∃ filter, src = .dumpTable (some filter) := by
  unfold fillInfoHdr
  rcases src with (_ | filter) | _ | _ <;> by_cases hport : portid = 0 <;>
    simp [FillSource.flags, hport, nlmFDumpFiltered, nlmFMulti] <;> decide

/-- **A message carries the sequence record** exactly when it is made for a dump with a filter. -/
theorem fillInfo_seqTrack {c : FillCall} (hstock : c.env.StockCallbacks) {b : Buf} {msg : Bytes}
    (hmsg : c.message b = some msg) :
    seqTrackPayloads c.env.endian msg =
      if ¬ c.ct.testStatus ipsOffloadBit ∧ exportsTcp c.env c.ct c.hdr.flags then
        [ipCtTcpVgw c.env c.ct.tcp]
      else [] := by
  rw [FillCall.message_eq, Option.map_eq_some_iff] at hmsg
  obtain ⟨l, hl, rfl⟩ := hmsg
  have hsize := FillCall.attrs_lt hl
  have hl' := hl
  unfold FillCall.attrs at hl'
  split at hl'
  swap
  · cases hl'
  obtain ⟨mid, post, rfl, hmid, hpost⟩ := fillInfoOut_layout c.env hl'
  rw [seqTrackPayloads, drop_nlMsgBytes, payloadsAt_attrsBytes _ _ _ hsize]
  have horig : (origAttr c.env c.ct).payloadsAt c.env.endian ctaProtoinfo
      [ctaProtoinfoTcp, ctaProtoinfoTcpSeqTrack] = [] := by
    have hkind : (origAttr c.env c.ct).kind ≠ ctaProtoinfo := by
      show (ctaTupleOrig ||| nestedFlag) &&& typeMask ≠ ctaProtoinfo
      decide
    rw [Attr.payloadsAt, if_neg hkind]
  have hmid' : mid.flatMap (Attr.payloadsAt c.env.endian ctaProtoinfo
      [ctaProtoinfoTcp, ctaProtoinfoTcpSeqTrack]) = [] :=
    flatMap_payloadsAt_nil fun a ha heq => absurd (heq ▸ hmid a ha) (by decide)
  have hpost' : post.flatMap (Attr.payloadsAt c.env.endian ctaProtoinfo
      [ctaProtoinfoTcp, ctaProtoinfoTcpSeqTrack]) = [] :=
    flatMap_payloadsAt_nil fun a ha heq => absurd (heq ▸ hpost a ha) (by decide)
  simp only [List.flatMap_cons, List.flatMap_append, horig, hmid', hpost', List.nil_append,
    List.append_nil]
  simp only [attrsSize_cons, attrsSize_append] at hsize
  unfold protoinfoPart at *
  by_cases hoff : c.ct.testStatus ipsOffloadBit
  · rw [if_pos hoff, if_neg (fun h => h.1 hoff)]
    rfl
  · rw [if_neg hoff] at hsize ⊢
    rw [protoinfo_payloadsAt hstock c.ct false c.hdr.flags (fun _ => rfl) (by omega)]
    simp [hoff]

/-! ### Events -/

/-- What an attribute of an event is: protocol information as `ctnetlink_dump_protoinfo` writes it without
the dump's flag, or something else. -/
def EventAttr (env : NlEnv) (ct : NfConn) (a : Attr) : Prop :=
  a.kind ≠ ctaProtoinfo ∨ ∃ destroy, a ∈ protoinfoAttrs env ct destroy 0

theorem EventAttr.of_mid {ct : NfConn} {l : List Attr} (h : Kinds midKinds l) :
    ∀ a ∈ l, EventAttr env ct a := fun a ha => .inl fun heq => absurd (heq ▸ h a ha) (by decide)

theorem EventAttr.of_ext {ct : NfConn} {l : List Attr} (h : Kinds extKinds l) :
    ∀ a ∈ l, EventAttr env ct a := fun a ha => .inl fun heq => absurd (heq ▸ h a ha) (by decide)

theorem EventAttr.of_identity (ct : NfConn) : ∀ a ∈ identityAttrs env ct, EventAttr env ct a := by
  have horig : EventAttr env ct (nestAttr env.endian ctaTupleOrig
      (tupleAttrs env ct.tupleOrig ++ zoneAttrs ctaTupleZone ct.zone nfCtZoneDirOrig)) :=
    .inl (by rw [nestAttr_kind]; decide)
  have hreply : EventAttr env ct (nestAttr env.endian ctaTupleReply
      (tupleAttrs env ct.tupleReply ++ zoneAttrs ctaTupleZone ct.zone nfCtZoneDirRepl)) :=
    .inl (by rw [nestAttr_kind]; decide)
  intro a ha
  simp only [identityAttrs, List.mem_append, List.mem_singleton] at ha
  rcases ha with rfl | rfl | ha
  · exact horig
  · exact hreply
  · exact EventAttr.of_mid env ((kinds_zoneAttrs ct.zone nfCtDefaultZoneDir).of_mem (by decide)) a ha

/-- The parts of a destroy event. -/
def destroyOut (ct : NfConn) : Out :=
  seqOut (fixedOut (timeoutAttrs env ct true)) (seqOut (fixedOut (acctAttrs env ct.acct))
    (seqOut (fixedOut (timestampAttrs env ct)) (fixedOut (protoinfoAttrs env ct true 0))))

/-- A part that an event has or not. -/
def whenOut (b : Bool) (o : Out) : Out := if b then o else fixedOut []

/-- The parts of any other event. -/
def updateOut (events : UInt32) (ct : NfConn) : Out :=
  seqOut (fixedOut (timeoutAttrs env ct false))
    (seqOut (whenOut (hasEvent events ipctProtoinfo) (fixedOut (protoinfoAttrs env ct false 0)))
    (seqOut (whenOut (hasEvent events ipctHelper || ct.help.isSome) (helpOut env ct))
    (seqOut (whenOut (hasEvent events ipctSecmark || ct.secmark ≠ 0) (fixedOut (secctxAttrs env ct)))
    (seqOut (whenOut (hasEvent events ipctLabel) (fixedOut (labelsAttrs env ct)))
    (seqOut (whenOut (hasEvent events ipctRelated) (fixedOut (masterAttrs env ct)))
    (seqOut (whenOut (hasEvent events ipctSeqadj) (fixedOut (ctSeqAdjAttrs env ct)))
      (whenOut (hasEvent events ipctSynproxy) (fixedOut (ctSynproxyAttrs env ct)))))))))

/-- The attributes of an event. -/
def eventOut (events : UInt32) (p : CtPtr) (ct : NfConn) : Out :=
  seqOut (fixedOut (identityAttrs env ct))
    (seqOut (fixedOut [⟨ctaId, put32 env.endian (env.nfCtGetId p)⟩])
    (seqOut (fixedOut [nlaBe32 ctaStatus ct.status])
    (seqOut (if hasEvent events ipctDestroy then destroyOut env ct else updateOut env events ct)
      (fixedOut (markAttrs ct (hasEvent events ipctMark))))))

theorem Emits.whenEvent {f : NlWriter} {o : Out} (b : Bool) (hf : Emits env.endian f o) :
    Emits env.endian (whenEvent b f) (whenOut b o) := by
  cases b with
  | false => exact Emits.pure
  | true => exact hf

/-- **The attributes of an event.** -/
theorem emitsFrom_eventBody (events : UInt32) (p : CtPtr) (ct : NfConn) (type : UInt8) :
    ∃ s' fail, EmitsFrom env.endian (conntrackEventBody env events p ct type) ct.acct
      (eventOut env events p ct) s' fail := by
  have hbranch : ∃ s' fail, EmitsFrom env.endian
      (if hasEvent events ipctDestroy then do
        ctnetlinkDumpTimeout env ct true
        ctnetlinkDumpAcct env type
        ctnetlinkDumpTimestamp env ct
        ctnetlinkDumpProtoinfo env ct true 0
      else do
        ctnetlinkDumpTimeout env ct false
        whenEvent (hasEvent events ipctProtoinfo) (ctnetlinkDumpProtoinfo env ct false 0)
        whenEvent (hasEvent events ipctHelper || ct.help.isSome) (ctnetlinkDumpHelpinfo env ct)
        whenEvent (hasEvent events ipctSecmark || ct.secmark ≠ 0) (ctnetlinkDumpSecctx env ct)
        whenEvent (hasEvent events ipctLabel) (ctnetlinkDumpLabels env ct)
        whenEvent (hasEvent events ipctRelated) (ctnetlinkDumpMaster env ct)
        whenEvent (hasEvent events ipctSeqadj) (ctnetlinkDumpCtSeqAdj env ct)
        whenEvent (hasEvent events ipctSynproxy) (ctnetlinkDumpCtSynproxy env ct)) ct.acct
      (if hasEvent events ipctDestroy then destroyOut env ct else updateOut env events ct) s' fail := by
    split
    · exact ⟨_, _, (emits_dumpTimeout env ct true _).bind ((emitsFrom_dumpAcct env type _).bind
        ((emits_dumpTimestamp env ct _).bind (emits_dumpProtoinfo env ct true 0 _)))⟩
    · have hemits := (emits_dumpTimeout env ct false).bind
        ((Emits.whenEvent env (hasEvent events ipctProtoinfo) (emits_dumpProtoinfo env ct false 0)).bind
        ((Emits.whenEvent env (hasEvent events ipctHelper || ct.help.isSome)
          (emits_dumpHelpinfo env ct)).bind
        ((Emits.whenEvent env (hasEvent events ipctSecmark || ct.secmark ≠ 0)
          (emits_dumpSecctx env ct)).bind
        ((Emits.whenEvent env (hasEvent events ipctLabel) (emits_dumpLabels env ct)).bind
        ((Emits.whenEvent env (hasEvent events ipctRelated) (emits_dumpMaster env ct)).bind
        ((Emits.whenEvent env (hasEvent events ipctSeqadj) (emits_dumpCtSeqAdj env ct)).bind
          (Emits.whenEvent env (hasEvent events ipctSynproxy) (emits_dumpCtSynproxy env ct))))))))
      exact ⟨_, _, hemits _⟩
  obtain ⟨s', fail, hemits⟩ := hbranch
  exact ⟨_, _, (emits_dumpIdentity env ct _).bind ((Emits.putAttr (-1) _ _).bind
    ((Emits.putAttr (-1) _ _).bind (hemits.bind (emits_dumpMark env ct _ _))))⟩

/-- What the attributes of an event are. -/
theorem eventOut_all (events : UInt32) (p : CtPtr) (ct : NfConn) :
    Out.All (EventAttr env ct) (eventOut env events p ct) := by
  have hmid : ∀ {l}, Kinds midKinds l → Out.All (EventAttr env ct) (fixedOut l) :=
    fun h => Out.All.fixed (EventAttr.of_mid env h)
  have hinfo : ∀ {t l}, t ∈ infoKinds → Kinds [t] l → Out.All (EventAttr env ct) (fixedOut l) :=
    fun ht h => hmid (h.of_mem (infoKinds_subset ht))
  have hext : ∀ {l}, Kinds extKinds l → Out.All (EventAttr env ct) (fixedOut l) :=
    fun h => Out.All.fixed (EventAttr.of_ext env h)
  have hproto : ∀ destroy, Out.All (EventAttr env ct) (fixedOut (protoinfoAttrs env ct destroy 0)) :=
    fun destroy => Out.All.fixed fun a ha => .inr ⟨destroy, ha⟩
  have hhelp : Out.All (EventAttr env ct) (helpOut env ct) := fun room l hl =>
    EventAttr.of_ext env (kinds_helpOut env ct room l hl)
  have hwhen : ∀ (b : Bool) {o : Out}, Out.All (EventAttr env ct) o →
      Out.All (EventAttr env ct) (whenOut b o) := by
    intro b o ho
    cases b with
    | true => exact ho
    | false => exact hmid (Kinds.nil _)
  have hstatus : Out.All (EventAttr env ct) (fixedOut [nlaBe32 ctaStatus ct.status]) :=
    hmid (Kinds.single (by rw [nlaBe32_kind]; decide))
  have hbranch : Out.All (EventAttr env ct)
      (if hasEvent events ipctDestroy then destroyOut env ct else updateOut env events ct) := by
    split
    · exact (hinfo (by decide) (kinds_timeoutAttrs env ct true)).seq ((hext (kinds_acctAttrs env _)).seq
        ((hext (kinds_timestampAttrs env ct)).seq (hproto true)))
    · exact (hinfo (by decide) (kinds_timeoutAttrs env ct false)).seq ((hwhen _ (hproto false)).seq
        ((hwhen _ hhelp).seq ((hwhen _ (hinfo (by decide) (kinds_secctxAttrs env ct))).seq
        ((hwhen _ (hext (kinds_labelsAttrs env ct))).seq
        ((hwhen _ (hinfo (by decide) (kinds_masterAttrs env ct))).seq
        ((hwhen _ (hext (kinds_ctSeqAdjAttrs env ct))).seq
          (hwhen _ (hext (kinds_ctSynproxyAttrs env ct)))))))))
  exact (Out.All.fixed (EventAttr.of_identity env ct)).seq ((hinfo (by decide) (kinds_idAttr env p)).seq
    (hstatus.seq (hbranch.seq (hinfo (by decide) (kinds_markAttrs ct _)))))

/-- An attribute of an event contributes no sequence record. -/
theorem EventAttr.payloadsAt {env : NlEnv} (hstock : env.StockCallbacks) {ct : NfConn} {a : Attr}
    (ha : EventAttr env ct a) (hsize : align4 a.len < 65536) :
    a.payloadsAt env.endian ctaProtoinfo [ctaProtoinfoTcp, ctaProtoinfoTcpSeqTrack] = [] := by
  rcases ha with hkind | ⟨destroy, ha⟩
  · rw [Attr.payloadsAt, if_neg hkind]
  have hnoexp : exportsTcp env ct 0 = false := by simp [exportsTcp]
  have hone : ∀ x ∈ protoinfoAttrs env ct destroy 0, protoinfoAttrs env ct destroy 0 = [x] := by
    unfold protoinfoAttrs
    rw [hnoexp]
    intro x hx
    cases hproto : env.toNlattr (nfCtProtonum ct) with
    | none => simp [hproto] at hx
    | some toNlattr => simp_all
  have hlist := hone a ha
  have hnil := protoinfo_payloadsAt hstock ct destroy 0 (by simp [hnoexp])
    (by rw [hlist]; simpa using hsize)
  rw [hlist, hnoexp] at hnil
  simpa using hnil

/-- **An event never carries the sequence record.** -/
theorem event_seqTrack {env : NlEnv} (hstock : env.StockCallbacks) {events portid : UInt32} {p : CtPtr}
    {ct : NfConn} {b : Buf} {msg : Bytes} (hmsg : eventMessage env events portid p ct b = some msg) :
    seqTrackPayloads env.endian msg = [] := by
  unfold eventMessage ctnetlinkConntrackEvent at hmsg
  cases htype : eventType events with
  | none => simp [htype] at hmsg
  | some r =>
    obtain ⟨type, flags⟩ := r
    obtain ⟨s', fail, hemits⟩ := emitsFrom_eventBody env events p ct type
    have hspec := @emits_nlMsg _ _ ⟨nfnlMsgType nfnlSubsysCtnetlink type, flags, 0, portid,
      (nfCtL3num ct).toUInt8, 0, 0⟩ _ _ _ _ _ hemits b
    simp only [htype] at hmsg
    by_cases hroom : nlMsgHdrLen ≤ b.room
    · cases hout : eventOut env events p ct (b.room - nlMsgHdrLen) with
      | none =>
        rw [hspec.2.1 hroom hout] at hmsg
        simp at hmsg
      | some l =>
        obtain ⟨b', hrun, happ⟩ := hspec.1 l hroom hout
        rw [hrun] at hmsg
        have hnat : ¬ ((b'.data.length : ℤ) < 0) := by omega
        simp only [hnat, if_false, Option.map_some, Option.some.injEq] at hmsg
        rw [happ.1, List.drop_left] at hmsg
        subst hmsg
        have hsize : attrsSize l < 65536 := by
          have hle := happ.length_le
          have hcap := b.cap_lt
          rw [length_nlMsgBytes] at hle
          unfold Buf.room at hle
          omega
        rw [seqTrackPayloads, drop_nlMsgBytes, payloadsAt_attrsBytes _ _ _ hsize,
          List.flatMap_eq_nil_iff]
        intro a ha
        have hle := align4_le_attrsSize ha
        exact EventAttr.payloadsAt hstock (eventOut_all env events p ct _ l hout a ha) (by omega)
    · rw [hspec.2.2 (by omega)] at hmsg
      simp at hmsg

/-! ### The export, end to end -/

/-- **The sequence record is exported** by a message of `ctnetlink_fill_info` if and only if the message
belongs to a dump with a filter, the export flag is set, and the conntrack is TCP and not offloaded; the
CLI decodes each record exported to the conntrack's own values; and no event carries one. -/
theorem seqTrack_exported_iff {env : NlEnv} (hstock : env.StockCallbacks) (p : CtPtr) (ct : NfConn)
    (b : Buf) :
    (∀ (src : FillSource) (portid seq : UInt32) (type : UInt8) (msg : Bytes),
      (src.call env portid seq type p ct).message b = some msg →
        (seqTrackPayloads env.endian msg ≠ [] ↔
          (∃ filter, src = .dumpTable (some filter)) ∧
            isEnableExportTcpTrack env.tcptrackFlags = true ∧ nfCtProtonum ct = ipprotoTcp ∧
            ¬ ct.testStatus ipsOffloadBit) ∧
        ∀ data ∈ seqTrackPayloads env.endian msg, data.length = 64 ∧
          ProtoInfoTcpSeqTrack.unmarshal env.endian data = .ok ct.tcp.seqTrack) ∧
      ∀ (events portid : UInt32) (msg : Bytes), eventMessage env events portid p ct b = some msg →
        seqTrackPayloads env.endian msg = [] := by
  refine ⟨fun src portid seq type msg hmsg => ?_, fun events portid msg hmsg => event_seqTrack hstock hmsg⟩
  have hpayloads := fillInfo_seqTrack hstock hmsg
  have hfiltered := fillInfoHdr_filtered portid seq ct src
  have hexp := exportsTcp_iff env ct (fillInfoHdr portid seq ct src.flags).flags
  rw [hfiltered] at hexp
  have hiff : (¬ ct.testStatus ipsOffloadBit ∧
      exportsTcp env ct (fillInfoHdr portid seq ct src.flags).flags) ↔
        (∃ filter, src = .dumpTable (some filter)) ∧
          isEnableExportTcpTrack env.tcptrackFlags = true ∧ nfCtProtonum ct = ipprotoTcp ∧
          ¬ ct.testStatus ipsOffloadBit := by
    rw [hexp]
    tauto
  have hlist : seqTrackPayloads env.endian msg =
      if ¬ ct.testStatus ipsOffloadBit ∧
        exportsTcp env ct (fillInfoHdr portid seq ct src.flags).flags then [ipCtTcpVgw env ct.tcp]
      else [] := hpayloads
  by_cases hyes : ¬ ct.testStatus ipsOffloadBit ∧
      exportsTcp env ct (fillInfoHdr portid seq ct src.flags).flags
  · rw [hlist, if_pos hyes]
    refine ⟨iff_of_true (List.cons_ne_nil _ _) (hiff.mp hyes), fun data hdata => ?_⟩
    rw [List.mem_singleton.mp hdata]
    exact ⟨length_ipCtTcpVgw env ct.tcp, seqTrack_unmarshal env ct.tcp⟩
  · rw [hlist, if_neg hyes]
    exact ⟨iff_of_false (fun h => h rfl) fun h => hyes (hiff.mpr h), fun data hdata => by cases hdata⟩

/-- A little-endian host with the kernel's own TCP callbacks and every flag of the module set. -/
def sampleNlEnv : NlEnv where
  endian := .little
  tcptrackFlags := 0x07
  nfctTimeStamp := 0
  hz := 1000
  tupleToNlattr := fun _ => some fun t =>
    [nlaBe16 ctaProtoSrcPort t.src.u, nlaBe16 ctaProtoDstPort t.dst.u]
  toNlattr := fun proto =>
    if proto = ipprotoTcp then
      some fun ct destroy =>
        [nestAttr .little ctaProtoinfoTcp
          (nlaU8 ctaProtoinfoTcpState ct.tcp.state.code :: if destroy then [] else (tcpStockAttrs ct).drop 1)]
    else none
  secidToSecctx := fun _ => none
  nfCtGetId := fun _ => 77

/-! Two sizes of buffers. -/

theorem page_lt : 4096 < 65536 := by decide
theorem narrow_lt : 300 < 65536 := by decide
theorem narrows_lt : ∀ _ : ℕ, 300 < 65536 := fun _ => narrow_lt

theorem sampleNlEnv_stock : sampleNlEnv.StockCallbacks := by
  intro proto toNlattr hproto ct destroy a ha _
  by_cases hp : proto = ipprotoTcp
  · simp only [sampleNlEnv, hp, if_true, Option.some.injEq] at hproto
    subst hproto
    rw [List.mem_singleton.mp ha]
    refine ⟨_, rfl, fun k hk => ?_⟩
    have hmem : k ∈ tcpStockAttrs ct := by
      rcases List.mem_cons.mp hk with rfl | hk
      · exact List.mem_cons_self
      · cases destroy with
        | true => cases hk
        | false => exact List.mem_of_mem_drop hk
    have hstock : [ctaProtoinfoTcpState, ctaProtoinfoTcpWscaleOriginal, ctaProtoinfoTcpWscaleReply,
        ctaProtoinfoTcpFlagsOriginal, ctaProtoinfoTcpFlagsReply].all
        (fun t => t ≤ ctaProtoinfoTcpFlagsReply) = true := by decide
    exact of_decide_eq_true (List.all_eq_true.mp hstock _ (kinds_tcpStockAttrs ct k hmem))
  · have hnone : sampleNlEnv.toNlattr proto = none := if_neg hp
    rw [hnone] at hproto
    cases hproto

/-- A dump of zone 100 exports the record of an established connection, and the CLI reads it. -/
theorem seqTrack_exported_sample :
    ∃ msg, ((FillSource.dumpTable (some (zoneFilter 100))).call sampleNlEnv 1 1 ipctnlMsgCtGet 0
        (sampleConn (sampleTcp .established 1000 2000 1003))).message
          (Buf.empty 4096 (by decide)) = some msg ∧
      seqTrackPayloads sampleNlEnv.endian msg ≠ [] ∧
      ∀ data ∈ seqTrackPayloads sampleNlEnv.endian msg, data.length = 64 ∧
        ProtoInfoTcpSeqTrack.unmarshal sampleNlEnv.endian data
          = .ok (sampleTcp .established 1000 2000 1003).seqTrack := by
  have hfits : ((FillSource.dumpTable (some (zoneFilter 100))).call sampleNlEnv 1 1 ipctnlMsgCtGet 0
      (sampleConn (sampleTcp .established 1000 2000 1003))).attrs 4096 |>.isSome := by decide +kernel
  obtain ⟨l, hl⟩ := Option.isSome_iff_exists.mp hfits
  have hmsg := FillCall.message_eq ((FillSource.dumpTable (some (zoneFilter 100))).call sampleNlEnv 1 1
    ipctnlMsgCtGet 0 (sampleConn (sampleTcp .established 1000 2000 1003))) (Buf.empty 4096 (by decide))
  rw [Buf.empty_room, hl] at hmsg
  have h := (seqTrack_exported_iff sampleNlEnv_stock 0
    (sampleConn (sampleTcp .established 1000 2000 1003)) (Buf.empty 4096 (by decide))).1 _ _ _ _ _ hmsg
  exact ⟨_, hmsg, h.1.mpr ⟨⟨_, rfl⟩, by decide, by decide, by decide⟩, h.2⟩

end VgwDriver
