import VgwDriver.Netlink.Export

/-!
# Reading a conntrack back

What the CLI's decoder makes of a message of `ctnetlink_fill_info`.  The results are of the form "if the
message decodes, the flow says …": a message can fail to decode because of attributes that are not looked at
here, and then there is no flow.

* `Flow.unmarshalAttr_keeps` — which attribute of a message sets which field of the flow;
* `flow_tupleOrig`, `flow_protoInfo` — **the original tuple and the sequence record read back** are the
  conntrack's own, and `flow_id` the identifier.
-/

namespace VgwDriver

open Base

/-! ### Which attribute sets which field -/

/-- None of the types is one of the CLI's enumeration value `t`. -/
theorem Kinds.enum_ne {s : List UInt16} {l : List Attr} (h : Kinds s l) {t : UInt16}
    (ht : (s.all fun k => k &&& 0xff ≠ t) = true) : ∀ a ∈ l, a.enum ≠ t := by
  intro a ha
  exact of_decide_eq_true (List.all_eq_true.mp ht a.kind (h a ha))

theorem Flow.intoNested_ok {α : Type} {e : Endian} {a : Attr} {fn : AttributeDecoder → Decode α}
    {set : α → Flow} {f : Flow} (h : intoNested e a fn set = .ok f) :
    ∃ x, nested e a fn = .ok x ∧ f = set x := by
  unfold intoNested at h
  split at h
  · cases h
  · obtain ⟨x, hx, hf⟩ := bind_eq_ok h
    cases hf
    exact ⟨x, hx, rfl⟩

/-- A step at the attribute `a` sets the original tuple and the protocol information of `f` only if `a` is of
their type. -/
def Flow.Keeps (f : Flow) (a : Attr) (x : Decode Flow) : Prop :=
  ∀ f', x = .ok f' →
    (a.enum ≠ ctaTupleOrig → f'.tupleOrig = f.tupleOrig) ∧
      (a.enum ≠ ctaProtoinfo → f'.protoInfo = f.protoInfo)

section Keeps

variable {f : Flow} {a : Attr}

theorem Flow.Keeps.ite {c : Prop} [Decidable c] {x y : Decode Flow} (hx : c → f.Keeps a x)
    (hy : f.Keeps a y) : f.Keeps a (if c then x else y) := by
  by_cases hc : c
  · rw [if_pos hc]
    exact hx hc
  · rw [if_neg hc]
    exact hy

theorem Flow.Keeps.ok (f : Flow) (a : Attr) : f.Keeps a (.ok f) := by
  intro f' h
  cases h
  exact ⟨fun _ => rfl, fun _ => rfl⟩

/-- A step that sets another field. -/
theorem Flow.Keeps.other {α : Type} {x : Decode α} {set : α → Flow}
    (htuple : ∀ v, (set v).tupleOrig = f.tupleOrig) (hproto : ∀ v, (set v).protoInfo = f.protoInfo) :
    f.Keeps a (x >>= fun v => pure (set v)) := by
  intro f' h
  obtain ⟨v, -, hf⟩ := bind_eq_ok h
  cases hf
  exact ⟨fun _ => htuple v, fun _ => hproto v⟩

theorem Flow.Keeps.nested {α : Type} {e : Endian} {fn : AttributeDecoder → Decode α} {set : α → Flow}
    (htuple : ∀ v, a.enum ≠ ctaTupleOrig → (set v).tupleOrig = f.tupleOrig)
    (hproto : ∀ v, a.enum ≠ ctaProtoinfo → (set v).protoInfo = f.protoInfo) :
    f.Keeps a (intoNested e a fn set) := by
  intro f' h
  obtain ⟨v, -, rfl⟩ := intoNested_ok h
  exact ⟨htuple v, hproto v⟩

theorem Flow.unmarshalNested_keeps (e : Endian) (f : Flow) (a : Attr) :
    f.Keeps a (f.unmarshalNested e a) := by
  have hother : ∀ {α : Type} {fn : AttributeDecoder → Decode α} {set : α → Flow},
      (∀ v, (set v).tupleOrig = f.tupleOrig) → (∀ v, (set v).protoInfo = f.protoInfo) →
        f.Keeps a (intoNested e a fn set) :=
    fun ht hp => .nested (fun v _ => ht v) fun v _ => hp v
  unfold unmarshalNested
  refine .ite (fun ha => .nested (fun _ hne => absurd ha hne) fun _ _ => rfl) ?_
  iterate 2 refine .ite (fun _ => hother (fun _ => rfl) fun _ => rfl) ?_
  refine .ite (fun ha => .nested (fun _ _ => rfl) fun _ hne => absurd ha hne) ?_
  iterate 8 refine .ite (fun _ => hother (fun _ => rfl) fun _ => rfl) ?_
  exact .ok f a

/-- The flat attributes set neither field. -/
theorem Flow.unmarshalFlat_keeps {f f' : Flow} {a : Attr} (h : f.unmarshalFlat a = .ok f') :
    f'.tupleOrig = f.tupleOrig ∧ f'.protoInfo = f.protoInfo := by
  unfold unmarshalFlat at h
  repeat' split at h
  all_goals first
    | (obtain ⟨x, -, hf⟩ := bind_eq_ok h
       cases hf
       exact ⟨rfl, rfl⟩)
    | (cases h
       exact ⟨rfl, rfl⟩)

/-- **The original tuple and the protocol information** of a flow change only at their own attributes. -/
theorem Flow.unmarshalAttr_keeps (e : Endian) (f : Flow) (a : Attr) :
    f.Keeps a (f.unmarshalAttr e a) := by
  intro f' h
  obtain ⟨g, hnested, hflat⟩ := bind_eq_ok h
  obtain ⟨htuple, hproto⟩ := unmarshalNested_keeps e f a g hnested
  obtain ⟨htuple', hproto'⟩ := unmarshalFlat_keeps hflat
  exact ⟨fun hne => htuple'.trans (htuple hne), fun hne => hproto'.trans (hproto hne)⟩

end Keeps

/-- At `CTA_TUPLE_ORIG` the tuple is decoded from the attribute. -/
theorem Flow.unmarshalAttr_tupleOrig {e : Endian} {f f' : Flow} {a : Attr}
    (h : f.unmarshalAttr e a = .ok f') (ha : a.enum = ctaTupleOrig) :
    nested e a (f.tupleOrig.unmarshal e) = .ok f'.tupleOrig := by
  obtain ⟨g, hnested, hflat⟩ := bind_eq_ok h
  unfold unmarshalNested at hnested
  rw [if_pos ha] at hnested
  obtain ⟨x, hx, rfl⟩ := intoNested_ok hnested
  rw [(unmarshalFlat_keeps hflat).1]
  exact hx

/-- At `CTA_PROTOINFO` the protocol information is decoded from the attribute. -/
theorem Flow.unmarshalAttr_protoInfo {e : Endian} {f f' : Flow} {a : Attr}
    (h : f.unmarshalAttr e a = .ok f') (ha : a.enum = ctaProtoinfo) :
    nested e a (f.protoInfo.unmarshal e) = .ok f'.protoInfo := by
  obtain ⟨g, hnested, hflat⟩ := bind_eq_ok h
  unfold unmarshalNested at hnested
  rw [if_neg (by rw [ha]; decide), if_neg (by rw [ha]; decide), if_neg (by rw [ha]; decide),
    if_pos ha] at hnested
  obtain ⟨x, hx, rfl⟩ := intoNested_ok hnested
  rw [(unmarshalFlat_keeps hflat).2]
  exact hx

/-! ### The original tuple -/

/-- The kernel's TCP writes its two ports into a tuple. -/
def NlEnv.PortTuples (env : NlEnv) : Prop :=
  env.tupleToNlattr ipprotoTcp = some fun t =>
    [nlaBe16 ctaProtoSrcPort t.src.u, nlaBe16 ctaProtoDstPort t.dst.u]

/-- An IPv4 TCP conntrack. -/
def NfConn.TcpV4 (ct : NfConn) : Prop :=
  nfCtL3num ct = nfprotoIpv4.toUInt16 ∧ nfCtProtonum ct = ipprotoTcp

/-- The conntrack's original tuple as the decoder presents it. -/
def NfConntrackTuple.ipTuple (t : NfConntrackTuple) : IPTuple :=
  ⟨put32 .big t.src.u3.ip, put32 .big t.dst.u3.ip⟩

def NfConntrackTuple.protoTuple (t : NfConntrackTuple) : ProtoTuple :=
  ⟨ipprotoTcp, t.src.u, t.dst.u, false, false, 0, 0, 0⟩

variable {env : NlEnv}

/-! The children are told apart by their types. -/

theorem nlaU8_enum {type : UInt16} (h : type &&& typeMask &&& 0xff = type) (x : UInt8) :
    (nlaU8 type x).enum = type := h

theorem nlaBe16_enum {type : UInt16} (h : type &&& typeMask &&& 0xff = type) (x : UInt16) :
    (nlaBe16 type x).enum = type := h

theorem nlaBe32_enum {type : UInt16} (h : type &&& typeMask &&& 0xff = type) (x : UInt32) :
    (nlaBe32 type x).enum = type := h

theorem nestAttr_enum {type : UInt16} (h : (type ||| nestedFlag) &&& typeMask &&& 0xff = type)
    (e : Endian) (kids : List Attr) : (nestAttr e type kids).enum = type := h

@[simp] theorem adUint8_nlaU8 (type : UInt16) (x : UInt8) : adUint8 (nlaU8 type x) = .ok x := rfl

@[simp] theorem adUint16_nlaBe16 (type x : UInt16) : adUint16 (nlaBe16 type x) = .ok x := by
  simp [adUint16, nlaBe16]

theorem tupleIpAttrs_v4 {t : NfConntrackTuple} (hv4 : t.src.l3num = nfprotoIpv4.toUInt16) :
    tupleIpAttrs t = [nlaBe32 ctaIpV4Src t.src.u3.ip, nlaBe32 ctaIpV4Dst t.dst.u3.ip] := if_pos hv4

theorem tupleProtoAttrs_tcp (hports : env.PortTuples) {t : NfConntrackTuple}
    (htcp : t.dst.protonum = ipprotoTcp) :
    tupleProtoAttrs env t = [nlaU8 ctaProtoNum ipprotoTcp, nlaBe16 ctaProtoSrcPort t.src.u,
      nlaBe16 ctaProtoDstPort t.dst.u] := by
  unfold tupleProtoAttrs
  rw [htcp, hports]

theorem ipTuple_unmarshal (e : Endian) {t : NfConntrackTuple}
    (hv4 : t.src.l3num = nfprotoIpv4.toUInt16) :
    nested e (nestAttr e ctaTupleIp (tupleIpAttrs t)) IPTuple.unmarshal = .ok t.ipTuple := by
  have hattrs := tupleIpAttrs_v4 hv4
  have hfits : ∀ a ∈ tupleIpAttrs t, a.Fits := fits_of_attrsSize (by rw [hattrs]; simp)
  have haddr : ∀ type x, addrFromSlice (nlaBe32 type x).payload = some (put32 .big x) := by
    intro type x
    simp [addrFromSlice, nlaBe32]
  have hsrc := @nlaBe32_enum ctaIpV4Src (by decide) t.src.u3.ip
  have hdst := @nlaBe32_enum ctaIpV4Dst (by decide) t.dst.u3.ip
  rw [nested_attrsBytes rfl hfits, hattrs]
  simp +decide [IPTuple.unmarshal, haddr, hsrc, hdst]
  rfl

theorem protoTuple_unmarshal (hports : env.PortTuples) {t : NfConntrackTuple}
    (htcp : t.dst.protonum = ipprotoTcp) :
    nested env.endian (nestAttr env.endian ctaTupleProto (tupleProtoAttrs env t)) ProtoTuple.unmarshal
      = .ok t.protoTuple := by
  have hattrs := tupleProtoAttrs_tcp hports htcp
  have hfits : ∀ a ∈ tupleProtoAttrs env t, a.Fits := fits_of_attrsSize (by rw [hattrs]; simp)
  have hsrc := @nlaBe16_enum ctaProtoSrcPort (by decide) t.src.u
  have hdst := @nlaBe16_enum ctaProtoDstPort (by decide) t.dst.u
  rw [nested_attrsBytes rfl hfits, hattrs]
  simp +decide [ProtoTuple.unmarshal, ProtoTuple.unmarshalAttr, hsrc, hdst]
  rfl

/-- **The original tuple decodes** to the conntrack's own addresses and ports. -/
theorem tuple_unmarshal (hports : env.PortTuples) {ct : NfConn} (hct : ct.TcpV4) :
    ∃ z, nested env.endian (origAttr env ct) (Tuple.zero.unmarshal env.endian)
      = .ok ⟨ct.tupleOrig.ipTuple, ct.tupleOrig.protoTuple, z⟩ := by
  obtain ⟨hv4, htcp⟩ := hct
  have hip := ipTuple_unmarshal env.endian hv4
  have hproto := protoTuple_unmarshal hports htcp
  have hipEnum := @nestAttr_enum ctaTupleIp (by decide) env.endian (tupleIpAttrs ct.tupleOrig)
  have hprotoEnum := @nestAttr_enum ctaTupleProto (by decide) env.endian
    (tupleProtoAttrs env ct.tupleOrig)
  have hsize : attrsSize (tupleAttrs env ct.tupleOrig) = 48 := by
    simp only [tupleAttrs, attrsSize_cons, attrsSize_nil, nestAttr_len, tupleIpAttrs_v4 hv4,
      tupleProtoAttrs_tcp hports htcp, nlaBe32_len, nlaBe16_len, nlaU8_len, attrHdrLen]
  have hfits : ∀ a ∈ tupleAttrs env ct.tupleOrig ++ zoneAttrs ctaTupleZone ct.zone nfCtZoneDirOrig,
      a.Fits := by
    refine fits_of_attrsSize ?_
    rw [attrsSize_append, hsize]
    unfold zoneAttrs
    split <;> simp
  rw [origAttr, nested_attrsBytes rfl hfits]
  unfold Tuple.unmarshal zoneAttrs
  rw [if_neg (by simp [tupleAttrs])]
  split
  · refine ⟨0, ?_⟩
    simp +decide [tupleAttrs, Tuple.unmarshalAttr, hipEnum, hprotoEnum, hip, hproto]
    rfl
  · have hzone := @nlaBe16_enum ctaTupleZone (by decide) ct.zone.id
    refine ⟨ct.zone.id, ?_⟩
    simp +decide [tupleAttrs, Tuple.unmarshalAttr, hipEnum, hprotoEnum, hip, hproto, hzone]
    rfl

/-! ### The sequence record -/

theorem nlaTcpFlags_enum {type : UInt16} (h : type &&& typeMask &&& 0xff = type) (x : UInt8) :
    (nlaTcpFlags type x).enum = type := h

@[simp] theorem adUint16_nlaTcpFlags (type : UInt16) (x : UInt8) :
    adUint16 (nlaTcpFlags type x) = .ok (get16 .big [x, 0]) := rfl

theorem protoInfoTCP_unmarshal (ct : NfConn) :
    ∃ tcp, nested env.endian (nestAttr env.endian ctaProtoinfoTcp (tcpAttrs env ct false))
        (ProtoInfoTCP.unmarshal env.endian) = .ok tcp ∧ tcp.seqTrack = some ct.tcp.seqTrack := by
  have hfits : ∀ a ∈ tcpAttrs env ct false, a.Fits :=
    fits_of_attrsSize (by rw [attrsSize_tcpAttrs]; decide)
  have hstate := @nlaU8_enum ctaProtoinfoTcpState (by decide) ct.tcp.state.code
  have hwscale := @nlaU8_enum ctaProtoinfoTcpWscaleOriginal (by decide) ct.tcp.seen0.tdScale
  have hwscale' := @nlaU8_enum ctaProtoinfoTcpWscaleReply (by decide) ct.tcp.seen1.tdScale
  have hflags := @nlaTcpFlags_enum ctaProtoinfoTcpFlagsOriginal (by decide) ct.tcp.seen0.flags
  have hflags' := @nlaTcpFlags_enum ctaProtoinfoTcpFlagsReply (by decide) ct.tcp.seen1.flags
  have hrec : (seqTrackAttr env ct).enum = ctaProtoinfoTcpSeqTrack := by
    show (seqTrackAttr env ct).kind &&& 0xff = ctaProtoinfoTcpSeqTrack
    rw [seqTrackAttr_kind]
    decide
  have hdecode : ProtoInfoTcpSeqTrack.unmarshal env.endian (seqTrackAttr env ct).payload
      = .ok ct.tcp.seqTrack := seqTrack_unmarshal env ct.tcp
  refine ⟨⟨ct.tcp.state.code, ct.tcp.seen0.tdScale, ct.tcp.seen1.tdScale,
    get16 .big [ct.tcp.seen0.flags, 0], get16 .big [ct.tcp.seen1.flags, 0], some ct.tcp.seqTrack⟩, ?_, rfl⟩
  rw [nested_attrsBytes rfl hfits, tcpAttrs_eq, tcpStockAttrs]
  simp +decide [ProtoInfoTCP.unmarshal, ProtoInfoTCP.unmarshalAttr, hstate, hwscale, hwscale', hflags,
    hflags', hrec, hdecode]
  rfl

/-- **The exported protocol information decodes** to the conntrack's own sequence record. -/
theorem protoInfo_unmarshal (ct : NfConn) :
    ∃ tcp, nested env.endian (nestAttr env.endian ctaProtoinfo
        [nestAttr env.endian ctaProtoinfoTcp (tcpAttrs env ct false)])
        (Flow.zero.protoInfo.unmarshal env.endian) = .ok ⟨some tcp, none, none⟩ ∧
      tcp.seqTrack = some ct.tcp.seqTrack := by
  obtain ⟨tcp, htcp, hseq⟩ := @protoInfoTCP_unmarshal env ct
  have hsize := attrsSize_tcpAttrs env ct
  have hfits : ∀ a ∈ [nestAttr env.endian ctaProtoinfoTcp (tcpAttrs env ct false)], a.Fits :=
    fits_of_attrsSize (by simp [nestAttr_len, hsize, attrHdrLen])
  have henum := @nestAttr_enum ctaProtoinfoTcp (by decide) env.endian (tcpAttrs env ct false)
  refine ⟨tcp, ?_, hseq⟩
  rw [nested_attrsBytes rfl hfits]
  unfold ProtoInfo.unmarshal
  simp [Flow.zero, ProtoInfo.filled, henum, htcp]

/-! ### Whole messages -/

/-- A message that decodes is decoded from its attributes. -/
theorem unmarshalFlow_message {e : Endian} {hdr : NlMsgHdr} {l : List Attr} (hsize : attrsSize l < 65536)
    {flow : Flow} (h : unmarshalFlow e (nlMsgBytes e hdr l) = .ok flow) :
    l.foldlM (Flow.unmarshalAttr e) Flow.zero = .ok flow := by
  have hdrop : ((nlMsgBytes e hdr l).drop nlmsgHeaderLen).drop nfHeaderLen = attrsBytes e l := by
    rw [List.drop_drop]
    exact drop_nlMsgBytes e hdr l
  unfold unmarshalFlow at h
  dsimp only at h
  split at h
  · cases h
  · rw [hdrop, newAttributeDecoder_attrsBytes e (fits_of_attrsSize hsize)] at h
    obtain ⟨ad, had, hflow⟩ := bind_eq_ok h
    cases had
    rw [Flow.unmarshal, eachAttr_mk] at hflow
    exact hflow

/-- The attributes a call's message consists of, and that they decode to the flow. -/
theorem message_decodes {c : FillCall} {b : Buf} {msg : Bytes} (hmsg : c.message b = some msg) {flow : Flow}
    (h : unmarshalFlow c.env.endian msg = .ok flow) :
    ∃ mid post, (origAttr c.env c.ct :: (mid ++ (protoinfoPart c.env c.ct c.hdr.flags ++ post))).foldlM
        (Flow.unmarshalAttr c.env.endian) Flow.zero = .ok flow ∧
      Kinds midKinds mid ∧ Kinds extKinds post := by
  rw [FillCall.message_eq, Option.map_eq_some_iff] at hmsg
  obtain ⟨l, hl, rfl⟩ := hmsg
  have hfold := unmarshalFlow_message (FillCall.attrs_lt hl) h
  unfold FillCall.attrs at hl
  split at hl
  · obtain ⟨mid, post, rfl, hmid, hpost⟩ := fillInfoOut_layout c.env hl
    exact ⟨mid, post, hfold, hmid, hpost⟩
  · cases hl

/-- **The original tuple read back** is the conntrack's own. -/
theorem flow_tupleOrig {c : FillCall} (hports : c.env.PortTuples) (hct : c.ct.TcpV4) {b : Buf} {msg : Bytes}
    (hmsg : c.message b = some msg) {flow : Flow} (h : unmarshalFlow c.env.endian msg = .ok flow) :
    flow.tupleOrig.ip = c.ct.tupleOrig.ipTuple ∧ flow.tupleOrig.proto = c.ct.tupleOrig.protoTuple := by
  obtain ⟨mid, post, hfold, hmid, hpost⟩ := message_decodes hmsg h
  have hrest : ∀ x ∈ mid ++ (protoinfoPart c.env c.ct c.hdr.flags ++ post), ∀ s s',
      Flow.unmarshalAttr c.env.endian s x = .ok s' → s'.tupleOrig = s.tupleOrig := by
    intro x hx s s' hs
    refine (Flow.unmarshalAttr_keeps c.env.endian s x s' hs).1 ?_
    rcases List.mem_append.mp hx with hx | hx
    · exact hmid.enum_ne (by decide) x hx
    rcases List.mem_append.mp hx with hx | hx
    · exact (kinds_protoinfoPart c.env c.ct c.hdr.flags).enum_ne (by decide) x hx
    · exact hpost.enum_ne (by decide) x hx
  obtain ⟨t, t', ht, hstep, ht'⟩ := @foldlM_sets _ _ _ Flow.tupleOrig [] _ _ (by simp) hrest _ _ hfold
  obtain ⟨z, hz⟩ := tuple_unmarshal hports hct
  have hdecode := Flow.unmarshalAttr_tupleOrig hstep (nestAttr_enum (by decide) _ _)
  rw [ht, show Flow.zero.tupleOrig = Tuple.zero from rfl, hz] at hdecode
  rw [ht', ← Except.ok.inj hdecode]
  exact ⟨rfl, rfl⟩

/-- **The sequence record read back** is the conntrack's own, where it is exported. -/
theorem flow_protoInfo {c : FillCall} (hexp : exportsTcp c.env c.ct c.hdr.flags) {b : Buf} {msg : Bytes}
    (hmsg : c.message b = some msg) {flow : Flow} (h : unmarshalFlow c.env.endian msg = .ok flow) :
    (c.ct.testStatus ipsOffloadBit → flow.protoInfo.tcp = none) ∧
      (¬ c.ct.testStatus ipsOffloadBit →
        ∃ tcp, flow.protoInfo.tcp = some tcp ∧ tcp.seqTrack = some c.ct.tcp.seqTrack) := by
  obtain ⟨mid, post, hfold, hmid, hpost⟩ := message_decodes hmsg h
  have hkeep : ∀ x : Attr, x.enum ≠ ctaProtoinfo → ∀ s s',
      Flow.unmarshalAttr c.env.endian s x = .ok s' → s'.protoInfo = s.protoInfo :=
    fun x hx s s' hs => (Flow.unmarshalAttr_keeps c.env.endian s x s' hs).2 hx
  have hpre : ∀ x ∈ origAttr c.env c.ct :: mid, ∀ s s',
      Flow.unmarshalAttr c.env.endian s x = .ok s' → s'.protoInfo = s.protoInfo := by
    intro x hx
    rcases List.mem_cons.mp hx with rfl | hx
    · refine hkeep _ ?_
      rw [origAttr, nestAttr_enum (by decide)]
      decide
    · exact hkeep x (hmid.enum_ne (by decide) x hx)
  have hpost' : ∀ x ∈ post, ∀ s s',
      Flow.unmarshalAttr c.env.endian s x = .ok s' → s'.protoInfo = s.protoInfo :=
    fun x hx => hkeep x (hpost.enum_ne (by decide) x hx)
  unfold protoinfoPart at hfold
  constructor
  · intro hoff
    rw [if_pos hoff] at hfold
    have hall : ∀ x ∈ origAttr c.env c.ct :: (mid ++ ([] ++ post)), ∀ s s',
        Flow.unmarshalAttr c.env.endian s x = .ok s' → s'.protoInfo = s.protoInfo := by
      intro x hx
      rw [List.nil_append, ← List.cons_append] at hx
      rcases List.mem_append.mp hx with hx | hx
      · exact hpre x hx
      · exact hpost' x hx
    rw [foldlM_keeps hall hfold]
    rfl
  · intro hoff
    unfold protoinfoAttrs at hfold
    rw [if_neg hoff, if_pos hexp, List.singleton_append, ← List.cons_append] at hfold
    obtain ⟨t, t', ht, hstep, ht'⟩ := foldlM_sets hpre hpost' hfold
    obtain ⟨tcp, hz, hseq⟩ := @protoInfo_unmarshal c.env c.ct
    have hdecode := Flow.unmarshalAttr_protoInfo hstep (nestAttr_enum (by decide) _ _)
    rw [ht, hz] at hdecode
    rw [ht', ← Except.ok.inj hdecode]
    exact ⟨tcp, rfl, hseq⟩

/-! ### The identifier -/

/-- The attribute that tells a conntrack's identifier. -/
def idAttr (env : NlEnv) (p : CtPtr) : Attr := ⟨ctaId, put32 env.endian (env.nfCtGetId p)⟩

/-- The identifier that `CTA_ID` tells a reader of network order. -/
def NlEnv.ctId (env : NlEnv) (p : CtPtr) : UInt32 := get32 .big (put32 env.endian (env.nfCtGetId p))

theorem idAttr_enum (env : NlEnv) (p : CtPtr) : (idAttr env p).enum = ctaId := by
  show ctaId &&& typeMask &&& 0xff = ctaId
  decide

theorem adUint32_idAttr (env : NlEnv) (p : CtPtr) : adUint32 (idAttr env p) = .ok (env.ctId p) :=
  if_neg (not_not.mpr (length_put32 _ _))

/-- The nested attributes set other fields. -/
theorem Flow.unmarshalNested_id {e : Endian} {f f' : Flow} {a : Attr} (h : f.unmarshalNested e a = .ok f') :
    f'.id = f.id := by
  have hite : ∀ {c : Prop} [Decidable c] {x y : Decode Flow}, (∀ g, x = .ok g → g.id = f.id) →
      (∀ g, y = .ok g → g.id = f.id) → ∀ g, (if c then x else y) = .ok g → g.id = f.id := by
    intro c _ x y hx hy g hg
    by_cases hc : c
    · exact hx g (by rwa [if_pos hc] at hg)
    · exact hy g (by rwa [if_neg hc] at hg)
  have hinto : ∀ {α : Type} {fn : AttributeDecoder → Decode α} {set : α → Flow}, (∀ v, (set v).id = f.id) →
      ∀ g, intoNested e a fn set = .ok g → g.id = f.id := by
    intro α fn set hset g hg
    obtain ⟨v, -, rfl⟩ := intoNested_ok hg
    exact hset v
  have hall : ∀ g, f.unmarshalNested e a = .ok g → g.id = f.id := by
    unfold unmarshalNested
    iterate 12
      refine hite (hinto ?_) ?_
      · exact fun _ => rfl
    intro g hg
    cases hg
    rfl
  exact hall f' h

/-- **The identifier** of a flow changes only at `CTA_ID`, to the number it carries. -/
theorem Flow.unmarshalAttr_id {e : Endian} {f f' : Flow} {a : Attr} (h : f.unmarshalAttr e a = .ok f') :
    (a.enum ≠ ctaId → f'.id = f.id) ∧ (a.enum = ctaId → adUint32 a = .ok f'.id) := by
  obtain ⟨g, hnested, hflat⟩ := bind_eq_ok h
  rw [← unmarshalNested_id hnested]
  unfold unmarshalFlat at hflat
  split at hflat
  · next htimeout =>
    obtain ⟨x, -, hf⟩ := bind_eq_ok hflat
    cases hf
    exact ⟨fun _ => rfl, fun hid => absurd (htimeout.symm.trans hid) (by decide)⟩
  · split at hflat
    · next hid =>
      obtain ⟨x, hx, hf⟩ := bind_eq_ok hflat
      cases hf
      exact ⟨fun hne => absurd hid hne, fun _ => hx⟩
    · next hid =>
      refine ⟨fun _ => ?_, fun h => absurd h hid⟩
      repeat' split at hflat
      all_goals first
        | (obtain ⟨x, -, hf⟩ := bind_eq_ok hflat
           cases hf
           rfl)
        | (cases hflat
           rfl)

/-- Of what is told of every conntrack, one attribute is the identifier. -/
theorem headAttrs_id (env : NlEnv) (p : CtPtr) (ct : NfConn) :
    idAttr env p ∈ headAttrs env p ct ∧ ∀ a ∈ headAttrs env p ct, a.enum = ctaId → a = idAttr env p := by
  constructor
  · simp [headAttrs, idAttr]
  · intro a ha hid
    simp only [headAttrs, List.mem_append, List.mem_singleton] at ha
    rcases ha with rfl | ha | ha | rfl | rfl | ha
    · exact absurd hid (by rw [nlaBe32_enum (by decide)]; decide)
    · exact absurd hid ((kinds_markAttrs ct true).enum_ne (by decide) a ha)
    · exact absurd hid ((kinds_secctxAttrs env ct).enum_ne (by decide) a ha)
    · rfl
    · exact absurd hid (by rw [nlaBe32_enum (by decide)]; decide)
    · exact absurd hid ((kinds_masterAttrs env ct).enum_ne (by decide) a ha)

/-- **The identifier read back** is the conntrack's, in network order. -/
theorem flow_id {c : FillCall} {b : Buf} {msg : Bytes} (hmsg : c.message b = some msg) {flow : Flow}
    (h : unmarshalFlow c.env.endian msg = .ok flow) : flow.id = c.env.ctId c.p := by
  rw [FillCall.message_eq, Option.map_eq_some_iff] at hmsg
  obtain ⟨l, hl, rfl⟩ := hmsg
  have hfold := unmarshalFlow_message (FillCall.attrs_lt hl) h
  unfold FillCall.attrs at hl
  split at hl
  · obtain ⟨post, rfl, hpost⟩ := fillInfoOut_eq c.env hl
    obtain ⟨hmem, hone⟩ := headAttrs_id c.env c.p c.ct
    have hids : ∀ a ∈ origAttr c.env c.ct :: replyAttr c.env c.ct ::
        (zoneAttrs ctaZone c.ct.zone nfCtDefaultZoneDir ++ (headAttrs c.env c.p c.ct ++
          (timeoutPart c.env c.ct ++ (protoinfoPart c.env c.ct c.hdr.flags ++ post)))),
        a.enum = ctaId → a = idAttr c.env c.p := by
      intro a ha hid
      simp only [List.mem_cons, List.mem_append] at ha
      rcases ha with rfl | rfl | ha | ha | ha | ha | ha
      · exact absurd hid (by rw [origAttr, nestAttr_enum (by decide)]; decide)
      · exact absurd hid (by rw [replyAttr, nestAttr_enum (by decide)]; decide)
      · exact absurd hid ((kinds_zoneAttrs c.ct.zone nfCtDefaultZoneDir).enum_ne (by decide) a ha)
      · exact hone a ha hid
      · exact absurd hid ((kinds_timeoutPart c.env c.ct).enum_ne (by decide) a ha)
      · exact absurd hid ((kinds_protoinfoPart c.env c.ct c.hdr.flags).enum_ne (by decide) a ha)
      · exact absurd hid (hpost.enum_ne (by decide) a ha)
    refine @foldlM_sets_value _ _ _ Flow.id _ _ (idAttr c.env c.p) ?_ ?_ ?_ _ _ hfold
    · simp [hmem]
    · intro a ha s s' hs
      obtain ⟨hkeep, hset⟩ := Flow.unmarshalAttr_id hs
      by_cases hid : a.enum = ctaId
      · have hval := hset hid
        rw [hids a ha hid, adUint32_idAttr] at hval
        exact .inr (Except.ok.inj hval).symm
      · exact .inl (hkeep hid)
    · intro s s' hs
      have hval := (Flow.unmarshalAttr_id hs).2 (idAttr_enum _ _)
      rw [adUint32_idAttr] at hval
      exact (Except.ok.inj hval).symm
  · cases hl

end VgwDriver
