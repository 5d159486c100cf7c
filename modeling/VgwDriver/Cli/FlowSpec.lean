import VgwDriver.Cli.Readback

/-!
# What a conntrack's message decodes to

The CLI's decoder on everything `ctnetlink_fill_info` writes: a message decodes, and to the conntrack's own
values.  The attributes the kernel's protocols write are its own, as `tuple_to_nlattr` and `to_nlattr` of
each protocol do.

* `l4protoTupleToNlattr`, `ProtoRecords.toNlattr` — the kernel's callbacks, `NlEnv.Stock` their use;
* one `decodes_…` fact for each list of attributes: what the decoder's loop makes of it;
* `unmarshalFlow_eq` — **the message of a conntrack decodes to `NfConn.flow`**, whatever protocol it is of and
  whichever extensions it has.
-/

namespace VgwDriver

open Base

/-! ### The kernel's protocols -/

def ipprotoDccp : UInt8 := 33
def ipprotoSctp : UInt8 := 132

/-- `nf_ct_port_tuple_to_nlattr`. -/
def nfCtPortTupleToNlattr (t : NfConntrackTuple) : List Attr :=
  [nlaBe16 ctaProtoSrcPort t.src.u, nlaBe16 ctaProtoDstPort t.dst.u]

/-- `icmp_tuple_to_nlattr`. -/
def icmpTupleToNlattr (t : NfConntrackTuple) : List Attr :=
  [nlaBe16 ctaProtoIcmpId t.src.u, nlaU8 ctaProtoIcmpType t.dst.icmpType,
    nlaU8 ctaProtoIcmpCode t.dst.icmpCode]

/-- `icmpv6_tuple_to_nlattr`. -/
def icmpv6TupleToNlattr (t : NfConntrackTuple) : List Attr :=
  [nlaBe16 ctaProtoIcmpv6Id t.src.u, nlaU8 ctaProtoIcmpv6Type t.dst.icmpType,
    nlaU8 ctaProtoIcmpv6Code t.dst.icmpCode]

/-- The `tuple_to_nlattr` of a protocol that has one. -/
def l4protoTupleToNlattr (proto : UInt8) : NfConntrackTuple → List Attr :=
  if proto = ipprotoIcmp then icmpTupleToNlattr
  else if proto = ipprotoIcmpv6 then icmpv6TupleToNlattr
  else nfCtPortTupleToNlattr

/-- The records of DCCP and SCTP, which nothing else here looks at, as their `to_nlattr` tells them. -/
structure ProtoRecords where
  dccp : NfConn → ProtoInfoDCCP
  sctp : NfConn → ProtoInfoSCTP

def dccpAttrs (r : ProtoInfoDCCP) (destroy : Bool) : List Attr :=
  nlaU8 ctaProtoinfoDccpState r.state ::
    if destroy then []
    else [nlaU8 ctaProtoinfoDccpRole r.role, nlaBe64 ctaProtoinfoDccpHandshakeSeq r.handshakeSeq]

def sctpAttrs (r : ProtoInfoSCTP) (destroy : Bool) : List Attr :=
  nlaU8 ctaProtoinfoSctpState r.state ::
    if destroy then []
    else [nlaBe32 ctaProtoinfoSctpVtagOriginal r.vtagOriginal, nlaBe32 ctaProtoinfoSctpVtagReply r.vtagReply]

def tcpKernelAttrs (ct : NfConn) (destroy : Bool) : List Attr :=
  nlaU8 ctaProtoinfoTcpState ct.tcp.state.code :: if destroy then [] else (tcpStockAttrs ct).drop 1

/-- The `to_nlattr` of a protocol that has one. -/
def ProtoRecords.toNlattr (r : ProtoRecords) (e : Endian) (proto : UInt8) (ct : NfConn) (destroy : Bool) :
    List Attr :=
  if proto = ipprotoTcp then [nestAttr e ctaProtoinfoTcp (tcpKernelAttrs ct destroy)]
  else if proto = ipprotoDccp then [nestAttr e ctaProtoinfoDccp (dccpAttrs (r.dccp ct) destroy)]
  else [nestAttr e ctaProtoinfoSctp (sctpAttrs (r.sctp ct) destroy)]

/-- The callbacks are the kernel's own; those of a protocol may be missing. -/
structure NlEnv.Stock (env : NlEnv) (r : ProtoRecords) : Prop where
  tuple : ∀ proto f, env.tupleToNlattr proto = some f → f = l4protoTupleToNlattr proto
  info : ∀ proto f, env.toNlattr proto = some f →
    (proto = ipprotoTcp ∨ proto = ipprotoDccp ∨ proto = ipprotoSctp) ∧ f = r.toNlattr env.endian proto

/-! ### Tuples -/

/-- A tuple of IPv4 or IPv6. -/
def NfConntrackTuple.OfInet (t : NfConntrackTuple) : Prop :=
  t.src.l3num = nfprotoIpv4.toUInt16 ∨ t.src.l3num = nfprotoIpv6.toUInt16

instance (t : NfConntrackTuple) : Decidable t.OfInet := inferInstanceAs (Decidable (_ ∨ _))

/-- The addresses of a tuple as the decoder presents them. -/
def NfConntrackTuple.addrs (t : NfConntrackTuple) : IPTuple :=
  if t.src.l3num = nfprotoIpv4.toUInt16 then t.ipTuple else ⟨t.src.u3.in6, t.dst.u3.in6⟩

/-- The ports or the ICMP part of a tuple, of a protocol whose `tuple_to_nlattr` is there. -/
def NfConntrackTuple.ports (t : NfConntrackTuple) : ProtoTuple :=
  if t.dst.protonum = ipprotoIcmp then
    ⟨ipprotoIcmp, 0, 0, true, false, t.src.u, t.dst.icmpType, t.dst.icmpCode⟩
  else if t.dst.protonum = ipprotoIcmpv6 then
    ⟨ipprotoIcmpv6, 0, 0, false, true, t.src.u, t.dst.icmpType, t.dst.icmpCode⟩
  else ⟨t.dst.protonum, t.src.u, t.dst.u, false, false, 0, 0, 0⟩

/-- The protocol part of a tuple as the decoder presents it. -/
def NfConntrackTuple.proto (env : NlEnv) (t : NfConntrackTuple) : ProtoTuple :=
  match env.tupleToNlattr t.dst.protonum with
  | some _ => t.ports
  | none =>
    ⟨t.dst.protonum, 0, 0, t.dst.protonum = ipprotoIcmp, t.dst.protonum = ipprotoIcmpv6, 0, 0, 0⟩

/-- The zone a message tells with the attribute that is for the directions `dir`. -/
def NfConntrackZone.shown (zone : NfConntrackZone) (dir : UInt8) : UInt16 :=
  if zone.dir = dir then zone.id else 0

variable {env : NlEnv} {r : ProtoRecords} {e : Endian}

@[simp] theorem addrFromSlice_in6 (x : NfInetAddr) : addrFromSlice x.in6 = some x.in6 :=
  if_pos (.inr x.length_in6)

theorem decodesTo_ip {t : NfConntrackTuple} (ht : t.OfInet) :
    DecodesTo IPTuple.unmarshal (tupleIpAttrs t) t.addrs := by
  intro _
  have haddr : ∀ type x, addrFromSlice (nlaBe32 type x).payload = some (put32 .big x) := by
    intro type x
    simp [addrFromSlice, nlaBe32]
  unfold tupleIpAttrs NfConntrackTuple.addrs
  by_cases hv4 : t.src.l3num = nfprotoIpv4.toUInt16
  · have hsrc := @nlaBe32_enum ctaIpV4Src (by decide) t.src.u3.ip
    have hdst := @nlaBe32_enum ctaIpV4Dst (by decide) t.dst.u3.ip
    rw [if_pos hv4, if_pos hv4]
    simp +decide [IPTuple.unmarshal, haddr, hsrc, hdst]
    rfl
  · have hv6 := ht.resolve_left hv4
    have henum : ∀ type payload, (⟨type, payload⟩ : Attr).enum = type &&& typeMask &&& 0xff :=
      fun _ _ => rfl
    rw [if_neg hv4, if_pos hv6, if_neg hv4]
    simp +decide [IPTuple.unmarshal, addrFromSlice_in6, henum]
    rfl

/-- The number of the protocol, which comes first. -/
theorem ProtoTuple.unmarshalAttr_num (x : UInt8) :
    (⟨0, 0, 0, false, false, 0, 0, 0⟩ : ProtoTuple).unmarshalAttr (nlaU8 ctaProtoNum x)
      = .ok ⟨x, 0, 0, x = ipprotoIcmp, x = ipprotoIcmpv6, 0, 0, 0⟩ := by
  have henum := @nlaU8_enum ctaProtoNum (by decide) x
  unfold unmarshalAttr
  rw [if_pos henum, adUint8_nlaU8]
  simp only [ok_bind, Bool.or_false]
  by_cases hx : x = ipprotoIcmpv6
  · rw [hx]
    rfl
  · simp [hx]
    rfl

/-- What a protocol's own attributes add to its number. -/
theorem decodes_l4proto {t : NfConntrackTuple} :
    Decodes ProtoTuple.unmarshalAttr (l4protoTupleToNlattr t.dst.protonum t)
      ⟨t.dst.protonum, 0, 0, t.dst.protonum = ipprotoIcmp, t.dst.protonum = ipprotoIcmpv6, 0, 0, 0⟩
      t.ports := by
  have hu8 : ∀ type x, (nlaU8 type x).enum = type &&& typeMask &&& 0xff := fun _ _ => rfl
  have hbe16 : ∀ type x, (nlaBe16 type x).enum = type &&& typeMask &&& 0xff := fun _ _ => rfl
  intro _
  unfold l4protoTupleToNlattr NfConntrackTuple.ports
  by_cases hicmp : t.dst.protonum = ipprotoIcmp
  · rw [if_pos hicmp, if_pos hicmp, hicmp]
    simp +decide [icmpTupleToNlattr, ProtoTuple.unmarshalAttr, hu8, hbe16]
    rfl
  · rw [if_neg hicmp, if_neg hicmp]
    by_cases hicmpv6 : t.dst.protonum = ipprotoIcmpv6
    · rw [if_pos hicmpv6, if_pos hicmpv6, hicmpv6]
      simp +decide [icmpv6TupleToNlattr, ProtoTuple.unmarshalAttr, hu8, hbe16]
      rfl
    · rw [if_neg hicmpv6, if_neg hicmpv6]
      simp +decide [nfCtPortTupleToNlattr, ProtoTuple.unmarshalAttr, hbe16, hicmp, hicmpv6]
      rfl

theorem decodesTo_proto (hstock : env.Stock r) (t : NfConntrackTuple) :
    DecodesTo ProtoTuple.unmarshal (tupleProtoAttrs env t) (t.proto env) := by
  intro hsize
  have hloop : Decodes ProtoTuple.unmarshalAttr (tupleProtoAttrs env t) ⟨0, 0, 0, false, false, 0, 0, 0⟩
      (t.proto env) := by
    refine .cons (ProtoTuple.unmarshalAttr_num t.dst.protonum) ?_
    unfold NfConntrackTuple.proto
    cases hf : env.tupleToNlattr t.dst.protonum with
    | none => exact .nil _ _
    | some f =>
      rw [hstock.tuple _ f hf]
      exact decodes_l4proto
  exact hloop.eachAttr hsize

/-- **A tuple decodes** to its addresses, its ports and the zone told with it. -/
theorem decodesTo_tuple (hstock : env.Stock r) {t : NfConntrackTuple} (ht : t.OfInet) (zone : NfConntrackZone)
    (dir : UInt8) :
    DecodesTo (Tuple.zero.unmarshal env.endian) (tupleAttrs env t ++ zoneAttrs ctaTupleZone zone dir)
      ⟨t.addrs, t.proto env, zone.shown dir⟩ := by
  intro hsize
  have hip := @nestAttr_enum ctaTupleIp (by decide) env.endian (tupleIpAttrs t)
  have hproto := @nestAttr_enum ctaTupleProto (by decide) env.endian (tupleProtoAttrs env t)
  have hzone : Decodes (Tuple.unmarshalAttr env.endian) (zoneAttrs ctaTupleZone zone dir)
      ⟨t.addrs, t.proto env, 0⟩ ⟨t.addrs, t.proto env, zone.shown dir⟩ := by
    unfold zoneAttrs NfConntrackZone.shown
    by_cases hdir : zone.dir = dir
    · by_cases hid : zone.id = nfCtDefaultZoneId
      · rw [if_pos (.inl hid), if_pos hdir, hid]
        exact .nil _ _
      · rw [if_neg (by simp [hid, hdir]), if_pos hdir]
        refine .single ?_
        have henum := @nlaBe16_enum ctaTupleZone (by decide) zone.id
        simp +decide [Tuple.unmarshalAttr, henum]
    · rw [if_pos (.inr hdir), if_neg hdir]
      exact .nil _ _
  have hloop : Decodes (Tuple.unmarshalAttr env.endian)
      (tupleAttrs env t ++ zoneAttrs ctaTupleZone zone dir) Tuple.zero
      ⟨t.addrs, t.proto env, zone.shown dir⟩ := by
    refine .append (.consNest ⟨t.addrs, Tuple.zero.proto, 0⟩ (fun hkids => ?_) (.nest fun hkids => ?_)) hzone
    · unfold Tuple.unmarshalAttr
      rw [if_pos hip, (decodesTo_ip ht).nested _ _ hkids]
      rfl
    · unfold Tuple.unmarshalAttr
      rw [if_neg (by rw [hproto]; decide), if_pos hproto, (decodesTo_proto hstock t).nested _ _ hkids]
      rfl
  unfold Tuple.unmarshal
  rw [if_neg (by simp [tupleAttrs])]
  exact hloop.eachAttr hsize

/-! ### The attributes of a flow -/

theorem nestAttr_isNested (e : Endian) (type : UInt16) (kids : List Attr) :
    (nestAttr e type kids).type &&& nestedFlag ≠ 0 := by
  show (type ||| nestedFlag) &&& nestedFlag ≠ 0
  rw [or_and_flag]
  decide

namespace Flow

variable {f : Flow}

/-- The types `Flow.unmarshalNested` knows. -/
def nestedTypes : List UInt16 :=
  [ctaTupleOrig, ctaTupleReply, ctaTupleMaster, ctaProtoinfo, ctaHelp, ctaCountersOrig, ctaCountersReply,
    ctaSecctx, ctaTimestamp, ctaSeqAdjOrig, ctaSeqAdjReply, ctaSynproxy]

theorem nestedTypes_enum (e : Endian) {type : UInt16} (h : type ∈ nestedTypes) (kids : List Attr) :
    (nestAttr e type kids).enum = type := by
  have hall : (nestedTypes.all fun t => (t ||| nestedFlag) &&& typeMask &&& 0xff = t) = true := by decide
  exact of_decide_eq_true (List.all_eq_true.mp hall type h)

/-- None of them is a flat one. -/
theorem unmarshalFlat_of_nested {a : Attr} (ha : a.enum ∈ nestedTypes) : f.unmarshalFlat a = .ok f := by
  have hne : ∀ {t : UInt16}, t ∉ nestedTypes → a.enum ≠ t := fun ht heq => ht (heq ▸ ha)
  unfold unmarshalFlat
  rw [if_neg (hne (by decide)), if_neg (hne (by decide)), if_neg (hne (by decide)), if_neg (hne (by decide)),
    if_neg (hne (by decide)), if_neg (hne (by decide)), if_neg (hne (by decide)), if_neg (hne (by decide))]

/-- A flat attribute. -/
theorem unmarshalAttr_flat {a : Attr} (ha : a.enum ∉ nestedTypes) :
    f.unmarshalAttr e a = f.unmarshalFlat a := by
  have hne : ∀ {t : UInt16}, t ∈ nestedTypes → a.enum ≠ t := fun ht heq => ha (heq ▸ ht)
  unfold unmarshalAttr unmarshalNested
  rw [if_neg (hne (by decide)), if_neg (hne (by decide)), if_neg (hne (by decide)), if_neg (hne (by decide)),
    if_neg (hne (by decide)), if_neg (hne (by decide)), if_neg (hne (by decide)), if_neg (hne (by decide)),
    if_neg (hne (by decide)), if_neg (hne (by decide)), if_neg (hne (by decide)), if_neg (hne (by decide))]
  rfl

/-- **A nested attribute that decodes** sets its field. -/
theorem decodes_nest {α : Type} (type : UInt16) (set : α → Flow) {fn : AttributeDecoder → Decode α}
    {kids : List Attr} {x : α} (htype : type ∈ nestedTypes)
    (hfield : ∀ a : Attr, a.enum = type → f.unmarshalNested e a = intoNested e a fn set)
    (h : DecodesTo fn kids x) : Decodes (unmarshalAttr e) [nestAttr e type kids] f (set x) := by
  refine .nest fun hsize => ?_
  have henum := nestedTypes_enum e htype kids
  unfold unmarshalAttr
  rw [hfield _ henum, intoNested, if_neg (nestAttr_isNested e type kids), h.nested _ _ hsize]
  exact unmarshalFlat_of_nested (henum.symm ▸ htype)

/-- **A flat attribute that is read** sets its field. -/
theorem decodes_flat {a : Attr} {f' : Flow} {type : UInt16} (ha : a.enum = type) (htype : type ∉ nestedTypes)
    (h : f.unmarshalFlat a = .ok f') : Decodes (unmarshalAttr e) [a] f f' := by
  refine .single ?_
  rw [unmarshalAttr_flat (ha.symm ▸ htype), h]

end Flow

/-! ### The children of the nested attributes -/

@[simp] theorem adUint32_nlaBe32 (type : UInt16) (x : UInt32) : adUint32 (nlaBe32 type x) = .ok x := by
  simp [adUint32, nlaBe32]

@[simp] theorem adUint64_nlaBe64 (type : UInt16) (x : UInt64) : adUint64 (nlaBe64 type x) = .ok x := by
  simp [adUint64, nlaBe64]

theorem nlaBe64_enum {type : UInt16} (h : type &&& typeMask &&& 0xff = type) (x : UInt64) :
    (nlaBe64 type x).enum = type := h

theorem nlaString_enum {type : UInt16} (h : type &&& typeMask &&& 0xff = type) (s : Bytes) :
    (nlaString type s).enum = type := h

/-- A C string reads back without the zero at its end. -/
theorem adString_nlaString (type : UInt16) {s : Bytes} (hs : 0 ∉ s) : adString (nlaString type s) = s := by
  have hdrop : (0 :: s.reverse).dropWhile (· = 0) = s.reverse := by
    rw [List.dropWhile_cons_of_pos (by simp)]
    cases hrev : s.reverse with
    | nil => rfl
    | cons x xs =>
      have hx : x ≠ 0 := by
        rintro rfl
        exact hs (List.mem_reverse.mp (hrev ▸ List.mem_cons_self))
      exact List.dropWhile_cons_of_neg (by simpa using hx)
  unfold adString nlaString
  rw [List.reverse_append, List.reverse_singleton, List.singleton_append, hdrop, List.reverse_reverse]

theorem decodesTo_counter (c₀ : Counter) (c : NfConnCounter) :
    DecodesTo c₀.unmarshal [nlaBe64 ctaCountersPackets c.packets, nlaBe64 ctaCountersBytes c.bytes]
      ⟨c₀.direction, c.packets, c.bytes⟩ := by
  intro _
  have hpackets := @nlaBe64_enum ctaCountersPackets (by decide) c.packets
  have hbytes := @nlaBe64_enum ctaCountersBytes (by decide) c.bytes
  simp +decide [Counter.unmarshal, hpackets, hbytes]
  rfl

theorem decodesTo_timestamp (t₀ : Timestamp) (hstop : t₀.stop = 0) (t : NfConnTstamp) :
    DecodesTo t₀.unmarshal
      (nlaBe64 ctaTimestampStart t.start :: if t.stop ≠ 0 then [nlaBe64 ctaTimestampStop t.stop] else [])
      ⟨t.start, t.stop⟩ := by
  intro _
  have hstart := @nlaBe64_enum ctaTimestampStart (by decide) t.start
  have hstop' := @nlaBe64_enum ctaTimestampStop (by decide) t.stop
  by_cases h : t.stop = 0
  · simp +decide [Timestamp.unmarshal, hstart, h, hstop]
  · simp +decide [Timestamp.unmarshal, hstart, hstop', h]
    rfl

theorem decodesTo_secctx (s₀ secctx : Bytes) :
    DecodesTo (securityUnmarshal s₀) [nlaString ctaSecctxName secctx] (secctx ++ [0]) := by
  intro _
  have hname := @nlaString_enum ctaSecctxName (by decide) secctx
  simp +decide [securityUnmarshal, hname]
  rfl

theorem decodesTo_seqAdj (s₀ : SequenceAdjust) (s : NfCtSeqadj) :
    DecodesTo s₀.unmarshal [nlaBe32 ctaSeqadjCorrectionPos s.correctionPos,
        nlaBe32 ctaSeqadjOffsetBefore s.offsetBefore, nlaBe32 ctaSeqadjOffsetAfter s.offsetAfter]
      ⟨s₀.direction, s.correctionPos, s.offsetBefore, s.offsetAfter⟩ := by
  intro _
  have hpos := @nlaBe32_enum ctaSeqadjCorrectionPos (by decide) s.correctionPos
  have hbefore := @nlaBe32_enum ctaSeqadjOffsetBefore (by decide) s.offsetBefore
  have hafter := @nlaBe32_enum ctaSeqadjOffsetAfter (by decide) s.offsetAfter
  simp +decide [SequenceAdjust.unmarshal, hpos, hbefore, hafter]
  rfl

theorem decodesTo_synproxy (s₀ : SynProxy) (s : NfConnSynproxy) :
    DecodesTo s₀.unmarshal [nlaBe32 ctaSynproxyIsn s.isn, nlaBe32 ctaSynproxyIts s.its,
        nlaBe32 ctaSynproxyTsoff s.tsoff] ⟨s.isn, s.its, s.tsoff⟩ := by
  intro _
  have hisn := @nlaBe32_enum ctaSynproxyIsn (by decide) s.isn
  have hits := @nlaBe32_enum ctaSynproxyIts (by decide) s.its
  have htsoff := @nlaBe32_enum ctaSynproxyTsoff (by decide) s.tsoff
  simp +decide [SynProxy.unmarshal, hisn, hits, htsoff]
  rfl

/-! ### The helper -/

/-- The helper's name is a C string, and its own callback writes nothing or `CTA_HELP_INFO`. -/
def NfConntrackHelper.Stock (h : NfConntrackHelper) : Prop :=
  0 ∉ h.name ∧ (h.toNlattr = [] ∨ ∃ info, h.toNlattr = [⟨ctaHelpInfo, info⟩])

/-- What the helper's own callback has to say. -/
def NfConntrackHelper.info (h : NfConntrackHelper) : Bytes := (h.toNlattr.head?.map Attr.payload).getD []

/-- Either it is said or it is cut off by the end of the buffer. -/
theorem decodesTo_helper {h : NfConntrackHelper} (hh : h.Stock) (room : ℕ) :
    ∃ info, (info = [] ∨ info = h.info) ∧
      DecodesTo (Helper.unmarshal ⟨[], []⟩)
        (nlaString ctaHelpName h.name :: fittingAttrs h.toNlattr room) ⟨h.name, info⟩ := by
  obtain ⟨hname, hinfo⟩ := hh
  have henum := @nlaString_enum ctaHelpName (by decide) h.name
  have hread := adString_nlaString ctaHelpName hname
  have hbare : DecodesTo (Helper.unmarshal ⟨[], []⟩) [nlaString ctaHelpName h.name] ⟨h.name, []⟩ := by
    intro _
    simp +decide [Helper.unmarshal, henum, hread]
  rcases hinfo with hnil | ⟨info, hone⟩
  · rw [hnil]
    exact ⟨[], .inl rfl, hbare⟩
  · rw [hone, fittingAttrs]
    by_cases hroom : align4 (⟨ctaHelpInfo, info⟩ : Attr).len ≤ room
    · refine ⟨info, .inr (by simp [NfConntrackHelper.info, hone]), fun _ => ?_⟩
      have henum' : (⟨ctaHelpInfo, info⟩ : Attr).enum = ctaHelpInfo := by
        show ctaHelpInfo &&& typeMask &&& 0xff = ctaHelpInfo
        decide
      rw [if_pos hroom, fittingAttrs]
      simp +decide [Helper.unmarshal, henum, hread, henum']
      rfl
    · rw [if_neg hroom]
      exact ⟨[], .inl rfl, hbare⟩

/-! ### Protocol information -/

/-- The TCP state as the decoder presents it, of the attributes behind the first unless the conntrack is being
destroyed. -/
def NfConn.protoInfoTcp (ct : NfConn) (destroy : Bool) (seqTrack : Option ProtoInfoTcpSeqTrack) : ProtoInfoTCP :=
  if destroy then { ProtoInfoTCP.zero with state := ct.tcp.state.code }
  else
    ⟨ct.tcp.state.code, ct.tcp.seen0.tdScale, ct.tcp.seen1.tdScale, get16 .big [ct.tcp.seen0.flags, 0],
      get16 .big [ct.tcp.seen1.flags, 0], seqTrack⟩

def ProtoInfoDCCP.told (r : ProtoInfoDCCP) (destroy : Bool) : ProtoInfoDCCP :=
  if destroy then ⟨r.state, 0, 0⟩ else r

def ProtoInfoSCTP.told (r : ProtoInfoSCTP) (destroy : Bool) : ProtoInfoSCTP :=
  if destroy then ⟨r.state, 0, 0⟩ else r

/-- The protocol information of a message as the decoder presents it. -/
def NfConn.protoInfo (env : NlEnv) (r : ProtoRecords) (ct : NfConn) (destroy : Bool) (flags : UInt16) :
    ProtoInfo :=
  if exportsTcp env ct flags then ⟨some (ct.protoInfoTcp destroy (some ct.tcp.seqTrack)), none, none⟩
  else
    match env.toNlattr (nfCtProtonum ct) with
    | none => ⟨none, none, none⟩
    | some _ =>
      if nfCtProtonum ct = ipprotoTcp then ⟨some (ct.protoInfoTcp destroy none), none, none⟩
      else if nfCtProtonum ct = ipprotoDccp then ⟨none, some ((r.dccp ct).told destroy), none⟩
      else ⟨none, none, some ((r.sctp ct).told destroy)⟩

theorem ProtoInfoTCP.unmarshalAttr_state (x : UInt8) :
    zero.unmarshalAttr e (nlaU8 ctaProtoinfoTcpState x) = .ok { zero with state := x } := by
  have henum := @nlaU8_enum ctaProtoinfoTcpState (by decide) x
  unfold unmarshalAttr
  rw [if_pos henum, adUint8_nlaU8]
  rfl

/-- The four attributes behind the state that the kernel writes too. -/
theorem decodes_tcpStock (ct : NfConn) :
    Decodes (ProtoInfoTCP.unmarshalAttr e) ((tcpStockAttrs ct).drop 1)
      { ProtoInfoTCP.zero with state := ct.tcp.state.code } (ct.protoInfoTcp false none) := by
  have hwscale := @nlaU8_enum ctaProtoinfoTcpWscaleOriginal (by decide) ct.tcp.seen0.tdScale
  have hwscale' := @nlaU8_enum ctaProtoinfoTcpWscaleReply (by decide) ct.tcp.seen1.tdScale
  have hflags := @nlaTcpFlags_enum ctaProtoinfoTcpFlagsOriginal (by decide) ct.tcp.seen0.flags
  have hflags' := @nlaTcpFlags_enum ctaProtoinfoTcpFlagsReply (by decide) ct.tcp.seen1.flags
  intro _
  simp +decide [tcpStockAttrs, ProtoInfoTCP.unmarshalAttr, hwscale, hwscale', hflags, hflags',
    NfConn.protoInfoTcp]
  rfl

theorem decodesTo_tcp (ct : NfConn) (destroy : Bool) :
    DecodesTo (ProtoInfoTCP.unmarshal e) (tcpKernelAttrs ct destroy) (ct.protoInfoTcp destroy none) := by
  intro hsize
  have hloop : Decodes (ProtoInfoTCP.unmarshalAttr e) (tcpKernelAttrs ct destroy) ProtoInfoTCP.zero
      (ct.protoInfoTcp destroy none) := by
    refine .cons (ProtoInfoTCP.unmarshalAttr_state ct.tcp.state.code) ?_
    cases destroy with
    | true => exact .nil _ _
    | false => exact decodes_tcpStock ct
  exact hloop.eachAttr hsize

/-- The module's own encoding has the sequence record too. -/
theorem decodesTo_tcpAttrs (ct : NfConn) :
    DecodesTo (ProtoInfoTCP.unmarshal env.endian) (tcpAttrs env ct false)
      (ct.protoInfoTcp false (some ct.tcp.seqTrack)) := by
  intro hsize
  have hrec : (seqTrackAttr env ct).enum = ctaProtoinfoTcpSeqTrack := by
    show (seqTrackAttr env ct).kind &&& 0xff = ctaProtoinfoTcpSeqTrack
    rw [seqTrackAttr_kind]
    decide
  have hdecode : ProtoInfoTcpSeqTrack.unmarshal env.endian (seqTrackAttr env ct).payload
      = .ok ct.tcp.seqTrack := seqTrack_unmarshal env ct.tcp
  have hlast : (ct.protoInfoTcp false none).unmarshalAttr env.endian (seqTrackAttr env ct)
      = .ok (ct.protoInfoTcp false (some ct.tcp.seqTrack)) := by
    simp +decide [ProtoInfoTCP.unmarshalAttr, hrec, hdecode, NfConn.protoInfoTcp]
  have hloop : Decodes (ProtoInfoTCP.unmarshalAttr env.endian) (tcpAttrs env ct false) ProtoInfoTCP.zero
      (ct.protoInfoTcp false (some ct.tcp.seqTrack)) :=
    (Decodes.cons (ProtoInfoTCP.unmarshalAttr_state ct.tcp.state.code) (decodes_tcpStock ct)).append
      (.single hlast)
  exact hloop.eachAttr hsize

theorem decodesTo_dccp (d : ProtoInfoDCCP) (destroy : Bool) :
    DecodesTo ProtoInfoDCCP.unmarshal (dccpAttrs d destroy) (d.told destroy) := by
  have hstate := @nlaU8_enum ctaProtoinfoDccpState (by decide) d.state
  have hrole := @nlaU8_enum ctaProtoinfoDccpRole (by decide) d.role
  have hseq := @nlaBe64_enum ctaProtoinfoDccpHandshakeSeq (by decide) d.handshakeSeq
  intro _
  cases destroy with
  | true =>
    simp +decide [dccpAttrs, ProtoInfoDCCP.unmarshal, ProtoInfoDCCP.told, hstate]
  | false =>
    simp +decide [dccpAttrs, ProtoInfoDCCP.unmarshal, ProtoInfoDCCP.told, hstate, hrole, hseq]
    rfl

theorem decodesTo_sctp (d : ProtoInfoSCTP) (destroy : Bool) :
    DecodesTo ProtoInfoSCTP.unmarshal (sctpAttrs d destroy) (d.told destroy) := by
  have hstate := @nlaU8_enum ctaProtoinfoSctpState (by decide) d.state
  have horig := @nlaBe32_enum ctaProtoinfoSctpVtagOriginal (by decide) d.vtagOriginal
  have hreply := @nlaBe32_enum ctaProtoinfoSctpVtagReply (by decide) d.vtagReply
  intro _
  cases destroy with
  | true =>
    simp +decide [sctpAttrs, ProtoInfoSCTP.unmarshal, ProtoInfoSCTP.told, hstate]
  | false =>
    simp +decide [sctpAttrs, ProtoInfoSCTP.unmarshal, ProtoInfoSCTP.told, hstate, horig, hreply]
    rfl

/-- `CTA_PROTOINFO` has one child. -/
theorem decodesTo_child {α : Type} (type : UInt16) (set : α → ProtoInfo) {fn : AttributeDecoder → Decode α}
    {kids : List Attr} {x : α} (htype : (type ||| nestedFlag) &&& typeMask &&& 0xff = type)
    (hfield : ∀ a : Attr, a.enum = type →
      Flow.zero.protoInfo.unmarshal e ⟨[a], none, 1⟩ = nested e a fn >>= fun y => pure (set y))
    (h : DecodesTo fn kids x) :
    DecodesTo (Flow.zero.protoInfo.unmarshal e) [nestAttr e type kids] (set x) := by
  intro hsize
  rw [attrsSize_cons, nestAttr_len, attrsSize_nil] at hsize
  have henum := @nestAttr_enum type htype e kids
  rw [List.length_singleton, hfield _ henum, h.nested e type (by omega)]
  rfl

theorem decodesTo_tcpChild {kids : List Attr} {x : ProtoInfoTCP} (h : DecodesTo (ProtoInfoTCP.unmarshal e) kids x) :
    DecodesTo (Flow.zero.protoInfo.unmarshal e) [nestAttr e ctaProtoinfoTcp kids] ⟨some x, none, none⟩ :=
  decodesTo_child ctaProtoinfoTcp (fun y => ⟨some y, none, none⟩) (by decide)
    (fun a ha => by
      unfold ProtoInfo.unmarshal
      simp [ha]
      rfl) h

/-- It tells the protocol. -/
theorem decodesTo_protoInfo (hstock : env.Stock r) (ct : NfConn) (destroy : Bool) (flags : UInt16)
    {toNlattr : NfConn → Bool → List Attr} (hf : env.toNlattr (nfCtProtonum ct) = some toNlattr)
    (hexp : ¬ exportsTcp env ct flags) :
    DecodesTo (Flow.zero.protoInfo.unmarshal env.endian) (toNlattr ct destroy)
      (ct.protoInfo env r destroy flags) := by
  obtain ⟨hproto, rfl⟩ := hstock.info _ _ hf
  unfold NfConn.protoInfo ProtoRecords.toNlattr
  rw [if_neg hexp, hf]
  rcases hproto with hproto | hproto | hproto
  · rw [if_pos hproto]
    dsimp only
    rw [if_pos hproto]
    exact decodesTo_tcpChild (decodesTo_tcp ct destroy)
  · have hne : nfCtProtonum ct ≠ ipprotoTcp := by rw [hproto]; decide
    rw [if_neg hne, if_pos hproto]
    dsimp only
    rw [if_neg hne, if_pos hproto]
    refine decodesTo_child ctaProtoinfoDccp (fun y => ⟨none, some y, none⟩) (by decide) ?_
      (decodesTo_dccp (r.dccp ct) destroy)
    intro a ha
    unfold ProtoInfo.unmarshal
    simp +decide [ha]
    rfl
  · have hne : nfCtProtonum ct ≠ ipprotoTcp ∧ nfCtProtonum ct ≠ ipprotoDccp := by rw [hproto]; decide
    rw [if_neg hne.1, if_neg hne.2]
    dsimp only
    rw [if_neg hne.1, if_neg hne.2]
    refine decodesTo_child ctaProtoinfoSctp (fun y => ⟨none, none, some y⟩) (by decide) ?_
      (decodesTo_sctp (r.sctp ct) destroy)
    intro a ha
    unfold ProtoInfo.unmarshal
    simp +decide [ha]
    rfl

/-! ### The parts of a message -/

/-- What the loop over a message's attributes does with a list of them. -/
abbrev FlowDecodes (env : NlEnv) : List Attr → Flow → Flow → Prop := Decodes (Flow.unmarshalAttr env.endian)

section Parts

variable {t : NfConntrackTuple} {f : Flow} {ct : NfConn}

theorem decodes_tupleOrig (hstock : env.Stock r) (ht : t.OfInet) (hf : f.tupleOrig = .zero)
    (zone : NfConntrackZone) (dir : UInt8) :
    FlowDecodes env
      [nestAttr env.endian ctaTupleOrig (tupleAttrs env t ++ zoneAttrs ctaTupleZone zone dir)] f
      { f with tupleOrig := ⟨t.addrs, t.proto env, zone.shown dir⟩ } := by
  refine Flow.decodes_nest ctaTupleOrig (fun x => { f with tupleOrig := x }) (by decide) ?_
    (decodesTo_tuple hstock ht zone dir)
  intro a ha
  rw [Flow.unmarshalNested, ha, hf]
  rfl

theorem decodes_tupleReply (hstock : env.Stock r) (ht : t.OfInet) (hf : f.tupleReply = .zero)
    (zone : NfConntrackZone) (dir : UInt8) :
    FlowDecodes env
      [nestAttr env.endian ctaTupleReply (tupleAttrs env t ++ zoneAttrs ctaTupleZone zone dir)] f
      { f with tupleReply := ⟨t.addrs, t.proto env, zone.shown dir⟩ } := by
  refine Flow.decodes_nest ctaTupleReply (fun x => { f with tupleReply := x }) (by decide) ?_
    (decodesTo_tuple hstock ht zone dir)
  intro a ha
  rw [Flow.unmarshalNested, ha, hf]
  rfl

theorem decodes_zone (hf : f.zone = 0) (zone : NfConntrackZone) :
    FlowDecodes env (zoneAttrs ctaZone zone nfCtDefaultZoneDir) f
      { f with zone := zone.shown nfCtDefaultZoneDir } := by
  unfold zoneAttrs NfConntrackZone.shown
  by_cases hdir : zone.dir = nfCtDefaultZoneDir
  · by_cases hid : zone.id = nfCtDefaultZoneId
    · rw [if_pos (.inl hid), if_pos hdir, hid, show nfCtDefaultZoneId = f.zone from hf.symm]
      exact .nil _ _
    · have henum := @nlaBe16_enum ctaZone (by decide) zone.id
      rw [if_neg (by simp [hid, hdir]), if_pos hdir]
      refine Flow.decodes_flat henum (by decide) ?_
      rw [Flow.unmarshalFlat, henum, adUint16_nlaBe16]
      rfl
  · rw [if_pos (.inr hdir), if_neg hdir, ← hf]
    exact .nil _ _

/-- A number. -/
theorem decodes_be32 (type : UInt16) (set : UInt32 → Flow) (henum : type &&& typeMask &&& 0xff = type)
    (htype : type ∉ Flow.nestedTypes)
    (hfield : ∀ a : Attr, a.enum = type → f.unmarshalFlat a = adUint32 a >>= fun x => pure (set x))
    (x : UInt32) : FlowDecodes env [nlaBe32 type x] f (set x) := by
  refine Flow.decodes_flat (nlaBe32_enum henum x) htype ?_
  rw [hfield _ (nlaBe32_enum henum x), adUint32_nlaBe32]
  rfl

theorem decodes_status (x : UInt32) : FlowDecodes env [nlaBe32 ctaStatus x] f { f with status := x } := by
  refine decodes_be32 ctaStatus (fun x => { f with status := x }) (by decide) (by decide) ?_ x
  intro a ha
  rw [Flow.unmarshalFlat, ha]
  rfl

theorem decodes_mark (hf : f.mark = 0) (dump : Bool) :
    FlowDecodes env (markAttrs ct dump) f { f with mark := ct.mark } := by
  unfold markAttrs
  by_cases hmark : ct.mark = 0 ∧ ¬ dump
  · rw [if_pos hmark, hmark.1, ← hf]
    exact .nil _ _
  · rw [if_neg hmark]
    refine decodes_be32 ctaMark (fun x => { f with mark := x }) (by decide) (by decide) ?_ ct.mark
    intro a ha
    rw [Flow.unmarshalFlat, ha]
    rfl

theorem decodes_use (x : UInt32) : FlowDecodes env [nlaBe32 ctaUse x] f { f with use := x } := by
  refine decodes_be32 ctaUse (fun x => { f with use := x }) (by decide) (by decide) ?_ x
  intro a ha
  rw [Flow.unmarshalFlat, ha]
  rfl

theorem decodes_timeout (hf : f.timeout = 0) (skipZero : Bool) :
    FlowDecodes env (timeoutAttrs env ct skipZero) f
      { f with timeout := UInt32.ofNat (ctTimeout env ct) } := by
  unfold timeoutAttrs
  by_cases hskip : skipZero ∧ ctTimeout env ct = 0
  · rw [if_pos hskip, hskip.2, show UInt32.ofNat 0 = f.timeout from hf.symm]
    exact .nil _ _
  · rw [if_neg hskip]
    refine decodes_be32 ctaTimeout (fun x => { f with timeout := x }) (by decide) (by decide) ?_ _
    intro a ha
    rw [Flow.unmarshalFlat, ha]
    rfl

theorem decodes_id (p : CtPtr) :
    FlowDecodes env [⟨ctaId, put32 env.endian (env.nfCtGetId p)⟩] f { f with id := env.ctId p } := by
  refine Flow.decodes_flat (idAttr_enum env p) (by decide) ?_
  show f.unmarshalFlat (idAttr env p) = _
  rw [Flow.unmarshalFlat, idAttr_enum, adUint32_idAttr]
  rfl

theorem decodes_secctx :
    FlowDecodes env (secctxAttrs env ct) f { f with
      securityContext := match env.secidToSecctx ct.secmark with
        | none => f.securityContext
        | some secctx => secctx ++ [0] } := by
  unfold secctxAttrs
  cases env.secidToSecctx ct.secmark with
  | none => exact .nil _ _
  | some secctx =>
    refine Flow.decodes_nest ctaSecctx (fun x => { f with securityContext := x }) (by decide) ?_
      (decodesTo_secctx f.securityContext secctx)
    intro a ha
    rw [Flow.unmarshalNested, ha]
    rfl

theorem decodes_master (hstock : env.Stock r) (ht : ct.testStatus ipsExpectedBit → ct.masterTuple.OfInet)
    (hf : f.tupleMaster = .zero) :
    FlowDecodes env (masterAttrs env ct) f { f with
      tupleMaster := if ct.testStatus ipsExpectedBit then
          ⟨ct.masterTuple.addrs, ct.masterTuple.proto env, 0⟩
        else f.tupleMaster } := by
  unfold masterAttrs
  by_cases hexp : ct.testStatus ipsExpectedBit
  · have hkids := decodesTo_tuple hstock (ht hexp) ⟨0, 0, 0⟩ 0
    have hzone : zoneAttrs ctaTupleZone ⟨0, 0, 0⟩ 0 = [] := rfl
    rw [hzone, List.append_nil] at hkids
    rw [if_neg (not_not.mpr hexp), if_pos hexp]
    refine Flow.decodes_nest ctaTupleMaster (fun x => { f with tupleMaster := x }) (by decide) ?_ hkids
    intro a ha
    rw [Flow.unmarshalNested, ha, hf]
    rfl
  · rw [if_pos hexp, if_neg hexp]
    exact .nil _ _

theorem decodes_protoinfo (hstock : env.Stock r) (hf : f.protoInfo = ⟨none, none, none⟩) (destroy : Bool)
    (flags : UInt16) (hexp : exportsTcp env ct flags → destroy = false) :
    FlowDecodes env (protoinfoAttrs env ct destroy flags) f
      { f with protoInfo := ct.protoInfo env r destroy flags } := by
  have hfield : ∀ a : Attr, a.enum = ctaProtoinfo → f.unmarshalNested env.endian a
      = Flow.intoNested env.endian a (Flow.zero.protoInfo.unmarshal env.endian) fun x =>
        { f with protoInfo := x } := by
    intro a ha
    rw [Flow.unmarshalNested, ha, hf]
    rfl
  unfold protoinfoAttrs
  by_cases htcp : exportsTcp env ct flags
  · have hinfo : ct.protoInfo env r false flags
        = ⟨some (ct.protoInfoTcp false (some ct.tcp.seqTrack)), none, none⟩ := if_pos htcp
    rw [if_pos htcp, hexp htcp, hinfo]
    exact Flow.decodes_nest ctaProtoinfo (fun x => { f with protoInfo := x }) (by decide) hfield
      (decodesTo_tcpChild (decodesTo_tcpAttrs ct))
  · rw [if_neg htcp]
    cases hproto : env.toNlattr (nfCtProtonum ct) with
    | none =>
      have hinfo : ct.protoInfo env r destroy flags = f.protoInfo := by
        rw [NfConn.protoInfo, if_neg htcp, hproto, hf]
      rw [hinfo]
      exact .nil _ _
    | some toNlattr =>
      exact Flow.decodes_nest ctaProtoinfo (fun x => { f with protoInfo := x }) (by decide) hfield
        (decodesTo_protoInfo hstock ct destroy flags hproto htcp)

theorem decodes_acct (acct : Option NfConnAcct) :
    FlowDecodes env (acctAttrs env acct) f { f with
      countersOrig := match acct with
        | none => f.countersOrig
        | some a => ⟨f.countersOrig.direction, a.orig.packets, a.orig.bytes⟩
      countersReply := match acct with
        | none => f.countersReply
        | some a => ⟨true, a.reply.packets, a.reply.bytes⟩ } := by
  cases acct with
  | none => exact .nil _ _
  | some a =>
    have horig : FlowDecodes env [counterAttr env .original a.orig] f
        { f with countersOrig := ⟨f.countersOrig.direction, a.orig.packets, a.orig.bytes⟩ } := by
      refine Flow.decodes_nest ctaCountersOrig (fun x => { f with countersOrig := x })
        (by decide) ?_ (decodesTo_counter f.countersOrig a.orig)
      intro a ha
      rw [Flow.unmarshalNested, ha]
      rfl
    have hreply : ∀ g : Flow, FlowDecodes env [counterAttr env .reply a.reply] g
        { g with countersReply := ⟨true, a.reply.packets, a.reply.bytes⟩ } := by
      intro g
      refine Flow.decodes_nest ctaCountersReply (fun x => { g with countersReply := x })
        (by decide) ?_ (decodesTo_counter { g.countersReply with direction := true } a.reply)
      intro a ha
      rw [Flow.unmarshalNested, ha]
      rfl
    exact horig.append (hreply _)

theorem decodes_timestamp (hf : f.timestamp.stop = 0) :
    FlowDecodes env (timestampAttrs env ct) f { f with
      timestamp := match ct.tstamp with
        | none => f.timestamp
        | some t => ⟨t.start, t.stop⟩ } := by
  unfold timestampAttrs
  cases ct.tstamp with
  | none => exact .nil _ _
  | some t =>
    refine Flow.decodes_nest ctaTimestamp (fun x => { f with timestamp := x }) (by decide) ?_
      (decodesTo_timestamp f.timestamp hf t)
    intro a ha
    rw [Flow.unmarshalNested, ha]
    rfl

theorem decodes_labels :
    FlowDecodes env (labelsAttrs env ct) f { f with
      labels := match ct.labels with
        | none => f.labels
        | some l =>
          if l.bits0 ≠ 0 ∨ l.bits1 ≠ 0 then put64 env.endian l.bits0 ++ put64 env.endian l.bits1
          else f.labels } := by
  unfold labelsAttrs
  cases ct.labels with
  | none => exact .nil _ _
  | some l =>
    dsimp only
    split
    · have henum : ∀ payload, (⟨ctaLabels, payload⟩ : Attr).enum = ctaLabels := by
        intro payload
        show ctaLabels &&& typeMask &&& 0xff = ctaLabels
        decide
      refine Flow.decodes_flat (henum _) (by decide) ?_
      rw [Flow.unmarshalFlat, henum]
      rfl
    · exact .nil _ _

theorem decodes_seqAdj :
    FlowDecodes env (ctSeqAdjAttrs env ct) f { f with
      seqAdjOrig := match ct.seqadj with
        | none => f.seqAdjOrig
        | some (s, _) =>
          if ct.testStatus ipsSeqAdjustBit then
            ⟨f.seqAdjOrig.direction, s.correctionPos, s.offsetBefore, s.offsetAfter⟩
          else f.seqAdjOrig
      seqAdjReply := match ct.seqadj with
        | none => f.seqAdjReply
        | some (_, s) =>
          if ct.testStatus ipsSeqAdjustBit then ⟨true, s.correctionPos, s.offsetBefore, s.offsetAfter⟩
          else f.seqAdjReply } := by
  unfold ctSeqAdjAttrs
  rcases ct.seqadj with _ | ⟨orig, reply⟩
  · exact .nil _ _
  · dsimp only
    by_cases hbit : ct.testStatus ipsSeqAdjustBit
    · rw [if_neg (not_not.mpr hbit), if_pos hbit, if_pos hbit]
      have horig : FlowDecodes env [seqAdjAttr env orig ctaSeqAdjOrig] f
          { f with seqAdjOrig :=
            ⟨f.seqAdjOrig.direction, orig.correctionPos, orig.offsetBefore, orig.offsetAfter⟩ } := by
        refine Flow.decodes_nest ctaSeqAdjOrig (fun x => { f with seqAdjOrig := x })
          (by decide) ?_ (decodesTo_seqAdj f.seqAdjOrig orig)
        intro a ha
        rw [Flow.unmarshalNested, ha]
        rfl
      have hreply : ∀ g : Flow, FlowDecodes env [seqAdjAttr env reply ctaSeqAdjReply] g
          { g with seqAdjReply :=
            ⟨true, reply.correctionPos, reply.offsetBefore, reply.offsetAfter⟩ } := by
        intro g
        refine Flow.decodes_nest ctaSeqAdjReply (fun x => { g with seqAdjReply := x })
          (by decide) ?_ (decodesTo_seqAdj { g.seqAdjReply with direction := true } reply)
        intro a ha
        rw [Flow.unmarshalNested, ha]
        rfl
      exact horig.append (hreply _)
    · rw [if_pos hbit, if_neg hbit, if_neg hbit]
      exact .nil _ _

theorem decodes_synproxy :
    FlowDecodes env (ctSynproxyAttrs env ct) f { f with
      synProxy := match ct.synproxy with
        | none => f.synProxy
        | some s => ⟨s.isn, s.its, s.tsoff⟩ } := by
  unfold ctSynproxyAttrs
  cases ct.synproxy with
  | none => exact .nil _ _
  | some s =>
    refine Flow.decodes_nest ctaSynproxy (fun x => { f with synProxy := x }) (by decide) ?_
      (decodesTo_synproxy f.synProxy s)
    intro a ha
    rw [Flow.unmarshalNested, ha]
    rfl

/-- What the helper's own callback has to say, if there is a helper. -/
def NfConn.helperInfo (ct : NfConn) : Bytes :=
  match ct.help with
  | some (some h) => h.info
  | _ => []

theorem decodes_help (hstock : ∀ h, ct.help = some (some h) → h.Stock) {room : ℕ} {l : List Attr}
    (hl : helpOut env ct room = some l) :
    ∃ info, (info = [] ∨ info = ct.helperInfo) ∧ ∀ {f : Flow}, f.helper = ⟨[], []⟩ →
      FlowDecodes env l f { f with
        helper := match ct.help with
          | some (some h) => ⟨h.name, info⟩
          | _ => f.helper } := by
  unfold helpOut at hl
  unfold NfConn.helperInfo
  rcases hhelp : ct.help with _ | _ | h
  · rw [hhelp] at hl
    rw [eq_of_fixedOut hl]
    exact ⟨[], .inl rfl, fun _ => .nil _ _⟩
  · rw [hhelp] at hl
    rw [eq_of_fixedOut hl]
    exact ⟨[], .inl rfl, fun _ => .nil _ _⟩
  · rw [hhelp] at hl
    obtain ⟨kids, hkids, rfl⟩ := of_nestOut hl
    obtain ⟨name, fitted, hname, hfitted, rfl⟩ := of_seqOut hkids
    rw [eq_of_fixedOut hname, ← Option.some.inj hfitted]
    obtain ⟨info, hinfo, hdecode⟩ := decodesTo_helper (hstock h hhelp) _
    refine ⟨info, hinfo, fun {f} hf => ?_⟩
    refine Flow.decodes_nest ctaHelp (fun x => { f with helper := x }) (by decide) ?_ hdecode
    intro a ha
    rw [Flow.unmarshalNested, ha, hf]
    rfl

end Parts

/-! ### Whole messages -/

/-- A conntrack the decoder can read: its tuples are of IPv4 or IPv6, its helper is one of the kernel's. -/
structure NfConn.Readable (ct : NfConn) : Prop where
  orig : ct.tupleOrig.OfInet
  reply : ct.tupleReply.OfInet
  master : ct.testStatus ipsExpectedBit → ct.masterTuple.OfInet
  helper : ∀ h, ct.help = some (some h) → h.Stock

/-- A direction's counters, and its sequence adjustment, as the decoder presents them. -/
def NfConnCounter.told (dir : Bool) (c : NfConnCounter) : Counter := ⟨dir, c.packets, c.bytes⟩
def NfCtSeqadj.told (dir : Bool) (s : NfCtSeqadj) : SequenceAdjust :=
  ⟨dir, s.correctionPos, s.offsetBefore, s.offsetAfter⟩

/-- The conntrack `ct` at `p` as the decoder presents it; `info` is what its helper got to say. -/
def NfConn.flow (env : NlEnv) (r : ProtoRecords) (p : CtPtr) (ct : NfConn) (flags : UInt16) (info : Bytes) :
    Flow where
  id := env.ctId p
  timeout := if ct.testStatus ipsOffloadBit then 0 else UInt32.ofNat (ctTimeout env ct)
  timestamp := match ct.tstamp with
    | none => ⟨0, 0⟩
    | some t => ⟨t.start, t.stop⟩
  status := ct.status
  protoInfo :=
    if ct.testStatus ipsOffloadBit then ⟨none, none, none⟩ else ct.protoInfo env r false flags
  helper := match ct.help with
    | some (some h) => ⟨h.name, info⟩
    | _ => ⟨[], []⟩
  zone := ct.zone.shown nfCtDefaultZoneDir
  countersOrig := match ct.acct with
    | none => ⟨false, 0, 0⟩
    | some a => a.orig.told false
  countersReply := match ct.acct with
    | none => ⟨false, 0, 0⟩
    | some a => a.reply.told true
  securityContext := match env.secidToSecctx ct.secmark with
    | none => []
    | some secctx => secctx ++ [0]
  tupleOrig := ⟨ct.tupleOrig.addrs, ct.tupleOrig.proto env, ct.zone.shown nfCtZoneDirOrig⟩
  tupleReply := ⟨ct.tupleReply.addrs, ct.tupleReply.proto env, ct.zone.shown nfCtZoneDirRepl⟩
  tupleMaster :=
    if ct.testStatus ipsExpectedBit then ⟨ct.masterTuple.addrs, ct.masterTuple.proto env, 0⟩ else .zero
  seqAdjOrig := match ct.seqadj with
    | none => ⟨false, 0, 0, 0⟩
    | some (s, _) => if ct.testStatus ipsSeqAdjustBit then s.told false else ⟨false, 0, 0, 0⟩
  seqAdjReply := match ct.seqadj with
    | none => ⟨false, 0, 0, 0⟩
    | some (_, s) => if ct.testStatus ipsSeqAdjustBit then s.told true else ⟨false, 0, 0, 0⟩
  labels := match ct.labels with
    | none => []
    | some l =>
      if l.bits0 ≠ 0 ∨ l.bits1 ≠ 0 then put64 env.endian l.bits0 ++ put64 env.endian l.bits1 else []
  labelsMask := []
  mark := ct.mark
  use := UInt32.ofNat ct.use
  synProxy := match ct.synproxy with
    | none => ⟨0, 0, 0⟩
    | some s => ⟨s.isn, s.its, s.tsoff⟩

section Message

variable {ct : NfConn} {p : CtPtr} {flags : UInt16} {f : Flow}

/-- The start of every message about a conntrack. -/
theorem decodes_identity (hstock : env.Stock r) (horig : ct.tupleOrig.OfInet) (hreply : ct.tupleReply.OfInet) :
    FlowDecodes env (identityAttrs env ct) Flow.zero { Flow.zero with
      tupleOrig := ⟨ct.tupleOrig.addrs, ct.tupleOrig.proto env, ct.zone.shown nfCtZoneDirOrig⟩
      tupleReply := ⟨ct.tupleReply.addrs, ct.tupleReply.proto env, ct.zone.shown nfCtZoneDirRepl⟩
      zone := ct.zone.shown nfCtDefaultZoneDir } :=
  (decodes_tupleOrig hstock horig rfl ct.zone nfCtZoneDirOrig).append
    ((decodes_tupleReply hstock hreply rfl ct.zone nfCtZoneDirRepl).append (decodes_zone rfl ct.zone))

/-- What is told of every conntrack, in front of the timeout. -/
def Flow.withHead (env : NlEnv) (p : CtPtr) (ct : NfConn) (f : Flow) : Flow := { f with
  status := ct.status
  mark := ct.mark
  securityContext := match env.secidToSecctx ct.secmark with
    | none => f.securityContext
    | some secctx => secctx ++ [0]
  id := env.ctId p
  use := UInt32.ofNat ct.use
  tupleMaster := if ct.testStatus ipsExpectedBit then
      ⟨ct.masterTuple.addrs, ct.masterTuple.proto env, 0⟩
    else f.tupleMaster }

theorem decodes_head (hstock : env.Stock r) (hmaster : ct.testStatus ipsExpectedBit → ct.masterTuple.OfInet)
    (hmark : f.mark = 0) (htuple : f.tupleMaster = .zero) :
    FlowDecodes env (headAttrs env p ct) f (f.withHead env p ct) := by
  unfold headAttrs
  refine (decodes_status ct.status).append ?_
  refine (decodes_mark (by exact hmark) true).append ?_
  refine decodes_secctx.append ?_
  refine (decodes_id p).append ?_
  refine (decodes_use (UInt32.ofNat ct.use)).append ?_
  exact decodes_master hstock hmaster (by exact htuple)

/-- The timeout and the protocol information, which a message about an offloaded conntrack does not tell. -/
theorem decodes_rest (hstock : env.Stock r) (htimeout : f.timeout = 0)
    (hinfo : f.protoInfo = ⟨none, none, none⟩) :
    FlowDecodes env (if ct.testStatus ipsOffloadBit then []
      else timeoutAttrs env ct false ++ protoinfoAttrs env ct false flags) f { f with
      timeout := if ct.testStatus ipsOffloadBit then 0 else UInt32.ofNat (ctTimeout env ct)
      protoInfo :=
        if ct.testStatus ipsOffloadBit then ⟨none, none, none⟩ else ct.protoInfo env r false flags } := by
  by_cases hoff : ct.testStatus ipsOffloadBit
  · rw [if_pos hoff, if_pos hoff, if_pos hoff, ← htimeout, ← hinfo]
    exact .nil _ _
  · rw [if_neg hoff, if_neg hoff, if_neg hoff]
    refine (decodes_timeout htimeout false).append ?_
    exact decodes_protoinfo hstock (by exact hinfo) false flags fun _ => rfl

/-- **The attributes of a message decode** to the conntrack's flow. -/
theorem decodes_fillInfo (hstock : env.Stock r) (hct : ct.Readable) {room : ℕ} {l : List Attr}
    (h : fillInfoOut env p ct true flags room = some l) :
    ∃ info, (info = [] ∨ info = ct.helperInfo) ∧ FlowDecodes env l Flow.zero (ct.flow env r p flags info) := by
  obtain ⟨front, rest, hfront, hrest, rfl⟩ := of_seqOut h
  obtain ⟨acct, ext₁, hacct, hext₁, rfl⟩ := of_seqOut hrest
  obtain ⟨tstamp, ext₂, htstamp, hext₂, rfl⟩ := of_seqOut hext₁
  obtain ⟨help, ext₃, hhelp, hext₃, rfl⟩ := of_seqOut hext₂
  obtain ⟨labels, ext₄, hlabels, hext₄, rfl⟩ := of_seqOut hext₃
  obtain ⟨seqadj, synproxy, hseqadj, hsynproxy, rfl⟩ := of_seqOut hext₄
  rw [eq_of_fixedOut hfront, eq_of_fixedOut hacct, eq_of_fixedOut htstamp, eq_of_fixedOut hlabels,
    eq_of_fixedOut hseqadj, eq_of_fixedOut hsynproxy]
  -- what the helper got to say does not depend on the rest
  obtain ⟨info, hcut, hhelper⟩ := @decodes_help env _ hct.helper _ _ hhelp
  refine ⟨info, hcut, ?_⟩
  rw [frontAttrs, infoAttrs, List.append_assoc, List.append_assoc]
  refine (decodes_identity hstock hct.orig hct.reply).append ?_
  refine (decodes_head hstock hct.master rfl rfl).append ?_
  refine (decodes_rest hstock rfl rfl).append ?_
  refine (decodes_acct ct.acct).append ?_
  refine (decodes_timestamp rfl).append ?_
  refine (hhelper rfl).append ?_
  refine decodes_labels.append ?_
  refine decodes_seqAdj.append ?_
  exact decodes_synproxy

end Message

/-- A message is decoded from its attributes. -/
theorem unmarshalFlow_fits {hdr : NlMsgHdr} {l : List Attr} (hfits : ∀ a ∈ l, a.Fits) :
    unmarshalFlow e (nlMsgBytes e hdr l) = l.foldlM (Flow.unmarshalAttr e) Flow.zero := by
  have hdrop : ((nlMsgBytes e hdr l).drop nlmsgHeaderLen).drop nfHeaderLen = attrsBytes e l := by
    rw [List.drop_drop]
    exact drop_nlMsgBytes e hdr l
  have hlen : ¬ ((nlMsgBytes e hdr l).drop nlmsgHeaderLen).length < nfHeaderLen := by
    rw [List.length_drop, length_nlMsgBytes]
    simp only [nlMsgHdrLen, nlmsgHeaderLen, nfHeaderLen]
    omega
  unfold unmarshalFlow
  dsimp only
  rw [if_neg hlen, hdrop, newAttributeDecoder_attrsBytes e hfits]
  exact eachAttr_mk l l.length Flow.zero

theorem unmarshalFlow_nlMsgBytes {hdr : NlMsgHdr} {l : List Attr} (hsize : attrsSize l < 65536) :
    unmarshalFlow e (nlMsgBytes e hdr l) = l.foldlM (Flow.unmarshalAttr e) Flow.zero :=
  unmarshalFlow_fits (fits_of_attrsSize hsize)

/-- The flow says what the call's message does; its helper's own part may have been cut off. -/
def FillCall.Tells (r : ProtoRecords) (c : FillCall) (flow : Flow) : Prop :=
  ∃ info, (info = [] ∨ info = c.ct.helperInfo) ∧ flow = c.ct.flow c.env r c.p c.hdr.flags info

/-- The attributes that fit into `room` bytes, as a message. -/
theorem unmarshalFlow_attrs {c : FillCall} (hext : c.extinfo = true) (hstock : c.env.Stock r)
    (hct : c.ct.Readable) {room : ℕ} {l : List Attr} (hl : c.attrs room = some l) (hsize : attrsSize l < 65536) :
    ∃ flow, unmarshalFlow c.env.endian (nlMsgBytes c.env.endian c.hdr l) = .ok flow ∧ c.Tells r flow := by
  unfold FillCall.attrs at hl
  split at hl
  · rw [hext] at hl
    obtain ⟨info, hinfo, hdecode⟩ := decodes_fillInfo (p := c.p) hstock hct hl
    exact ⟨_, (unmarshalFlow_nlMsgBytes hsize).trans (hdecode hsize), info, hinfo, rfl⟩
  · cases hl

/-- **What a message of `ctnetlink_fill_info` decodes to**: every one that is written decodes, and to the
conntrack's own values. -/
theorem unmarshalFlow_eq {c : FillCall} (hext : c.extinfo = true) (hstock : c.env.Stock r)
    (hct : c.ct.Readable) {b : Buf} {msg : Bytes} (hmsg : c.message b = some msg) :
    ∃ flow, unmarshalFlow c.env.endian msg = .ok flow ∧ c.Tells r flow := by
  rw [FillCall.message_eq, Option.map_eq_some_iff] at hmsg
  obtain ⟨l, hl, rfl⟩ := hmsg
  exact unmarshalFlow_attrs hext hstock hct hl (FillCall.attrs_lt hl)

/-! ### The kernel's callbacks, to try things on -/

def stockRecords : ProtoRecords := ⟨fun _ => ⟨0, 0, 0⟩, fun _ => ⟨0, 0, 0⟩⟩

/-- A host with the kernel's protocols. -/
def stockNlEnv : NlEnv := { sampleNlEnv with
  tupleToNlattr := fun proto => some (l4protoTupleToNlattr proto)
  toNlattr := fun proto =>
    if proto = ipprotoTcp ∨ proto = ipprotoDccp ∨ proto = ipprotoSctp then
      some (stockRecords.toNlattr .little proto)
    else none }

theorem stockNlEnv_stock : stockNlEnv.Stock stockRecords where
  tuple := by
    intro proto f hf
    exact (Option.some.inj hf).symm
  info := by
    intro proto f hf
    by_cases hproto : proto = ipprotoTcp ∨ proto = ipprotoDccp ∨ proto = ipprotoSctp
    · have hsome : stockNlEnv.toNlattr proto = some (stockRecords.toNlattr .little proto) := if_pos hproto
      rw [hsome] at hf
      exact ⟨hproto, (Option.some.inj hf).symm⟩
    · have hnone : stockNlEnv.toNlattr proto = none := if_neg hproto
      rw [hnone] at hf
      cases hf

theorem sampleConn_readable (tcp : IpCtTcp) : (sampleConn tcp).Readable where
  orig := .inl rfl
  reply := .inl rfl
  master := fun h => absurd (show (8 : UInt32).toNat.testBit ipsExpectedBit = true from h) (by decide)
  helper := fun _ h => by cases h

/-- The message of a connection in a filtered dump. -/
def stockCall : FillCall :=
  (FillSource.dumpTable (some (zoneFilter 100))).call stockNlEnv 1 1 ipctnlMsgCtGet 0
    (sampleConn (sampleTcp .established 1000 2000 1003))

theorem unmarshalFlow_eq_sample : ∃ msg flow, stockCall.message (Buf.empty 300 (by decide)) = some msg ∧
    unmarshalFlow .little msg = .ok flow ∧ stockCall.Tells stockRecords flow := by
  have hsome : (stockCall.attrs (Buf.empty 300 (by decide)).room).isSome := by decide +kernel
  obtain ⟨l, hl⟩ := Option.isSome_iff_exists.mp hsome
  have hmsg : stockCall.message (Buf.empty 300 (by decide))
      = some (nlMsgBytes stockCall.env.endian stockCall.hdr l) := by
    rw [FillCall.message_eq, hl]
    rfl
  obtain ⟨flow, hflow⟩ := unmarshalFlow_eq rfl stockNlEnv_stock (sampleConn_readable _) hmsg
  exact ⟨_, flow, hmsg, hflow⟩

end VgwDriver
