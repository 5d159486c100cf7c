import Mathlib.Data.List.DropRight
import VgwDriver.Cli.FlowSpec
import VgwDriver.Netlink.Create

/-!
# Encoding a flow

`Flow.marshal` of the CLI's conntrack library with everything it calls, and the encoder of the attributes:
what the requests for one conntrack are made of.

* `NfAttribute`, `encodeAttributes` — attributes as the library builds them, and their encoding;
* `encodeAttributes_eq` — what is encoded is the tree itself, every attribute of it within its length field;
* `Flow.marshal` — the attributes of a flow, those that are filled;
* `Flow.sent` — what of a flow a request says;
* `unmarshalFlow_marshal` — **a request decodes to what it says**.
-/

namespace VgwDriver

open Base

/-! ### Attributes -/

/-- `netfilter.Attribute`.  The library gives nested attributes no data of their own, and never sets the flag
for the byte order. -/
inductive NfAttribute where
  | flat (type : UInt16) (data : Bytes)
  | nested (type : UInt16) (children : List NfAttribute)

/-- The errors of a request before it is sent. -/
inductive MarshalError where
  | errNeedTuples
  | errBadIPTuple
  | errNeedTimeout
  | errUpdateMaster
  | errTooLarge
  deriving DecidableEq, Repr

/-- What a step towards a request returns. -/
abbrev Marshal := Except MarshalError

/-- `ae.Bytes(typ, b)`: what does not fit behind the length field is refused. -/
def aeBytes (type : UInt16) (b : Bytes) : Marshal Attr :=
  if 65535 - attrHdrLen < b.length then .error .errTooLarge else .ok ⟨type, b⟩

mutual

/-- The body of the loop of `Attribute.encode`. -/
def NfAttribute.encode (e : Endian) : NfAttribute → Marshal Attr
  | .flat type data => aeBytes type data
  | .nested type children => do
    let kids ← encodeAttributes e children
    aeBytes (type ||| nestedFlag) (attrsBytes e kids)

/-- `encodeAttributes`. -/
def encodeAttributes (e : Endian) : List NfAttribute → Marshal (List Attr)
  | [] => .ok []
  | a :: l => do
    let a ← a.encode e
    let l ← encodeAttributes e l
    pure (a :: l)

end

mutual

/-- An attribute, whatever its length. -/
def NfAttribute.attr (e : Endian) : NfAttribute → Attr
  | .flat type data => ⟨type, data⟩
  | .nested type children => nestAttr e type (attrs e children)

/-- Those of a list. -/
def NfAttribute.attrs (e : Endian) : List NfAttribute → List Attr
  | [] => []
  | a :: l => a.attr e :: attrs e l

end

theorem NfAttribute.attrs_eq_map (e : Endian) (l : List NfAttribute) : attrs e l = l.map (attr e) := by
  induction l with
  | nil => rfl
  | cons a l ih => exact congrArg (_ :: ·) ih

theorem aeBytes_eq_ok {type : UInt16} {b : Bytes} {a : Attr} (h : aeBytes type b = .ok a) :
    a = ⟨type, b⟩ ∧ a.Fits := by
  unfold aeBytes at h
  by_cases hlen : 65535 - attrHdrLen < b.length
  · rw [if_pos hlen] at h
    cases h
  · rw [if_neg hlen] at h
    cases h
    refine ⟨rfl, ?_⟩
    show attrHdrLen + b.length < 65536
    simp only [attrHdrLen] at hlen ⊢
    omega

mutual

theorem NfAttribute.encode_eq {e : Endian} (a : NfAttribute) {out : Attr} (h : a.encode e = .ok out) :
    out = a.attr e ∧ out.Fits := by
  cases a with
  | flat type data =>
    rw [NfAttribute.encode] at h
    rw [NfAttribute.attr]
    exact aeBytes_eq_ok h
  | nested type children =>
    rw [NfAttribute.encode] at h
    obtain ⟨kids, hkids, hout⟩ := bind_eq_ok h
    rw [NfAttribute.attr, ← (encodeAttributes_eq children hkids).1]
    exact aeBytes_eq_ok hout

/-- **What is encoded** is the tree, each of its attributes within its length field. -/
theorem encodeAttributes_eq {e : Endian} (l : List NfAttribute) {out : List Attr}
    (h : encodeAttributes e l = .ok out) : out = NfAttribute.attrs e l ∧ ∀ a ∈ out, a.Fits := by
  cases l with
  | nil =>
    rw [encodeAttributes] at h
    cases h
    exact ⟨rfl, fun a ha => by cases ha⟩
  | cons a l =>
    rw [encodeAttributes] at h
    obtain ⟨first, hfirst, h⟩ := bind_eq_ok h
    obtain ⟨rest, hrest, h⟩ := bind_eq_ok h
    cases h
    obtain ⟨hattr, hfits⟩ := a.encode_eq hfirst
    obtain ⟨hattrs, hall⟩ := encodeAttributes_eq l hrest
    refine ⟨by rw [NfAttribute.attrs, hattr, hattrs], fun b hb => ?_⟩
    rcases List.mem_cons.mp hb with rfl | hb
    · exact hfits
    · exact hall b hb

end

mutual

/-- An attribute within its length field has its children within theirs. -/
theorem NfAttribute.encode_ok {e : Endian} (a : NfAttribute) (h : (a.attr e).Fits) :
    a.encode e = .ok (a.attr e) := by
  have hbytes : ∀ (type : UInt16) (b : Bytes), (⟨type, b⟩ : Attr).Fits → aeBytes type b = .ok ⟨type, b⟩ := by
    intro type b hfits
    have hlen : attrHdrLen + b.length < 65536 := hfits
    exact if_neg (by omega)
  cases a with
  | flat type data =>
    rw [NfAttribute.attr] at h ⊢
    rw [NfAttribute.encode]
    exact hbytes type data h
  | nested type children =>
    rw [NfAttribute.attr] at h ⊢
    have hlen : attrHdrLen + (attrsBytes e (NfAttribute.attrs e children)).length < 65536 := h
    rw [length_attrsBytes] at hlen
    have hkids := encodeAttributes_ok children (fits_of_attrsSize (Nat.lt_of_le_of_lt (Nat.le_add_left _ _) hlen))
    rw [NfAttribute.encode, hkids, ok_bind]
    exact hbytes _ _ h

theorem encodeAttributes_ok {e : Endian} (l : List NfAttribute) (h : ∀ a ∈ NfAttribute.attrs e l, a.Fits) :
    encodeAttributes e l = .ok (NfAttribute.attrs e l) := by
  cases l with
  | nil => rw [encodeAttributes, NfAttribute.attrs]
  | cons a l =>
    rw [NfAttribute.attrs] at h ⊢
    rw [encodeAttributes, a.encode_ok (h _ List.mem_cons_self), ok_bind,
      encodeAttributes_ok l fun b hb => h b (List.mem_cons_of_mem _ hb), ok_bind]
    rfl

end

/-! ### Tuples -/

/-- `Addr.IsValid`, `Addr.Is4` and `Addr.Is6`. -/
def addrIsValid (addr : Bytes) : Bool := addr ≠ []
def addrIs4 (addr : Bytes) : Bool := addr.length = 4
def addrIs6 (addr : Bytes) : Bool := addr.length = 16

/-- `netfilter.Uint16Bytes`, `netfilter.Uint32Bytes` and `netfilter.Uint64Bytes`. -/
def uint16Bytes (u : UInt16) : Bytes := put16 .big u
def uint32Bytes (u : UInt32) : Bytes := put32 .big u
def uint64Bytes (u : UInt64) : Bytes := put64 .big u

def IPTuple.filled (ipt : IPTuple) : Bool := addrIsValid ipt.sourceAddress && addrIsValid ipt.destinationAddress

/-- `IPTuple.marshal`. -/
def IPTuple.marshal (ipt : IPTuple) : Marshal NfAttribute :=
  if ¬ addrIsValid ipt.sourceAddress ∨ ¬ addrIsValid ipt.destinationAddress then .error .errBadIPTuple
  else if addrIs4 ipt.sourceAddress ∧ addrIs4 ipt.destinationAddress then
    .ok (.nested ctaTupleIp
      [.flat ctaIpV4Src ipt.sourceAddress, .flat ctaIpV4Dst ipt.destinationAddress])
  else if addrIs6 ipt.sourceAddress ∧ addrIs6 ipt.destinationAddress then
    .ok (.nested ctaTupleIp
      [.flat ctaIpV6Src ipt.sourceAddress, .flat ctaIpV6Dst ipt.destinationAddress])
  else .error .errBadIPTuple

/-- `IPTuple.IsIPv6`. -/
def IPTuple.isIPv6 (ipt : IPTuple) : Bool := addrIs6 ipt.sourceAddress && addrIs6 ipt.destinationAddress

def ProtoTuple.filled (pt : ProtoTuple) : Bool := pt.protocol ≠ 0

/-- What stands behind the protocol's number. -/
def ProtoTuple.marshalRest (pt : ProtoTuple) : List NfAttribute :=
  if pt.protocol = ipprotoIcmp then
    [.flat ctaProtoIcmpType [pt.icmpType], .flat ctaProtoIcmpCode [pt.icmpCode],
      .flat ctaProtoIcmpId (uint16Bytes pt.icmpID)]
  else if pt.protocol = ipprotoIcmpv6 then
    [.flat ctaProtoIcmpv6Type [pt.icmpType], .flat ctaProtoIcmpv6Code [pt.icmpCode],
      .flat ctaProtoIcmpv6Id (uint16Bytes pt.icmpID)]
  else
    [.flat ctaProtoSrcPort (uint16Bytes pt.sourcePort), .flat ctaProtoDstPort (uint16Bytes pt.destinationPort)]

/-- `ProtoTuple.marshal`. -/
def ProtoTuple.marshal (pt : ProtoTuple) : NfAttribute :=
  .nested ctaTupleProto (.flat ctaProtoNum [pt.protocol] :: pt.marshalRest)

def Tuple.filled (t : Tuple) : Bool := t.ip.filled && t.proto.filled

/-- `Tuple.marshal`. -/
def Tuple.marshal (t : Tuple) (type : UInt16) : Marshal NfAttribute := do
  let ipt ← t.ip.marshal
  pure (.nested type ([ipt, t.proto.marshal] ++
    if t.zone ≠ 0 then [.flat ctaTupleZone (uint16Bytes t.zone)] else []))

/-! ### The other attributes -/

/-- An attribute that is sent if there is something in it. -/
def attrIf (filled : Bool) (a : NfAttribute) : List NfAttribute := if filled then [a] else []

def Helper.filled (hlp : Helper) : Bool := hlp.name ≠ [] || hlp.info.length ≠ 0

/-- `Helper.marshal`. -/
def Helper.marshal (hlp : Helper) : NfAttribute :=
  .nested ctaHelp (.flat ctaHelpName hlp.name :: attrIf (0 < hlp.info.length) (.flat ctaHelpInfo hlp.info))

/-- `ProtoInfoTCP.marshal`. -/
def ProtoInfoTCP.marshal (tpi : ProtoInfoTCP) : NfAttribute :=
  .nested ctaProtoinfoTcp
    ([.flat ctaProtoinfoTcpState [tpi.state], .flat ctaProtoinfoTcpWscaleOriginal [tpi.originalWindowScale],
      .flat ctaProtoinfoTcpWscaleReply [tpi.replyWindowScale]] ++
    if tpi.originalFlags ≠ 0 ∨ tpi.replyFlags ≠ 0 then
      [.flat ctaProtoinfoTcpFlagsOriginal (uint16Bytes tpi.originalFlags),
        .flat ctaProtoinfoTcpFlagsReply (uint16Bytes tpi.replyFlags)]
    else [])

/-- `ProtoInfoDCCP.marshal`. -/
def ProtoInfoDCCP.marshal (dpi : ProtoInfoDCCP) : NfAttribute :=
  .nested ctaProtoinfoDccp
    [.flat ctaProtoinfoDccpState [dpi.state], .flat ctaProtoinfoDccpRole [dpi.role],
      .flat ctaProtoinfoDccpHandshakeSeq (uint64Bytes dpi.handshakeSeq)]

/-- `ProtoInfoSCTP.marshal`. -/
def ProtoInfoSCTP.marshal (spi : ProtoInfoSCTP) : NfAttribute :=
  .nested ctaProtoinfoSctp
    [.flat ctaProtoinfoSctpState [spi.state], .flat ctaProtoinfoSctpVtagOriginal (uint32Bytes spi.vtagOriginal),
      .flat ctaProtoinfoSctpVtagReply (uint32Bytes spi.vtagReply)]

/-- `ProtoInfo.marshal`: the first of the three. -/
def ProtoInfo.marshal (pi : ProtoInfo) : NfAttribute :=
  .nested ctaProtoinfo <|
    match pi.tcp, pi.dccp, pi.sctp with
    | some tpi, _, _ => [tpi.marshal]
    | none, some dpi, _ => [dpi.marshal]
    | none, none, some spi => [spi.marshal]
    | none, none, none => []

def SequenceAdjust.filled (seq : SequenceAdjust) : Bool :=
  seq.position ≠ 0 && seq.offsetAfter ≠ 0 && seq.offsetBefore ≠ 0

def SequenceAdjust.children (seq : SequenceAdjust) : List NfAttribute :=
  [.flat ctaSeqadjCorrectionPos (uint32Bytes seq.position),
    .flat ctaSeqadjOffsetBefore (uint32Bytes seq.offsetBefore),
    .flat ctaSeqadjOffsetAfter (uint32Bytes seq.offsetAfter)]

/-- `SequenceAdjust.marshal`: the record's own direction counts too. -/
def SequenceAdjust.marshal (seq : SequenceAdjust) (reply : Bool) : NfAttribute :=
  .nested (if seq.direction || reply then ctaSeqAdjReply else ctaSeqAdjOrig) seq.children

def SynProxy.filled (sp : SynProxy) : Bool := sp.isn ≠ 0 || sp.its ≠ 0 || sp.tsOff ≠ 0

/-- `SynProxy.marshal`. -/
def SynProxy.marshal (sp : SynProxy) : NfAttribute :=
  .nested ctaSynproxy
    [.flat ctaSynproxyIsn (uint32Bytes sp.isn), .flat ctaSynproxyIts (uint32Bytes sp.its),
      .flat ctaSynproxyTsoff (uint32Bytes sp.tsOff)]

/-! ### Flows -/

/-- A tuple that is sent if it is filled. -/
def Tuple.marshalIf (t : Tuple) (type : UInt16) : Marshal (List NfAttribute) :=
  if t.filled then do
    let a ← t.marshal type
    pure [a]
  else pure []

/-- `Flow.marshal`. -/
def Flow.marshal (f : Flow) : Marshal (List NfAttribute) :=
  if ¬ f.tupleOrig.filled ∧ ¬ f.tupleReply.filled then .error .errNeedTuples
  else do
    let orig ← f.tupleOrig.marshalIf ctaTupleOrig
    let reply ← f.tupleReply.marshalIf ctaTupleReply
    let master ← f.tupleMaster.marshalIf ctaTupleMaster
    pure
      [orig, reply, attrIf (f.timeout ≠ 0) (.flat ctaTimeout (uint32Bytes f.timeout)),
        attrIf (f.status ≠ 0) (.flat ctaStatus (uint32Bytes f.status)),
        attrIf (f.mark ≠ 0) (.flat ctaMark (uint32Bytes f.mark)),
        attrIf (f.zone ≠ 0) (.flat ctaZone (uint16Bytes f.zone)),
        attrIf f.protoInfo.filled f.protoInfo.marshal, attrIf f.helper.filled f.helper.marshal, master,
        attrIf f.seqAdjOrig.filled (f.seqAdjOrig.marshal false),
        attrIf f.seqAdjReply.filled (f.seqAdjReply.marshal true),
        attrIf f.synProxy.filled f.synProxy.marshal,
        attrIf (0 < f.labels.length) (.flat ctaLabels f.labels),
        attrIf (0 < f.labelsMask.length) (.flat ctaLabelsMask f.labelsMask)].flatten

/-! ### What a request says -/

/-- The fields of the protocol. -/
def ProtoTuple.sent (pt : ProtoTuple) : ProtoTuple :=
  if pt.protocol = ipprotoIcmp then
    ⟨ipprotoIcmp, 0, 0, true, false, pt.icmpID, pt.icmpType, pt.icmpCode⟩
  else if pt.protocol = ipprotoIcmpv6 then
    ⟨ipprotoIcmpv6, 0, 0, false, true, pt.icmpID, pt.icmpType, pt.icmpCode⟩
  else ⟨pt.protocol, pt.sourcePort, pt.destinationPort, false, false, 0, 0, 0⟩

def Tuple.sent (t : Tuple) : Tuple := if t.filled then ⟨t.ip, t.proto.sent, t.zone⟩ else .zero

/-- One of the three, and of TCP without the record of the module. -/
def ProtoInfo.sent (pi : ProtoInfo) : ProtoInfo :=
  match pi.tcp, pi.dccp, pi.sctp with
  | some tpi, _, _ => ⟨some { tpi with seqTrack := none }, none, none⟩
  | none, some dpi, _ => ⟨none, some dpi, none⟩
  | none, none, spi => ⟨none, none, spi⟩

/-- The name ends in front of the zero bytes at its end. -/
def Helper.sent (hlp : Helper) : Helper := { hlp with name := adString ⟨ctaHelpName, hlp.name⟩ }

/-- The record for the original direction, unless its own direction is the reply. -/
def SequenceAdjust.sentOrig (orig : SequenceAdjust) : SequenceAdjust :=
  if orig.filled ∧ ¬ orig.direction then orig else ⟨false, 0, 0, 0⟩

/-- The last of the records that are sent for the reply. -/
def SequenceAdjust.sentReply (orig reply : SequenceAdjust) : SequenceAdjust :=
  if reply.filled then { reply with direction := true }
  else if orig.filled ∧ orig.direction then orig
  else ⟨false, 0, 0, 0⟩

/-- **What of a flow a request says.** -/
def Flow.sent (f : Flow) : Flow := { Flow.zero with
  timeout := f.timeout
  status := f.status
  protoInfo := f.protoInfo.sent
  helper := f.helper.sent
  zone := f.zone
  tupleOrig := f.tupleOrig.sent
  tupleReply := f.tupleReply.sent
  tupleMaster := f.tupleMaster.sent
  seqAdjOrig := f.seqAdjOrig.sentOrig
  seqAdjReply := f.seqAdjOrig.sentReply f.seqAdjReply
  labels := f.labels
  labelsMask := f.labelsMask
  mark := f.mark
  synProxy := f.synProxy }

/-! ### The children -/

section Children

variable {e : Endian}

open NfAttribute

theorem decodesTo_ipTuple {ipt : IPTuple} {a : NfAttribute} (h : ipt.marshal = .ok a) :
    ∃ kids, a = .nested ctaTupleIp kids ∧ DecodesTo IPTuple.unmarshal (attrs e kids) ipt := by
  have haddr : ∀ addr : Bytes, addrIs4 addr ∨ addrIs6 addr → addrFromSlice addr = some addr :=
    fun addr h => if_pos (by simpa [addrIs4, addrIs6] using h)
  have henum : ∀ type payload, (⟨type, payload⟩ : Attr).enum = type &&& typeMask &&& 0xff := fun _ _ => rfl
  unfold IPTuple.marshal at h
  split at h
  · cases h
  · split at h
    · rename_i h4
      cases h
      refine ⟨_, rfl, fun _ => ?_⟩
      simp +decide [IPTuple.unmarshal, attrs, attr, henum, haddr _ (.inl h4.1), haddr _ (.inl h4.2)]
      rfl
    · split at h
      · rename_i h6
        cases h
        refine ⟨_, rfl, fun _ => ?_⟩
        simp +decide [IPTuple.unmarshal, attrs, attr, henum, haddr _ (.inr h6.1), haddr _ (.inr h6.2)]
        rfl
      · cases h

/-- What stands behind the number of the protocol. -/
theorem decodes_protoRest (pt : ProtoTuple) :
    Decodes ProtoTuple.unmarshalAttr (attrs e pt.marshalRest)
      ⟨pt.protocol, 0, 0, pt.protocol = ipprotoIcmp, pt.protocol = ipprotoIcmpv6, 0, 0, 0⟩ pt.sent := by
  have hu8 : ∀ type x, (nlaU8 type x).enum = type &&& typeMask &&& 0xff := fun _ _ => rfl
  have hbe16 : ∀ type x, (nlaBe16 type x).enum = type &&& typeMask &&& 0xff := fun _ _ => rfl
  have hflat8 : ∀ type x, attr e (.flat type [x]) = nlaU8 type x := fun _ _ => rfl
  have hflat16 : ∀ type x, attr e (.flat type (uint16Bytes x)) = nlaBe16 type x := fun _ _ => rfl
  intro _
  unfold ProtoTuple.marshalRest ProtoTuple.sent
  by_cases hicmp : pt.protocol = ipprotoIcmp
  · rw [if_pos hicmp, if_pos hicmp, hicmp]
    simp +decide [ProtoTuple.unmarshalAttr, attrs, hflat8, hflat16, hu8, hbe16]
    rfl
  · rw [if_neg hicmp, if_neg hicmp]
    by_cases hicmpv6 : pt.protocol = ipprotoIcmpv6
    · rw [if_pos hicmpv6, if_pos hicmpv6, hicmpv6]
      simp +decide [ProtoTuple.unmarshalAttr, attrs, hflat8, hflat16, hu8, hbe16]
      rfl
    · rw [if_neg hicmpv6, if_neg hicmpv6]
      simp +decide [ProtoTuple.unmarshalAttr, attrs, hflat16, hbe16, hicmp, hicmpv6]
      rfl

theorem decodesTo_protoTuple (pt : ProtoTuple) :
    DecodesTo ProtoTuple.unmarshal (attrs e (.flat ctaProtoNum [pt.protocol] :: pt.marshalRest)) pt.sent := by
  intro hsize
  have hloop : Decodes ProtoTuple.unmarshalAttr
      (nlaU8 ctaProtoNum pt.protocol :: attrs e pt.marshalRest) ⟨0, 0, 0, false, false, 0, 0, 0⟩ pt.sent :=
    .cons (ProtoTuple.unmarshalAttr_num pt.protocol) (decodes_protoRest pt)
  exact hloop.eachAttr hsize

/-- **A tuple that is sent decodes.** -/
theorem decodesTo_sentTuple {t : Tuple} {type : UInt16} {a : NfAttribute} (ht : t.filled)
    (h : t.marshal type = .ok a) :
    ∃ kids, a = .nested type kids ∧ DecodesTo (Tuple.zero.unmarshal e) (attrs e kids) t.sent := by
  obtain ⟨ipt, hipt, h⟩ := bind_eq_ok h
  cases h
  obtain ⟨kids, rfl, hip⟩ := @decodesTo_ipTuple e _ _ hipt
  refine ⟨_, rfl, fun hsize => ?_⟩
  have hipEnum := @nestAttr_enum ctaTupleIp (by decide) e (attrs e kids)
  have hprotoEnum := @nestAttr_enum ctaTupleProto (by decide) e
    (attrs e (.flat ctaProtoNum [t.proto.protocol] :: t.proto.marshalRest))
  have hzone : Decodes (Tuple.unmarshalAttr e)
      (attrs e (if t.zone ≠ 0 then [.flat ctaTupleZone (uint16Bytes t.zone)] else []))
      ⟨t.ip, t.proto.sent, 0⟩ ⟨t.ip, t.proto.sent, t.zone⟩ := by
    by_cases hid : t.zone = 0
    · rw [if_neg (not_not.mpr hid), hid]
      exact .nil _ _
    · rw [if_pos hid]
      refine .single ?_
      have henum := @nlaBe16_enum ctaTupleZone (by decide) t.zone
      show Tuple.unmarshalAttr e _ (nlaBe16 ctaTupleZone t.zone) = _
      simp +decide [Tuple.unmarshalAttr, henum]
  have hloop : Decodes (Tuple.unmarshalAttr e)
      ([nestAttr e ctaTupleIp (attrs e kids),
        nestAttr e ctaTupleProto (attrs e (.flat ctaProtoNum [t.proto.protocol] :: t.proto.marshalRest))] ++
      attrs e (if t.zone ≠ 0 then [.flat ctaTupleZone (uint16Bytes t.zone)] else []))
      Tuple.zero ⟨t.ip, t.proto.sent, t.zone⟩ := by
    refine .append (.consNest ⟨t.ip, Tuple.zero.proto, 0⟩ (fun hkids => ?_) (.nest fun hkids => ?_)) hzone
    · unfold Tuple.unmarshalAttr
      rw [if_pos hipEnum, hip.nested _ _ hkids]
      rfl
    · unfold Tuple.unmarshalAttr
      rw [if_neg (by rw [hprotoEnum]; decide), if_pos hprotoEnum,
        (decodesTo_protoTuple t.proto).nested _ _ hkids]
      rfl
  unfold Tuple.unmarshal Tuple.sent
  rw [if_pos ht, if_neg (by simp [attrs])]
  exact hloop.eachAttr hsize

theorem decodesTo_sentHelper (hlp : Helper) :
    DecodesTo (Helper.unmarshal ⟨[], []⟩)
      (attrs e (.flat ctaHelpName hlp.name :: attrIf (0 < hlp.info.length) (.flat ctaHelpInfo hlp.info)))
      hlp.sent := by
  intro _
  have hname : (⟨ctaHelpName, hlp.name⟩ : Attr).enum = ctaHelpName :=
    show ctaHelpName &&& typeMask &&& 0xff = ctaHelpName by decide
  have hinfo : (⟨ctaHelpInfo, hlp.info⟩ : Attr).enum = ctaHelpInfo :=
    show ctaHelpInfo &&& typeMask &&& 0xff = ctaHelpInfo by decide
  by_cases hempty : hlp.info = []
  · simp +decide [Helper.unmarshal, Helper.sent, attrs, attr, attrIf, hname, hempty]
  · have hpos : 0 < hlp.info.length := List.length_pos_iff.mpr hempty
    simp +decide [Helper.unmarshal, Helper.sent, attrs, attr, attrIf, hname, hinfo, hpos]
    rfl

/-- The children of TCP's attribute. -/
theorem decodesTo_sentTcp (tpi : ProtoInfoTCP) :
    ∃ kids, tpi.marshal = .nested ctaProtoinfoTcp kids ∧
      DecodesTo (ProtoInfoTCP.unmarshal e) (attrs e kids) { tpi with seqTrack := none } := by
  have hstate := @nlaU8_enum ctaProtoinfoTcpState (by decide) tpi.state
  have hwscale := @nlaU8_enum ctaProtoinfoTcpWscaleOriginal (by decide) tpi.originalWindowScale
  have hwscale' := @nlaU8_enum ctaProtoinfoTcpWscaleReply (by decide) tpi.replyWindowScale
  have hflags := @nlaBe16_enum ctaProtoinfoTcpFlagsOriginal (by decide) tpi.originalFlags
  have hflags' := @nlaBe16_enum ctaProtoinfoTcpFlagsReply (by decide) tpi.replyFlags
  have hflat8 : ∀ type x, attr e (.flat type [x]) = nlaU8 type x := fun _ _ => rfl
  have hflat16 : ∀ type x, attr e (.flat type (uint16Bytes x)) = nlaBe16 type x := fun _ _ => rfl
  refine ⟨_, rfl, fun _ => ?_⟩
  by_cases hzero : tpi.originalFlags = 0 ∧ tpi.replyFlags = 0
  · simp +decide [ProtoInfoTCP.unmarshal, ProtoInfoTCP.unmarshalAttr, attrs, hflat8, hstate, hwscale, hwscale',
      hzero.1, hzero.2]
    rfl
  · have hsent : tpi.originalFlags ≠ 0 ∨ tpi.replyFlags ≠ 0 := not_and_or.mp hzero
    rw [if_pos hsent]
    simp +decide [ProtoInfoTCP.unmarshal, ProtoInfoTCP.unmarshalAttr, attrs, hflat8, hflat16, hstate, hwscale,
      hwscale', hflags, hflags']
    rfl

/-- **What is known of the protocol** decodes. -/
theorem decodesTo_sentProtoInfo {pi : ProtoInfo} (hfilled : pi.filled) :
    ∃ kids, pi.marshal = .nested ctaProtoinfo kids ∧
      DecodesTo (Flow.zero.protoInfo.unmarshal e) (attrs e kids) pi.sent := by
  obtain ⟨tcp, dccp, sctp⟩ := pi
  rcases tcp with _ | tpi
  · rcases dccp with _ | dpi
    · rcases sctp with _ | spi
      · cases hfilled
      · refine ⟨_, rfl, ?_⟩
        refine decodesTo_child ctaProtoinfoSctp (fun y => ⟨none, none, some y⟩) (by decide) ?_
          (decodesTo_sctp spi false)
        intro a ha
        unfold ProtoInfo.unmarshal
        simp +decide [ha]
        rfl
    · refine ⟨_, rfl, ?_⟩
      refine decodesTo_child ctaProtoinfoDccp (fun y => ⟨none, some y, none⟩) (by decide) ?_
        (decodesTo_dccp dpi false)
      intro a ha
      unfold ProtoInfo.unmarshal
      simp +decide [ha]
      rfl
  · obtain ⟨kids, htcp, hdecode⟩ := @decodesTo_sentTcp e tpi
    refine ⟨[.nested ctaProtoinfoTcp kids], ?_, decodesTo_tcpChild hdecode⟩
    rw [← htcp]
    rfl

theorem decodesTo_sentSeqAdj (seq₀ seq : SequenceAdjust) :
    DecodesTo seq₀.unmarshal (attrs e seq.children) { seq with direction := seq₀.direction } :=
  decodesTo_seqAdj seq₀ ⟨seq.position, seq.offsetBefore, seq.offsetAfter⟩

end Children

/-! ### The attributes of a request -/

section Flow

variable {e : Endian} {f g : Flow}

open NfAttribute

/-- What the loop over a request's attributes does with a list of them. -/
abbrev SentDecodes (e : Endian) (l : List NfAttribute) : Flow → Flow → Prop :=
  DecodesFit (Flow.unmarshalAttr e) (attrs e l)

theorem SentDecodes.append {l₁ l₂ : List NfAttribute} {h : Flow} (h₁ : SentDecodes e l₁ f g)
    (h₂ : SentDecodes e l₂ g h) : SentDecodes e (l₁ ++ l₂) f h := by
  unfold SentDecodes
  rw [attrs_eq_map, List.map_append, ← attrs_eq_map, ← attrs_eq_map]
  exact DecodesFit.append h₁ h₂

/-- An attribute that is sent if there is something in it. -/
theorem sentDecodes_attrIf {filled : Bool} {a : NfAttribute} (hsent : filled = true → SentDecodes e [a] f g)
    (hskip : filled = false → g = f) : SentDecodes e (attrIf filled a) f g := by
  cases filled with
  | true => exact hsent rfl
  | false =>
    rw [hskip rfl]
    exact .nil _ _

/-- **A flat attribute** that is read sets its field. -/
theorem sentDecodes_flat {type : UInt16} {data : Bytes} (htype : type ∉ Flow.nestedTypes)
    (henum : type &&& typeMask &&& 0xff = type) (h : f.unmarshalFlat ⟨type, data⟩ = .ok g) :
    SentDecodes e [.flat type data] f g := by
  refine DecodesFit.single ?_
  show Flow.unmarshalAttr e f ⟨type, data⟩ = .ok g
  rw [Flow.unmarshalAttr_flat (show type &&& typeMask &&& 0xff ∉ _ from henum.symm ▸ htype), h]

/-- **A nested attribute** whose children decode sets its field. -/
theorem sentDecodes_nested {α : Type} {type : UInt16} (set : α → Flow) {fn : AttributeDecoder → Decode α}
    {kids : List NfAttribute} {x : α} (htype : type ∈ Flow.nestedTypes)
    (hfield : ∀ a : Attr, a.enum = type → f.unmarshalNested e a = Flow.intoNested e a fn set)
    (h : DecodesTo fn (attrs e kids) x) : SentDecodes e [.nested type kids] f (set x) :=
  (Flow.decodes_nest type set htype hfield h).fit

theorem sentDecodes_be32 {type : UInt16} (set : UInt32 → Flow) (htype : type ∉ Flow.nestedTypes)
    (henum : type &&& typeMask &&& 0xff = type)
    (hfield : ∀ a : Attr, a.enum = type → f.unmarshalFlat a = adUint32 a >>= fun x => pure (set x)) {x : UInt32}
    (hzero : set 0 = f) :
    SentDecodes e (attrIf (x ≠ 0) (.flat type (uint32Bytes x))) f (set x) := by
  refine sentDecodes_attrIf (fun _ => ?_) fun hx => ?_
  · refine sentDecodes_flat htype henum ?_
    show f.unmarshalFlat (nlaBe32 type x) = _
    rw [hfield _ (nlaBe32_enum henum x), adUint32_nlaBe32]
    rfl
  · have hx : x = 0 := by simpa using hx
    rw [hx, hzero]

theorem sentDecodes_tuple {type : UInt16} (set : Tuple → Flow) {t : Tuple} {l : List NfAttribute}
    (htype : type ∈ Flow.nestedTypes)
    (hfield : ∀ a : Attr, a.enum = type →
      f.unmarshalNested e a = Flow.intoNested e a (Tuple.zero.unmarshal e) set)
    (hzero : set .zero = f) (h : t.marshalIf type = .ok l) : SentDecodes e l f (set t.sent) := by
  unfold Tuple.marshalIf at h
  by_cases ht : t.filled
  · rw [if_pos ht] at h
    obtain ⟨a, ha, h⟩ := bind_eq_ok h
    cases h
    obtain ⟨kids, rfl, hdecode⟩ := @decodesTo_sentTuple e _ _ _ ht ha
    exact sentDecodes_nested set htype hfield hdecode
  · rw [if_neg ht] at h
    cases h
    rw [Tuple.sent, if_neg ht, hzero]
    exact .nil _ _

theorem sentDecodes_zone (hg : g.zone = 0) (zone : UInt16) :
    SentDecodes e (attrIf (zone ≠ 0) (.flat ctaZone (uint16Bytes zone))) g { g with zone := zone } := by
  refine sentDecodes_attrIf (fun _ => ?_) fun hz => ?_
  · refine sentDecodes_flat (by decide) (by decide) ?_
    have henum := @nlaBe16_enum ctaZone (by decide) zone
    show g.unmarshalFlat (nlaBe16 ctaZone zone) = _
    rw [Flow.unmarshalFlat, henum, adUint16_nlaBe16]
    rfl
  · have hz : zone = 0 := by simpa using hz
    rw [hz, ← hg]

theorem sentDecodes_protoInfo (hg : g.protoInfo = ⟨none, none, none⟩) (pi : ProtoInfo) :
    SentDecodes e (attrIf pi.filled pi.marshal) g { g with protoInfo := pi.sent } := by
  refine sentDecodes_attrIf (fun hfilled => ?_) fun hempty => ?_
  · obtain ⟨kids, hmarshal, hdecode⟩ := @decodesTo_sentProtoInfo e _ hfilled
    rw [hmarshal]
    refine sentDecodes_nested (fun x => { g with protoInfo := x }) (by decide) ?_ hdecode
    intro a ha
    rw [Flow.unmarshalNested, ha, hg]
    rfl
  · obtain ⟨tcp, dccp, sctp⟩ := pi
    cases tcp <;> cases dccp <;> cases sctp <;> cases hempty
    show { g with protoInfo := ⟨none, none, none⟩ } = g
    rw [← hg]

theorem sentDecodes_helper (hg : g.helper = ⟨[], []⟩) (hlp : Helper) :
    SentDecodes e (attrIf hlp.filled hlp.marshal) g { g with helper := hlp.sent } := by
  refine sentDecodes_attrIf (fun _ => ?_) fun hempty => ?_
  · refine sentDecodes_nested (fun x => { g with helper := x }) (by decide) ?_ (decodesTo_sentHelper hlp)
    intro a ha
    rw [Flow.unmarshalNested, ha, hg]
    rfl
  · obtain ⟨name, info⟩ := hlp
    have hboth : name = [] ∧ info = [] := by simpa [Helper.filled] using hempty
    obtain ⟨rfl, rfl⟩ := hboth
    show { g with helper := ⟨[], []⟩ } = g
    rw [← hg]

theorem sentDecodes_bytes {type : UInt16} (set : Bytes → Flow) (htype : type ∉ Flow.nestedTypes)
    (henum : type &&& typeMask &&& 0xff = type)
    (hfield : ∀ a : Attr, a.enum = type → f.unmarshalFlat a = .ok (set a.payload)) (hzero : set [] = f)
    (bs : Bytes) : SentDecodes e (attrIf (0 < bs.length) (.flat type bs)) f (set bs) := by
  refine sentDecodes_attrIf (fun _ => sentDecodes_flat htype henum (hfield _ henum)) fun hbs => ?_
  have hbs : bs = [] := by simpa using hbs
  rw [hbs, hzero]

/-- A record sent for the original direction, and one sent for the reply. -/
theorem sentDecodes_seqAdj (seq : SequenceAdjust) :
    SentDecodes e [.nested ctaSeqAdjOrig seq.children] g
        { g with seqAdjOrig := { seq with direction := g.seqAdjOrig.direction } } ∧
      SentDecodes e [.nested ctaSeqAdjReply seq.children] g
        { g with seqAdjReply := { seq with direction := true } } := by
  constructor
  · refine sentDecodes_nested (fun x => { g with seqAdjOrig := x }) (by decide) ?_
      (decodesTo_sentSeqAdj g.seqAdjOrig seq)
    intro a ha
    rw [Flow.unmarshalNested, ha]
    rfl
  · refine sentDecodes_nested (fun x => { g with seqAdjReply := x }) (by decide) ?_
      (decodesTo_sentSeqAdj { g.seqAdjReply with direction := true } seq)
    intro a ha
    rw [Flow.unmarshalNested, ha]
    rfl

/-- The record for the original direction goes where its own direction says. -/
theorem sentDecodes_seqAdjOrig (hg : g.seqAdjOrig = ⟨false, 0, 0, 0⟩) (hr : g.seqAdjReply = ⟨false, 0, 0, 0⟩)
    (seq : SequenceAdjust) :
    SentDecodes e (attrIf seq.filled (seq.marshal false)) g { g with
      seqAdjOrig := seq.sentOrig
      seqAdjReply := seq.sentReply ⟨false, 0, 0, 0⟩ } := by
  have hzero : ¬ (⟨false, 0, 0, 0⟩ : SequenceAdjust).filled = true := by decide
  unfold SequenceAdjust.sentOrig SequenceAdjust.sentReply SequenceAdjust.marshal
  rw [if_neg hzero, Bool.or_false]
  refine sentDecodes_attrIf (fun hfilled => ?_) fun hempty => ?_
  · by_cases hdir : seq.direction
    · have hseq : { seq with direction := true } = seq := by rw [← hdir]
      rw [if_pos hdir, if_neg fun h => h.2 hdir, if_pos ⟨hfilled, hdir⟩, ← hg]
      have hreply := (@sentDecodes_seqAdj e g seq).2
      rwa [hseq] at hreply
    · have hseq : { seq with direction := g.seqAdjOrig.direction } = seq := by
        rw [hg, ← Bool.eq_false_iff.mpr hdir]
      rw [if_neg hdir, if_pos ⟨hfilled, hdir⟩, if_neg fun h => hdir h.2, ← hr]
      have horig := (@sentDecodes_seqAdj e g seq).1
      rwa [hseq] at horig
  · have hnot : ∀ p : Prop, ¬ (seq.filled = true ∧ p) := by
      rintro p ⟨h, -⟩
      rw [hempty] at h
      cases h
    have hkeep : ∀ a b, g.seqAdjOrig = a → g.seqAdjReply = b →
        { g with seqAdjOrig := a, seqAdjReply := b } = g := by
      rintro _ _ rfl rfl
      rfl
    rw [if_neg (hnot _), if_neg (hnot _)]
    exact hkeep _ _ hg hr

theorem sentDecodes_seqAdjReply (orig reply : SequenceAdjust)
    (hg : g.seqAdjReply = orig.sentReply ⟨false, 0, 0, 0⟩) :
    SentDecodes e (attrIf reply.filled (reply.marshal true)) g { g with
      seqAdjReply := orig.sentReply reply } := by
  refine sentDecodes_attrIf (fun hfilled => ?_) fun hempty => ?_
  · have hset : orig.sentReply reply = { reply with direction := true } := if_pos hfilled
    rw [hset, SequenceAdjust.marshal, Bool.or_true, if_pos rfl]
    exact (sentDecodes_seqAdj reply).2
  · have hset : orig.sentReply reply = orig.sentReply ⟨false, 0, 0, 0⟩ :=
      (if_neg (by rw [hempty]; decide)).trans (if_neg (by decide)).symm
    rw [hset, ← hg]

theorem sentDecodes_synProxy (hg : g.synProxy = ⟨0, 0, 0⟩) (sp : SynProxy) :
    SentDecodes e (attrIf sp.filled sp.marshal) g { g with synProxy := sp } := by
  refine sentDecodes_attrIf (fun _ => ?_) fun hempty => ?_
  · refine sentDecodes_nested (fun x => { g with synProxy := x }) (by decide) ?_
      (decodesTo_synproxy g.synProxy ⟨sp.isn, sp.its, sp.tsOff⟩)
    intro a ha
    rw [Flow.unmarshalNested, ha]
    rfl
  · obtain ⟨isn, its, tsOff⟩ := sp
    have hall : (isn = 0 ∧ its = 0) ∧ tsOff = 0 := by simpa [SynProxy.filled] using hempty
    obtain ⟨⟨rfl, rfl⟩, rfl⟩ := hall
    rw [← hg]

theorem sentDecodes_tupleOrig (hg : g.tupleOrig = .zero) {t : Tuple} {l : List NfAttribute}
    (h : t.marshalIf ctaTupleOrig = .ok l) : SentDecodes e l g { g with tupleOrig := t.sent } := by
  refine sentDecodes_tuple (fun x => { g with tupleOrig := x }) (by decide) ?_ (by rw [← hg]) h
  intro a ha
  rw [Flow.unmarshalNested, ha, hg]
  rfl

theorem sentDecodes_tupleReply (hg : g.tupleReply = .zero) {t : Tuple} {l : List NfAttribute}
    (h : t.marshalIf ctaTupleReply = .ok l) : SentDecodes e l g { g with tupleReply := t.sent } := by
  refine sentDecodes_tuple (fun x => { g with tupleReply := x }) (by decide) ?_ (by rw [← hg]) h
  intro a ha
  rw [Flow.unmarshalNested, ha, hg]
  rfl

theorem sentDecodes_tupleMaster (hg : g.tupleMaster = .zero) {t : Tuple} {l : List NfAttribute}
    (h : t.marshalIf ctaTupleMaster = .ok l) : SentDecodes e l g { g with tupleMaster := t.sent } := by
  refine sentDecodes_tuple (fun x => { g with tupleMaster := x }) (by decide) ?_ (by rw [← hg]) h
  intro a ha
  rw [Flow.unmarshalNested, ha, hg]
  rfl

theorem sentDecodes_timeout (hg : g.timeout = 0) (x : UInt32) :
    SentDecodes e (attrIf (x ≠ 0) (.flat ctaTimeout (uint32Bytes x))) g { g with timeout := x } := by
  refine sentDecodes_be32 (fun x => { g with timeout := x }) (by decide) (by decide) ?_ (by rw [← hg])
  intro a ha
  rw [Flow.unmarshalFlat, ha]
  rfl

theorem sentDecodes_status (hg : g.status = 0) (x : UInt32) :
    SentDecodes e (attrIf (x ≠ 0) (.flat ctaStatus (uint32Bytes x))) g { g with status := x } := by
  refine sentDecodes_be32 (fun x => { g with status := x }) (by decide) (by decide) ?_ (by rw [← hg])
  intro a ha
  rw [Flow.unmarshalFlat, ha]
  rfl

theorem sentDecodes_mark (hg : g.mark = 0) (x : UInt32) :
    SentDecodes e (attrIf (x ≠ 0) (.flat ctaMark (uint32Bytes x))) g { g with mark := x } := by
  refine sentDecodes_be32 (fun x => { g with mark := x }) (by decide) (by decide) ?_ (by rw [← hg])
  intro a ha
  rw [Flow.unmarshalFlat, ha]
  rfl

theorem sentDecodes_labels (hg : g.labels = []) (bs : Bytes) :
    SentDecodes e (attrIf (0 < bs.length) (.flat ctaLabels bs)) g { g with labels := bs } := by
  refine sentDecodes_bytes (fun x => { g with labels := x }) (by decide) (by decide) ?_ (by rw [← hg]) bs
  intro a ha
  rw [Flow.unmarshalFlat, ha]
  rfl

theorem sentDecodes_labelsMask (hg : g.labelsMask = []) (bs : Bytes) :
    SentDecodes e (attrIf (0 < bs.length) (.flat ctaLabelsMask bs)) g { g with labelsMask := bs } := by
  refine sentDecodes_bytes (fun x => { g with labelsMask := x }) (by decide) (by decide) ?_ (by rw [← hg]) bs
  intro a ha
  rw [Flow.unmarshalFlat, ha]
  rfl

/-- **The attributes of a request decode** to what it says. -/
theorem sentDecodes_marshal {l : List NfAttribute} (h : f.marshal = .ok l) :
    SentDecodes e l Flow.zero f.sent := by
  unfold Flow.marshal at h
  split at h
  · cases h
  · obtain ⟨orig, horig, h⟩ := bind_eq_ok h
    obtain ⟨reply, hreply, h⟩ := bind_eq_ok h
    obtain ⟨master, hmaster, h⟩ := bind_eq_ok h
    cases h
    simp only [List.flatten_cons, List.flatten_nil, List.append_nil]
    refine (sentDecodes_tupleOrig rfl horig).append ?_
    refine (sentDecodes_tupleReply rfl hreply).append ?_
    refine (sentDecodes_timeout rfl f.timeout).append ?_
    refine (sentDecodes_status rfl f.status).append ?_
    refine (sentDecodes_mark rfl f.mark).append ?_
    refine (sentDecodes_zone rfl f.zone).append ?_
    refine (sentDecodes_protoInfo rfl f.protoInfo).append ?_
    refine (sentDecodes_helper rfl f.helper).append ?_
    refine (sentDecodes_tupleMaster rfl hmaster).append ?_
    refine (sentDecodes_seqAdjOrig rfl rfl f.seqAdjOrig).append ?_
    refine (sentDecodes_seqAdjReply f.seqAdjOrig f.seqAdjReply rfl).append ?_
    refine (sentDecodes_synProxy rfl f.synProxy).append ?_
    refine (sentDecodes_labels rfl f.labels).append ?_
    exact sentDecodes_labelsMask rfl f.labelsMask

end Flow

/-! ### Requests -/

/-- `MarshalNetlink`, and the header that is put in front when the message is sent. -/
def marshalNetlink (e : Endian) (hdr : NlMsgHdr) (l : List NfAttribute) : Marshal Bytes := do
  let attrs ← encodeAttributes e l
  pure (nlMsgBytes e hdr attrs)

@[simp] theorem ProtoTuple.filled_sent (pt : ProtoTuple) : pt.sent.filled = pt.filled := by
  unfold sent filled
  split
  · rename_i h
    rw [h]
  · split
    · rename_i h
      rw [h]
    · rfl

@[simp] theorem ProtoTuple.sent_sent (pt : ProtoTuple) : pt.sent.sent = pt.sent := by
  unfold sent
  by_cases hicmp : pt.protocol = ipprotoIcmp
  · rw [if_pos hicmp]
    rfl
  · by_cases hicmpv6 : pt.protocol = ipprotoIcmpv6
    · rw [if_neg hicmp, if_pos hicmpv6]
      rfl
    · rw [if_neg hicmp, if_neg hicmpv6, if_neg hicmp, if_neg hicmpv6]

@[simp] theorem Tuple.sent_sent (t : Tuple) : t.sent.sent = t.sent := by
  unfold sent
  by_cases ht : t.filled
  · have hsame : (⟨t.ip, t.proto.sent, t.zone⟩ : Tuple).filled = t.filled :=
      congrArg (t.ip.filled && ·) t.proto.filled_sent
    rw [if_pos ht, if_pos (hsame.trans ht), ProtoTuple.sent_sent]
  · rw [if_neg ht]
    rfl

@[simp] theorem ProtoInfo.sent_sent (pi : ProtoInfo) : pi.sent.sent = pi.sent := by
  obtain ⟨tcp, dccp, sctp⟩ := pi
  cases tcp <;> cases dccp <;> rfl

/-- The zeros at the end are gone. -/
theorem adString_adString (type type' : UInt16) (s : Bytes) :
    adString ⟨type, adString ⟨type', s⟩⟩ = adString ⟨type', s⟩ := by
  unfold adString
  rw [List.reverse_reverse, List.dropWhile_idempotent]

@[simp] theorem Helper.sent_sent (hlp : Helper) : hlp.sent.sent = hlp.sent := by
  unfold sent
  rw [adString_adString]

/-- The two records, which end up where they say. -/
theorem SequenceAdjust.sent_sent (orig reply : SequenceAdjust) :
    orig.sentOrig.sentOrig = orig.sentOrig ∧
      orig.sentOrig.sentReply (orig.sentReply reply) = orig.sentReply reply := by
  have hzero : ¬ (⟨false, 0, 0, 0⟩ : SequenceAdjust).filled = true := by decide
  have horig : ∀ seq : SequenceAdjust, seq.sentOrig = seq ∧ seq.direction = false ∨
      seq.sentOrig = ⟨false, 0, 0, 0⟩ := by
    intro seq
    unfold sentOrig
    by_cases h : seq.filled ∧ ¬ seq.direction
    · rw [if_pos h]
      exact .inl ⟨rfl, by simpa using h.2⟩
    · rw [if_neg h]
      exact .inr rfl
  have hreply : orig.sentReply reply = ⟨false, 0, 0, 0⟩ ∨
      ((orig.sentReply reply).filled ∧ (orig.sentReply reply).direction) := by
    unfold sentReply
    by_cases h : reply.filled
    · rw [if_pos h]
      exact .inr ⟨h, rfl⟩
    · rw [if_neg h]
      by_cases h' : orig.filled ∧ orig.direction
      · rw [if_pos h']
        exact .inr h'
      · rw [if_neg h']
        exact .inl rfl
  have hnot : ¬ orig.sentOrig.direction = true := by
    rcases horig orig with ⟨heq, hdir⟩ | heq
    · rw [heq, hdir]
      decide
    · rw [heq]
      decide
  constructor
  · rcases horig orig with ⟨heq, -⟩ | heq
    · rw [heq, heq]
    · rw [heq]
      exact if_neg fun h => hzero h.1
  · rcases hreply with heq | ⟨hfilled, hdir⟩
    · rw [heq, sentReply, if_neg hzero, if_neg fun h => hnot h.2]
    · rw [sentReply, if_pos hfilled, ← hdir]

theorem Flow.sent_sent (f : Flow) : f.sent.sent = f.sent := by
  obtain ⟨horig, hreply⟩ := f.seqAdjOrig.sent_sent f.seqAdjReply
  unfold sent
  simp only [horig, hreply, ProtoInfo.sent_sent, Helper.sent_sent, Tuple.sent_sent]

/-- **A request decodes to what it says**: a flow that is sent is read back without what a request does not
say, and nothing is lost when that is sent again. -/
theorem unmarshalFlow_marshal {e : Endian} {hdr : NlMsgHdr} {f : Flow} {msg : Bytes}
    (h : (f.marshal >>= marshalNetlink e hdr) = .ok msg) :
    unmarshalFlow e msg = .ok f.sent ∧ f.sent.sent = f.sent := by
  obtain ⟨l, hl, h⟩ := bind_eq_ok h
  obtain ⟨attrs, hattrs, h⟩ := bind_eq_ok h
  cases h
  obtain ⟨heq, hfits⟩ := encodeAttributes_eq l hattrs
  refine ⟨?_, f.sent_sent⟩
  rw [unmarshalFlow_fits hfits, heq]
  exact sentDecodes_marshal hl (heq ▸ hfits)

/-- `NewFlow`. -/
def newFlow (proto : UInt8) (status : UInt32) (srcAddr destAddr : Bytes) (srcPort destPort : UInt16)
    (timeout mark : UInt32) : Flow := { Flow.zero with
  status := status
  timeout := timeout
  mark := mark
  tupleOrig := ⟨⟨srcAddr, destAddr⟩, ⟨proto, srcPort, destPort, false, false, 0, 0, 0⟩, 0⟩
  tupleReply := ⟨⟨destAddr, srcAddr⟩, ⟨proto, destPort, srcPort, false, false, 0, 0, 0⟩, 0⟩ }

/-- A connection with a helper, and a sequence adjustment that is filed under the wrong direction. -/
def sampleFlow : Flow := { newFlow 6 0 [1, 2, 3, 4] [5, 6, 7, 8] 1 80 120 255 with
  helper := ⟨[102, 116, 112, 0], []⟩
  seqAdjOrig := ⟨true, 1, 2, 3⟩
  labels := [1, 0, 0, 0] }

theorem unmarshalFlow_marshal_sample : ∃ msg,
    (sampleFlow.marshal >>= marshalNetlink .little ⟨256, 0x605, 1, 1, 2, 0, 0⟩) = .ok msg ∧
      unmarshalFlow .little msg = .ok sampleFlow.sent ∧ sampleFlow.sent.seqAdjReply = ⟨true, 1, 2, 3⟩ := by
  have hok : (sampleFlow.marshal >>= marshalNetlink .little ⟨256, 0x605, 1, 1, 2, 0, 0⟩).isOk = true := by
    decide +kernel
  cases hmsg : sampleFlow.marshal >>= marshalNetlink .little ⟨256, 0x605, 1, 1, 2, 0, 0⟩ with
  | error err =>
    rw [hmsg] at hok
    cases hok
  | ok msg => exact ⟨msg, rfl, (unmarshalFlow_marshal hmsg).1, rfl⟩

end VgwDriver
