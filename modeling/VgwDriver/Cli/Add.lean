import VgwDriver.Cli.Conn
import VgwDriver.Cli.Marshal
import VgwDriver.Netlink.Created

/-!
# `ct add`

The way of a new conntrack from the CLI into the kernel's table: the request that `Conn.Create` builds, the
check of its attributes, and the creation.

* `connCreate`, `nlaParseCt` — the request, and what the kernel's parser lets through;
* `marshal_new`, `connCreate_new` — the attributes of a new flow, and that the parser lets them through;
* `create_keys` — **the kernel reads the keys that the flow names**;
* `connCreate_cases` — **what becomes of the table**.
-/

namespace VgwDriver

open Base

/-! ### The request -/

/-- A request as the kernel gets it: what its headers say, and its attributes. -/
structure CtQuery where
  family : UInt8
  flags : UInt16
  attrs : List Attr
  deriving DecidableEq, Repr

/-- `netlink.Request` and `netlink.Acknowledge`. -/
def nlmFRequest : UInt16 := 0x0001
def nlmFAck : UInt16 := 0x0004

/-- IPv4, unless both tuples are of IPv6. -/
def Flow.family (f : Flow) : UInt8 :=
  if f.tupleOrig.ip.isIPv6 ∧ f.tupleReply.ip.isIPv6 then nfprotoIpv6 else nfprotoIpv4

/-- `Conn.Create`, up to the query. -/
def connCreate (e : Endian) (f : Flow) : Marshal CtQuery :=
  if f.timeout = 0 then .error .errNeedTimeout
  else do
    let l ← f.marshal
    let attrs ← encodeAttributes e l
    pure ⟨f.family, nlmFRequest ||| nlmFAck ||| nlmFExcl ||| nlmFCreate, attrs⟩

/-! ### The kernel's parser -/

/-- `NF_CT_LABELS_MAX_SIZE`. -/
def nfCtLabelsMaxSize : ℕ := 16

/-- `ct_nla_policy`, without the two binary attributes. -/
def ctNlaPolicy (type : UInt16) : NlaPolicy :=
  if type ∈ [ctaTupleOrig, ctaTupleReply, ctaProtoinfo, ctaHelp, ctaNatSrc, ctaNatDst, ctaTupleMaster,
      ctaSeqAdjOrig, ctaSeqAdjReply, ctaFilter] then .nested
  else if type ∈ [ctaStatus, ctaTimeout, ctaMark, ctaId, ctaMarkMask, ctaStatusMask] then nlaU32Policy
  else if type = ctaZone then nlaU16Policy
  else .unspec

/-- The check of one attribute. -/
def ctNlaOk (a : Attr) : Bool :=
  ctaMax < a.kind ||
    ((ctNlaPolicy a.kind).ok a &&
      !((a.kind = ctaLabels || a.kind = ctaLabelsMask) && nfCtLabelsMaxSize < a.payload.length))

/-- The attributes of a request, as they are parsed for the callbacks of `ctnl_cb`. -/
def nlaParseCt (l : List Attr) : Except ℤ NlaTable :=
  if l.all ctNlaOk then .ok (nlaTable ctaMax l) else .error (-erange)

/-- A request for a new conntrack arrives. -/
def CtWorld.rcvNew (env : CreateEnv) (info : NfnlInfo) (q : CtQuery) (w : CtWorld) : NewResult :=
  match nlaParseCt q.attrs with
  | .error err => ⟨err, w, none⟩
  | .ok cda => ctnetlinkNewConntrack env { info with family := q.family } q.flags cda w

/-! ### The keys of a flow -/

/-- An address as the kernel keeps it. -/
def inetAddr (addr : Bytes) : NfInetAddr :=
  if addrIs4 addr then .ofIp (get32 .big addr) else nlaGetIn6Addr ⟨ctaIpV6Src, addr⟩

/-- The kernel's tuple of a protocol with ports. -/
def Tuple.key (t : Tuple) (d : IpConntrackDir) : NfConntrackTuple where
  src :=
    ⟨inetAddr t.ip.sourceAddress, t.proto.sourcePort,
      (if addrIs4 t.ip.sourceAddress then nfprotoIpv4 else nfprotoIpv6).toUInt16⟩
  dst := ⟨inetAddr t.ip.destinationAddress, t.proto.destinationPort, t.proto.protocol, d.code⟩

/-- Two addresses of one family. -/
def IPTuple.OneFamily (ipt : IPTuple) : Prop :=
  (addrIs4 ipt.sourceAddress ∧ addrIs4 ipt.destinationAddress) ∨
    (addrIs6 ipt.sourceAddress ∧ addrIs6 ipt.destinationAddress)

/-- A tuple of a protocol that has ports, for both directions. -/
structure Tuple.Ported (t : Tuple) : Prop where
  ip : t.ip.OneFamily
  filled : t.proto.protocol ≠ 0
  icmp : t.proto.protocol ≠ ipprotoIcmp
  icmpv6 : t.proto.protocol ≠ ipprotoIcmpv6
  zone : t.zone = 0

/-- What `nf_ct_port_nlattr_to_tuple` does for the protocol `proto`. -/
def FilterEnv.Ports (env : FilterEnv) (proto : UInt8) : Prop :=
  ∃ g, env.nlattrToTuple proto = some g ∧ ∀ (src dst : UInt16) (t : NfConntrackTuple), t.dst.protonum = proto →
    g (nestAttr env.endian ctaTupleProto
        [nlaU8 ctaProtoNum proto, nlaBe16 ctaProtoSrcPort src, nlaBe16 ctaProtoDstPort dst]) t ctaFilterFAll =
      .ok ⟨{ t.src with u := src }, { t.dst with u := dst }⟩

/-- A host that writes the ports of every protocol. -/
def portNlEnv (e : Endian) : NlEnv :=
  { sampleNlEnv with endian := e, tupleToNlattr := fun _ => some nfCtPortTupleToNlattr }

/-- The zone of a conntrack that is in no zone. -/
def noZone : NfConntrackZone := ⟨nfCtDefaultZoneId, 0, nfCtDefaultZoneDir⟩

section Keys

variable {e : Endian} {fenv : FilterEnv} {t : Tuple}

open NfAttribute

theorem addrIs4_iff {addr : Bytes} : addrIs4 addr = true ↔ addr.length = 4 := decide_eq_true_iff
theorem addrIs6_iff {addr : Bytes} : addrIs6 addr = true ↔ addr.length = 16 := decide_eq_true_iff

theorem addrIsValid_of_pos {addr : Bytes} (h : 0 < addr.length) : addrIsValid addr = true :=
  decide_eq_true (List.ne_nil_of_length_pos h)

/-- Four words make an address of IPv6. -/
theorem in6_inetAddr {addr : Bytes} (h : addrIs6 addr) : (inetAddr addr).in6 = addr := by
  have hlen := addrIs6_iff.mp h
  have hnot : ¬ addrIs4 addr = true := by rw [addrIs4_iff, hlen]; decide
  have hput : ∀ bs : Bytes, bs.length = 4 → put32 .big (get32 .big bs) = bs := fun bs => put32_get32 .big
  have hwords : addr.take 4 ++ ((addr.drop 4).take 4 ++ ((addr.drop 8).take 4 ++ (addr.drop 12).take 4)) = addr := by
    have h₁ := List.take_append_drop 4 (addr.drop 4)
    have h₂ := List.take_append_drop 4 (addr.drop 8)
    have h₃ : (addr.drop 12).take 4 = addr.drop 12 := List.take_of_length_le (by simp [hlen])
    rw [List.drop_drop] at h₁ h₂
    rw [h₃, h₂, h₁, List.take_append_drop]
  rw [inetAddr, if_neg hnot, NfInetAddr.in6, nlaGetIn6Addr]
  dsimp only
  rw [hput _ (by simp [hlen]), hput _ (by simp [hlen]), hput _ (by simp [hlen]), hput _ (by simp [hlen]),
    List.append_assoc, List.append_assoc, hwords]

theorem inetAddr_of (addr : Bytes) : (inetAddr addr).Of
    (if addrIs4 addr then nfprotoIpv4 else nfprotoIpv6).toUInt16 := by
  intro heq
  have h : addrIs4 addr := by
    by_contra hnot
    rw [if_neg hnot] at heq
    exact absurd heq (by decide)
  rw [inetAddr, if_pos h]
  rfl

/-- The addresses are encoded as the kernel writes them. -/
theorem attr_ip (ht : t.ip.OneFamily) (d : IpConntrackDir) :
    ∃ kids, t.ip.marshal = .ok (.nested ctaTupleIp kids) ∧ attrs e kids = tupleIpAttrs (t.key d) := by
  unfold IPTuple.marshal
  rcases ht with ⟨hs, hd⟩ | ⟨hs, hd⟩
  · have hl3 : (t.key d).src.l3num = nfprotoIpv4.toUInt16 := by rw [Tuple.key, if_pos hs]
    have hlen := addrIs4_iff.mp hs
    have hlen' := addrIs4_iff.mp hd
    have hput : ∀ addr : Bytes, addrIs4 addr → put32 .big (inetAddr addr).ip = addr := by
      intro addr h
      rw [inetAddr, if_pos h]
      exact put32_get32 .big (addrIs4_iff.mp h)
    rw [if_neg (by simp [addrIsValid_of_pos, hlen, hlen']), if_pos ⟨hs, hd⟩]
    refine ⟨_, rfl, ?_⟩
    rw [tupleIpAttrs, if_pos hl3]
    show [(⟨ctaIpV4Src, t.ip.sourceAddress⟩ : Attr), ⟨ctaIpV4Dst, t.ip.destinationAddress⟩] =
      [⟨ctaIpV4Src, put32 .big (inetAddr t.ip.sourceAddress).ip⟩,
        ⟨ctaIpV4Dst, put32 .big (inetAddr t.ip.destinationAddress).ip⟩]
    rw [hput _ hs, hput _ hd]
  · have hlen := addrIs6_iff.mp hs
    have hlen' := addrIs6_iff.mp hd
    have hnot : ¬ addrIs4 t.ip.sourceAddress = true := by rw [addrIs4_iff, hlen]; decide
    have hl3 : (t.key d).src.l3num = nfprotoIpv6.toUInt16 := by rw [Tuple.key, if_neg hnot]
    rw [if_neg (by simp [addrIsValid_of_pos, hlen, hlen']), if_neg fun h => hnot h.1, if_pos ⟨hs, hd⟩]
    refine ⟨_, rfl, ?_⟩
    rw [tupleIpAttrs, if_neg (by rw [hl3]; decide), if_pos hl3]
    show [(⟨ctaIpV6Src, t.ip.sourceAddress⟩ : Attr), ⟨ctaIpV6Dst, t.ip.destinationAddress⟩] =
      [⟨ctaIpV6Src, (inetAddr t.ip.sourceAddress).in6⟩, ⟨ctaIpV6Dst, (inetAddr t.ip.destinationAddress).in6⟩]
    rw [in6_inetAddr hs, in6_inetAddr hd]

/-- **A tuple is encoded as the kernel writes its key.** -/
theorem attr_tuple (ht : t.Ported) (d : IpConntrackDir) :
    ∃ a, t.marshal d.tupleAttr = .ok a ∧ a.attr e = dirAttr (portNlEnv e) (t.key d) noZone d := by
  have hrest : t.proto.marshalRest = [.flat ctaProtoSrcPort (uint16Bytes t.proto.sourcePort),
      .flat ctaProtoDstPort (uint16Bytes t.proto.destinationPort)] := by
    rw [ProtoTuple.marshalRest, if_neg ht.icmp, if_neg ht.icmpv6]
  obtain ⟨kids, hmarshal, hkids⟩ := @attr_ip e t ht.ip d
  refine ⟨_, by rw [Tuple.marshal, hmarshal, ok_bind]; rfl, ?_⟩
  rw [if_neg (not_not.mpr ht.zone), List.append_nil, attr, ProtoTuple.marshal, hrest]
  show nestAttr e d.tupleAttr [nestAttr e ctaTupleIp (attrs e kids), nestAttr e ctaTupleProto _] = _
  rw [hkids]
  rfl

/-- The tuple that the kernel reads. -/
theorem key_inet (ht : t.Ported) (d : IpConntrackDir) :
    (t.key d).Inet (if addrIs4 t.ip.sourceAddress then nfprotoIpv4 else nfprotoIpv6) d.code := by
  refine ⟨rfl, ?_, inetAddr_of _, ?_, rfl⟩
  · by_cases h : addrIs4 t.ip.sourceAddress
    · exact .inl (if_pos h)
    · exact .inr (if_neg h)
  · have hfamily : addrIs4 t.ip.sourceAddress = addrIs4 t.ip.destinationAddress := by
      rcases ht.ip with ⟨hs, hd⟩ | ⟨hs, hd⟩
      · rw [hs, hd]
      · have hnot : ∀ addr : Bytes, addrIs6 addr → addrIs4 addr = false := by
          intro addr h
          rw [Bool.eq_false_iff, ne_eq, addrIs4_iff, addrIs6_iff.mp h]
          decide
        rw [hnot _ hs, hnot _ hd]
    have hof := inetAddr_of t.ip.destinationAddress
    rwa [← hfamily] at hof

theorem ports_inverse (hports : fenv.Ports t.proto.protocol) (d : IpConntrackDir) :
    TupleInverse (portNlEnv fenv.endian) fenv (t.key d) where
  kinds := by
    intro f hf a ha
    obtain rfl := Option.some.inj hf
    have hmem : a = nlaBe16 ctaProtoSrcPort (t.key d).src.u ∨ a = nlaBe16 ctaProtoDstPort (t.key d).dst.u := by
      simpa [nfCtPortTupleToNlattr] using ha
    rcases hmem with rfl | rfl
    · rw [nlaBe16_kind]; decide
    · rw [nlaBe16_kind]; decide
  inverse := by
    intro f hf
    obtain ⟨g, hg, hreads⟩ := hports
    exact ⟨g, hg, fun t₀ ht₀ => hreads _ _ t₀ ht₀⟩
  neither := by
    intro h
    cases h

end Keys

/-! ### Messages with one attribute of a type -/

section Slots

variable {max t : UInt16} {slots : List (UInt16 × Option Attr)} {o : Option Attr}

theorem filterMap_slot (t : UInt16) (o : Option Attr) (slots : List (UInt16 × Option Attr)) :
    ((t, o) :: slots).filterMap (·.2) = o.toList ++ slots.filterMap (·.2) := by cases o <;> rfl

/-- What a table holds of a message that has at most one attribute of each of its types. -/
theorem nlaTable_slots (hkinds : ∀ s ∈ slots, ∀ a ∈ s.2, a.kind = s.1) (hnodup : (slots.map (·.1)).Nodup)
    (ht : 0 < t ∧ t ≤ max) (hmem : (t, o) ∈ slots) : nlaTable max (slots.filterMap (·.2)) t = o := by
  obtain ⟨before, after, rfl⟩ := List.append_of_mem hmem
  rw [List.map_append, List.map_cons] at hnodup
  have hother : ∀ s ∈ before ++ after, s.1 ≠ t := by
    intro s hs heq
    have hmid := (List.nodup_cons.mp (List.nodup_middle.mp hnodup)).1
    rw [← List.map_append] at hmid
    exact hmid (List.mem_map.mpr ⟨s, hs, heq⟩)
  have hne : ∀ l : List (UInt16 × Option Attr), (∀ s ∈ l, s ∈ before ++ after) → ∀ a ∈ l.filterMap (·.2), a.kind ≠ t := by
    intro l hl a ha heq
    obtain ⟨s, hs, hsome⟩ := List.mem_filterMap.mp ha
    have hs' := hl s hs
    have hslot : s ∈ before ++ (t, o) :: after := by
      rcases List.mem_append.mp hs' with h | h
      · exact List.mem_append_left _ h
      · exact List.mem_append_right _ (List.mem_cons_of_mem _ h)
    exact hother s hs' ((hkinds s hslot a hsome).symm.trans heq)
  rw [List.filterMap_append, filterMap_slot]
  cases o with
  | none =>
    refine nlaTable_none fun b hb => ?_
    rcases List.mem_append.mp hb with hb | hb
    · exact hne before (fun s hs => List.mem_append_left _ hs) b hb
    · exact hne after (fun s hs => List.mem_append_right _ hs) b hb
  | some a => exact nlaTable_last ht (hkinds _ hmem a rfl) (hne after fun s hs => List.mem_append_right _ hs)

theorem nlaTable_slots_none (hkinds : ∀ s ∈ slots, ∀ a ∈ s.2, a.kind = s.1) (ht : t ∉ slots.map (·.1)) :
    nlaTable max (slots.filterMap (·.2)) t = none := by
  refine nlaTable_none fun b hb heq => ht ?_
  obtain ⟨s, hs, hsome⟩ := List.mem_filterMap.mp hb
  exact List.mem_map.mpr ⟨s, hs, (hkinds s hs b hsome).symm.trans heq⟩

end Slots

/-! ### The attributes of a new flow -/

/-- A flow as `ct add` makes one: of a protocol with ports, with a timeout and in a zone. -/
structure Flow.New (f : Flow) : Prop where
  eq : f = { Flow.zero with
    status := f.status
    timeout := f.timeout
    mark := f.mark
    zone := f.zone
    tupleOrig := f.tupleOrig
    tupleReply := f.tupleReply }
  orig : f.tupleOrig.Ported
  reply : f.tupleReply.Ported
  proto : f.tupleReply.proto.protocol = f.tupleOrig.proto.protocol
  family : addrIs4 f.tupleReply.ip.sourceAddress = addrIs4 f.tupleOrig.ip.sourceAddress
  timeout : f.timeout ≠ 0

/-- An attribute that is there if its value is not zero. -/
def be32Slot (type : UInt16) (x : UInt32) : UInt16 × Option Attr :=
  (type, if x ≠ 0 then some (nlaBe32 type x) else none)

/-- The attributes of a new flow, by type. -/
def Flow.slots (e : Endian) (f : Flow) : List (UInt16 × Option Attr) :=
  [(ctaTupleOrig, some (dirAttr (portNlEnv e) (f.tupleOrig.key .original) noZone .original)),
    (ctaTupleReply, some (dirAttr (portNlEnv e) (f.tupleReply.key .reply) noZone .reply)),
    be32Slot ctaTimeout f.timeout, be32Slot ctaStatus f.status, be32Slot ctaMark f.mark,
    (ctaZone, if f.zone ≠ 0 then some (nlaBe16 ctaZone f.zone) else none)]

section NewFlow

variable {e : Endian} {f : Flow}

open NfAttribute

theorem oneFamily_filled {ipt : IPTuple} (h : ipt.OneFamily) : ipt.filled = true := by
  have hvalid : ∀ addr : Bytes, addrIs4 addr ∨ addrIs6 addr → addrIsValid addr = true := by
    intro addr h
    refine addrIsValid_of_pos ?_
    rw [addrIs4_iff, addrIs6_iff] at h
    omega
  unfold IPTuple.filled
  rcases h with ⟨hs, hd⟩ | ⟨hs, hd⟩
  · rw [hvalid _ (.inl hs), hvalid _ (.inl hd)]
    rfl
  · rw [hvalid _ (.inr hs), hvalid _ (.inr hd)]
    rfl

theorem Tuple.Ported.filled' {t : Tuple} (h : t.Ported) : t.filled = true := by
  rw [Tuple.filled, oneFamily_filled h.ip, Bool.true_and]
  exact decide_eq_true h.filled

theorem attrs_attrIf {p : Prop} [Decidable p] {a : NfAttribute} {b : Attr} (hb : a.attr e = b) :
    attrs e (attrIf p a) = (if p then some b else none).toList := by
  by_cases hp : p
  · rw [if_pos hp, decide_eq_true hp, ← hb]
    rfl
  · rw [if_neg hp, decide_eq_false hp]
    rfl

theorem attrs_append (l₁ l₂ : List NfAttribute) : attrs e (l₁ ++ l₂) = attrs e l₁ ++ attrs e l₂ := by
  rw [attrs_eq_map, List.map_append, ← attrs_eq_map, ← attrs_eq_map]

/-- **What the request carries.** -/
theorem marshal_new (hf : f.New) : ∃ l, f.marshal = .ok l ∧ attrs e l = (f.slots e).filterMap (·.2) := by
  obtain ⟨orig, horig, hattr⟩ := @attr_tuple e _ hf.orig .original
  obtain ⟨reply, hreply, hattr'⟩ := @attr_tuple e _ hf.reply .reply
  have horigIf : f.tupleOrig.marshalIf ctaTupleOrig = .ok [orig] := by
    rw [Tuple.marshalIf, if_pos hf.orig.filled']
    exact congrArg (· >>= fun a => pure [a]) horig
  have hreplyIf : f.tupleReply.marshalIf ctaTupleReply = .ok [reply] := by
    rw [Tuple.marshalIf, if_pos hf.reply.filled']
    exact congrArg (· >>= fun a => pure [a]) hreply
  have hmasterIf : f.tupleMaster.marshalIf ctaTupleMaster = .ok [] := by
    rw [hf.eq]
    rfl
  -- nothing but the tuples, the numbers and the zone is filled
  have hinfo : attrIf f.protoInfo.filled f.protoInfo.marshal = [] := by rw [hf.eq]; rfl
  have hhelper : attrIf f.helper.filled f.helper.marshal = [] := by rw [hf.eq]; rfl
  have hseq : attrIf f.seqAdjOrig.filled (f.seqAdjOrig.marshal false) = [] := by rw [hf.eq]; rfl
  have hseq' : attrIf f.seqAdjReply.filled (f.seqAdjReply.marshal true) = [] := by rw [hf.eq]; rfl
  have hsyn : attrIf f.synProxy.filled f.synProxy.marshal = [] := by rw [hf.eq]; rfl
  have hlabels : attrIf (0 < f.labels.length) (.flat ctaLabels f.labels) = [] := by rw [hf.eq]; rfl
  have hmask : attrIf (0 < f.labelsMask.length) (.flat ctaLabelsMask f.labelsMask) = [] := by rw [hf.eq]; rfl
  refine ⟨[orig] ++ ([reply] ++ (attrIf (f.timeout ≠ 0) (.flat ctaTimeout (uint32Bytes f.timeout)) ++
    (attrIf (f.status ≠ 0) (.flat ctaStatus (uint32Bytes f.status)) ++
      (attrIf (f.mark ≠ 0) (.flat ctaMark (uint32Bytes f.mark)) ++
        attrIf (f.zone ≠ 0) (.flat ctaZone (uint16Bytes f.zone)))))), ?_, ?_⟩
  · unfold Flow.marshal
    rw [if_neg (by rw [hf.orig.filled']; simp), horigIf, hreplyIf, hmasterIf, hinfo, hhelper, hseq, hseq', hsyn,
      hlabels, hmask]
    simp only [ok_bind, List.flatten_cons, List.flatten_nil, List.append_nil, List.nil_append]
    rfl
  · have hpair : ∀ a b, attrs e [a] = [b] ↔ a.attr e = b := fun a b => by simp [attrs]
    unfold Flow.slots be32Slot
    simp only [filterMap_slot, List.filterMap_nil, List.append_nil, attrs_append]
    rw [(hpair _ _).mpr hattr, (hpair _ _).mpr hattr', attrs_attrIf rfl, attrs_attrIf rfl, attrs_attrIf rfl,
      attrs_attrIf rfl]
    rfl

theorem slots_kinds (e : Endian) (f : Flow) : ∀ s ∈ f.slots e, ∀ a ∈ s.2, a.kind = s.1 := by
  have hbe32 : ∀ type x, type &&& typeMask = type → ∀ a ∈ (be32Slot type x).2, a.kind = type := by
    intro type x htype a ha
    obtain ⟨-, heq⟩ := Option.ite_none_right_eq_some.mp ha
    rw [← Option.some.inj heq]
    exact htype
  intro s hs
  simp only [Flow.slots, List.mem_cons, List.not_mem_nil, or_false] at hs
  rcases hs with rfl | rfl | rfl | rfl | rfl | rfl
  · rintro a ⟨⟩
    exact (show (ctaTupleOrig ||| nestedFlag) &&& typeMask = ctaTupleOrig by decide)
  · rintro a ⟨⟩
    exact (show (ctaTupleReply ||| nestedFlag) &&& typeMask = ctaTupleReply by decide)
  · exact hbe32 _ _ (by decide)
  · exact hbe32 _ _ (by decide)
  · exact hbe32 _ _ (by decide)
  · intro a ha
    obtain ⟨-, heq⟩ := Option.ite_none_right_eq_some.mp ha
    rw [← Option.some.inj heq]
    exact (show ctaZone &&& typeMask = ctaZone by decide)

theorem slots_types (e : Endian) (f : Flow) : (f.slots e).map (·.1) =
    [ctaTupleOrig, ctaTupleReply, ctaTimeout, ctaStatus, ctaMark, ctaZone] := rfl

/-- The size of a tuple. -/
theorem dirAttr_size (e : Endian) (t : Tuple) (d : IpConntrackDir) :
    attrsSize (tupleAttrs (portNlEnv e) (t.key d) ++ zoneAttrs ctaTupleZone noZone d.zoneBit) ≤ 100 ∧
      attrHdrLen ≤ (dirAttr (portNlEnv e) (t.key d) noZone d).payload.length := by
  have hip : attrsSize (tupleIpAttrs (t.key d)) ≤ 40 := by
    unfold tupleIpAttrs
    split
    · simp [nlaBe32, Attr.len, attrHdrLen, align4]
    · split
      · simp [Attr.len, attrHdrLen, align4]
      · simp
  have hproto : attrsSize (tupleProtoAttrs (portNlEnv e) (t.key d)) = 24 := by
    show attrsSize [nlaU8 ctaProtoNum _, nlaBe16 ctaProtoSrcPort _, nlaBe16 ctaProtoDstPort _] = 24
    simp [nlaU8, nlaBe16, Attr.len, attrHdrLen, align4]
  have hzone : zoneAttrs ctaTupleZone noZone d.zoneBit = [] := if_pos (.inl rfl)
  have hsize : attrsSize (tupleAttrs (portNlEnv e) (t.key d) ++ zoneAttrs ctaTupleZone noZone d.zoneBit) =
      attrHdrLen + attrsSize (tupleIpAttrs (t.key d)) + (attrHdrLen + 24) := by
    rw [hzone, List.append_nil, tupleAttrs, attrsSize_cons, attrsSize_cons, attrsSize_nil, nestAttr_len, nestAttr_len,
      hproto, Nat.add_zero]
  rw [dirAttr, nestAttr, length_attrsBytes, hsize]
  simp only [attrHdrLen]
  omega

/-- Every attribute fits, and is what the policy asks for. -/
theorem slots_ok (e : Endian) (f : Flow) : ∀ a ∈ (f.slots e).filterMap (·.2), a.Fits ∧ ctNlaOk a = true := by
  have htuple : ∀ (t : Tuple) (d : IpConntrackDir), (dirAttr (portNlEnv e) (t.key d) noZone d).Fits ∧
      ctNlaOk (dirAttr (portNlEnv e) (t.key d) noZone d) = true := by
    intro t d
    obtain ⟨hsize, hlen⟩ := dirAttr_size e t d
    have hkind : (dirAttr (portNlEnv e) (t.key d) noZone d).kind = d.tupleAttr := by
      rw [dirAttr, nestAttr_kind]
      cases d <;> decide
    constructor
    · show attrHdrLen + (attrsBytes e _).length < 65536
      rw [length_attrsBytes]
      simp only [attrHdrLen]
      omega
    · unfold ctNlaOk
      rw [hkind]
      have hpolicy : ctNlaPolicy d.tupleAttr = .nested := by cases d <;> decide
      have hlabels : (d.tupleAttr = ctaLabels || d.tupleAttr = ctaLabelsMask) = false := by cases d <;> decide
      rw [hpolicy, hlabels]
      simp [NlaPolicy.ok, hlen]
  have hbe32 : ∀ type x, type ∈ [ctaTimeout, ctaStatus, ctaMark] → ∀ a ∈ (be32Slot type x).2,
      a.Fits ∧ ctNlaOk a = true := by
    intro type x htype a ha
    obtain ⟨-, heq⟩ := Option.ite_none_right_eq_some.mp ha
    obtain rfl := Option.some.inj heq
    constructor
    · show attrHdrLen + (put32 .big x).length < 65536
      simp [attrHdrLen]
    · unfold ctNlaOk
      rw [nlaBe32_kind]
      simp only [List.mem_cons, List.not_mem_nil, or_false] at htype
      rcases htype with rfl | rfl | rfl <;> simp +decide [ctNlaPolicy, nlaU32Policy, NlaPolicy.ok, nlaBe32]
  intro a ha
  obtain ⟨s, hs, hsome⟩ := List.mem_filterMap.mp ha
  simp only [Flow.slots, List.mem_cons, List.not_mem_nil, or_false] at hs
  rcases hs with rfl | rfl | rfl | rfl | rfl | rfl
  · cases hsome
    exact htuple _ _
  · cases hsome
    exact htuple _ _
  · exact hbe32 _ _ (by decide) a hsome
  · exact hbe32 _ _ (by decide) a hsome
  · exact hbe32 _ _ (by decide) a hsome
  · obtain ⟨-, heq⟩ := Option.ite_none_right_eq_some.mp hsome
    obtain rfl := Option.some.inj heq
    constructor
    · show attrHdrLen + (put16 .big f.zone).length < 65536
      simp [attrHdrLen]
    · unfold ctNlaOk
      rw [nlaBe16_kind]
      simp +decide [ctNlaPolicy, nlaU16Policy, NlaPolicy.ok, nlaBe16]

/-- The attributes of a request, as the kernel's table has them. -/
def Flow.table (e : Endian) (f : Flow) : NlaTable := nlaTable ctaMax ((f.slots e).filterMap (·.2))

/-- **The request** of a new flow, and its table. -/
theorem connCreate_new (hf : f.New) : ∃ q, connCreate e f = .ok q ∧ q.family = f.family ∧ q.flags = 0x605 ∧
    nlaParseCt q.attrs = .ok (f.table e) := by
  obtain ⟨l, hl, hattrs⟩ := @marshal_new e f hf
  have hok := slots_ok e f
  rw [← hattrs] at hok
  have hencode := encodeAttributes_ok l fun a ha => (hok a ha).1
  refine ⟨⟨f.family, 0x605, attrs e l⟩, ?_, rfl, rfl, ?_⟩
  · rw [connCreate, if_neg hf.timeout, hl, ok_bind, hencode, ok_bind]
    rfl
  · rw [nlaParseCt, if_pos (List.all_eq_true.mpr fun a ha => (hok a ha).2), hattrs]
    rfl

theorem table_slot {t : UInt16} {o : Option Attr} (ht : 0 < t ∧ t ≤ ctaMax) (hmem : (t, o) ∈ f.slots e) :
    f.table e t = o :=
  nlaTable_slots (slots_kinds e f) (by rw [slots_types]; decide) ht hmem

theorem table_none {t : UInt16} (ht : t ∉ [ctaTupleOrig, ctaTupleReply, ctaTimeout, ctaStatus, ctaMark, ctaZone]) :
    f.table e t = none :=
  nlaTable_slots_none (slots_kinds e f) (by rwa [slots_types])

theorem table_plain (e : Endian) (f : Flow) : (f.table e).Plain :=
  ⟨table_none (by decide), table_none (by decide), table_none (by decide), table_none (by decide)⟩

theorem table_mark (e : Endian) (f : Flow) : (f.table e).mark = f.mark := by
  have hslot : f.table e ctaMark = (be32Slot ctaMark f.mark).2 :=
    table_slot (by decide) (by simp [Flow.slots, be32Slot])
  unfold NlaTable.mark
  rw [hslot, be32Slot]
  by_cases hmark : f.mark = 0
  · rw [if_neg (not_not.mpr hmark), hmark]
  · rw [if_pos hmark]
    exact nlaGetBe32_nlaBe32 _ _

/-- The zone that a flow names. -/
def Flow.newZone (f : Flow) : NfConntrackZone :=
  ctnetlinkParseZone (if f.zone ≠ 0 then some (nlaBe16 ctaZone f.zone) else none)

theorem newZone_id (f : Flow) : f.newZone.id = f.zone ∧ f.newZone.dir = nfCtDefaultZoneDir := by
  unfold Flow.newZone
  by_cases hzone : f.zone = 0
  · rw [if_neg (not_not.mpr hzone), hzone]
    exact ⟨rfl, rfl⟩
  · rw [if_pos hzone, ctnetlinkParseZone, nlaGetBe16_nlaBe16]
    exact ⟨rfl, rfl⟩

/-- The family in the header is that of the addresses. -/
theorem family_new (hf : f.New) :
    f.family = if addrIs4 f.tupleOrig.ip.sourceAddress then nfprotoIpv4 else nfprotoIpv6 := by
  have hsix : ∀ addr : Bytes, addrIs6 addr → ¬ addrIs4 addr = true := by
    intro addr h
    rw [addrIs4_iff, addrIs6_iff.mp h]
    decide
  have hfour : ∀ addr : Bytes, addrIs4 addr → addrIs6 addr = false := by
    intro addr h
    rw [Bool.eq_false_iff]
    exact fun h' => hsix addr h' h
  unfold Flow.family
  rcases hf.orig.ip with ⟨hs, -⟩ | ⟨hs, hd⟩
  · rw [if_pos hs, if_neg]
    unfold IPTuple.isIPv6
    rw [hfour _ hs]
    simp
  · rw [if_neg (hsix _ hs), if_pos]
    have hreply : f.tupleReply.ip.isIPv6 := by
      rcases hf.reply.ip with ⟨hs', -⟩ | ⟨hs', hd'⟩
      · exact absurd (hf.family.symm.trans hs') (hsix _ hs)
      · unfold IPTuple.isIPv6
        rw [hs', hd']
        rfl
    refine ⟨?_, hreply⟩
    unfold IPTuple.isIPv6
    rw [hs, hd]
    rfl

/-- **The kernel reads the keys that the flow names.** -/
theorem create_keys {fenv : FilterEnv} (hf : f.New) (hports : fenv.Ports f.tupleOrig.proto.protocol) :
    newConntrackKeys fenv (f.table fenv.endian) f.family =
      .ok (some (f.tupleOrig.key .original), some (f.tupleReply.key .reply), f.newZone) := by
  have hparse : ∀ (t : Tuple) (d : IpConntrackDir) (zone : NfConntrackZone), t.Ported →
      fenv.Ports t.proto.protocol →
      f.family = (if addrIs4 t.ip.sourceAddress then nfprotoIpv4 else nfprotoIpv6) →
      ctnetlinkParseTuple fenv (dirAttr (portNlEnv fenv.endian) (t.key d) noZone d) d.tupleAttr f.family zone =
        .ok (t.key d, zone) := by
    intro t d zone ht hports hfamily
    have hnone : zoneNamed noZone d.zoneBit = none := if_pos (.inl rfl)
    have hinet := key_inet ht d
    rw [← hfamily] at hinet
    have hsize : attrsSize (tupleAttrs (portNlEnv fenv.endian) (t.key d) ++
        zoneAttrs ctaTupleZone noZone d.zoneBit) < 65536 :=
      Nat.lt_of_le_of_lt (dirAttr_size fenv.endian t d).1 (by decide)
    have hread : ctnetlinkParseTuple fenv (dirAttr (portNlEnv fenv.endian) (t.key d) noZone d) d.tupleAttr
        f.family zone = .ok (t.key d, zoneAfter d (zoneNamed noZone d.zoneBit) zone) :=
      parseTuple_dump rfl hinet (ports_inverse hports d) hsize (by rw [hnone]; intro h; cases h)
    rw [hnone] at hread
    exact hread
  have horig : f.table fenv.endian ctaTupleOrig =
      some (dirAttr (portNlEnv fenv.endian) (f.tupleOrig.key .original) noZone .original) :=
    table_slot (by decide) (by simp [Flow.slots])
  have hreply : f.table fenv.endian ctaTupleReply =
      some (dirAttr (portNlEnv fenv.endian) (f.tupleReply.key .reply) noZone .reply) :=
    table_slot (by decide) (by simp [Flow.slots])
  have hzone : f.table fenv.endian ctaZone = if f.zone ≠ 0 then some (nlaBe16 ctaZone f.zone) else none :=
    table_slot (by decide) (by simp [Flow.slots])
  have hfamily := family_new hf
  have horigTuple := hparse f.tupleOrig .original f.newZone hf.orig hports hfamily
  have hreplyTuple := hparse f.tupleReply .reply f.newZone hf.reply (hf.proto ▸ hports) (by rw [hfamily, hf.family])
  unfold newConntrackKeys
  rw [horig, hreply, hzone]
  dsimp only
  rw [show ctnetlinkParseZone _ = f.newZone from rfl]
  rw [show ctnetlinkParseTuple fenv _ ctaTupleOrig f.family f.newZone = _ from horigTuple]
  simp only [ok_bind, pure_bind]
  rw [show ctnetlinkParseTuple fenv _ ctaTupleReply f.family f.newZone = _ from hreplyTuple]
  rfl

end NewFlow

/-! ### The table -/

/-- The arguments of `runCmdCtAdd`. -/
def ctAddFlow (zone : ℤ) : Flow :=
  { newFlow 6 0 [1, 2, 3, 4] [5, 6, 7, 8] 1 80 120 0xff with zone := goUint16 (if zone = -1 then 0 else zone) }

/-- `runCmdCtAdd` on the table. -/
def CtWorld.ctAdd (env : CreateEnv) (info : NfnlInfo) (zone : ℤ) (w : CtWorld) : CtWorld :=
  match connCreate env.endian (ctAddFlow zone) with
  | .error _ => w
  | .ok q => (w.rcvNew env info q).world

theorem ctAddFlow_new (zone : ℤ) : (ctAddFlow zone).New := by
  have hported : ∀ src dst sport dport, src.length = 4 → dst.length = 4 →
      (⟨⟨src, dst⟩, ⟨6, sport, dport, false, false, 0, 0, 0⟩, 0⟩ : Tuple).Ported := fun src dst _ _ hs hd =>
    ⟨.inl ⟨decide_eq_true hs, decide_eq_true hd⟩, show (6 : UInt8) ≠ 0 by decide,
      show (6 : UInt8) ≠ ipprotoIcmp by decide, show (6 : UInt8) ≠ ipprotoIcmpv6 by decide, rfl⟩
  exact ⟨rfl, hported _ _ _ _ rfl rfl, hported _ _ _ _ rfl rfl, rfl, rfl, show (120 : UInt32) ≠ 0 by decide⟩

/-- The kernel's TCP reads ports. -/
theorem kernelFilterEnv_ports : kernelFilterEnv.Ports ipprotoTcp := by
  refine ⟨_, rfl, fun src dst t₀ ht₀ => ?_⟩
  have hinverse := (tcp_tupleInverse (t := ⟨⟨.ofIp 0, src, 0⟩, ⟨.ofIp 0, dst, ipprotoTcp, 0⟩⟩) rfl).inverse _ rfl
  obtain ⟨g, hg, hreads⟩ := hinverse
  obtain rfl := Option.some.inj hg
  exact hreads t₀ ht₀

section Table

variable {env : CreateEnv} {w : CtWorld} {held : CtPtr → ℕ} {f : Flow}

/-- What the kernel reads of the request of a new flow. -/
theorem newFlow_reads (hf : f.New) (hports : env.toFilterEnv.Ports f.tupleOrig.proto.protocol) (info : NfnlInfo)
    {q : CtQuery} (hq : connCreate env.endian f = .ok q) :
    q.flags &&& nlmFCreate ≠ 0 ∧ q.flags &&& nlmFExcl ≠ 0 ∧
      newConntrackKeys env.toFilterEnv (f.table env.endian) ({ info with family := q.family } : NfnlInfo).family =
        .ok (some (f.tupleOrig.key .original), some (f.tupleReply.key .reply), f.newZone) ∧
      w.rcvNew env info q =
        ctnetlinkNewConntrack env { info with family := q.family } q.flags (f.table env.endian) w := by
  obtain ⟨q', hq', hfamily, hflags, hparse⟩ := @connCreate_new env.endian f hf
  rw [hq] at hq'
  cases hq'
  refine ⟨by rw [hflags]; decide, by rw [hflags]; decide, ?_, ?_⟩
  · dsimp only
    rw [hfamily]
    exact create_keys hf hports
  · unfold CtWorld.rcvNew
    rw [hparse]

/-- What becomes of a request behind the parser. -/
theorem newFlow_cases (h : w.Sound held) (henv : env.Lawful) (hf : f.New)
    (hports : env.toFilterEnv.Ports f.tupleOrig.proto.protocol) (info : NfnlInfo) {q : CtQuery}
    (hq : connCreate env.endian f = .ok q) :
    (∀ n, env.find w.hash info.net f.newZone (f.tupleOrig.key .original) = some n →
      w.rcvNew env info q = ⟨-eexist, w, none⟩) ∧
    (env.find w.hash info.net f.newZone (f.tupleOrig.key .original) = none →
      (∃ err, w.rcvNew env info q = ⟨err, w, none⟩) ∨
        ∃ p w', w.rcvNew env info q = ⟨0, w', some (p, eventMask (createEvents ++ [ipctNew]))⟩ ∧
          w.Gained w' p ∧ (w'.conn p).Fresh info.net f.newZone (f.tupleOrig.key .original)
            (f.tupleReply.key .reply) f.mark) := by
  obtain ⟨hcreate, hexcl, hkeys, hrcv⟩ := @newFlow_reads env w f hf hports info q hq
  have hcases := CtWorld.new_cases h henv hcreate hexcl (table_plain env.endian f) hkeys
  rw [table_mark, ← hrcv] at hcases
  exact hcases

theorem newFlow_err (hplace : env.PlaceFails) (hf : f.New)
    (hports : env.toFilterEnv.Ports f.tupleOrig.proto.protocol) (info : NfnlInfo) {q : CtQuery}
    (hq : connCreate env.endian f = .ok q) (hreport : (w.rcvNew env info q).report = none) :
    (w.rcvNew env info q).err < 0 := by
  obtain ⟨hcreate, hexcl, hkeys, hrcv⟩ := @newFlow_reads env w f hf hports info q hq
  rw [hrcv] at hreport ⊢
  exact CtWorld.new_err hplace hcreate hexcl (table_plain env.endian f).master hkeys hreport

/-- **A new flow** is sent and arrives; if a conntrack is found under its original tuple, the request is refused
with `EEXIST`, and otherwise it is refused with an error or there is one conntrack more, of the tuples, the zone
and the mark that the flow names. -/
theorem connCreate_cases (h : w.Sound held) (henv : env.Lawful) (hplace : env.PlaceFails) (hf : f.New)
    (hports : env.toFilterEnv.Ports f.tupleOrig.proto.protocol) (info : NfnlInfo) :
    ∃ q cda, connCreate env.endian f = .ok q ∧ nlaParseCt q.attrs = .ok cda ∧
      (∀ n, env.find w.hash info.net f.newZone (f.tupleOrig.key .original) = some n →
        w.rcvNew env info q = ⟨-eexist, w, none⟩) ∧
      (env.find w.hash info.net f.newZone (f.tupleOrig.key .original) = none →
        (∃ err, err < 0 ∧ w.rcvNew env info q = ⟨err, w, none⟩) ∨
          ∃ p w', w.rcvNew env info q = ⟨0, w', some (p, eventMask (createEvents ++ [ipctNew]))⟩ ∧
            w.Gained w' p ∧ (w'.conn p).Fresh info.net f.newZone (f.tupleOrig.key .original)
              (f.tupleReply.key .reply) f.mark) := by
  obtain ⟨q, hq, -, -, hparse⟩ := @connCreate_new env.endian f hf
  obtain ⟨hfound, hnone⟩ := newFlow_cases h henv hf hports info hq
  refine ⟨q, f.table env.endian, hq, hparse, hfound, fun hfind => ?_⟩
  rcases hnone hfind with ⟨err, herr⟩ | hnew
  · refine .inl ⟨err, ?_, herr⟩
    have hneg := newFlow_err hplace hf hports info hq (by rw [herr])
    rwa [herr] at hneg
  · exact .inr hnew

/-- `ct add -z 100`, without conntracks. -/
theorem connCreate_cases_sample : ∃ q p w', connCreate .little (ctAddFlow 100) = .ok q ∧
    emptyWorld.rcvNew kernelEnv ⟨0, 1, 1, 0, 0⟩ q = ⟨0, w', some (p, eventMask (createEvents ++ [ipctNew]))⟩ ∧
      w'.live = [p] ∧ (w'.conn p).zone.id = 100 ∧ (w'.conn p).mark = 0xff := by
  obtain ⟨q, -, hq, -, -, hnone⟩ := connCreate_cases emptyWorld_sound kernelEnv_lawful kernelEnv_placeFails
    (ctAddFlow_new 100) kernelFilterEnv_ports ⟨0, 1, 1, 0, 0⟩
  have hok : ((connCreate .little (ctAddFlow 100)).toOption.bind fun q =>
      (emptyWorld.rcvNew kernelEnv ⟨0, 1, 1, 0, 0⟩ q).report).isSome := by decide +kernel
  rw [show connCreate .little (ctAddFlow 100) = .ok q from hq] at hok
  rcases hnone rfl with ⟨err, -, herr⟩ | ⟨p, w', hw', hgained, hfresh⟩
  · rw [Except.toOption, Option.bind_some, herr] at hok
    cases hok
  · refine ⟨q, p, w', hq, hw', hgained.live, ?_, hfresh.mark⟩
    rw [hfresh.zone]
    exact (newZone_id _).1

/-- The conntrack at 1 is the one that is added to no conntracks. -/
theorem ctAdd_empty : ∃ q, connCreate .little (ctAddFlow 100) = .ok q ∧
    emptyWorld.rcvNew kernelEnv ⟨0, 1, 1, 0, 0⟩ q = ⟨0, emptyWorld.ctAdd kernelEnv ⟨0, 1, 1, 0, 0⟩ 100,
      some (1, eventMask (createEvents ++ [ipctNew]))⟩ := by
  obtain ⟨q, hq, -⟩ := @connCreate_new .little _ (ctAddFlow_new 100)
  have hnone := (newFlow_cases emptyWorld_sound kernelEnv_lawful (ctAddFlow_new 100) kernelFilterEnv_ports
    ⟨0, 1, 1, 0, 0⟩ hq).2
  have hok : ((connCreate .little (ctAddFlow 100)).toOption.bind fun q =>
      (emptyWorld.rcvNew kernelEnv ⟨0, 1, 1, 0, 0⟩ q).report.map (·.1)) = some 1 := by decide +kernel
  have hworld : emptyWorld.ctAdd kernelEnv ⟨0, 1, 1, 0, 0⟩ 100 =
      (emptyWorld.rcvNew kernelEnv ⟨0, 1, 1, 0, 0⟩ q).world := by
    unfold CtWorld.ctAdd
    rw [show connCreate kernelEnv.endian (ctAddFlow 100) = .ok q from hq]
  refine ⟨q, hq, ?_⟩
  rw [hq, Except.toOption, Option.bind_some] at hok
  rw [hworld]
  rcases hnone rfl with ⟨err, herr⟩ | ⟨p, w', hw', -, -⟩
  · rw [herr] at hok
    cases hok
  · rw [hw'] at hok ⊢
    rw [show p = 1 from Option.some.inj hok]

end Table

end VgwDriver
