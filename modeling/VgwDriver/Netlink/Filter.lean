import VgwDriver.Netlink.Wire

/-!
# The filters of dump and delete requests

How a request's attributes become a `struct ctnetlink_filter` (`ctnetlink_alloc_filter` and the parsers it
calls) and which conntracks the filter lets through (`ctnetlink_filter_match`).

* `ctnetlinkAllocFilter`, `ctnetlinkNeedsFilter`, `ctnetlinkFilterMatch` — the functions;
* `allocFilter_zone` — a request that only names a zone gets a filter on that zone;
* `filterMatch_zone` — **such a filter matches exactly the zone's conntracks**.
-/

namespace VgwDriver

open Base

def enoent : ℤ := 2
def enomem : ℤ := 12
def ebusy : ℤ := 16
def einval : ℤ := 22
def erange : ℤ := 34
def eopnotsupp : ℤ := 95

/-! ### Parsing attributes -/

/-- The attributes of a request by type, as `nla_parse` leaves them. -/
abbrev NlaTable := UInt16 → Option Attr

/-- The last attribute of each type from 1 to `max`. -/
def nlaTable (max : UInt16) (l : List Attr) : NlaTable := fun t =>
  if 0 < t ∧ t ≤ max then (l.filter fun a => a.kind = t).getLast? else none

/-- What a policy asks of an attribute. -/
inductive NlaPolicy where
  | unspec
  | minLen (n : ℕ)
  | nested
  deriving DecidableEq, Repr

/-- The check of the deprecated, liberal validation. -/
def NlaPolicy.ok (a : Attr) : NlaPolicy → Bool
  | .unspec => true
  | .minLen n => n ≤ a.payload.length
  | .nested => a.payload.length = 0 || attrHdrLen ≤ a.payload.length

def nlaU8Policy : NlaPolicy := .minLen 1
def nlaU16Policy : NlaPolicy := .minLen 2
def nlaU32Policy : NlaPolicy := .minLen 4

/-- `nla_parse_nested_deprecated`. -/
def nlaParseNestedDeprecated (e : Endian) (max : UInt16) (policy : UInt16 → NlaPolicy) (attr : Attr) :
    Except ℤ NlaTable :=
  let l := scanAttrs e attr.payload
  if l.all fun a => max < a.kind || (policy a.kind).ok a then .ok (nlaTable max l)
  else .error (-erange)

/-- `nla_parse_nested` with a policy of `NLA_U32` attributes: flagged as nested, nothing left over, and in it
no unknown type, no other length, and no attribute that is itself flagged as nested. -/
def nlaParseNestedU32 (e : Endian) (max : UInt16) (attr : Attr) : Except ℤ NlaTable :=
  if attr.type &&& nestedFlag = 0 then .error (-einval)
  else
    match parseAttrs e attr.payload with
    | none => .error (-einval)
    | some l =>
      if l.all fun a =>
          0 < a.kind && a.kind ≤ max && a.payload.length = 4 && a.type &&& nestedFlag = 0 then
        .ok (nlaTable max l)
      else .error (-einval)

def nlaGetU8 (a : Attr) : UInt8 := a.payload.getD 0 0
def nlaGetBe16 (a : Attr) : UInt16 := get16 .big (a.payload.take 2)
def nlaGetBe32 (a : Attr) : UInt32 := get32 .big (a.payload.take 4)
def nlaGetU32 (e : Endian) (a : Attr) : UInt32 := get32 e (a.payload.take 4)
def nlaGetIn6Addr (a : Attr) : NfInetAddr :=
  ⟨get32 .big (a.payload.take 4), get32 .big ((a.payload.drop 4).take 4),
    get32 .big ((a.payload.drop 8).take 4), get32 .big ((a.payload.drop 12).take 4)⟩

/-! ### The filter -/

def ctaFilterFCtaIpSrc : UInt32 := 0x001
def ctaFilterFCtaIpDst : UInt32 := 0x002
def ctaFilterFCtaTupleZone : UInt32 := 0x004
def ctaFilterFCtaProtoNum : UInt32 := 0x008
def ctaFilterFCtaProtoSrcPort : UInt32 := 0x010
def ctaFilterFCtaProtoDstPort : UInt32 := 0x020
def ctaFilterFCtaProtoIcmpType : UInt32 := 0x040
def ctaFilterFCtaProtoIcmpCode : UInt32 := 0x080
def ctaFilterFCtaProtoIcmpId : UInt32 := 0x100
def ctaFilterFCtaProtoIcmpv6Type : UInt32 := 0x200
def ctaFilterFCtaProtoIcmpv6Code : UInt32 := 0x400
def ctaFilterFCtaProtoIcmpv6Id : UInt32 := 0x800
def ctaFilterFMax : UInt32 := 0x1000
def ctaFilterFAll : UInt32 := ctaFilterFMax - 1

def ctaFilterFAllCtaProto : UInt32 :=
  ctaFilterFCtaProtoSrcPort ||| ctaFilterFCtaProtoDstPort ||| ctaFilterFCtaProtoIcmpType |||
    ctaFilterFCtaProtoIcmpCode ||| ctaFilterFCtaProtoIcmpId ||| ctaFilterFCtaProtoIcmpv6Type |||
    ctaFilterFCtaProtoIcmpv6Code ||| ctaFilterFCtaProtoIcmpv6Id

/-- `flags & flag`. -/
def hasFlag (flags flag : UInt32) : Bool := flags &&& flag ≠ 0

/-- `struct ctnetlink_filter_u32`. -/
structure CtnetlinkFilterU32 where
  val : UInt32
  mask : UInt32
  deriving DecidableEq, Repr

/-- `struct ctnetlink_filter`. -/
structure CtnetlinkFilter where
  family : UInt8
  origFlags : UInt32
  replyFlags : UInt32
  orig : NfConntrackTuple
  reply : NfConntrackTuple
  zone : NfConntrackZone
  mark : CtnetlinkFilterU32
  status : CtnetlinkFilterU32
  deriving DecidableEq, Repr

/-- The host's byte order, and what a protocol's `nla_policy` and `nlattr_to_tuple` make of the payload of
`CTA_TUPLE_PROTO`: the tuple with its ports, or an error (`none` for a null callback). -/
structure FilterEnv where
  endian : Endian
  nlattrToTuple : UInt8 → Option (Attr → NfConntrackTuple → UInt32 → Except ℤ NfConntrackTuple)

variable (env : FilterEnv)

/-- `ctnetlink_parse_filter`: the two flag words, where they are given. -/
def ctnetlinkParseFilter (attr : Attr) (filter : CtnetlinkFilter) : Except ℤ CtnetlinkFilter := do
  let tb ← nlaParseNestedU32 env.endian 2 attr
  let filter ← match tb 1 with
    | none => pure filter
    | some a =>
      let filter := { filter with origFlags := nlaGetU32 env.endian a }
      if filter.origFlags &&& ~~~ctaFilterFAll ≠ 0 then throw (-eopnotsupp) else pure filter
  match tb 2 with
    | none => pure filter
    | some a =>
      let filter := { filter with replyFlags := nlaGetU32 env.endian a }
      if filter.replyFlags &&& ~~~ctaFilterFAll ≠ 0 then throw (-eopnotsupp) else pure filter

/-- `ctnetlink_filter_parse_mark`. -/
def ctnetlinkFilterParseMark (mark : CtnetlinkFilterU32) (cda : NlaTable) :
    Except ℤ CtnetlinkFilterU32 :=
  match cda ctaMark, cda ctaMarkMask with
  | some m, some mask => .ok ⟨nlaGetBe32 m, nlaGetBe32 mask⟩
  | some m, none => .ok ⟨nlaGetBe32 m, 0xffffffff⟩
  | none, some _ => .error (-einval)
  | none, none => .ok mark

/-- `ctnetlink_filter_parse_status`. -/
def ctnetlinkFilterParseStatus (status : CtnetlinkFilterU32) (cda : NlaTable) :
    Except ℤ CtnetlinkFilterU32 :=
  match cda ctaStatus, cda ctaStatusMask with
  | some s, mask =>
    let val := nlaGetBe32 s
    let mask := match mask with
      | some mask => nlaGetBe32 mask
      | none => val
    if mask = 0 then .error (-einval) else .ok ⟨val, mask⟩
  | none, some _ => .error (-einval)
  | none, none => .ok status

/-- `ctnetlink_parse_zone`. -/
def ctnetlinkParseZone (attr : Option Attr) : NfConntrackZone :=
  match attr with
  | none => ⟨nfCtDefaultZoneId, 0, nfCtDefaultZoneDir⟩
  | some a => ⟨nlaGetBe16 a, nfCtZoneDirOrig, nfCtDefaultZoneDir⟩

/-- `ctnetlink_parse_tuple_zone`. -/
def ctnetlinkParseTupleZone (attr : Attr) (type : UInt16) (zone : NfConntrackZone) :
    Except ℤ NfConntrackZone :=
  if zone.id ≠ nfCtDefaultZoneId then .error (-einval)
  else
    .ok { ctnetlinkParseZone (some attr) with
      dir := if type = ctaTupleReply then nfCtZoneDirRepl else nfCtZoneDirOrig }

/-- `ipv4_nlattr_to_tuple`. -/
def ipv4NlattrToTuple (tb : NlaTable) (t : NfConntrackTuple) (flags : UInt32) :
    Except ℤ NfConntrackTuple := do
  let t ← if hasFlag flags ctaFilterFCtaIpSrc then
      match tb ctaIpV4Src with
      | none => throw (-einval)
      | some a => pure { t with src := { t.src with u3 := .ofIp (nlaGetBe32 a) } }
    else pure t
  if hasFlag flags ctaFilterFCtaIpDst then
    match tb ctaIpV4Dst with
    | none => throw (-einval)
    | some a => pure { t with dst := { t.dst with u3 := .ofIp (nlaGetBe32 a) } }
  else pure t

/-- `ipv6_nlattr_to_tuple`. -/
def ipv6NlattrToTuple (tb : NlaTable) (t : NfConntrackTuple) (flags : UInt32) :
    Except ℤ NfConntrackTuple := do
  let t ← if hasFlag flags ctaFilterFCtaIpSrc then
      match tb ctaIpV6Src with
      | none => throw (-einval)
      | some a => pure { t with src := { t.src with u3 := nlaGetIn6Addr a } }
    else pure t
  if hasFlag flags ctaFilterFCtaIpDst then
    match tb ctaIpV6Dst with
    | none => throw (-einval)
    | some a => pure { t with dst := { t.dst with u3 := nlaGetIn6Addr a } }
  else pure t

/-- `cta_ip_nla_policy`. -/
def ctaIpNlaPolicy (t : UInt16) : NlaPolicy :=
  if t = ctaIpV4Src ∨ t = ctaIpV4Dst then nlaU32Policy
  else if t = ctaIpV6Src ∨ t = ctaIpV6Dst then .minLen 16
  else .unspec

/-- `ctnetlink_parse_tuple_ip`. -/
def ctnetlinkParseTupleIp (attr : Attr) (tuple : NfConntrackTuple) (flags : UInt32) :
    Except ℤ NfConntrackTuple := do
  let tb ← nlaParseNestedDeprecated env.endian 4 ctaIpNlaPolicy attr
  if tuple.src.l3num = nfprotoIpv4.toUInt16 then ipv4NlattrToTuple tb tuple flags
  else if tuple.src.l3num = nfprotoIpv6.toUInt16 then ipv6NlattrToTuple tb tuple flags
  else pure tuple

/-- `proto_nla_policy`. -/
def protoNlaPolicy (t : UInt16) : NlaPolicy := if t = ctaProtoNum then nlaU8Policy else .unspec

/-- `ctnetlink_parse_tuple_proto`. -/
def ctnetlinkParseTupleProto (attr : Attr) (tuple : NfConntrackTuple) (flags : UInt32) :
    Except ℤ NfConntrackTuple := do
  let tb ← nlaParseNestedDeprecated env.endian 9 protoNlaPolicy attr
  if ¬ hasFlag flags ctaFilterFCtaProtoNum then pure tuple
  else
    match tb ctaProtoNum with
    | none => throw (-einval)
    | some num =>
      let tuple := { tuple with dst := { tuple.dst with protonum := nlaGetU8 num } }
      match env.nlattrToTuple tuple.dst.protonum with
      | none => pure tuple
      | some nlattrToTuple => nlattrToTuple attr tuple flags

/-- `tuple_nla_policy`. -/
def tupleNlaPolicy (t : UInt16) : NlaPolicy :=
  if t = ctaTupleIp ∨ t = ctaTupleProto then .nested
  else if t = ctaTupleZone then nlaU16Policy
  else .unspec

/-- `ctnetlink_parse_tuple_filter`, for the attribute `cda[type]`: the tuple and the zone. -/
def ctnetlinkParseTupleFilter (attr : Attr) (type : UInt16) (l3num : UInt8) (zone : NfConntrackZone)
    (flags : UInt32) : Except ℤ (NfConntrackTuple × NfConntrackZone) := do
  let tuple := NfConntrackTuple.zero
  let tb ← nlaParseNestedDeprecated env.endian 3 tupleNlaPolicy attr
  if l3num ≠ nfprotoIpv4 ∧ l3num ≠ nfprotoIpv6 then throw (-eopnotsupp)
  let tuple := { tuple with src := { tuple.src with l3num := l3num.toUInt16 } }
  let tuple ← if hasFlag flags ctaFilterFCtaIpDst || hasFlag flags ctaFilterFCtaIpSrc then
      match tb ctaTupleIp with
      | none => throw (-einval)
      | some a => ctnetlinkParseTupleIp env a tuple flags
    else pure tuple
  let tuple ← if hasFlag flags ctaFilterFCtaProtoNum then
      match tb ctaTupleProto with
      | none => throw (-einval)
      | some a => ctnetlinkParseTupleProto env a tuple flags
    else if hasFlag flags ctaFilterFAllCtaProto then throw (-einval)
    else pure tuple
  let zone ← match hasFlag flags ctaFilterFCtaTupleZone, tb ctaTupleZone with
    | true, some a => ctnetlinkParseTupleZone a type zone
    | _, _ => pure zone
  let dir : UInt8 := if type = ctaTupleReply then 1 else 0
  pure ({ tuple with dst := { tuple.dst with dir := dir } }, zone)

/-- `ctnetlink_parse_tuple`. -/
def ctnetlinkParseTuple (attr : Attr) (type : UInt16) (l3num : UInt8) (zone : NfConntrackZone) :
    Except ℤ (NfConntrackTuple × NfConntrackZone) :=
  ctnetlinkParseTupleFilter env attr type l3num zone ctaFilterFAll

/-- The filter after `kzalloc`. -/
def CtnetlinkFilter.zero : CtnetlinkFilter :=
  ⟨0, 0, 0, .zero, .zero, ⟨0, 0, 0⟩, ⟨0, 0⟩, ⟨0, 0⟩⟩

/-- `ctnetlink_alloc_filter`, when there is memory for the filter. -/
def ctnetlinkAllocFilter (cda : NlaTable) (family : UInt8) : Except ℤ CtnetlinkFilter := do
  let filter := { CtnetlinkFilter.zero with family := family }
  let mark ← ctnetlinkFilterParseMark filter.mark cda
  let status ← ctnetlinkFilterParseStatus filter.status cda
  let filter := { filter with
    mark := mark
    status := status
    zone := ctnetlinkParseZone (cda ctaZone) }
  match cda ctaFilter with
  | none => pure filter
  | some attr => do
    let filter ← ctnetlinkParseFilter env attr filter
    let filter ← if filter.origFlags ≠ 0 then
        match cda ctaTupleOrig with
        | none => throw (-einval)
        | some a => do
          let (tuple, zone) ← ctnetlinkParseTupleFilter env a ctaTupleOrig filter.family filter.zone
            filter.origFlags
          pure { filter with orig := tuple, zone := zone }
      else pure filter
    if filter.replyFlags ≠ 0 then
      match cda ctaTupleReply with
      | none => throw (-einval)
      | some a => do
        let (tuple, zone) ← ctnetlinkParseTupleFilter env a ctaTupleReply filter.family filter.zone
          filter.replyFlags
        pure { filter with reply := tuple, zone := zone }
    else pure filter

/-- `ctnetlink_needs_filter`. -/
def ctnetlinkNeedsFilter (family : UInt8) (cda : NlaTable) : Bool :=
  family ≠ 0 || (cda ctaMark).isSome || (cda ctaFilter).isSome || (cda ctaStatus).isSome ||
    (cda ctaZone).isSome

/-! ### Matching -/

def ipprotoIcmp : UInt8 := 1
def ipprotoUdp : UInt8 := 17
def ipprotoIcmpv6 : UInt8 := 58

/-- The ICMP type and code in the `dst` union: its first and its second byte. -/
def TupleDst.icmpType (d : TupleDst) : UInt8 := (d.u >>> 8).toUInt8
def TupleDst.icmpCode (d : TupleDst) : UInt8 := d.u.toUInt8

/-- `ctnetlink_filter_match_tuple`.  The IPv6 comparisons are written as the source has them:
`ipv6_addr_cmp` is 0 on equal addresses, and its negation rejects. -/
def ctnetlinkFilterMatchTuple (filterTuple ctTuple : NfConntrackTuple) (flags : UInt32)
    (family : UInt8) : Bool :=
  let addresses :=
    if family = nfprotoIpv4 then
      !(hasFlag flags ctaFilterFCtaIpSrc && filterTuple.src.u3.ip ≠ ctTuple.src.u3.ip) &&
        !(hasFlag flags ctaFilterFCtaIpDst && filterTuple.dst.u3.ip ≠ ctTuple.dst.u3.ip)
    else if family = nfprotoIpv6 then
      !(hasFlag flags ctaFilterFCtaIpSrc && filterTuple.src.u3 = ctTuple.src.u3) &&
        !(hasFlag flags ctaFilterFCtaIpDst && filterTuple.dst.u3 = ctTuple.dst.u3)
    else true
  let icmp := fun typeFlag codeFlag idFlag =>
    !(hasFlag flags typeFlag && filterTuple.dst.icmpType ≠ ctTuple.dst.icmpType) &&
      !(hasFlag flags codeFlag && filterTuple.dst.icmpCode ≠ ctTuple.dst.icmpCode) &&
      !(hasFlag flags idFlag && filterTuple.src.u ≠ ctTuple.src.u)
  let ports :=
    if ctTuple.dst.protonum = ipprotoTcp ∨ ctTuple.dst.protonum = ipprotoUdp then
      !(hasFlag flags ctaFilterFCtaProtoSrcPort && filterTuple.src.u ≠ ctTuple.src.u) &&
        !(hasFlag flags ctaFilterFCtaProtoDstPort && filterTuple.dst.u ≠ ctTuple.dst.u)
    else if ctTuple.dst.protonum = ipprotoIcmp then
      icmp ctaFilterFCtaProtoIcmpType ctaFilterFCtaProtoIcmpCode ctaFilterFCtaProtoIcmpId
    else if ctTuple.dst.protonum = ipprotoIcmpv6 then
      icmp ctaFilterFCtaProtoIcmpv6Type ctaFilterFCtaProtoIcmpv6Code ctaFilterFCtaProtoIcmpv6Id
    else true
  addresses &&
    !(hasFlag flags ctaFilterFCtaProtoNum && filterTuple.dst.protonum ≠ ctTuple.dst.protonum) && ports

/-- `ctnetlink_filter_match`; no filter matches everything. -/
def ctnetlinkFilterMatch (ct : NfConn) (filter : Option CtnetlinkFilter) : Bool :=
  match filter with
  | none => true
  | some filter =>
    if filter.family ≠ 0 ∧ nfCtL3num ct ≠ filter.family.toUInt16 then false
    else if filter.origFlags ≠ 0 ∧
        !ctnetlinkFilterMatchTuple filter.orig ct.tupleOrig filter.origFlags filter.family then false
    else if filter.replyFlags ≠ 0 ∧
        !ctnetlinkFilterMatchTuple filter.reply ct.tupleReply filter.replyFlags filter.family then false
    else if filter.zone.flags &&& nfCtZoneDirOrig ≠ 0 ∧
        nfCtZoneId ct.zone .original ≠ filter.zone.id then false
    else if ct.mark &&& filter.mark.mask ≠ filter.mark.val then false
    else if ct.status &&& filter.status.mask ≠ filter.status.val then false
    else true

/-! ### Requests that name only a zone -/

/-- The filter of a request that names only the zone `z`. -/
def zoneFilter (z : UInt16) : CtnetlinkFilter :=
  { CtnetlinkFilter.zero with zone := ⟨z, nfCtZoneDirOrig, nfCtDefaultZoneDir⟩ }

/-- The table of a request whose only attribute is the zone `z`. -/
theorem nlaTable_zone (max z : UInt16) (hmax : ctaZone ≤ max) (t : UInt16) :
    nlaTable max [nlaBe16 ctaZone z] t = if t = ctaZone then some (nlaBe16 ctaZone z) else none := by
  have hkind : (nlaBe16 ctaZone z).kind = ctaZone := by
    show ctaZone &&& typeMask = ctaZone
    decide
  unfold nlaTable
  by_cases ht : t = ctaZone
  · subst ht
    have hpos : 0 < ctaZone := by decide
    simp [hkind, hmax, hpos]
  · have hne : ¬ ctaZone = t := fun h => ht h.symm
    simp [hkind, ht, hne]

theorem nlaGetBe16_nlaBe16 (type z : UInt16) : nlaGetBe16 (nlaBe16 type z) = z := by
  have htake : (put16 .big z).take 2 = put16 .big z := List.take_of_length_le (by simp)
  simp only [nlaGetBe16, nlaBe16, htake, get16_put16]

/-- **A request that only names a zone** gets a filter on that zone. -/
theorem allocFilter_zone {max : UInt16} (hmax : ctaZone ≤ max) (z : UInt16) :
    ctnetlinkAllocFilter env (nlaTable max [nlaBe16 ctaZone z]) 0 = .ok (zoneFilter z) := by
  have htab := nlaTable_zone max z hmax
  have hmark : ctnetlinkFilterParseMark ⟨0, 0⟩ (nlaTable max [nlaBe16 ctaZone z]) = .ok ⟨0, 0⟩ := by
    unfold ctnetlinkFilterParseMark
    rw [htab, htab, if_neg (by decide), if_neg (by decide)]
  have hstatus : ctnetlinkFilterParseStatus ⟨0, 0⟩ (nlaTable max [nlaBe16 ctaZone z])
      = .ok ⟨0, 0⟩ := by
    unfold ctnetlinkFilterParseStatus
    rw [htab, htab, if_neg (by decide), if_neg (by decide)]
  have hzone : ctnetlinkParseZone (nlaTable max [nlaBe16 ctaZone z] ctaZone)
      = ⟨z, nfCtZoneDirOrig, nfCtDefaultZoneDir⟩ := by
    rw [htab, if_pos rfl]
    simp only [ctnetlinkParseZone, nlaGetBe16_nlaBe16]
  have hfilter : nlaTable max [nlaBe16 ctaZone z] ctaFilter = none := by
    rw [htab, if_neg (by decide)]
  unfold ctnetlinkAllocFilter
  simp only [CtnetlinkFilter.zero, hmark, hstatus, hzone, hfilter]
  rfl

/-- **A zone filter matches exactly the conntracks of its zone**, seen in the original direction. -/
theorem filterMatch_zone (ct : NfConn) (z : UInt16) :
    ctnetlinkFilterMatch ct (some (zoneFilter z)) = true ↔ nfCtZoneId ct.zone .original = z := by
  have hbit : nfCtZoneDirOrig ≠ 0 := by decide
  simp [ctnetlinkFilterMatch, zoneFilter, CtnetlinkFilter.zero, hbit]

end VgwDriver
