import VgwDriver.Netlink.Wire
import VgwDriver.Tracker

/-!
# Writing a conntrack as a netlink message

The `ctnetlink_dump_*` functions, the TCP protoinfo of `tcp_session.c`, `ctnetlink_fill_info` and
`ctnetlink_conntrack_event`.  They append to the message; the accounting counters, which one kind of
request sets to zero while it reads them, are the state they thread along.

The extensions for marks, security marks, labels, zones, timestamps and events are configured in.
-/

namespace VgwDriver

open Base

/-- What the writers need besides the conntrack: the host's byte order, the module parameter, the clock,
and the kernel's functions — the callbacks of a layer-4 protocol (`tuple_to_nlattr` and `to_nlattr`, by
protocol number, `none` for a null pointer), the security context of a `secmark`, and `nf_ct_get_id`. -/
structure NlEnv where
  endian : Endian
  tcptrackFlags : UInt32
  nfctTimeStamp : UInt32
  hz : UInt32
  tupleToNlattr : UInt8 → Option (NfConntrackTuple → List Attr)
  toNlattr : UInt8 → Option (NfConn → Bool → List Attr)
  secidToSecctx : UInt32 → Option Bytes
  nfCtGetId : CtPtr → UInt32

/-- A writer of attributes: errors are negative return codes, the state is the accounting extension. -/
abbrev NlWriter := Writer ℤ (Option NfConnAcct) Unit

variable (env : NlEnv)

def emsgsize : ℤ := 90

/-! ### Tuples -/

/-- `ctnetlink_dump_tuples_proto`. -/
def ctnetlinkDumpTuplesProto (tuple : NfConntrackTuple) : NlWriter := do
  let nestParms ← nestStart (-1) env.endian ctaTupleProto
  putAttr (-1) env.endian (nlaU8 ctaProtoNum tuple.dst.protonum)
  let ret ← (putAttrs (-1) env.endian
    (match env.tupleToNlattr tuple.dst.protonum with
    | some tupleToNlattr => tupleToNlattr tuple
    | none => [])).attempt
  nestEnd env.endian nestParms
  Writer.lift ret

/-- `ipv4_tuple_to_nlattr`. -/
def ipv4TupleToNlattr (tuple : NfConntrackTuple) : NlWriter :=
  putAttrs (-emsgsize) env.endian
    [nlaBe32 ctaIpV4Src tuple.src.u3.ip, nlaBe32 ctaIpV4Dst tuple.dst.u3.ip]

/-- `ipv6_tuple_to_nlattr`. -/
def ipv6TupleToNlattr (tuple : NfConntrackTuple) : NlWriter :=
  putAttrs (-emsgsize) env.endian
    [⟨ctaIpV6Src, tuple.src.u3.in6⟩, ⟨ctaIpV6Dst, tuple.dst.u3.in6⟩]

/-- `ctnetlink_dump_tuples_ip`. -/
def ctnetlinkDumpTuplesIp (tuple : NfConntrackTuple) : NlWriter := do
  let nestParms ← nestStart (-1) env.endian ctaTupleIp
  let ret ← Writer.attempt
    (if tuple.src.l3num = nfprotoIpv4.toUInt16 then ipv4TupleToNlattr env tuple
    else if tuple.src.l3num = nfprotoIpv6.toUInt16 then ipv6TupleToNlattr env tuple
    else pure ())
  nestEnd env.endian nestParms
  Writer.lift ret

/-- `ctnetlink_dump_tuples`. -/
def ctnetlinkDumpTuples (tuple : NfConntrackTuple) : NlWriter := do
  ctnetlinkDumpTuplesIp env tuple
  ctnetlinkDumpTuplesProto env tuple

/-- `ctnetlink_dump_zone_id`. -/
def ctnetlinkDumpZoneId (attrtype : UInt16) (zone : NfConntrackZone) (dir : UInt8) : NlWriter :=
  if zone.id = nfCtDefaultZoneId ∨ zone.dir ≠ dir then pure ()
  else putAttr (-1) env.endian (nlaBe16 attrtype zone.id)

/-! ### The fixed part -/

/-- `ctnetlink_dump_status`. -/
def ctnetlinkDumpStatus (ct : NfConn) : NlWriter :=
  putAttr (-1) env.endian (nlaBe32 ctaStatus ct.status)

/-- `nf_ct_expires`: the jiffies left, at least 0. -/
def nfCtExpires (ct : NfConn) : ℕ :=
  (s32 (ct.timeout - env.nfctTimeStamp).toNat).toNat

/-- The timeout in seconds. -/
def ctTimeout (ct : NfConn) : ℕ :=
  if ct.testStatus ipsConfirmedBit then nfCtExpires env ct / env.hz.toNat
  else ct.timeout.toNat / env.hz.toNat

/-- `ctnetlink_dump_timeout`. -/
def ctnetlinkDumpTimeout (ct : NfConn) (skipZero : Bool) : NlWriter :=
  if skipZero ∧ ctTimeout env ct = 0 then pure ()
  else putAttr (-1) env.endian (nlaBe32 ctaTimeout (UInt32.ofNat (ctTimeout env ct)))

/-- `struct nf_ct_tcp_flags` with a zero mask. -/
def nlaTcpFlags (type : UInt16) (flags : UInt8) : Attr := ⟨type, [flags, 0]⟩

/-- `struct ip_ct_tcp_state_vgw`, with its padding. -/
def ipCtTcpStateVgw (s : IpCtTcpState) : Bytes :=
  put32 env.endian s.tdEnd ++ put32 env.endian s.tdMaxend ++ put32 env.endian s.tdMaxwin
    ++ put32 env.endian s.tdMaxack ++ [s.tdScale, s.flags] ++ [0, 0]

/-- `struct ip_ct_tcp_vgw` as `tcp_to_nlattr` fills it, byte by byte. -/
def ipCtTcpVgw (t : IpCtTcp) : Bytes :=
  ipCtTcpStateVgw env t.seen0 ++ ipCtTcpStateVgw env t.seen1
    ++ [t.state.code, t.lastDir, t.retrans, t.lastIndex]
    ++ put32 env.endian t.lastSeq ++ put32 env.endian t.lastAck ++ put32 env.endian t.lastEnd
    ++ put16 env.endian t.lastWin ++ [t.lastWscale, t.lastFlags] ++ [0, 0, 0, 0]

/-- `tcp_to_nlattr` of `tcp_session.c`. -/
def tcpToNlattr (ct : NfConn) (destroy : Bool) : NlWriter := do
  let nestParms ← nestStart (-1) env.endian ctaProtoinfoTcp
  putAttrs (-1) env.endian
    (nlaU8 ctaProtoinfoTcpState ct.tcp.state.code ::
      if destroy then []
      else
        [nlaU8 ctaProtoinfoTcpWscaleOriginal ct.tcp.seen0.tdScale,
          nlaU8 ctaProtoinfoTcpWscaleReply ct.tcp.seen1.tdScale,
          nlaTcpFlags ctaProtoinfoTcpFlagsOriginal ct.tcp.seen0.flags,
          nlaTcpFlags ctaProtoinfoTcpFlagsReply ct.tcp.seen1.flags,
          ⟨ctaProtoinfoTcpSeqTrack, ipCtTcpVgw env ct.tcp⟩])
  nestEnd env.endian nestParms

/-- `vgw_dump_tcp_protoinfo`. -/
def vgwDumpTcpProtoinfo (ct : NfConn) (destroy : Bool) : NlWriter :=
  if nfCtProtonum ct ≠ ipprotoTcp then Writer.fail (-1)
  else do
    let nestProto ← nestStart (-1) env.endian ctaProtoinfo
    let ret ← (tcpToNlattr env ct destroy).attempt
    nestEnd env.endian nestProto
    Writer.lift ret

/-- The two conditions under which `ctnetlink_dump_protoinfo` writes the module's own encoding. -/
def exportsTcp (ct : NfConn) (flags : UInt16) : Bool :=
  (flags &&& nlmFDumpFiltered ≠ 0 && isEnableExportTcpTrack env.tcptrackFlags) &&
    nfCtProtonum ct = ipprotoTcp

/-- `ctnetlink_dump_protoinfo`. -/
def ctnetlinkDumpProtoinfo (ct : NfConn) (destroy : Bool) (flags : UInt16) : NlWriter :=
  if exportsTcp env ct flags then vgwDumpTcpProtoinfo env ct destroy
  else
    match env.toNlattr (nfCtProtonum ct) with
    | none => pure ()
    | some toNlattr => do
      let nestProto ← nestStart (-1) env.endian ctaProtoinfo
      let ret ← (putAttrs (-1) env.endian (toNlattr ct destroy)).attempt
      nestEnd env.endian nestProto
      Writer.lift ret

/-- `ctnetlink_dump_mark`. -/
def ctnetlinkDumpMark (ct : NfConn) (dump : Bool) : NlWriter :=
  if ct.mark = 0 ∧ ¬ dump then pure ()
  else putAttr (-1) env.endian (nlaBe32 ctaMark ct.mark)

/-- `ctnetlink_dump_secctx`. -/
def ctnetlinkDumpSecctx (ct : NfConn) : NlWriter :=
  match env.secidToSecctx ct.secmark with
  | none => pure ()
  | some secctx => do
    let nestSecctx ← nestStart (-1) env.endian ctaSecctx
    putAttr (-1) env.endian (nlaString ctaSecctxName secctx)
    nestEnd env.endian nestSecctx

/-- `ctnetlink_dump_id`: the id's bytes as they stand in memory. -/
def ctnetlinkDumpId (p : CtPtr) : NlWriter :=
  putAttr (-1) env.endian ⟨ctaId, put32 env.endian (env.nfCtGetId p)⟩

/-- `ctnetlink_dump_use`. -/
def ctnetlinkDumpUse (ct : NfConn) : NlWriter :=
  putAttr (-1) env.endian (nlaBe32 ctaUse (UInt32.ofNat ct.use))

/-- `ctnetlink_dump_master`. -/
def ctnetlinkDumpMaster (ct : NfConn) : NlWriter :=
  if ¬ ct.testStatus ipsExpectedBit then pure ()
  else do
    let nestParms ← nestStart (-1) env.endian ctaTupleMaster
    ctnetlinkDumpTuples env ct.masterTuple
    nestEnd env.endian nestParms

/-- `ctnetlink_dump_info`. -/
def ctnetlinkDumpInfo (p : CtPtr) (ct : NfConn) (flags : UInt16) : NlWriter := do
  ctnetlinkDumpStatus env ct
  ctnetlinkDumpMark env ct true
  ctnetlinkDumpSecctx env ct
  ctnetlinkDumpId env p
  ctnetlinkDumpUse env ct
  ctnetlinkDumpMaster env ct
  if ct.testStatus ipsOffloadBit then pure ()
  else do
    ctnetlinkDumpTimeout env ct false
    ctnetlinkDumpProtoinfo env ct false flags

/-! ### The extensions -/

/-- The counter of one direction. -/
def NfConnAcct.counter (a : NfConnAcct) : IpConntrackDir → NfConnCounter
  | .original => a.orig
  | .reply => a.reply

def NfConnAcct.setCounter (a : NfConnAcct) (dir : IpConntrackDir) (c : NfConnCounter) : NfConnAcct :=
  match dir with
  | .original => { a with orig := c }
  | .reply => { a with reply := c }

/-- What `dump_counters` reads, and what it leaves: for a zeroing request, an exchange with zero. -/
def takeCounter (dir : IpConntrackDir) (type : UInt8) (acct : Option NfConnAcct) :
    NfConnCounter × Option NfConnAcct :=
  match acct with
  | none => (⟨0, 0⟩, none)
  | some a =>
    (a.counter dir, some (if type = ipctnlMsgCtGetCtrzero then a.setCounter dir ⟨0, 0⟩ else a))

def ctaCounters : IpConntrackDir → UInt16
  | .original => ctaCountersOrig
  | .reply => ctaCountersReply

/-- `dump_counters`.  The counters are taken before the attribute is opened. -/
def dumpCounters (dir : IpConntrackDir) (type : UInt8) : NlWriter := do
  let counter ← Writer.exchange (takeCounter dir type)
  let nestCount ← nestStart (-1) env.endian (ctaCounters dir)
  putAttrs (-1) env.endian
    [nlaBe64 ctaCountersPackets counter.packets, nlaBe64 ctaCountersBytes counter.bytes]
  nestEnd env.endian nestCount

/-- `ctnetlink_dump_acct`. -/
def ctnetlinkDumpAcct (type : UInt8) : NlWriter := do
  let acct ← Writer.exchange fun acct : Option NfConnAcct => (acct, acct)
  match acct with
  | none => pure ()
  | some _ => do
    dumpCounters env .original type
    dumpCounters env .reply type

/-- `ctnetlink_dump_timestamp`. -/
def ctnetlinkDumpTimestamp (ct : NfConn) : NlWriter :=
  match ct.tstamp with
  | none => pure ()
  | some tstamp => do
    let nestCount ← nestStart (-1) env.endian ctaTimestamp
    putAttrs (-1) env.endian
      (nlaBe64 ctaTimestampStart tstamp.start ::
        if tstamp.stop ≠ 0 then [nlaBe64 ctaTimestampStop tstamp.stop] else [])
    nestEnd env.endian nestCount

/-- `ctnetlink_dump_helpinfo`.  What the helper's own callback returns is not looked at. -/
def ctnetlinkDumpHelpinfo (ct : NfConn) : NlWriter :=
  match ct.help with
  | none => pure ()
  | some none => pure ()
  | some (some helper) => do
    let nestHelper ← nestStart (-1) env.endian ctaHelp
    (do
      putAttr (-1) env.endian (nlaString ctaHelpName helper.name)
      let _ ← (putAttrs (-1) env.endian helper.toNlattr).attempt
      pure ())
    nestEnd env.endian nestHelper

/-- `ctnetlink_dump_labels`: the bit map in host order, if any bit is set. -/
def ctnetlinkDumpLabels (ct : NfConn) : NlWriter :=
  match ct.labels with
  | none => pure ()
  | some labels =>
    if labels.bits0 ≠ 0 ∨ labels.bits1 ≠ 0 then
      putAttr (-1) env.endian
        ⟨ctaLabels, put64 env.endian labels.bits0 ++ put64 env.endian labels.bits1⟩
    else pure ()

/-- `dump_ct_seq_adj`. -/
def dumpCtSeqAdj (seq : NfCtSeqadj) (type : UInt16) : NlWriter := do
  let nestParms ← nestStart (-1) env.endian type
  putAttrs (-1) env.endian
    [nlaBe32 ctaSeqadjCorrectionPos seq.correctionPos,
      nlaBe32 ctaSeqadjOffsetBefore seq.offsetBefore,
      nlaBe32 ctaSeqadjOffsetAfter seq.offsetAfter]
  nestEnd env.endian nestParms

/-- `ctnetlink_dump_ct_seq_adj`. -/
def ctnetlinkDumpCtSeqAdj (ct : NfConn) : NlWriter :=
  match ct.seqadj with
  | none => pure ()
  | some (orig, reply) =>
    if ¬ ct.testStatus ipsSeqAdjustBit then pure ()
    else do
      dumpCtSeqAdj env orig ctaSeqAdjOrig
      dumpCtSeqAdj env reply ctaSeqAdjReply

/-- `ctnetlink_dump_ct_synproxy`. -/
def ctnetlinkDumpCtSynproxy (ct : NfConn) : NlWriter :=
  match ct.synproxy with
  | none => pure ()
  | some synproxy => do
    let nestParms ← nestStart (-1) env.endian ctaSynproxy
    putAttrs (-1) env.endian
      [nlaBe32 ctaSynproxyIsn synproxy.isn, nlaBe32 ctaSynproxyIts synproxy.its,
        nlaBe32 ctaSynproxyTsoff synproxy.tsoff]
    nestEnd env.endian nestParms

/-- `ctnetlink_dump_extinfo`. -/
def ctnetlinkDumpExtinfo (ct : NfConn) (type : UInt8) : NlWriter := do
  ctnetlinkDumpAcct env type
  ctnetlinkDumpTimestamp env ct
  ctnetlinkDumpHelpinfo env ct
  ctnetlinkDumpLabels env ct
  ctnetlinkDumpCtSeqAdj env ct
  ctnetlinkDumpCtSynproxy env ct

/-! ### Messages -/

/-- The start of every message about a conntrack: both tuples and the zone. -/
def ctnetlinkDumpIdentity (ct : NfConn) : NlWriter := do
  (do
    let nestParms ← nestStart (-1) env.endian ctaTupleOrig
    (do
      ctnetlinkDumpTuples env ct.tupleOrig
      ctnetlinkDumpZoneId env ctaTupleZone ct.zone nfCtZoneDirOrig)
    nestEnd env.endian nestParms)
  (do
    let nestParms ← nestStart (-1) env.endian ctaTupleReply
    (do
      ctnetlinkDumpTuples env ct.tupleReply
      ctnetlinkDumpZoneId env ctaTupleZone ct.zone nfCtZoneDirRepl)
    nestEnd env.endian nestParms)
  ctnetlinkDumpZoneId env ctaZone ct.zone nfCtDefaultZoneDir

/-- The headers `ctnetlink_fill_info` writes. -/
def fillInfoHdr (portid seq : UInt32) (ct : NfConn) (flags : UInt16) : NlMsgHdr where
  type := nfnlMsgType nfnlSubsysCtnetlink ipctnlMsgCtNew
  flags := if portid ≠ 0 then flags ||| nlmFMulti else flags
  seq := seq
  portid := portid
  family := (nfCtL3num ct).toUInt8
  version := 0
  resId := 0

/-- The attributes of `ctnetlink_fill_info`; `type` is the request's message type. -/
def fillInfoBody (p : CtPtr) (ct : NfConn) (type : UInt8) (extinfo : Bool) (flags : UInt16) :
    NlWriter := do
  ctnetlinkDumpIdentity env ct
  ctnetlinkDumpInfo env p ct flags
  if extinfo then ctnetlinkDumpExtinfo env ct type else pure ()

/-- `ctnetlink_fill_info`: the new length of the buffer or `-1`, the counters, the buffer. -/
def ctnetlinkFillInfo (portid seq : UInt32) (type : UInt8) (p : CtPtr) (ct : NfConn) (extinfo : Bool)
    (flags : UInt16) (b : Buf) : ℤ × Option NfConnAcct × Buf :=
  let hdr := fillInfoHdr portid seq ct flags
  nlMsg env.endian hdr (fillInfoBody env p ct type extinfo hdr.flags) ct.acct b

/-! ### Events -/

def ipctNew : ℕ := 0
def ipctRelated : ℕ := 1
def ipctDestroy : ℕ := 2
def ipctProtoinfo : ℕ := 5
def ipctHelper : ℕ := 6
def ipctMark : ℕ := 7
def ipctSeqadj : ℕ := 8
def ipctSecmark : ℕ := 9
def ipctLabel : ℕ := 10
def ipctSynproxy : ℕ := 11

/-- `events & (1 << bit)`. -/
def hasEvent (events : UInt32) (bit : ℕ) : Bool := events.toNat.testBit bit

/-- The message type and flags of an event; `none` when there is nothing to report. -/
def eventType (events : UInt32) : Option (UInt8 × UInt16) :=
  if hasEvent events ipctDestroy then some (ipctnlMsgCtDelete, 0)
  else if hasEvent events ipctNew ∨ hasEvent events ipctRelated then
    some (ipctnlMsgCtNew, nlmFCreate ||| nlmFExcl)
  else if events ≠ 0 then some (ipctnlMsgCtNew, 0)
  else none

def whenEvent (b : Bool) (f : NlWriter) : NlWriter := if b then f else pure ()

/-- The attributes of `ctnetlink_conntrack_event`.  `ctnetlink_dump_acct` is handed the composed message
type, cut to its low bits here; neither it nor they are the zeroing request. -/
def conntrackEventBody (events : UInt32) (p : CtPtr) (ct : NfConn) (type : UInt8) : NlWriter := do
  ctnetlinkDumpIdentity env ct
  ctnetlinkDumpId env p
  ctnetlinkDumpStatus env ct
  (if hasEvent events ipctDestroy then do
    ctnetlinkDumpTimeout env ct true
    ctnetlinkDumpAcct env type
    ctnetlinkDumpTimestamp env ct
    ctnetlinkDumpProtoinfo env ct true 0
  else do
    ctnetlinkDumpTimeout env ct false
    whenEvent (hasEvent events ipctProtoinfo) (ctnetlinkDumpProtoinfo env ct false 0)
    whenEvent (hasEvent events ipctHelper || ct.help.isSome) (ctnetlinkDumpHelpinfo env ct)
    whenEvent (hasEvent events ipctSecmark || ct.secmark ≠ 0) (ctnetlinkDumpSecctx env ct)
    whenEvent (hasEvent events ipctLabel) (ctnetlinkDumpLabels env ct)
    whenEvent (hasEvent events ipctRelated) (ctnetlinkDumpMaster env ct)
    whenEvent (hasEvent events ipctSeqadj) (ctnetlinkDumpCtSeqAdj env ct)
    whenEvent (hasEvent events ipctSynproxy) (ctnetlinkDumpCtSynproxy env ct))
  ctnetlinkDumpMark env ct (hasEvent events ipctMark)

/-- `ctnetlink_conntrack_event` for an event somebody listens to, into the buffer it allocates: the buffer
with the message, or nothing when it does not fit. -/
def ctnetlinkConntrackEvent (events portid : UInt32) (p : CtPtr) (ct : NfConn) (b : Buf) :
    Option (Option NfConnAcct × Buf) :=
  match eventType events with
  | none => none
  | some (type, flags) =>
    let hdr : NlMsgHdr :=
      ⟨nfnlMsgType nfnlSubsysCtnetlink type, flags, 0, portid, (nfCtL3num ct).toUInt8, 0, 0⟩
    match nlMsg env.endian hdr (conntrackEventBody env events p ct type) ct.acct b with
    | (ret, acct, b) => if ret < 0 then none else some (acct, b)

end VgwDriver
