import VgwDriver.Cli.AttributeDecoder
import VgwDriver.Netlink.DumpSpec
import VgwDriver.Netlink.Filter

/-!
# Decoding a conntrack message

`Flow.unmarshal` of the CLI's conntrack library with everything it calls, and the decoder of the module's
own attribute, `ProtoInfoTcpSeqTrack.unmarshal`, which reads a C structure by hand-counted offsets.

* `seqTrack_unmarshal` — **the 64 bytes the module writes decode to the conntrack's own values**;
-/

namespace VgwDriver

open Base

/-! ### The TCP sequence record -/

structure TcpSeen where
  tdEnd : UInt32
  tdMaxEnd : UInt32
  tdMaxWin : UInt32
  tdMaxAck : UInt32
  tdScale : UInt8
  flags : UInt8
  dummy : UInt16
  deriving DecidableEq, Repr

structure ProtoInfoTcpSeqTrack where
  org : TcpSeen
  reply : TcpSeen
  state : UInt8
  lastDir : UInt8
  retrans : UInt8
  lastIndex : UInt8
  lastSeq : UInt32
  lastAck : UInt32
  lastEnd : UInt32
  lastWin : UInt16
  lastWScale : UInt8
  lastFlags : UInt8
  dummy : UInt32
  deriving DecidableEq, Repr

/-- `endian.Uint16(data[n:])` and `endian.Uint32(data[n:])`. -/
def u16At (e : Endian) (data : Bytes) (n : ℕ) : UInt16 := get16 e ((data.drop n).take 2)
def u32At (e : Endian) (data : Bytes) (n : ℕ) : UInt32 := get32 e ((data.drop n).take 4)

/-- `TcpSeen.Len`. -/
def TcpSeen.len : ℕ := 20

/-- `TcpSeen.unmarshal`, on the data behind offset `n`. -/
def TcpSeen.unmarshal (e : Endian) (data : Bytes) : TcpSeen where
  tdEnd := u32At e data 0
  tdMaxEnd := u32At e data 4
  tdMaxWin := u32At e data 8
  tdMaxAck := u32At e data 12
  tdScale := data.getD 16 0
  flags := data.getD 17 0
  dummy := u16At e data 18

def protoInfoTCPSeqTrackLen : ℕ := 64

/-- `ProtoInfoTcpSeqTrack.unmarshal`, in the host's byte order `e`. -/
def ProtoInfoTcpSeqTrack.unmarshal (e : Endian) (data : Bytes) : Decode ProtoInfoTcpSeqTrack :=
  if data.length ≠ protoInfoTCPSeqTrackLen then .error (.errMismatchLength data.length)
  else
    let n := TcpSeen.len + TcpSeen.len
    .ok
      { org := TcpSeen.unmarshal e data
        reply := TcpSeen.unmarshal e (data.drop TcpSeen.len)
        state := data.getD n 0
        lastDir := data.getD (n + 1) 0
        retrans := data.getD (n + 2) 0
        lastIndex := data.getD (n + 3) 0
        lastSeq := u32At e data (n + 4)
        lastAck := u32At e data (n + 8)
        lastEnd := u32At e data (n + 12)
        lastWin := u16At e data (n + 16)
        lastWScale := data.getD (n + 18) 0
        lastFlags := data.getD (n + 19) 0
        dummy := u32At e data (n + 20) }

/-- One direction's window as the decoder presents it. -/
def IpCtTcpState.seen (s : IpCtTcpState) : TcpSeen :=
  ⟨s.tdEnd, s.tdMaxend, s.tdMaxwin, s.tdMaxack, s.tdScale, s.flags, 0⟩

/-- A conntrack's TCP record as the decoder presents it. -/
def IpCtTcp.seqTrack (t : IpCtTcp) : ProtoInfoTcpSeqTrack :=
  ⟨t.seen0.seen, t.seen1.seen, t.state.code, t.lastDir, t.retrans, t.lastIndex, t.lastSeq, t.lastAck,
    t.lastEnd, t.lastWin, t.lastWscale, t.lastFlags, 0⟩

@[simp] theorem length_ipCtTcpStateVgw (env : NlEnv) (s : IpCtTcpState) :
    (ipCtTcpStateVgw env s).length = TcpSeen.len := by
  simp [ipCtTcpStateVgw, TcpSeen.len]

@[simp] theorem length_ipCtTcpVgw (env : NlEnv) (t : IpCtTcp) :
    (ipCtTcpVgw env t).length = protoInfoTCPSeqTrackLen := by
  simp [ipCtTcpVgw, TcpSeen.len, protoInfoTCPSeqTrackLen]

/-! Reading past a word, and reading one. -/

@[simp] theorem drop_put32 (e : Endian) (x : UInt32) (rest : Bytes) (n : ℕ) :
    (put32 e x ++ rest).drop (n + 4) = rest.drop n := by
  rw [Nat.add_comm, ← List.drop_drop, List.drop_left' (length_put32 e x)]

@[simp] theorem drop_put16 (e : Endian) (x : UInt16) (rest : Bytes) (n : ℕ) :
    (put16 e x ++ rest).drop (n + 2) = rest.drop n := by
  rw [Nat.add_comm, ← List.drop_drop, List.drop_left' (length_put16 e x)]

@[simp] theorem take_put32 (e : Endian) (x : UInt32) (rest : Bytes) :
    (put32 e x ++ rest).take 4 = put32 e x := List.take_left' (length_put32 e x)

@[simp] theorem take_put16 (e : Endian) (x : UInt16) (rest : Bytes) :
    (put16 e x ++ rest).take 2 = put16 e x := List.take_left' (length_put16 e x)

@[simp] theorem getElem_put32 (e : Endian) (x : UInt32) (rest : Bytes) (n : ℕ) :
    (put32 e x ++ rest)[n + 4]? = rest[n]? := by
  rw [List.getElem?_append_right (by simp), length_put32, Nat.add_sub_cancel]

@[simp] theorem getElem_put16 (e : Endian) (x : UInt16) (rest : Bytes) (n : ℕ) :
    (put16 e x ++ rest)[n + 2]? = rest[n]? := by
  rw [List.getElem?_append_right (by simp), length_put16, Nat.add_sub_cancel]

theorem tcpSeen_unmarshal (env : NlEnv) (s : IpCtTcpState) (post : Bytes) :
    TcpSeen.unmarshal env.endian (ipCtTcpStateVgw env s ++ post) = s.seen := by
  have hzero : get16 env.endian [0, 0] = 0 := by cases env.endian <;> decide
  simp [TcpSeen.unmarshal, ipCtTcpStateVgw, IpCtTcpState.seen, u32At, u16At, hzero]

/-- **The module's attribute decodes to the conntrack's own values.** -/
theorem seqTrack_unmarshal (env : NlEnv) (t : IpCtTcp) :
    ProtoInfoTcpSeqTrack.unmarshal env.endian (ipCtTcpVgw env t) = .ok t.seqTrack := by
  have hzero : get32 env.endian [0, 0, 0, 0] = 0 := by cases env.endian <;> decide
  have hlen := length_ipCtTcpVgw env t
  have hsplit : ipCtTcpVgw env t = ipCtTcpStateVgw env t.seen0 ++ (ipCtTcpStateVgw env t.seen1 ++
      ([t.state.code, t.lastDir, t.retrans, t.lastIndex] ++ (put32 env.endian t.lastSeq ++
        (put32 env.endian t.lastAck ++ (put32 env.endian t.lastEnd ++ (put16 env.endian t.lastWin ++
          [t.lastWscale, t.lastFlags, 0, 0, 0, 0])))))) := by
    simp [ipCtTcpVgw]
  have horg : TcpSeen.unmarshal env.endian (ipCtTcpVgw env t) = t.seen0.seen := by
    rw [hsplit]
    exact tcpSeen_unmarshal env _ _
  have hreply : TcpSeen.unmarshal env.endian ((ipCtTcpVgw env t).drop TcpSeen.len) = t.seen1.seen := by
    rw [hsplit, List.drop_left' (length_ipCtTcpStateVgw env _)]
    exact tcpSeen_unmarshal env _ _
  unfold ProtoInfoTcpSeqTrack.unmarshal
  rw [if_neg (not_not.mpr hlen), horg, hreply]
  -- the fields behind the two windows, at their offsets
  simp [u32At, u16At, hsplit, ipCtTcpStateVgw, TcpSeen.len, hzero, IpCtTcp.seqTrack]

/-! ### Protocol information -/

structure ProtoInfoTCP where
  state : UInt8
  originalWindowScale : UInt8
  replyWindowScale : UInt8
  originalFlags : UInt16
  replyFlags : UInt16
  seqTrack : Option ProtoInfoTcpSeqTrack
  deriving DecidableEq, Repr

def ProtoInfoTCP.zero : ProtoInfoTCP := ⟨0, 0, 0, 0, 0, none⟩

/-- The body of the loop of `ProtoInfoTCP.unmarshal`. -/
def ProtoInfoTCP.unmarshalAttr (e : Endian) (tpi : ProtoInfoTCP) (a : Attr) : Decode ProtoInfoTCP :=
  if a.enum = ctaProtoinfoTcpState then do
    pure { tpi with state := ← adUint8 a }
  else if a.enum = ctaProtoinfoTcpWscaleOriginal then do
    pure { tpi with originalWindowScale := ← adUint8 a }
  else if a.enum = ctaProtoinfoTcpWscaleReply then do
    pure { tpi with replyWindowScale := ← adUint8 a }
  else if a.enum = ctaProtoinfoTcpFlagsOriginal then do
    pure { tpi with originalFlags := ← adUint16 a }
  else if a.enum = ctaProtoinfoTcpFlagsReply then do
    pure { tpi with replyFlags := ← adUint16 a }
  else if a.enum = ctaProtoinfoTcpSeqTrack then do
    pure { tpi with seqTrack := some (← ProtoInfoTcpSeqTrack.unmarshal e a.payload) }
  else .error (.errUnknownAttribute a.kind)

/-- `ProtoInfoTCP.unmarshal`. -/
def ProtoInfoTCP.unmarshal (e : Endian) (ad : AttributeDecoder) : Decode ProtoInfoTCP :=
  if ad.length = 0 then .error .errNeedSingleChild
  else eachAttr ad (unmarshalAttr e) zero

structure ProtoInfoDCCP where
  state : UInt8
  role : UInt8
  handshakeSeq : UInt64
  deriving DecidableEq, Repr

def ctaProtoinfoDccp : UInt16 := 2
def ctaProtoinfoDccpState : UInt16 := 1
def ctaProtoinfoDccpRole : UInt16 := 2
def ctaProtoinfoDccpHandshakeSeq : UInt16 := 3

/-- `ProtoInfoDCCP.unmarshal`. -/
def ProtoInfoDCCP.unmarshal (ad : AttributeDecoder) : Decode ProtoInfoDCCP :=
  if ad.length = 0 then .error .errNeedSingleChild
  else
    eachAttr ad (fun dpi a =>
      if a.enum = ctaProtoinfoDccpState then do
        pure { dpi with state := ← adUint8 a }
      else if a.enum = ctaProtoinfoDccpRole then do
        pure { dpi with role := ← adUint8 a }
      else if a.enum = ctaProtoinfoDccpHandshakeSeq then do
        pure { dpi with handshakeSeq := ← adUint64 a }
      else .error (.errUnknownAttribute a.kind)) ⟨0, 0, 0⟩

structure ProtoInfoSCTP where
  state : UInt8
  vtagOriginal : UInt32
  vtagReply : UInt32
  deriving DecidableEq, Repr

def ctaProtoinfoSctp : UInt16 := 3
def ctaProtoinfoSctpState : UInt16 := 1
def ctaProtoinfoSctpVtagOriginal : UInt16 := 2
def ctaProtoinfoSctpVtagReply : UInt16 := 3

/-- `ProtoInfoSCTP.unmarshal`. -/
def ProtoInfoSCTP.unmarshal (ad : AttributeDecoder) : Decode ProtoInfoSCTP :=
  if ad.length = 0 then .error .errNeedSingleChild
  else
    eachAttr ad (fun spi a =>
      if a.enum = ctaProtoinfoSctpState then do
        pure { spi with state := ← adUint8 a }
      else if a.enum = ctaProtoinfoSctpVtagOriginal then do
        pure { spi with vtagOriginal := ← adUint32 a }
      else if a.enum = ctaProtoinfoSctpVtagReply then do
        pure { spi with vtagReply := ← adUint32 a }
      else .error (.errUnknownAttribute a.kind)) ⟨0, 0, 0⟩

structure ProtoInfo where
  tcp : Option ProtoInfoTCP
  dccp : Option ProtoInfoDCCP
  sctp : Option ProtoInfoSCTP
  deriving DecidableEq, Repr

def ProtoInfo.filled (pi : ProtoInfo) : Bool := pi.tcp.isSome || pi.dccp.isSome || pi.sctp.isSome

/-- `ProtoInfo.unmarshal`: only the first child is looked at. -/
def ProtoInfo.unmarshal (e : Endian) (pi : ProtoInfo) (ad : AttributeDecoder) : Decode ProtoInfo :=
  if pi.filled then .error .errReusedProtoInfo
  else if ad.length ≠ 1 then .error .errNeedSingleChild
  else
    match ad.attrs with
    | [] =>
      match ad.err with
      | some err => .error err
      | none => .ok pi
    | a :: _ =>
      if a.enum = ctaProtoinfoTcp then do
        pure { pi with tcp := some (← nested e a (ProtoInfoTCP.unmarshal e)) }
      else if a.enum = ctaProtoinfoDccp then do
        pure { pi with dccp := some (← nested e a ProtoInfoDCCP.unmarshal) }
      else if a.enum = ctaProtoinfoSctp then do
        pure { pi with sctp := some (← nested e a ProtoInfoSCTP.unmarshal) }
      else .error (.errUnknownAttribute a.kind)

/-! ### Tuples -/

/-- `netip.AddrFromSlice`: four or sixteen bytes. -/
def addrFromSlice (bs : Bytes) : Option Bytes :=
  if bs.length = 4 ∨ bs.length = 16 then some bs else none

/-- `IPTuple`; an address that was not set is empty. -/
structure IPTuple where
  sourceAddress : Bytes
  destinationAddress : Bytes
  deriving DecidableEq, Repr

/-- `IPTuple.unmarshal`. -/
def IPTuple.unmarshal (ad : AttributeDecoder) : Decode IPTuple :=
  if ad.length ≠ 2 then .error .errNeedChildren
  else
    eachAttr ad (fun ipt a =>
      match addrFromSlice a.payload with
      | none => .error .errIncorrectSize
      | some addr =>
        if a.enum = ctaIpV4Src ∨ a.enum = ctaIpV6Src then .ok { ipt with sourceAddress := addr }
        else if a.enum = ctaIpV4Dst ∨ a.enum = ctaIpV6Dst then .ok { ipt with destinationAddress := addr }
        else .error (.errUnknownAttribute a.kind)) ⟨[], []⟩

structure ProtoTuple where
  protocol : UInt8
  sourcePort : UInt16
  destinationPort : UInt16
  icmpv4 : Bool
  icmpv6 : Bool
  icmpID : UInt16
  icmpType : UInt8
  icmpCode : UInt8
  deriving DecidableEq, Repr

def ctaProtoSrcPort : UInt16 := 2
def ctaProtoDstPort : UInt16 := 3
def ctaProtoIcmpId : UInt16 := 4
def ctaProtoIcmpType : UInt16 := 5
def ctaProtoIcmpCode : UInt16 := 6
def ctaProtoIcmpv6Id : UInt16 := 7
def ctaProtoIcmpv6Type : UInt16 := 8
def ctaProtoIcmpv6Code : UInt16 := 9

/-- The body of the loop of `ProtoTuple.unmarshal`. -/
def ProtoTuple.unmarshalAttr (pt : ProtoTuple) (a : Attr) : Decode ProtoTuple :=
  if a.enum = ctaProtoNum then do
    let protocol ← adUint8 a
    pure { pt with
      protocol := protocol
      icmpv4 := protocol = ipprotoIcmp || pt.icmpv4
      icmpv6 := (protocol ≠ ipprotoIcmp && protocol = ipprotoIcmpv6) || pt.icmpv6 }
  else if a.enum = ctaProtoSrcPort then do
    pure { pt with sourcePort := ← adUint16 a }
  else if a.enum = ctaProtoDstPort then do
    pure { pt with destinationPort := ← adUint16 a }
  else if a.enum = ctaProtoIcmpId ∨ a.enum = ctaProtoIcmpv6Id then do
    pure { pt with icmpID := ← adUint16 a }
  else if a.enum = ctaProtoIcmpType ∨ a.enum = ctaProtoIcmpv6Type then do
    pure { pt with icmpType := ← adUint8 a }
  else if a.enum = ctaProtoIcmpCode ∨ a.enum = ctaProtoIcmpv6Code then do
    pure { pt with icmpCode := ← adUint8 a }
  else .error (.errUnknownAttribute a.kind)

/-- `ProtoTuple.unmarshal`. -/
def ProtoTuple.unmarshal (ad : AttributeDecoder) : Decode ProtoTuple :=
  if ad.length = 0 then .error .errNeedSingleChild
  else eachAttr ad unmarshalAttr ⟨0, 0, 0, false, false, 0, 0, 0⟩

structure Tuple where
  ip : IPTuple
  proto : ProtoTuple
  zone : UInt16
  deriving DecidableEq, Repr

def Tuple.zero : Tuple := ⟨⟨[], []⟩, ⟨0, 0, 0, false, false, 0, 0, 0⟩, 0⟩

/-- The body of the loop of `Tuple.unmarshal`. -/
def Tuple.unmarshalAttr (e : Endian) (t : Tuple) (a : Attr) : Decode Tuple :=
  if a.enum = ctaTupleIp then do
    pure { t with ip := ← nested e a IPTuple.unmarshal }
  else if a.enum = ctaTupleProto then do
    pure { t with proto := ← nested e a ProtoTuple.unmarshal }
  else if a.enum = ctaTupleZone then do
    pure { t with zone := ← adUint16 a }
  else .error (.errUnknownAttribute a.kind)

/-- `Tuple.unmarshal`. -/
def Tuple.unmarshal (e : Endian) (t : Tuple) (ad : AttributeDecoder) : Decode Tuple :=
  if ad.length < 2 then .error .errNeedChildren
  else eachAttr ad (unmarshalAttr e) t

/-! ### The other nested attributes -/

structure Helper where
  name : Bytes
  info : Bytes
  deriving DecidableEq, Repr

def ctaHelpInfo : UInt16 := 2

/-- `Helper.unmarshal`. -/
def Helper.unmarshal (hlp : Helper) (ad : AttributeDecoder) : Decode Helper :=
  eachAttr ad (fun hlp a =>
    if a.enum = ctaHelpName then .ok { hlp with name := adString a }
    else if a.enum = ctaHelpInfo then .ok { hlp with info := a.payload }
    else .error (.errUnknownAttribute a.kind)) hlp

structure Counter where
  direction : Bool
  packets : UInt64
  bytes : UInt64
  deriving DecidableEq, Repr

def ctaCountersPad : UInt16 := 5

/-- `Counter.unmarshal`. -/
def Counter.unmarshal (ctr : Counter) (ad : AttributeDecoder) : Decode Counter :=
  if ad.length < 2 then .error .errNeedChildren
  else
    eachAttr ad (fun ctr a =>
      if a.enum = ctaCountersPackets then do
        pure { ctr with packets := ← adUint64 a }
      else if a.enum = ctaCountersBytes then do
        pure { ctr with bytes := ← adUint64 a }
      else if a.enum = ctaCountersPad then .ok ctr
      else .error (.errUnknownAttribute a.kind)) ctr

/-- `Timestamp`, in nanoseconds. -/
structure Timestamp where
  start : UInt64
  stop : UInt64
  deriving DecidableEq, Repr

/-- `Timestamp.unmarshal`. -/
def Timestamp.unmarshal (ts : Timestamp) (ad : AttributeDecoder) : Decode Timestamp :=
  if ad.length = 0 then .error .errNeedSingleChild
  else
    eachAttr ad (fun ts a =>
      if a.enum = ctaTimestampStart then do
        pure { ts with start := ← adUint64 a }
      else if a.enum = ctaTimestampStop then do
        pure { ts with stop := ← adUint64 a }
      else .error (.errUnknownAttribute a.kind)) ts

/-- `Security.unmarshal`. -/
def securityUnmarshal (sec : Bytes) (ad : AttributeDecoder) : Decode Bytes :=
  if ad.length = 0 then .error .errNeedChildren
  else
    eachAttr ad (fun _ a =>
      if a.enum = ctaSecctxName then .ok a.payload else .error (.errUnknownAttribute a.kind)) sec

structure SequenceAdjust where
  direction : Bool
  position : UInt32
  offsetBefore : UInt32
  offsetAfter : UInt32
  deriving DecidableEq, Repr

/-- `SequenceAdjust.unmarshal`. -/
def SequenceAdjust.unmarshal (seq : SequenceAdjust) (ad : AttributeDecoder) : Decode SequenceAdjust :=
  if ad.length = 0 then .error .errNeedSingleChild
  else
    eachAttr ad (fun seq a =>
      if a.enum = ctaSeqadjCorrectionPos then do
        pure { seq with position := ← adUint32 a }
      else if a.enum = ctaSeqadjOffsetBefore then do
        pure { seq with offsetBefore := ← adUint32 a }
      else if a.enum = ctaSeqadjOffsetAfter then do
        pure { seq with offsetAfter := ← adUint32 a }
      else .error (.errUnknownAttribute a.kind)) seq

structure SynProxy where
  isn : UInt32
  its : UInt32
  tsOff : UInt32
  deriving DecidableEq, Repr

/-- `SynProxy.unmarshal`. -/
def SynProxy.unmarshal (sp : SynProxy) (ad : AttributeDecoder) : Decode SynProxy :=
  if ad.length = 0 then .error .errNeedSingleChild
  else
    eachAttr ad (fun sp a =>
      if a.enum = ctaSynproxyIsn then do
        pure { sp with isn := ← adUint32 a }
      else if a.enum = ctaSynproxyIts then do
        pure { sp with its := ← adUint32 a }
      else if a.enum = ctaSynproxyTsoff then do
        pure { sp with tsOff := ← adUint32 a }
      else .error (.errUnknownAttribute a.kind)) sp

/-! ### Flows -/

structure Flow where
  id : UInt32
  timeout : UInt32
  timestamp : Timestamp
  status : UInt32
  protoInfo : ProtoInfo
  helper : Helper
  zone : UInt16
  countersOrig : Counter
  countersReply : Counter
  securityContext : Bytes
  tupleOrig : Tuple
  tupleReply : Tuple
  tupleMaster : Tuple
  seqAdjOrig : SequenceAdjust
  seqAdjReply : SequenceAdjust
  labels : Bytes
  labelsMask : Bytes
  mark : UInt32
  use : UInt32
  synProxy : SynProxy
  deriving DecidableEq, Repr

/-- `var f Flow`. -/
def Flow.zero : Flow where
  id := 0
  timeout := 0
  timestamp := ⟨0, 0⟩
  status := 0
  protoInfo := ⟨none, none, none⟩
  helper := ⟨[], []⟩
  zone := 0
  countersOrig := ⟨false, 0, 0⟩
  countersReply := ⟨false, 0, 0⟩
  securityContext := []
  tupleOrig := .zero
  tupleReply := .zero
  tupleMaster := .zero
  seqAdjOrig := ⟨false, 0, 0, 0⟩
  seqAdjReply := ⟨false, 0, 0, 0⟩
  labels := []
  labelsMask := []
  mark := 0
  use := 0
  synProxy := ⟨0, 0, 0⟩

def ctaLabelsMask : UInt16 := 23

/-- A recognized nested attribute: the flag is checked, then its children are decoded into a field. -/
def Flow.intoNested {α : Type} (e : Endian) (a : Attr) (fn : AttributeDecoder → Decode α)
    (set : α → Flow) : Decode Flow :=
  if a.type &&& nestedFlag = 0 then .error (.errNotNested a.enum)
  else do
    let x ← nested e a fn
    pure (set x)

/-- `Flow.unmarshalNested`. -/
def Flow.unmarshalNested (e : Endian) (f : Flow) (a : Attr) : Decode Flow :=
  if a.enum = ctaTupleOrig then
    intoNested e a (f.tupleOrig.unmarshal e) fun x => { f with tupleOrig := x }
  else if a.enum = ctaTupleReply then
    intoNested e a (f.tupleReply.unmarshal e) fun x => { f with tupleReply := x }
  else if a.enum = ctaTupleMaster then
    intoNested e a (f.tupleMaster.unmarshal e) fun x => { f with tupleMaster := x }
  else if a.enum = ctaProtoinfo then
    intoNested e a (f.protoInfo.unmarshal e) fun x => { f with protoInfo := x }
  else if a.enum = ctaHelp then
    intoNested e a f.helper.unmarshal fun x => { f with helper := x }
  else if a.enum = ctaCountersOrig then
    intoNested e a f.countersOrig.unmarshal fun x => { f with countersOrig := x }
  else if a.enum = ctaCountersReply then
    intoNested e a ({ f.countersReply with direction := true } : Counter).unmarshal fun x =>
      { f with countersReply := x }
  else if a.enum = ctaSecctx then
    intoNested e a (securityUnmarshal f.securityContext) fun x => { f with securityContext := x }
  else if a.enum = ctaTimestamp then
    intoNested e a f.timestamp.unmarshal fun x => { f with timestamp := x }
  else if a.enum = ctaSeqAdjOrig then
    intoNested e a f.seqAdjOrig.unmarshal fun x => { f with seqAdjOrig := x }
  else if a.enum = ctaSeqAdjReply then
    intoNested e a ({ f.seqAdjReply with direction := true } : SequenceAdjust).unmarshal fun x =>
      { f with seqAdjReply := x }
  else if a.enum = ctaSynproxy then
    intoNested e a f.synProxy.unmarshal fun x => { f with synProxy := x }
  else .ok f

/-- The `switch` of `Flow.unmarshal`. -/
def Flow.unmarshalFlat (f : Flow) (a : Attr) : Decode Flow :=
  if a.enum = ctaTimeout then do
    pure { f with timeout := ← adUint32 a }
  else if a.enum = ctaId then do
    pure { f with id := ← adUint32 a }
  else if a.enum = ctaUse then do
    pure { f with use := ← adUint32 a }
  else if a.enum = ctaMark then do
    pure { f with mark := ← adUint32 a }
  else if a.enum = ctaZone then do
    pure { f with zone := ← adUint16 a }
  else if a.enum = ctaLabels then .ok { f with labels := a.payload }
  else if a.enum = ctaLabelsMask then .ok { f with labelsMask := a.payload }
  else if a.enum = ctaStatus then do
    pure { f with status := ← adUint32 a }
  else .ok f

/-- The body of the loop of `Flow.unmarshal`. -/
def Flow.unmarshalAttr (e : Endian) (f : Flow) (a : Attr) : Decode Flow := do
  let f ← f.unmarshalNested e a
  f.unmarshalFlat a

/-- `Flow.unmarshal`. -/
def Flow.unmarshal (e : Endian) (f : Flow) (ad : AttributeDecoder) : Decode Flow :=
  eachAttr ad (unmarshalAttr e) f

/-- `sizeof(struct nlmsghdr)`, and `nfHeaderLen`, the size of `struct nfgenmsg`. -/
def nlmsgHeaderLen : ℕ := 16
def nfHeaderLen : ℕ := 4

/-- `unmarshalFlow`, on a whole message. -/
def unmarshalFlow (e : Endian) (msg : Bytes) : Decode Flow :=
  let data := msg.drop nlmsgHeaderLen
  if data.length < nfHeaderLen then .error .errMessageLen
  else do
    let ad ← newAttributeDecoder e (data.drop nfHeaderLen)
    Flow.zero.unmarshal e ad

/-- `unmarshalFlows`. -/
def unmarshalFlows (e : Endian) (nlm : List Bytes) : Decode (List Flow) := nlm.mapM (unmarshalFlow e)

end VgwDriver
