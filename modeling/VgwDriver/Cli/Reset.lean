import Mathlib.Data.List.Infix
import VgwDriver.Cli.Readback
import VgwDriver.Netlink.Flush
import VgwDriver.Netlink.Table
import VgwDriver.TrackerRuns

/-!
# Resetting a connection

`vgwctl ct reset`: the CLI dumps a zone, takes the last sequence and acknowledgement numbers of the first
TCP conntrack its port options select, and sends a reset to either side.  The numbers come from the
tracker, which keeps one pair for both directions; the command reads the pair as the original source's.

* `ShownFirst.tcpInfo` — what the command reads: the tracker's own pair, and the original tuple reversed;
* `resets_acceptable_iff` — after segments of the original direction only, **when both resets are
  acceptable** to their receivers;
* `reads_client_pair_iff` — in any run, **when the pair is the original source's** at every point.
-/

namespace VgwDriver

open Base

/-! ### The command -/

/-- `TcpInfo`, without the MAC addresses. -/
structure TcpInfo where
  srcIp : Bytes
  dstIp : Bytes
  srcPort : UInt16
  dstPort : UInt16
  id : UInt32
  seq : UInt32
  ack : UInt32
  deriving DecidableEq, Repr

/-- `DumpFilter` with a zone: `query` is the kernel's answer to a dump request with the given attributes. -/
def dumpFilter (e : Endian) (query : List Attr → List Bytes) (zone : UInt16) : Decode (List Flow) :=
  unmarshalFlows e (query (filterZoneMarshal zone))

/-- The body of the loop of `GetTcpInfoFromConntrack`: `none` where it goes on to the next flow. -/
def Flow.tcpInfo (sport dport : UInt16) (ct : Flow) : Option TcpInfo :=
  match ct.protoInfo.tcp with
  | none => none
  | some tcp =>
    if ct.tupleOrig.proto.protocol ≠ 6 then none
    else if sport ≠ 0 ∧ ct.tupleOrig.proto.sourcePort ≠ sport then none
    else if dport ≠ 0 ∧ ct.tupleOrig.proto.destinationPort ≠ dport then none
    else
      match tcp.seqTrack with
      | none => none
      | some seqTrk =>
        some
          { id := ct.id
            srcIp := ct.tupleOrig.ip.destinationAddress
            dstIp := ct.tupleOrig.ip.sourceAddress
            srcPort := ct.tupleOrig.proto.destinationPort
            dstPort := ct.tupleOrig.proto.sourcePort
            seq := seqTrk.lastAck
            ack := seqTrk.lastSeq }

/-- `GetTcpInfoFromConntrack`. -/
def getTcpInfoFromConntrack (e : Endian) (query : List Attr → List Bytes) (zone : UInt32)
    (sport dport : UInt16) : Decode (Option TcpInfo) := do
  let cts ← dumpFilter e query zone.toUInt16
  pure (cts.findSome? (Flow.tcpInfo sport dport))

/-- The options of `ct reset` that say which connection is meant; `cli` is what `GetTcpInfoFromCli` makes of the
others, if it succeeds.  The options `vni`, of the tunnel and of the MAC addresses are left out. -/
structure ResetOptions where
  zone : ℤ
  sport : UInt16
  dport : UInt16
  cli : Option TcpInfo

/-- `tcpInfo1`.  Formatting an address and parsing the text gives the address back. -/
def TcpInfo.reversed (t : TcpInfo) : TcpInfo where
  srcIp := t.dstIp
  dstIp := t.srcIp
  srcPort := t.dstPort
  dstPort := t.srcPort
  id := 0
  seq := t.ack
  ack := t.seq

/-- `runCmdCtReset`: the resets it sends, in order, where the options left out are in order: an error of
`getVxLanInfo`, with a `vni`, or of `getInnerMac` ends the command before it sends anything. -/
def runCmdCtReset (e : Endian) (query : List Attr → List Bytes) (opts : ResetOptions) : List TcpInfo :=
  let tcpInfo :=
    if opts.zone = -1 then opts.cli
    else
      match getTcpInfoFromConntrack e query (goUint32 opts.zone) opts.sport opts.dport with
      | .error _ => none
      | .ok tcpInfo => tcpInfo
  match tcpInfo with
  | none => []
  | some tcpInfo => [tcpInfo, tcpInfo.reversed]

/-! ### What the command reads -/

/-- The kernel's answer to a dump of the zone shows the conntrack `ct` at `p`, and it is the first one the
port options select: `msg` is its message, made with the request's filter, and no flow of a message before
it is taken. -/
inductive ShownFirst (env : NlEnv) (query : List Attr → List Bytes) (zone sport dport : UInt16) (p : CtPtr)
    (ct : NfConn) : Prop
  | intro (req : DumpRequest) (skb : Buf) (before after : List Bytes) (msg : Bytes) (flow : Flow)
      (flows : List Flow) (filtered : req.filter = some (zoneFilter zone))
      (made : (req.fillCall env p ct).message skb = some msg)
      (answer : query (filterZoneMarshal zone) = before ++ msg :: after)
      (decoded : unmarshalFlows env.endian (before ++ msg :: after) = .ok flows)
      (passed : ∀ m ∈ before, ∀ f, unmarshalFlow env.endian m = .ok f → f.tcpInfo sport dport = none)
      (shown : unmarshalFlow env.endian msg = .ok flow) (taken : (flow.tcpInfo sport dport).isSome)

/-- The original tuple reversed, with the tracker's numbers the other way round. -/
def NfConn.tcpInfo (ct : NfConn) (id : UInt32) : TcpInfo where
  srcIp := put32 .big ct.tupleOrig.dst.u3.ip
  dstIp := put32 .big ct.tupleOrig.src.u3.ip
  srcPort := ct.tupleOrig.dst.u
  dstPort := ct.tupleOrig.src.u
  id := id
  seq := ct.tcp.lastAck
  ack := ct.tcp.lastSeq

/-- What the body of the loop makes of a flow it takes. -/
theorem Flow.tcpInfo_some {sport dport : UInt16} {ct : Flow} {t : TcpInfo}
    (h : ct.tcpInfo sport dport = some t) :
    ∃ tcp seqTrk, ct.protoInfo.tcp = some tcp ∧ tcp.seqTrack = some seqTrk ∧
      t = ⟨ct.tupleOrig.ip.destinationAddress, ct.tupleOrig.ip.sourceAddress,
        ct.tupleOrig.proto.destinationPort, ct.tupleOrig.proto.sourcePort, ct.id, seqTrk.lastAck,
        seqTrk.lastSeq⟩ := by
  unfold tcpInfo at h
  cases htcp : ct.protoInfo.tcp with
  | none => simp [htcp] at h
  | some tcp =>
    cases hseq : tcp.seqTrack with
    | none => simp [htcp, hseq] at h
    | some seqTrk =>
      simp only [htcp, hseq] at h
      split_ifs at h
      exact ⟨tcp, seqTrk, rfl, hseq, (Option.some.inj h).symm⟩

/-- The loop passes over flows it does not take. -/
theorem findSome_unmarshalFlows {e : Endian} {g : Flow → Option TcpInfo} {before after : List Bytes}
    {msg : Bytes} {flow : Flow} (hshown : unmarshalFlow e msg = .ok flow)
    (hpassed : ∀ m ∈ before, ∀ f, unmarshalFlow e m = .ok f → g f = none) (htaken : (g flow).isSome) :
    ∀ {flows}, unmarshalFlows e (before ++ msg :: after) = .ok flows → flows.findSome? g = g flow := by
  induction before with
  | nil =>
    intro flows h
    rw [List.nil_append, unmarshalFlows, List.mapM_cons] at h
    obtain ⟨f, hf, h⟩ := bind_eq_ok h
    obtain ⟨fs, -, h⟩ := bind_eq_ok h
    cases h
    rw [hshown] at hf
    cases hf
    obtain ⟨t, ht⟩ := Option.isSome_iff_exists.mp htaken
    rw [List.findSome?_cons, ht]
  | cons m before ih =>
    intro flows h
    rw [List.cons_append, unmarshalFlows, List.mapM_cons] at h
    obtain ⟨f, hf, h⟩ := bind_eq_ok h
    obtain ⟨fs, hfs, h⟩ := bind_eq_ok h
    cases h
    rw [List.findSome?_cons, hpassed m List.mem_cons_self f hf]
    exact ih (fun x hx => hpassed x (List.mem_cons_of_mem m hx)) hfs

section Reading

variable {env : NlEnv} {query : List Attr → List Bytes} {p : CtPtr} {ct : NfConn}

/-- The numbers of a flow that is taken are the tracker's. -/
theorem flow_pair (hexp : isEnableExportTcpTrack env.tcptrackFlags = true)
    (htcp : nfCtProtonum ct = ipprotoTcp)
    {req : DumpRequest} {filter : CtnetlinkFilter} (hfilter : req.filter = some filter) {skb : Buf}
    {msg : Bytes} (hmsg : (req.fillCall env p ct).message skb = some msg) {flow : Flow}
    (hflow : unmarshalFlow env.endian msg = .ok flow) {sport dport : UInt16} {t : TcpInfo}
    (ht : flow.tcpInfo sport dport = some t) : t.seq = ct.tcp.lastAck ∧ t.ack = ct.tcp.lastSeq := by
  have hexports : exportsTcp env ct (req.fillCall env p ct).hdr.flags = true := by
    rw [exportsTcp_iff]
    refine ⟨?_, hexp, htcp⟩
    show (fillInfoHdr req.portid req.seq ct (FillSource.dumpTable req.filter).flags).flags
      &&& nlmFDumpFiltered ≠ 0
    rw [fillInfoHdr_filtered, hfilter]
    exact ⟨filter, rfl⟩
  obtain ⟨hoffloaded, hexported⟩ := flow_protoInfo (c := req.fillCall env p ct) hexports hmsg hflow
  obtain ⟨tcp, seqTrk, hflowTcp, hseq, rfl⟩ := Flow.tcpInfo_some ht
  have hoff : ¬ ct.testStatus ipsOffloadBit := by
    intro hoff
    rw [hoffloaded hoff] at hflowTcp
    cases hflowTcp
  obtain ⟨tcp', hflowTcp', hseq'⟩ := hexported hoff
  obtain rfl : tcp' = tcp := Option.some.inj (hflowTcp'.symm.trans hflowTcp)
  obtain rfl : ct.tcp.seqTrack = seqTrk := Option.some.inj (hseq'.symm.trans hseq)
  exact ⟨rfl, rfl⟩

/-- A flow that is taken is presented as its conntrack. -/
theorem flow_tcpInfo (hports : env.PortTuples) (hexp : isEnableExportTcpTrack env.tcptrackFlags = true)
    (hct : ct.TcpV4) {req : DumpRequest} {filter : CtnetlinkFilter} (hfilter : req.filter = some filter)
    {skb : Buf} {msg : Bytes} (hmsg : (req.fillCall env p ct).message skb = some msg) {flow : Flow}
    (hflow : unmarshalFlow env.endian msg = .ok flow) {sport dport : UInt16} {t : TcpInfo}
    (ht : flow.tcpInfo sport dport = some t) : t = ct.tcpInfo flow.id := by
  obtain ⟨hip, hproto⟩ := flow_tupleOrig (c := req.fillCall env p ct) hports hct hmsg hflow
  obtain ⟨hseq, hack⟩ := flow_pair hexp hct.2 hfilter hmsg hflow ht
  obtain ⟨tcp, seqTrk, -, -, rfl⟩ := Flow.tcpInfo_some ht
  dsimp only at hseq hack
  rw [hip, hproto, hseq, hack]
  rfl

variable {zone : UInt32} {sport dport : UInt16}

/-- The command takes the connection that is shown first. -/
theorem ShownFirst.taken (h : ShownFirst env query zone.toUInt16 sport dport p ct) :
    ∃ (req : DumpRequest) (filter : CtnetlinkFilter) (skb : Buf) (msg : Bytes) (flow : Flow) (t : TcpInfo),
      req.filter = some filter ∧
      (req.fillCall env p ct).message skb = some msg ∧ unmarshalFlow env.endian msg = .ok flow ∧
      flow.tcpInfo sport dport = some t ∧
      getTcpInfoFromConntrack env.endian query zone sport dport = .ok (some t) := by
  obtain ⟨req, skb, before, after, msg, flow, flows, filtered, made, answer, decoded, passed, shown,
    taken⟩ := h
  obtain ⟨t, ht⟩ := Option.isSome_iff_exists.mp taken
  refine ⟨req, _, skb, msg, flow, t, filtered, made, shown, ht, ?_⟩
  unfold getTcpInfoFromConntrack dumpFilter
  rw [answer, decoded]
  show Except.ok (flows.findSome? (Flow.tcpInfo sport dport)) = _
  rw [findSome_unmarshalFlows shown passed taken decoded, ht]

/-- **The numbers the command reads** of a connection that is shown first are the tracker's. -/
theorem ShownFirst.pair (hexp : isEnableExportTcpTrack env.tcptrackFlags = true)
    (htcp : nfCtProtonum ct = ipprotoTcp) (h : ShownFirst env query zone.toUInt16 sport dport p ct) :
    ∃ t, getTcpInfoFromConntrack env.endian query zone sport dport = .ok (some t) ∧
      t.seq = ct.tcp.lastAck ∧ t.ack = ct.tcp.lastSeq := by
  obtain ⟨req, filter, skb, msg, flow, t, hfilter, hmsg, hflow, ht, hread⟩ := h.taken
  exact ⟨t, hread, flow_pair hexp htcp hfilter hmsg hflow ht⟩

/-- **What the command reads** of it if it is an IPv4 connection: its original tuple reversed, too. -/
theorem ShownFirst.tcpInfo (hports : env.PortTuples)
    (hexp : isEnableExportTcpTrack env.tcptrackFlags = true) (hct : ct.TcpV4)
    (h : ShownFirst env query zone.toUInt16 sport dport p ct) :
    ∃ id, getTcpInfoFromConntrack env.endian query zone sport dport = .ok (some (ct.tcpInfo id)) := by
  obtain ⟨req, filter, skb, msg, flow, t, hfilter, hmsg, hflow, ht, hread⟩ := h.taken
  rw [flow_tcpInfo hports hexp hct hfilter hmsg hflow ht] at hread
  exact ⟨flow.id, hread⟩

/-- **What the command sends** for a connection that is shown first. -/
theorem ShownFirst.resets (hports : env.PortTuples)
    (hexp : isEnableExportTcpTrack env.tcptrackFlags = true) (hct : ct.TcpV4) {opts : ResetOptions}
    (hzone : opts.zone ≠ -1)
    (h : ShownFirst env query (goUint32 opts.zone).toUInt16 opts.sport opts.dport p ct) :
    ∃ id, runCmdCtReset env.endian query opts = [ct.tcpInfo id, (ct.tcpInfo id).reversed] := by
  obtain ⟨id, hread⟩ := h.tcpInfo hports hexp hct
  refine ⟨id, ?_⟩
  unfold runCmdCtReset
  rw [if_neg hzone, hread]

end Reading

/-! ### The tracker's pair -/

/-- A call leaves the original tuple of every connection alone. -/
theorem trackStep_tupleOrig (h : CtHeap) (c : TrackCall) (p : CtPtr) :
    (trackStep h c p).tupleOrig = (h p).tupleOrig := by
  cases hseg : c.segmentFor p with
  | none => rw [trackStep_other hseg]
  | some seg =>
    rw [trackStep_self hseg]
    rfl

theorem run_tupleOrig (h : CtHeap) (calls : List TrackCall) (p : CtPtr) :
    (run trackStep h calls p).tupleOrig = (h p).tupleOrig := by
  induction calls using List.reverseRecOn with
  | nil => rfl
  | append_singleton calls c ih => rw [run_snoc, trackStep_tupleOrig, ih]

theorem run_tcpV4 {h : CtHeap} {p : CtPtr} (hct : (h p).TcpV4) (calls : List TrackCall) :
    (run trackStep h calls p).TcpV4 := by
  unfold NfConn.TcpV4 nfCtL3num nfCtProtonum at *
  rw [run_tupleOrig]
  exact hct

/-- The last acknowledgement number that is not zero, or the one stored before. -/
def lastAckSeq (stored : UInt32) (segs : List TcpSegment) : UInt32 :=
  ((segs.map (·.ackSeq)).filter (· ≠ 0)).getLastD stored

/-- **The pair after a run**: the last segment's sequence number, and the last acknowledgement number that
is not zero. -/
theorem run_pair (p : CtPtr) (h : CtHeap) (calls : List TrackCall) :
    (∀ last, (segmentsFor p calls).getLast? = some last →
        (run trackStep h calls p).tcp.lastSeq = last.seq) ∧
      (run trackStep h calls p).tcp.lastAck = lastAckSeq (h p).tcp.lastAck (segmentsFor p calls) := by
  induction calls using List.reverseRecOn with
  | nil => exact ⟨fun last hlast => absurd hlast (by simp [segmentsFor]), rfl⟩
  | append_singleton calls c ih =>
    obtain ⟨hseq, hack⟩ := ih
    unfold segmentsFor at *
    rw [run_snoc, List.filterMap_append]
    cases hseg : c.segmentFor p with
    | none =>
      rw [trackStep_other hseg]
      simp only [List.filterMap_cons, hseg, List.filterMap_nil, List.append_nil]
      exact ⟨hseq, hack⟩
    | some seg =>
      rw [trackStep_self hseg]
      simp only [List.filterMap_cons, hseg, List.filterMap_nil, List.getLast?_concat, Option.some.injEq,
        TrackCall.track, IpCtTcp.track_lastSeq, IpCtTcp.track_lastAck]
      refine ⟨fun last hlast => by rw [hlast], ?_⟩
      unfold lastAckSeq at *
      rw [List.map_append, List.filter_append, hack]
      by_cases hzero : seg.ackSeq = 0 <;> simp [hzero]

/-! ### A run of the original direction -/

/-- A run brings `p` segments of the original direction only, each beginning where the one before it ends,
and at least one acknowledges something. -/
structure InOrderRun (p : CtPtr) (calls : List TrackCall) : Prop where
  original : ∀ c ∈ calls, ∀ conn seg, c.segment = some (conn, seg) → conn.ct = p → conn.dir = .original
  inOrder : (segmentsFor p calls).IsChain fun a b => b.seq = a.endSeq
  acked : ∃ seg ∈ segmentsFor p calls, seg.ack

/-- The two resets, of which each receiver takes one: their addresses and ports are each other's reverse and
the tuple's own; towards the tuple's destination goes the number behind the last segment, and towards its
source the last segment's acknowledgement number, of those with ACK. -/
def Acceptable (tuple : NfConntrackTuple) (segs : List TcpSegment) (resets : List TcpInfo) : Prop :=
  ∃ toSource toDest last acked, resets = [toSource, toDest] ∧
    segs.getLast? = some last ∧ (segs.filter (·.ack)).getLast? = some acked ∧
    (toDest.srcIp = put32 .big tuple.src.u3.ip ∧ toDest.srcPort = tuple.src.u ∧
      toDest.dstIp = put32 .big tuple.dst.u3.ip ∧ toDest.dstPort = tuple.dst.u) ∧
    (toSource.srcIp = toDest.dstIp ∧ toSource.srcPort = toDest.dstPort ∧
      toSource.dstIp = toDest.srcIp ∧ toSource.dstPort = toDest.srcPort) ∧
    toDest.seq = last.endSeq ∧ toSource.seq = acked.ackSeq

/-- The segment takes no sequence number: no data, no SYN, no FIN. -/
def TcpSegment.Bare (seg : TcpSegment) : Prop := seg.payload = 0 ∧ ¬ seg.syn ∧ ¬ seg.fin

/-- A segment that passes the header checks is shorter than the sequence space, flags included. -/
theorem segmentFor_payload {c : TrackCall} {p : CtPtr} {seg : TcpSegment} (hseg : c.segmentFor p = some seg) :
    seg.payload + 2 < 4294967296 := by
  unfold TrackCall.segmentFor TrackCall.segment at hseg
  cases hh : tcptrackHeader c.env c.skb c.info with
  | error ret => simp [hh] at hseg
  | ok r =>
    obtain ⟨th, dataoff⟩ := r
    obtain ⟨hpos, hdoff, hle⟩ := tcptrackHeader_ok hh
    have hlen := c.skb.len_lt
    cases hconn : c.conn with
    | none => simp [hh, hconn] at hseg
    | some conn =>
      simp only [hh, hconn, Option.map_some, Option.ite_none_right_eq_some, Option.some.injEq] at hseg
      obtain ⟨-, rfl⟩ := hseg
      show c.skb.len - dataoff - 4 * th.doff + 2 < 4294967296
      unfold SkBuff.len at *
      omega

theorem TcpSegment.endSeq_eq_seq_iff {seg : TcpSegment} (h : seg.payload + 2 < 4294967296) :
    seg.endSeq = seg.seq ↔ seg.Bare := by
  -- the length that is added, as a number below 2^32
  have hlen : ∀ n : ℕ, n < 4294967296 → (seg.seq + UInt32.ofNat n = seg.seq ↔ n = 0) := by
    intro n hn
    rw [← UInt32.toNat_inj, UInt32.toNat_add, UInt32.toNat_ofNat']
    have hseq := seg.seq.toNat_lt
    omega
  have hend : seg.endSeq = seg.seq + UInt32.ofNat (seg.payload + seg.syn.toNat + seg.fin.toNat) := by
    unfold endSeq
    rw [UInt32.ofNat_add, UInt32.ofNat_add]
    cases seg.syn <;> cases seg.fin <;> simp [UInt32.add_assoc]
  have hsyn := seg.syn.toNat_le
  have hfin := seg.fin.toNat_le
  rw [hend, hlen _ (by omega)]
  unfold Bare
  cases seg.syn <;> cases seg.fin <;> simp

/-- **Both resets are acceptable**, after a run of the original direction that ends at the state the command
reads, if and only if the last segment takes no sequence number and the last acknowledgement number that is
not zero is the last segment's with ACK. -/
theorem resets_acceptable_iff {env : NlEnv} (hports : env.PortTuples)
    (hexp : isEnableExportTcpTrack env.tcptrackFlags = true) {p : CtPtr} {h : CtHeap} (hct : (h p).TcpV4)
    {calls : List TrackCall} (hrun : InOrderRun p calls) {query : List Attr → List Bytes}
    {opts : ResetOptions} (hzone : opts.zone ≠ -1)
    (hshown : ShownFirst env query (goUint32 opts.zone).toUInt16 opts.sport opts.dport p
      (run trackStep h calls p)) :
    Acceptable (h p).tupleOrig (segmentsFor p calls) (runCmdCtReset env.endian query opts) ↔
      ∀ last acked, (segmentsFor p calls).getLast? = some last →
        ((segmentsFor p calls).filter (·.ack)).getLast? = some acked →
        last.Bare ∧ lastAckSeq (h p).tcp.lastAck (segmentsFor p calls) = acked.ackSeq := by
  obtain ⟨id, hresets⟩ := hshown.resets hports hexp (run_tcpV4 hct calls) hzone
  obtain ⟨hseq, hack⟩ := run_pair p h calls
  have htuple := run_tupleOrig h calls p
  have hbare : ∀ last, (segmentsFor p calls).getLast? = some last →
      (last.seq = last.endSeq ↔ last.Bare) := by
    intro last hlast
    obtain ⟨c, -, hseg⟩ := List.mem_filterMap.mp (List.mem_of_getLast? hlast)
    rw [eq_comm]
    exact TcpSegment.endSeq_eq_seq_iff (segmentFor_payload hseg)
  rw [hresets]
  constructor
  · intro hacc last acked hlast hacked
    obtain ⟨toSource, toDest, last', acked', hpair, hlast', hacked', -, -, hdest, hsource⟩ := hacc
    obtain rfl : last = last' := Option.some.inj (hlast.symm.trans hlast')
    obtain rfl : acked = acked' := Option.some.inj (hacked.symm.trans hacked')
    simp only [List.cons.injEq, and_true] at hpair
    obtain ⟨rfl, rfl⟩ := hpair
    refine ⟨(hbare last hlast).mp ?_, ?_⟩
    · rw [← hseq last hlast]
      exact hdest
    · rw [← hack]
      exact hsource
  · intro hcond
    obtain ⟨seg, hmem, hflag⟩ := hrun.acked
    obtain ⟨last, hlast⟩ := Option.isSome_iff_exists.mp
      (List.getLast?_isSome.mpr (List.ne_nil_of_mem hmem))
    obtain ⟨acked, hacked⟩ := Option.isSome_iff_exists.mp
      (List.getLast?_isSome.mpr (List.ne_nil_of_mem (List.mem_filter.mpr ⟨hmem, hflag⟩)))
    obtain ⟨hlastBare, hlastAck⟩ := hcond last acked hlast hacked
    refine ⟨_, _, last, acked, rfl, hlast, hacked, ?_, ⟨rfl, rfl, rfl, rfl⟩, ?_, ?_⟩
    · show _ = _ ∧ _ = _ ∧ _ = _ ∧ _ = _
      rw [← htuple]
      exact ⟨rfl, rfl, rfl, rfl⟩
    · show (run trackStep h calls p).tcp.lastSeq = last.endSeq
      rw [hseq last hlast]
      exact (hbare last hlast).mpr hlastBare
    · show (run trackStep h calls p).tcp.lastAck = acked.ackSeq
      rw [hack]
      exact hlastAck

/-! A dump of one conntrack. -/

theorem sampleNlEnv_ports : sampleNlEnv.PortTuples := rfl

def resetRequest : DumpRequest := ⟨0, 1, 1, ipctnlMsgCtGet, some (zoneFilter 100)⟩

def resetOptions : ResetOptions := ⟨100, 0, 0, none⟩

/-- The kernel's answer to every dump request: one message about `ct`. -/
def sampleQuery (ct : NfConn) : List Attr → List Bytes := fun _ =>
  (((resetRequest.fillCall sampleNlEnv 0 ct).message (Buf.empty 4096 page_lt)).toList)

/-- The message fits, it decodes, and its flow is taken. -/
def sampleTaken (ct : NfConn) : Bool :=
  match sampleQuery ct [] with
  | [msg] =>
    match unmarshalFlow .little msg with
    | .ok flow => (flow.tcpInfo 0 0).isSome
    | .error _ => false
  | _ => false

theorem shownFirst_sample {ct : NfConn} (h : sampleTaken ct = true) :
    ShownFirst sampleNlEnv (sampleQuery ct) 100 0 0 0 ct := by
  unfold sampleTaken at h
  split at h
  · rename_i msg hmsg
    split at h
    · rename_i flow hflow
      have hmade : (resetRequest.fillCall sampleNlEnv 0 ct).message (Buf.empty 4096 (by decide)) = some msg :=
        Option.toList_eq_singleton_iff.mp hmsg
      have hflows : unmarshalFlows .little [msg] = .ok [flow] := by
        rw [unmarshalFlows, List.mapM_cons, List.mapM_nil, hflow]
        rfl
      exact .intro resetRequest _ [] [] msg flow [flow] rfl hmade hmsg hflows (by simp) hflow h
    · cases h
  · cases h

theorem inOrderRun_of {p : CtPtr} {calls : List TrackCall} {segs : List TcpSegment}
    (hsegs : segmentsFor p calls = segs)
    (hdir : ∀ c ∈ calls, c.segment.map (·.1.dir) = some .original)
    (hchain : segs.IsChain fun a b => b.seq = a.endSeq) (hack : ∃ seg ∈ segs, seg.ack) :
    InOrderRun p calls := by
  subst hsegs
  refine ⟨fun c hc conn seg hseg _ => ?_, hchain, hack⟩
  have hconn := hdir c hc
  rw [hseg] at hconn
  exact Option.some.inj hconn

/-- A data segment and a bare ACK behind it: both resets are acceptable. -/
theorem resets_acceptable_sample :
    Acceptable (sampleConn (sampleTcp .established 0 0 0)).tupleOrig
      (segmentsFor 0 [origCall 1000 2000 0x18 3, origCall 1003 2000 0x10 0])
      (runCmdCtReset sampleNlEnv.endian
        (sampleQuery (run trackStep (sampleHeap (sampleTcp .established 0 0 0))
          [origCall 1000 2000 0x18 3, origCall 1003 2000 0x10 0] 0)) resetOptions) := by
  have hsegs : segmentsFor 0 [origCall 1000 2000 0x18 3, origCall 1003 2000 0x10 0]
      = [⟨1000, 2000, 3, false, false, false, true⟩, ⟨1003, 2000, 0, false, false, false, true⟩] := by
    decide
  have hrun := inOrderRun_of hsegs (by decide) (by decide) (by decide)
  have hshown : ShownFirst sampleNlEnv _ (goUint32 resetOptions.zone).toUInt16 resetOptions.sport
      resetOptions.dport 0 (run trackStep (sampleHeap (sampleTcp .established 0 0 0))
        [origCall 1000 2000 0x18 3, origCall 1003 2000 0x10 0] 0) :=
    shownFirst_sample (by decide +kernel)
  refine (resets_acceptable_iff sampleNlEnv_ports (by decide) (h := sampleHeap (sampleTcp .established 0 0 0))
    ⟨rfl, rfl⟩ hrun (by decide) hshown).mpr ?_
  rw [hsegs]
  intro last acked hlast hacked
  cases hlast
  cases hacked
  exact ⟨⟨rfl, by decide, by decide⟩, by decide⟩

/-- A run that ends in data: the reset to the destination has the number in front of the data. -/
theorem resets_acceptable_fails :
    ¬ ∀ (env : NlEnv) (p : CtPtr) (h : CtHeap) (calls : List TrackCall) (query : List Attr → List Bytes)
        (opts : ResetOptions), env.PortTuples → isEnableExportTcpTrack env.tcptrackFlags = true →
      (h p).TcpV4 → InOrderRun p calls → opts.zone ≠ -1 →
      ShownFirst env query (goUint32 opts.zone).toUInt16 opts.sport opts.dport p (run trackStep h calls p) →
        Acceptable (h p).tupleOrig (segmentsFor p calls) (runCmdCtReset env.endian query opts) := by
  intro hall
  have hsegs : segmentsFor 0 [origCall 1000 2000 0x18 3]
      = [⟨1000, 2000, 3, false, false, false, true⟩] := by decide
  have hrun := inOrderRun_of hsegs (by decide) (by decide) (by decide)
  have hshown : ShownFirst sampleNlEnv _ (goUint32 resetOptions.zone).toUInt16 resetOptions.sport
      resetOptions.dport 0 (run trackStep (sampleHeap (sampleTcp .established 0 0 0))
        [origCall 1000 2000 0x18 3] 0) :=
    shownFirst_sample (by decide +kernel)
  obtain ⟨toSource, toDest, last, acked, hpair, hlast, -, -, -, hdest, -⟩ :=
    hall sampleNlEnv 0 (sampleHeap (sampleTcp .established 0 0 0)) _ _ resetOptions sampleNlEnv_ports
      (by decide) ⟨rfl, rfl⟩
      hrun (by decide) hshown
  obtain ⟨id, hresets⟩ := hshown.resets sampleNlEnv_ports (by decide) ⟨rfl, rfl⟩ (by decide)
  rw [hresets] at hpair
  simp only [List.cons.injEq, and_true] at hpair
  obtain ⟨-, rfl⟩ := hpair
  rw [hsegs] at hlast
  obtain rfl := Option.some.inj hlast
  have hnum : (run trackStep (sampleHeap (sampleTcp .established 0 0 0))
      [origCall 1000 2000 0x18 3] 0).tcp.lastSeq
      = (⟨1000, 2000, 3, false, false, false, true⟩ : TcpSegment).endSeq := hdest
  revert hnum
  decide

/-! ### Both directions -/

/-- The segment a call brings for `p` in the original direction. -/
def TrackCall.origSegmentFor (c : TrackCall) (p : CtPtr) : Option TcpSegment :=
  match c.segment with
  | some (conn, seg) => if conn = ⟨p, .original⟩ then some seg else none
  | none => none

/-- The sequence and acknowledgement number of the last segment of the original direction, or the pair
stored before there is one. -/
def clientPair (p : CtPtr) (t : IpCtTcp) (calls : List TrackCall) : UInt32 × UInt32 :=
  match (calls.filterMap (·.origSegmentFor p)).getLast? with
  | some seg => (seg.seq, seg.ackSeq)
  | none => (t.lastSeq, t.lastAck)

theorem clientPair_snoc (p : CtPtr) (t : IpCtTcp) (calls : List TrackCall) (c : TrackCall) :
    clientPair p t (calls ++ [c]) =
      match c.origSegmentFor p with
      | some seg => (seg.seq, seg.ackSeq)
      | none => clientPair p t calls := by
  unfold clientPair
  rw [List.filterMap_append]
  cases hseg : c.origSegmentFor p <;> simp [hseg]

/-- The call does not part the stored pair from the original source's: a segment of the original direction
acknowledges something, unless nothing is stored as acknowledged; one of the reply direction repeats the
stored numbers. -/
def TrackCall.KeepsClient (c : TrackCall) (p : CtPtr) (t : IpCtTcp) : Prop :=
  ∀ conn seg, c.segment = some (conn, seg) → conn.ct = p →
    match conn.dir with
    | .original => seg.ackSeq ≠ 0 ∨ t.lastAck = 0
    | .reply => seg.seq = t.lastSeq ∧ (seg.ackSeq = 0 ∨ seg.ackSeq = t.lastAck)

/-- The tracker's pair. -/
def IpCtTcp.pair (t : IpCtTcp) : UInt32 × UInt32 := (t.lastSeq, t.lastAck)

/-- One call, from a state in which the stored pair is the original source's. -/
theorem client_step_iff {p : CtPtr} {h : CtHeap} {calls : List TrackCall} {c : TrackCall}
    (hpre : (run trackStep h calls p).tcp.pair = clientPair p (h p).tcp calls) :
    (run trackStep h (calls ++ [c]) p).tcp.pair = clientPair p (h p).tcp (calls ++ [c]) ↔
      c.KeepsClient p (run trackStep h calls p).tcp := by
  rw [run_snoc, clientPair_snoc, ← hpre]
  generalize run trackStep h calls = g
  have hother : c.segmentFor p = none → c.origSegmentFor p = none →
      (((trackStep g c p).tcp.pair = match c.origSegmentFor p with
        | some seg => (seg.seq, seg.ackSeq)
        | none => (g p).tcp.pair) ↔ True) := by
    intro hseg horig
    rw [trackStep_other hseg, horig]
    simp
  cases hs : c.segment with
  | none =>
    rw [hother (by rw [TrackCall.segmentFor, hs]) (by rw [TrackCall.origSegmentFor, hs])]
    simp [TrackCall.KeepsClient, hs]
  | some r =>
    obtain ⟨⟨q, dir⟩, seg⟩ := r
    by_cases hq : q = p
    · subst hq
      have hseg : c.segmentFor q = some seg := by simp [TrackCall.segmentFor, hs]
      have hstep : (trackStep g c q).tcp.pair
          = (seg.seq, if seg.ackSeq ≠ 0 then seg.ackSeq else (g q).tcp.lastAck) := by
        rw [trackStep_self hseg]
        simp [IpCtTcp.pair, TrackCall.track]
      rw [hstep]
      cases dir with
      | original =>
        have horig : c.origSegmentFor q = some seg := by simp [TrackCall.origSegmentFor, hs]
        rw [horig]
        by_cases hzero : seg.ackSeq = 0 <;> simp [TrackCall.KeepsClient, hs, hzero, eq_comm]
      | reply =>
        have horig : c.origSegmentFor q = none := by simp [TrackCall.origSegmentFor, hs]
        rw [horig]
        by_cases hzero : seg.ackSeq = 0 <;> simp [TrackCall.KeepsClient, IpCtTcp.pair, hs, hzero]
    · rw [hother (by simp [TrackCall.segmentFor, hs, hq]) (by simp [TrackCall.origSegmentFor, hs, hq])]
      simp [TrackCall.KeepsClient, hs, hq]

/-- **The stored pair is the original source's** at every point of a run, if and only if each call keeps
it so. -/
theorem client_pair_iff (p : CtPtr) (h : CtHeap) (calls : List TrackCall) :
    (∀ pre, pre <+: calls → (run trackStep h pre p).tcp.pair = clientPair p (h p).tcp pre) ↔
      ∀ pre c post, calls = pre ++ c :: post → c.KeepsClient p (run trackStep h pre p).tcp := by
  apply forall_prefix_iff_of_step
  · rfl
  · intro pre c hpre
    exact client_step_iff hpre

/-- The numbers the command assigns to the original source's side. -/
def ReadsPair (reading : Decode (Option TcpInfo)) (pair : UInt32 × UInt32) : Prop :=
  ∃ t, reading = .ok (some t) ∧ t.ack = pair.1 ∧ t.seq = pair.2

theorem ShownFirst.reads_iff {env : NlEnv} {query : List Attr → List Bytes} {p : CtPtr} {ct : NfConn}
    {zone : UInt32} {sport dport : UInt16} (hexp : isEnableExportTcpTrack env.tcptrackFlags = true)
    (htcp : nfCtProtonum ct = ipprotoTcp) (h : ShownFirst env query zone.toUInt16 sport dport p ct)
    (pair : UInt32 × UInt32) :
    ReadsPair (getTcpInfoFromConntrack env.endian query zone sport dport) pair ↔ ct.tcp.pair = pair := by
  obtain ⟨t, hread, hseq, hack⟩ := h.pair hexp htcp
  unfold ReadsPair IpCtTcp.pair
  rw [hread, ← hseq, ← hack]
  constructor
  · intro hpair
    obtain ⟨t', ht', hseq', hack'⟩ := hpair
    obtain rfl : t = t' := Option.some.inj (Except.ok.inj ht')
    exact Prod.ext hseq' hack'
  · intro hpair
    exact ⟨t, rfl, congrArg Prod.fst hpair, congrArg Prod.snd hpair⟩

/-- **The command reads the original source's pair**, whenever it reads the connection along a run, if and
only if each call of the run keeps the stored pair the original source's. -/
theorem reads_client_pair_iff {env : NlEnv} (hexp : isEnableExportTcpTrack env.tcptrackFlags = true)
    {p : CtPtr} {h : CtHeap} (htcp : nfCtProtonum (h p) = ipprotoTcp) {calls : List TrackCall}
    (hshown : ∀ pre, pre <+: calls → ∃ query zone sport dport,
      ShownFirst env query (UInt32.toUInt16 zone) sport dport p (run trackStep h pre p)) :
    (∀ pre, pre <+: calls → ∀ query zone sport dport,
        ShownFirst env query (UInt32.toUInt16 zone) sport dport p (run trackStep h pre p) →
          ReadsPair (getTcpInfoFromConntrack env.endian query zone sport dport)
            (clientPair p (h p).tcp pre)) ↔
      ∀ pre c post, calls = pre ++ c :: post → c.KeepsClient p (run trackStep h pre p).tcp := by
  have htcp' : ∀ pre, nfCtProtonum (run trackStep h pre p) = ipprotoTcp := by
    intro pre
    unfold nfCtProtonum at *
    rw [run_tupleOrig]
    exact htcp
  rw [← client_pair_iff]
  constructor
  · intro hreads pre hpre
    obtain ⟨query, zone, sport, dport, hfirst⟩ := hshown pre hpre
    exact (hfirst.reads_iff hexp (htcp' pre) _).mp (hreads pre hpre query zone sport dport hfirst)
  · intro hpair pre hpre query zone sport dport hfirst
    exact (hfirst.reads_iff hexp (htcp' pre) _).mpr (hpair pre hpre)

/-- Two segments of the original direction: what the command reads before, between and behind them. -/
theorem reads_client_pair_sample :
    (∀ pre, pre <+: [origCall 1000 2000 0x18 3, origCall 1003 2000 0x10 0] →
      ∃ query zone sport dport, ShownFirst sampleNlEnv query (UInt32.toUInt16 zone) sport dport 0
        (run trackStep (sampleHeap (sampleTcp .established 990 2000 1000)) pre 0)) ∧
    ∀ pre, pre <+: [origCall 1000 2000 0x18 3, origCall 1003 2000 0x10 0] → ∀ query zone sport dport,
      ShownFirst sampleNlEnv query (UInt32.toUInt16 zone) sport dport 0
          (run trackStep (sampleHeap (sampleTcp .established 990 2000 1000)) pre 0) →
        ReadsPair (getTcpInfoFromConntrack sampleNlEnv.endian query zone sport dport)
          (clientPair 0 (sampleTcp .established 990 2000 1000) pre) := by
  have hshown : ∀ pre, pre <+: [origCall 1000 2000 0x18 3, origCall 1003 2000 0x10 0] →
      ∃ query zone sport dport, ShownFirst sampleNlEnv query (UInt32.toUInt16 zone) sport dport 0
        (run trackStep (sampleHeap (sampleTcp .established 990 2000 1000)) pre 0) := by
    intro pre hpre
    have htaken : ∀ pre ∈ [origCall 1000 2000 0x18 3, origCall 1003 2000 0x10 0].inits,
        sampleTaken (run trackStep (sampleHeap (sampleTcp .established 990 2000 1000)) pre 0) = true := by
      decide +kernel
    exact ⟨_, 100, 0, 0, shownFirst_sample (htaken pre ((List.mem_inits _ _).mpr hpre))⟩
  have hcalls : ∀ c ∈ [origCall 1000 2000 0x18 3, origCall 1003 2000 0x10 0],
      c.segment.map (fun r => (r.1.dir, r.2.ackSeq)) = some (.original, 2000) := by decide
  refine ⟨hshown, ?_⟩
  refine (reads_client_pair_iff (by decide) (h := sampleHeap (sampleTcp .established 990 2000 1000)) rfl
    hshown).mpr ?_
  intro pre c post hsplit conn seg hseg _
  have hc := hcalls c (by rw [hsplit]; exact List.mem_append_right pre List.mem_cons_self)
  rw [hseg] at hc
  simp only [Option.map_some, Option.some.injEq, Prod.mk.injEq] at hc
  obtain ⟨hdir, hack⟩ := hc
  rw [hdir]
  exact .inl (by rw [hack]; decide)

/-- A segment of either direction: the command takes the server's sequence number for the client's. -/
theorem reads_client_pair_fails :
    ¬ ∀ (env : NlEnv) (p : CtPtr) (h : CtHeap) (calls : List TrackCall),
      isEnableExportTcpTrack env.tcptrackFlags = true → nfCtProtonum (h p) = ipprotoTcp →
        ∀ pre, pre <+: calls → ∀ query zone sport dport,
          ShownFirst env query (UInt32.toUInt16 zone) sport dport p (run trackStep h pre p) →
            ReadsPair (getTcpInfoFromConntrack env.endian query zone sport dport)
              (clientPair p (h p).tcp pre) := by
  intro hall
  have hshown : ShownFirst sampleNlEnv _ (UInt32.toUInt16 100) 0 0 0
      (run trackStep (sampleHeap (sampleTcp .established 0 0 0))
        [origCall 1000 2000 0x10 0, replyCall 2000 1000 0x10 0] 0) :=
    shownFirst_sample (by decide +kernel)
  have hreads := hall sampleNlEnv 0 (sampleHeap (sampleTcp .established 0 0 0)) _ (by decide) rfl _
    (List.prefix_refl _) _ _ _ _ hshown
  have hpair := (hshown.reads_iff (by decide) rfl _).mp hreads
  revert hpair
  decide

end VgwDriver
