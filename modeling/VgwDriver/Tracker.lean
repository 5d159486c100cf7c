import VgwDriver.Conntrack

/-!
# The segment tracker

`tcp_track.c`: the return probe on `ovs_ct_execute` hands every packet to `vgw_tcptrack_main`, which finds
the packet's conntrack (attached to the packet, or by a lookup of its tuple), moves the conntrack's TCP
state, adjusts the flow key and records the segment's sequence and acknowledgement numbers.

* `vgwTcptrackMain` — the function, on the heap of conntracks and the flow key;
* `TrackCall.segment` — which connection a call reaches and the segment it brings, if every gate and
  header check passes;
* `vgwTcptrackMain_rejected`, `vgwTcptrackMain_accepted` — **what one call does**: nothing, or
  `NfConn.track` to that one connection and `adjustCtState` to the key.
-/

namespace VgwDriver

open Base

/-! ### What the tracker is called with -/

/-- `struct sw_flow_key`, the two fields that are used. -/
structure SwFlowKey where
  ctState : UInt8
  recircId : UInt32
  deriving DecidableEq, Repr

/-- `struct ovs_conntrack_info`, the two fields that are used. -/
structure OvsConntrackInfo where
  family : UInt16
  zone : NfConntrackZone
  deriving DecidableEq, Repr

/-- The module parameters, and the kernel's functions as they answer during one call: the tuple of a
packet, the table lookup, the timeout policies, and what `__nf_ct_refresh_acct` makes of a conntrack's
status, its timeout and the new timeout. -/
structure TrackEnv where
  tcptrackFlags : UInt32
  zoneRangeMin : UInt32
  zoneRangeMax : UInt32
  nfCtGetTuplepr : SkBuff → ℕ → UInt16 → NetPtr → Option NfConntrackTuple
  nfConntrackFindGet : NetPtr → NfConntrackZone → NfConntrackTuple → Option TupleHash
  nfCtTimeoutLookup : CtPtr → Option (TcpConntrack → UInt32)
  nfTcpPernetTimeouts : NetPtr → TcpConntrack → UInt32
  nfCtRefreshAcct : UInt32 → UInt32 → UInt32 → UInt32

def flagsTcpTrack : UInt32 := 0x01
def flagsZoneFilter : UInt32 := 0x02
def flagsExportTcpTrack : UInt32 := 0x04

def isEnableTcpTrack (flags : UInt32) : Bool := flags &&& flagsTcpTrack ≠ 0
def isEnableZoneFilter (flags : UInt32) : Bool := flags &&& flagsZoneFilter ≠ 0
def isEnableExportTcpTrack (flags : UInt32) : Bool := flags &&& flagsExportTcpTrack ≠ 0

/-! ### Finding the conntrack -/

def ipCtEstablished : UInt8 := 0
def ipCtIsReply : UInt8 := 3
def ipCtUntracked : UInt8 := 7

/-- `CTINFO2DIR`. -/
def ctinfo2dir (ctinfo : UInt8) : IpConntrackDir := if ipCtIsReply ≤ ctinfo then .reply else .original

/-- `get_skb_ct`: the attached conntrack, if it is tracked, and `ctinfo`.  `nf_ct_get` stores `ctinfo`
whether or not there is a conntrack. -/
def getSkbCt (skb : SkBuff) : Option CtPtr × UInt8 :=
  match skb.nfct with
  | (none, ctinfo) => (none, ctinfo)
  | (some ct, ctinfo) => if ctinfo = ipCtUntracked then (none, ctinfo) else (some ct, ctinfo)

theorem getSkbCt_ctinfo (skb : SkBuff) : (getSkbCt skb).2 = skb.nfct.2 := by
  unfold getSkbCt
  split
  · simp [*]
  · split <;> simp [*]

/-- The answer of the lookup in `lookup_conntrack_by_skb`. -/
def lookupTupleHash (e : TrackEnv) (net : NetPtr) (zone : NfConntrackZone) (l3num : UInt16)
    (skb : SkBuff) : Option TupleHash :=
  match e.nfCtGetTuplepr skb skb.networkOffset l3num net with
  | none => none
  | some tuple => e.nfConntrackFindGet net zone tuple

/-- `lookup_conntrack_by_skb`.  The conntrack found comes with a reference. -/
def lookupConntrackBySkb (e : TrackEnv) (h : CtHeap) (net : NetPtr) (zone : NfConntrackZone)
    (l3num : UInt16) (skb : SkBuff) : CtHeap × Option CtPtr :=
  match lookupTupleHash e net zone l3num skb with
  | none => (h, none)
  | some th => (h.get th.ct, some th.ct)

/-- `l3num` is a `u8` parameter: the family is cut to eight bits. -/
def lookupFamily (info : OvsConntrackInfo) : UInt16 := info.family &&& 0xff

/-- The zone of the lookup.  The source leaves its `flags` unset; the lookup does not read them. -/
def lookupZone (info : OvsConntrackInfo) : NfConntrackZone := ⟨info.zone.id, 0, nfCtDefaultZoneDir⟩

/-! ### The gates -/

/-- `check_zone_id`. -/
def checkZoneId (e : TrackEnv) (zoneId : UInt16) : Bool :=
  !isEnableZoneFilter e.tcptrackFlags ||
    (e.zoneRangeMin ≤ zoneId.toUInt32 && zoneId.toUInt32 ≤ e.zoneRangeMax)

/-- The gates and header checks at the start of `vgw_tcptrack_main`: the TCP header and where it stands,
or the internal code of the check that failed. -/
def tcptrackHeader (e : TrackEnv) (skb : SkBuff) (info : OvsConntrackInfo) : Except ℤ (Tcphdr × ℕ) :=
  if !isEnableTcpTrack e.tcptrackFlags then .error (-1)
  else if !checkZoneId e info.zone.id then .error (-2)
  else
    let nhoff := skb.networkOffset
    match skbHeaderPointer skb nhoff iphdrLen with
    | none => .error (-3)
    | some _ =>
      match ipv4GetL4proto skb nhoff with
      | (dataoff, protonum) =>
        if dataoff ≤ 0 then .error (-4)
        else if protonum ≠ ipprotoTcp then .error (-5)
        else
          match skbHeaderPointer skb dataoff.toNat tcphdrLen with
          | none => .error (-6)
          | some b =>
            if tcpError (Tcphdr.ofBytes b) skb dataoff.toNat then .error (-7)
            else .ok (Tcphdr.ofBytes b, dataoff.toNat)

/-! ### The updates -/

/-- `set_ct_timeout`. -/
def setCtTimeout (e : TrackEnv) (net : NetPtr) (h : CtHeap) (ct : CtPtr) (newState : TcpConntrack) :
    CtHeap :=
  let timeouts := (e.nfCtTimeoutLookup ct).getD (e.nfTcpPernetTimeouts net)
  h.modify ct fun c => { c with timeout := e.nfCtRefreshAcct c.status c.timeout (timeouts newState) }

/-- `set_ct_state`. -/
def setCtState (e : TrackEnv) (net : NetPtr) (h : CtHeap) (ct : CtPtr) (newState : TcpConntrack) :
    CtHeap :=
  if (h ct).tcp.state = newState then h
  else
    let h := h.modify ct fun c => { c with tcp := { c.tcp with state := newState } }
    setCtTimeout e net h ct newState

/-- The `if`/`else` chain of `vgw_tcptrack_main` that moves the TCP state. -/
def tcptrackState (e : TrackEnv) (net : NetPtr) (h : CtHeap) (ct : CtPtr) (th : Tcphdr) : CtHeap :=
  if th.syn ∧ (h ct).tcp.state ≠ .established then setCtState e net h ct .synRecv
  else if th.ack ∧ (h ct).tcp.state.ltEstablished then setCtState e net h ct .established
  else if th.fin then setCtState e net h ct .closeWait
  else if th.rst then setCtState e net h ct .close
  else h

def ovsCsFEstablished : UInt8 := 0x02
def ovsCsFInvalid : UInt8 := 0x10

/-- The part of `vgw_tcptrack_main` that adjusts the flow key. -/
def adjustCtState (ctinfo : UInt8) (key : SwFlowKey) : SwFlowKey :=
  if ctinfo = ipCtEstablished then
    let key := if key.ctState &&& ovsCsFInvalid ≠ 0 then
      { key with ctState := key.ctState &&& ~~~ovsCsFInvalid } else key
    if key.ctState &&& ovsCsFEstablished = 0 then
      { key with ctState := key.ctState ||| ovsCsFEstablished } else key
  else key

/-- The end of `vgw_tcptrack_main`: record the segment, unless both its numbers are the stored ones. -/
def tcptrackSeq (h : CtHeap) (ct : CtPtr) (th : Tcphdr) (len dataoff : ℕ) : CtHeap × ℤ :=
  let lastSeq := th.seq
  let lastAck := th.ackSeq
  if lastSeq = (h ct).tcp.lastSeq ∧ lastAck = (h ct).tcp.lastAck then (h, -10)
  else
    (h.modify ct fun c =>
      { c with tcp :=
        { c.tcp with
          lastSeq := lastSeq
          lastEnd := segmentSeqPlusLen lastSeq len dataoff th
          lastAck := if lastAck ≠ 0 then lastAck else c.tcp.lastAck } }, 0)

/-- `vgw_tcptrack_main`: the heap and the key afterwards, and the internal `ret` (the function itself
always returns 0). -/
def vgwTcptrackMain (e : TrackEnv) (h : CtHeap) (net : NetPtr) (skb : SkBuff) (key : SwFlowKey)
    (info : OvsConntrackInfo) : CtHeap × SwFlowKey × ℤ :=
  match tcptrackHeader e skb info with
  | .error ret => (h, key, ret)
  | .ok (th, dataoff) =>
    match getSkbCt skb with
    | (some ct, ctinfo) =>
      let h := tcptrackState e net h ct th
      let key := adjustCtState ctinfo key
      let (h, ret) := tcptrackSeq h ct th skb.len dataoff
      (h, key, ret)
    | (none, ctinfo) =>
      match lookupConntrackBySkb e h net (lookupZone info) (lookupFamily info) skb with
      | (h, none) => (h, key, -8)
      | (h, some ct) =>
        let h := tcptrackState e net h ct th
        let key := adjustCtState ctinfo key
        let (h, ret) := tcptrackSeq h ct th skb.len dataoff
        (h.put ct, key, ret)

/-! ### Calls -/

/-- One call of `vgw_tcptrack_main`, with the environment it finds. -/
structure TrackCall where
  env : TrackEnv
  net : NetPtr
  skb : SkBuff
  key : SwFlowKey
  info : OvsConntrackInfo

def TrackCall.exec (c : TrackCall) (h : CtHeap) : CtHeap × SwFlowKey × ℤ :=
  vgwTcptrackMain c.env h c.net c.skb c.key c.info

/-- The heap after a call. -/
def trackStep (h : CtHeap) (c : TrackCall) : CtHeap := (c.exec h).1

/-- The arguments `kretprobe_entry_handler` saves, as a call. -/
abbrev FuncArgs := TrackCall

/-- `kretprobe_return_handler`: only after a successful `ovs_ct_execute` of a packet that was not
recirculated. -/
def kretprobeReturnHandler (h : CtHeap) (retval : UInt64) (args : FuncArgs) : CtHeap × SwFlowKey :=
  if retval ≠ 0 then (h, args.key)
  else if args.key.recircId ≠ 0 then (h, args.key)
  else
    let (h, key, _) := args.exec h
    (h, key)

/-! ### What a call brings -/

/-- The conntrack a call works on, and the direction it sees the packet in. -/
def TrackCall.conn (c : TrackCall) : Option TupleHash :=
  match getSkbCt c.skb with
  | (some ct, ctinfo) => some ⟨ct, ctinfo2dir ctinfo⟩
  | (none, _) => lookupTupleHash c.env c.net (lookupZone c.info) (lookupFamily c.info) c.skb

/-- The segment a call brings and the connection it belongs to; `none` when some gate or header check
fails or there is no conntrack. -/
def TrackCall.segment (c : TrackCall) : Option (TupleHash × TcpSegment) :=
  match tcptrackHeader c.env c.skb c.info with
  | .error _ => none
  | .ok (th, dataoff) => c.conn.map fun conn => (conn, TcpSegment.ofHeader th c.skb.len dataoff)

/-- The segment a call brings for the connection `p`. -/
def TrackCall.segmentFor (c : TrackCall) (p : CtPtr) : Option TcpSegment :=
  match c.segment with
  | some (conn, seg) => if conn.ct = p then some seg else none
  | none => none

/-! ### What a segment does to its connection -/

/-- The state a segment moves a connection to. -/
def TcpConntrack.next (s : TcpConntrack) (seg : TcpSegment) : TcpConntrack :=
  if seg.syn ∧ s ≠ .established then .synRecv
  else if seg.ack ∧ s.ltEstablished then .established
  else if seg.fin then .closeWait
  else if seg.rst then .close
  else s

/-- The TCP record after a segment. -/
def IpCtTcp.track (t : IpCtTcp) (seg : TcpSegment) : IpCtTcp :=
  let t := { t with state := t.state.next seg }
  if seg.seq = t.lastSeq ∧ seg.ackSeq = t.lastAck then t
  else { t with
    lastSeq := seg.seq
    lastEnd := seg.endSeq
    lastAck := if seg.ackSeq ≠ 0 then seg.ackSeq else t.lastAck }

/-- The timeout after a segment: refreshed exactly when the state changes. -/
def TrackCall.newTimeout (c : TrackCall) (p : CtPtr) (ct : NfConn) (seg : TcpSegment) : UInt32 :=
  let s := ct.tcp.state.next seg
  if ct.tcp.state = s then ct.timeout
  else c.env.nfCtRefreshAcct ct.status ct.timeout
    ((c.env.nfCtTimeoutLookup p).getD (c.env.nfTcpPernetTimeouts c.net) s)

/-- The conntrack after a segment: only its TCP record and its timeout change. -/
def TrackCall.track (c : TrackCall) (p : CtPtr) (seg : TcpSegment) (ct : NfConn) : NfConn :=
  { ct with tcp := ct.tcp.track seg, timeout := c.newTimeout p ct seg }

@[simp] theorem IpCtTcp.track_state (t : IpCtTcp) (seg : TcpSegment) :
    (t.track seg).state = t.state.next seg := by
  simp only [IpCtTcp.track]
  split <;> rfl

/-- A header that passes the checks lies in the packet, behind a positive offset. -/
theorem tcptrackHeader_ok {e : TrackEnv} {skb : SkBuff} {info : OvsConntrackInfo} {th : Tcphdr}
    {dataoff : ℕ} (h : tcptrackHeader e skb info = .ok (th, dataoff)) :
    0 < dataoff ∧ 5 ≤ th.doff ∧ dataoff + 4 * th.doff ≤ skb.len := by
  unfold tcptrackHeader at h
  split at h
  · cases h
  split at h
  · cases h
  cases hip : skbHeaderPointer skb skb.networkOffset iphdrLen with
  | none => simp [hip] at h
  | some b =>
    rcases hl4 : ipv4GetL4proto skb skb.networkOffset with ⟨off, proto⟩
    simp only [hip, hl4] at h
    split at h
    · cases h
    rename_i hoff
    split at h
    · cases h
    cases htcp : skbHeaderPointer skb off.toNat tcphdrLen with
    | none => simp [htcp] at h
    | some t =>
      simp only [htcp] at h
      split at h
      · cases h
      rename_i herr
      cases h
      obtain ⟨-, -, -, -, -, hle⟩ := ipv4GetL4proto_pos hl4 (by omega)
      exact ⟨by omega, tcpError_eq_false (by simpa using herr) hle⟩

/-! ### The call as a whole -/

/-- One step of the state chain: state and timeout of the one connection. -/
theorem setCtState_eq (c : TrackCall) (h : CtHeap) (p : CtPtr) (s : TcpConntrack) :
    setCtState c.env c.net h p s = h.modify p fun ct =>
      { ct with
        tcp := { ct.tcp with state := s }
        timeout := if ct.tcp.state = s then ct.timeout
          else c.env.nfCtRefreshAcct ct.status ct.timeout
            ((c.env.nfCtTimeoutLookup p).getD (c.env.nfTcpPernetTimeouts c.net) s) } := by
  funext q
  by_cases hq : q = p
  · subst hq
    by_cases hs : (h q).tcp.state = s
    · subst hs
      simp [setCtState]
    · simp [setCtState, setCtTimeout, hs]
  · by_cases hs : (h p).tcp.state = s
    · simp [setCtState, hs, CtHeap.modify_of_ne _ _ hq]
    · simp [setCtState, setCtTimeout, hs, CtHeap.modify_of_ne _ _ hq]

/-- The chain sets the state `TcpConntrack.next` names. -/
theorem tcptrackState_eq_setCtState (e : TrackEnv) (net : NetPtr) (h : CtHeap) (p : CtPtr)
    (th : Tcphdr) (len dataoff : ℕ) :
    tcptrackState e net h p th
      = setCtState e net h p ((h p).tcp.state.next (TcpSegment.ofHeader th len dataoff)) := by
  have hstay : setCtState e net h p (h p).tcp.state = h := if_pos rfl
  have hset : ∀ {s}, s = (h p).tcp.state.next (TcpSegment.ofHeader th len dataoff) →
      setCtState e net h p s
        = setCtState e net h p ((h p).tcp.state.next (TcpSegment.ofHeader th len dataoff)) :=
    fun hs => by rw [hs]
  unfold tcptrackState
  split
  · rename_i h₁
    exact hset (if_pos h₁).symm
  rename_i h₁
  split
  · rename_i h₂
    exact hset ((if_neg h₁).trans (if_pos h₂)).symm
  rename_i h₂
  split
  · rename_i h₃
    exact hset ((if_neg h₁).trans ((if_neg h₂).trans (if_pos h₃))).symm
  rename_i h₃
  split
  · rename_i h₄
    exact hset ((if_neg h₁).trans ((if_neg h₂).trans ((if_neg h₃).trans (if_pos h₄)))).symm
  · rename_i h₄
    exact hstay.symm.trans
      (hset ((if_neg h₁).trans ((if_neg h₂).trans ((if_neg h₃).trans (if_neg h₄)))).symm)

theorem tcptrackState_eq (c : TrackCall) (h : CtHeap) (p : CtPtr) (th : Tcphdr) (len dataoff : ℕ) :
    tcptrackState c.env c.net h p th = h.modify p fun ct =>
      { ct with
        tcp := { ct.tcp with state := ct.tcp.state.next (TcpSegment.ofHeader th len dataoff) }
        timeout := c.newTimeout p ct (TcpSegment.ofHeader th len dataoff) } := by
  rw [tcptrackState_eq_setCtState _ _ _ _ _ len dataoff, setCtState_eq]
  funext q
  by_cases hq : q = p
  · subst hq
    simp [TrackCall.newTimeout]
  · simp [CtHeap.modify_of_ne _ _ hq]

/-- Recording the segment, behind a successful header check. -/
theorem tcptrackSeq_eq (h : CtHeap) (p : CtPtr) {th : Tcphdr} {len dataoff : ℕ}
    (hoff : dataoff + 4 * th.doff ≤ len) :
    (tcptrackSeq h p th len dataoff).1 = h.modify p fun ct =>
      if th.seq = ct.tcp.lastSeq ∧ th.ackSeq = ct.tcp.lastAck then ct
      else { ct with tcp := { ct.tcp with
        lastSeq := th.seq
        lastEnd := (TcpSegment.ofHeader th len dataoff).endSeq
        lastAck := if th.ackSeq ≠ 0 then th.ackSeq else ct.tcp.lastAck } } := by
  funext q
  by_cases hq : q = p
  · subst hq
    by_cases hsame : th.seq = (h q).tcp.lastSeq ∧ th.ackSeq = (h q).tcp.lastAck
    · simp [tcptrackSeq, hsame]
    · simp [tcptrackSeq, hsame, segmentSeqPlusLen_eq hoff]
  · by_cases hsame : th.seq = (h p).tcp.lastSeq ∧ th.ackSeq = (h p).tcp.lastAck
    · simp [tcptrackSeq, hsame, CtHeap.modify_of_ne _ _ hq]
    · simp [tcptrackSeq, hsame, CtHeap.modify_of_ne _ _ hq]

/-- The two updates together are `TrackCall.track`. -/
theorem tcptrack_eq (c : TrackCall) (h : CtHeap) (p : CtPtr) {th : Tcphdr} {len dataoff : ℕ}
    (hoff : dataoff + 4 * th.doff ≤ len) :
    (tcptrackSeq (tcptrackState c.env c.net h p th) p th len dataoff).1
      = h.modify p (c.track p (TcpSegment.ofHeader th len dataoff)) := by
  rw [tcptrackSeq_eq _ _ hoff, tcptrackState_eq c h p th len dataoff, CtHeap.modify_modify]
  congr 1
  funext ct
  unfold TrackCall.track IpCtTcp.track
  by_cases hsame : th.seq = ct.tcp.lastSeq ∧ th.ackSeq = ct.tcp.lastAck
  · have hseg : (TcpSegment.ofHeader th len dataoff).seq = ct.tcp.lastSeq
        ∧ (TcpSegment.ofHeader th len dataoff).ackSeq = ct.tcp.lastAck := hsame
    simp [hsame, hseg]
  · have hseg : ¬ ((TcpSegment.ofHeader th len dataoff).seq = ct.tcp.lastSeq
        ∧ (TcpSegment.ofHeader th len dataoff).ackSeq = ct.tcp.lastAck) := hsame
    simp only [hsame, hseg, if_false]
    rfl

/-- **A rejected call changes nothing.** -/
theorem vgwTcptrackMain_rejected {c : TrackCall} (hseg : c.segment = none) (h : CtHeap) :
    (c.exec h).1 = h ∧ (c.exec h).2.1 = c.key := by
  unfold TrackCall.exec vgwTcptrackMain
  unfold TrackCall.segment TrackCall.conn at hseg
  cases hh : tcptrackHeader c.env c.skb c.info with
  | error ret => exact ⟨rfl, rfl⟩
  | ok r =>
    obtain ⟨th, dataoff⟩ := r
    rcases hct : getSkbCt c.skb with ⟨_ | ct, ctinfo⟩
    · simp only [hh, hct, Option.map_eq_none_iff] at hseg
      simp [lookupConntrackBySkb, hseg]
    · simp [hh, hct] at hseg

/-- **What an accepted call does**: `TrackCall.track` to its connection and `adjustCtState` to the key. -/
theorem vgwTcptrackMain_accepted {c : TrackCall} {conn : TupleHash} {seg : TcpSegment}
    (hseg : c.segment = some (conn, seg)) (h : CtHeap) :
    (c.exec h).1 = h.modify conn.ct (c.track conn.ct seg) ∧
      (c.exec h).2.1 = adjustCtState (getSkbCt c.skb).2 c.key := by
  unfold TrackCall.exec vgwTcptrackMain
  unfold TrackCall.segment TrackCall.conn at hseg
  cases hh : tcptrackHeader c.env c.skb c.info with
  | error ret => simp [hh] at hseg
  | ok r =>
    obtain ⟨th, dataoff⟩ := r
    obtain ⟨-, -, hoff⟩ := tcptrackHeader_ok hh
    simp only [hh] at hseg
    rcases hct : getSkbCt c.skb with ⟨_ | ct, ctinfo⟩
    · simp only [hct, Option.map_eq_some_iff, Prod.mk.injEq] at hseg
      obtain ⟨conn, hconn, rfl, rfl⟩ := hseg
      simp only [lookupConntrackBySkb, hconn, and_true]
      rw [tcptrack_eq c _ _ hoff]
      -- the reference taken by the lookup and the one dropped at `out:` cancel
      simp only [CtHeap.get, CtHeap.put, CtHeap.modify_modify]
      rfl
    · simp only [hct, Option.map_some, Option.some.injEq, Prod.mk.injEq] at hseg
      obtain ⟨rfl, rfl⟩ := hseg
      exact ⟨tcptrack_eq c h ct hoff, rfl⟩

/-- The heap after an accepted call, at the connection it reached. -/
theorem trackStep_self {c : TrackCall} {p : CtPtr} {seg : TcpSegment}
    (hseg : c.segmentFor p = some seg) (h : CtHeap) : trackStep h c p = c.track p seg (h p) := by
  unfold TrackCall.segmentFor at hseg
  cases hs : c.segment with
  | none => simp [hs] at hseg
  | some r =>
    obtain ⟨conn, seg'⟩ := r
    simp only [hs, Option.ite_none_right_eq_some, Option.some.injEq] at hseg
    obtain ⟨rfl, rfl⟩ := hseg
    rw [trackStep, (vgwTcptrackMain_accepted hs h).1, CtHeap.modify_self]

/-- A call leaves every other connection alone. -/
theorem trackStep_other {c : TrackCall} {p : CtPtr} (hseg : c.segmentFor p = none) (h : CtHeap) :
    trackStep h c p = h p := by
  unfold TrackCall.segmentFor at hseg
  cases hs : c.segment with
  | none => rw [trackStep, (vgwTcptrackMain_rejected hs h).1]
  | some r =>
    obtain ⟨conn, seg⟩ := r
    simp only [hs, ite_eq_right_iff, reduceCtorEq, imp_false] at hseg
    rw [trackStep, (vgwTcptrackMain_accepted hs h).1, CtHeap.modify_of_ne _ _ (Ne.symm hseg)]

end VgwDriver
