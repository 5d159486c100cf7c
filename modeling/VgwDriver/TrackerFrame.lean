import VgwDriver.TrackerRefs
import VgwDriver.TrackerRuns

/-!
# What one call of the tracker touches

The frame of `vgw_tcptrack_main`: which records and which fields a call writes, and what the packet must
look like for it to write anything.

* `tracker_frame` — **a call writes one connection**, only its TCP state, numbers and timeout, and two bits
  of the key, and drops the reference its lookup takes, and only that one, exactly once;
* `writes_only_tcpV4_iff` — when only packets with sound IPv4 and TCP headers cause a write.
-/

namespace VgwDriver

open Base

/-! ### The frame -/

/-- Some gate or header check fails, or there is no conntrack. -/
def TrackCall.Rejected (c : TrackCall) : Prop :=
  isEnableTcpTrack c.env.tcptrackFlags = false ∨ checkZoneId c.env c.info.zone.id = false ∨
    (∃ ret, tcptrackHeader c.env c.skb c.info = .error ret) ∨ c.conn = none

/-- `ct'` is `ct` but for what the tracker writes. -/
def NfConn.TrackedFrom (ct ct' : NfConn) : Prop :=
  ct' = { ct with
    timeout := ct'.timeout
    tcp := { ct.tcp with
      state := ct'.tcp.state
      lastSeq := ct'.tcp.lastSeq
      lastAck := ct'.tcp.lastAck
      lastEnd := ct'.tcp.lastEnd } }

/-- `key'` is `key` but for the two bits the tracker writes. -/
def SwFlowKey.TouchedFrom (key key' : SwFlowKey) : Prop :=
  key'.recircId = key.recircId ∧
    key'.ctState &&& ~~~(ovsCsFInvalid ||| ovsCsFEstablished)
      = key.ctState &&& ~~~(ovsCsFInvalid ||| ovsCsFEstablished)

/-- The references a call takes and drops, read off its log.  The call with the log is the call; a rejected
one logs nothing; with a conntrack attached to the packet no reference is taken or dropped; without one a
reference to the conntrack found is taken once, first, and dropped once, last. -/
structure TrackCall.Balanced (c : TrackCall) (h : CtHeap) : Prop where
  value : (c.execRefs.records h, c.execRefs.value h) = c.exec h
  rejected : c.Rejected → c.execRefs.log h = []
  attached : ∀ ct, (getSkbCt c.skb).1 = some ct → AccessesOnly ct (c.execRefs.log h)
  lookedUp : ¬ c.Rejected → (getSkbCt c.skb).1 = none →
    ∃ conn, c.conn = some conn ∧ Bracketed conn.ct (c.execRefs.log h)

theorem TrackCall.segment_of_rejected {c : TrackCall} (hrej : c.Rejected) : c.segment = none := by
  have herror : ∀ {ret}, tcptrackHeader c.env c.skb c.info = .error ret → c.segment = none := by
    intro ret h
    rw [segment, h]
  rcases hrej with hoff | hzone | ⟨ret, hret⟩ | hconn
  · exact herror (show tcptrackHeader c.env c.skb c.info = .error (-1) by simp [tcptrackHeader, hoff])
  · cases hon : isEnableTcpTrack c.env.tcptrackFlags with
    | false => exact herror (show tcptrackHeader _ _ _ = .error (-1) by simp [tcptrackHeader, hon])
    | true => exact herror (show tcptrackHeader _ _ _ = .error (-2) by simp [tcptrackHeader, hon, hzone])
  · exact herror hret
  · unfold segment
    rw [hconn]
    split <;> rfl

/-- A call that brings a segment brings it for the conntrack it found. -/
theorem TrackCall.conn_of_segment {c : TrackCall} {conn : TupleHash} {seg : TcpSegment}
    (hseg : c.segment = some (conn, seg)) : c.conn = some conn := by
  unfold segment at hseg
  split at hseg
  · cases hseg
  · obtain ⟨conn', hconn, heq⟩ := Option.map_eq_some_iff.mp hseg
    rw [hconn, (Prod.mk.inj heq).1]

theorem NfConn.TrackedFrom.refl (ct : NfConn) : ct.TrackedFrom ct := rfl

theorem TrackCall.track_trackedFrom (c : TrackCall) (p : CtPtr) (seg : TcpSegment) (ct : NfConn) :
    ct.TrackedFrom (c.track p seg ct) := by
  unfold NfConn.TrackedFrom track IpCtTcp.track
  by_cases hsame : seg.seq = ct.tcp.lastSeq ∧ seg.ackSeq = ct.tcp.lastAck <;> simp [hsame]

theorem adjustCtState_touchedFrom (ctinfo : UInt8) (key : SwFlowKey) :
    key.TouchedFrom (adjustCtState ctinfo key) := by
  have hclear : ∀ x : UInt8, (x &&& ~~~ovsCsFInvalid) &&& ~~~(ovsCsFInvalid ||| ovsCsFEstablished)
      = x &&& ~~~(ovsCsFInvalid ||| ovsCsFEstablished) := forall_byte (by decide +kernel)
  have hset : ∀ x : UInt8, (x ||| ovsCsFEstablished) &&& ~~~(ovsCsFInvalid ||| ovsCsFEstablished)
      = x &&& ~~~(ovsCsFInvalid ||| ovsCsFEstablished) := forall_byte (by decide +kernel)
  unfold SwFlowKey.TouchedFrom adjustCtState
  split
  · dsimp only
    split <;> split
    · exact ⟨rfl, (hset _).trans (hclear key.ctState)⟩
    · exact ⟨rfl, hclear key.ctState⟩
    · exact ⟨rfl, hset key.ctState⟩
    · exact ⟨rfl, rfl⟩
  · exact ⟨rfl, rfl⟩

theorem TrackCall.segment_of_not_rejected {c : TrackCall} (haccepted : ¬ c.Rejected) :
    ∃ conn seg, c.segment = some (conn, seg) := by
  cases hheader : tcptrackHeader c.env c.skb c.info with
  | error ret => exact absurd (.inr (.inr (.inl ⟨ret, hheader⟩))) haccepted
  | ok r =>
    cases hconn : c.conn with
    | none => exact absurd (.inr (.inr (.inr hconn))) haccepted
    | some conn =>
      refine ⟨conn, TcpSegment.ofHeader r.1 c.skb.len r.2, ?_⟩
      unfold segment
      rw [hheader, hconn]
      rfl

/-- The reference a lookup takes is dropped once, and no other is taken or dropped. -/
theorem TrackCall.balanced (c : TrackCall) (h : CtHeap) : c.Balanced h where
  value := c.execRefs_value h
  rejected hrej := execRefs_rejected h (segment_of_rejected hrej)
  attached _ hattached := execRefs_attached h hattached
  lookedUp haccepted hattached := by
    obtain ⟨conn, seg, hseg⟩ := segment_of_not_rejected haccepted
    exact ⟨conn, conn_of_segment hseg, execRefs_lookedUp h hseg hattached⟩

/-! Conntrack by conntrack, and the key. -/

theorem TrackCall.exec_of_ne {c : TrackCall} (h : CtHeap) {q : CtPtr}
    (hq : c.conn.map (·.ct) ≠ some q) : (c.exec h).1 q = h q := by
  cases hseg : c.segment with
  | none => rw [(vgwTcptrackMain_rejected hseg h).1]
  | some r =>
    obtain ⟨conn, seg⟩ := r
    rw [TrackCall.conn_of_segment hseg] at hq
    have hne : q ≠ conn.ct := fun heq => hq (by rw [heq]; rfl)
    rw [(vgwTcptrackMain_accepted hseg h).1, CtHeap.modify_of_ne _ _ hne]

theorem TrackCall.exec_trackedFrom (c : TrackCall) (h : CtHeap) (q : CtPtr) :
    (h q).TrackedFrom ((c.exec h).1 q) := by
  cases hseg : c.segment with
  | none =>
    rw [(vgwTcptrackMain_rejected hseg h).1]
    exact NfConn.TrackedFrom.refl (h q)
  | some r =>
    obtain ⟨conn, seg⟩ := r
    rw [(vgwTcptrackMain_accepted hseg h).1]
    exact CtHeap.modify_rel NfConn.TrackedFrom.refl (c.track_trackedFrom conn.ct seg (h conn.ct))

theorem TrackCall.exec_touchedFrom (c : TrackCall) (h : CtHeap) : c.key.TouchedFrom (c.exec h).2.1 := by
  cases hseg : c.segment with
  | none =>
    rw [(vgwTcptrackMain_rejected hseg h).2]
    exact ⟨rfl, rfl⟩
  | some r =>
    rw [(vgwTcptrackMain_accepted hseg h).2]
    exact adjustCtState_touchedFrom _ c.key

/-- **The frame of a call.**  A call that fails a gate, a header check or its lookup changes nothing.  Any
call leaves every conntrack alone but the one attached to the packet or, without one, found for it; there
it writes the TCP state, the last numbers and the timeout at most, and in the key the two bits.  The
reference a lookup takes is dropped exactly once, as the call's last act, and no other reference is taken or
dropped: not that of a conntrack attached to the packet. -/
theorem tracker_frame (c : TrackCall) (h : CtHeap) :
    (c.Rejected → (c.exec h).1 = h ∧ (c.exec h).2.1 = c.key) ∧
      (∀ q, c.conn.map (·.ct) ≠ some q → (c.exec h).1 q = h q) ∧
      (∀ q, (h q).TrackedFrom ((c.exec h).1 q)) ∧
      c.key.TouchedFrom (c.exec h).2.1 ∧ c.Balanced h :=
  ⟨fun hrej => vgwTcptrackMain_rejected (TrackCall.segment_of_rejected hrej) h,
    fun _ hq => TrackCall.exec_of_ne h hq, c.exec_trackedFrom h, c.exec_touchedFrom h, c.balanced h⟩

/-- The return probe has the same frame, and leaves everything as it was behind an `ovs_ct_execute` that
failed and for a packet that was recirculated. -/
theorem kretprobeReturnHandler_frame (h : CtHeap) (retval : UInt64) (args : FuncArgs) :
    (retval ≠ 0 ∨ args.key.recircId ≠ 0 ∨ args.Rejected →
        kretprobeReturnHandler h retval args = (h, args.key)) ∧
      (∀ q, args.conn.map (·.ct) ≠ some q → (kretprobeReturnHandler h retval args).1 q = h q) ∧
      (∀ q, (h q).TrackedFrom ((kretprobeReturnHandler h retval args).1 q)) ∧
      args.key.TouchedFrom (kretprobeReturnHandler h retval args).2 := by
  have hstay : (h, args.key) = kretprobeReturnHandler h retval args →
      (∀ q, args.conn.map (·.ct) ≠ some q → (kretprobeReturnHandler h retval args).1 q = h q) ∧
      (∀ q, (h q).TrackedFrom ((kretprobeReturnHandler h retval args).1 q)) ∧
      args.key.TouchedFrom (kretprobeReturnHandler h retval args).2 := by
    intro heq
    rw [← heq]
    exact ⟨fun _ _ => rfl, fun q => NfConn.TrackedFrom.refl (h q), rfl, rfl⟩
  by_cases hret : retval ≠ 0
  · have heq : kretprobeReturnHandler h retval args = (h, args.key) := if_pos hret
    exact ⟨fun _ => heq, hstay heq.symm⟩
  by_cases hrecirc : args.key.recircId ≠ 0
  · have heq : kretprobeReturnHandler h retval args = (h, args.key) := (if_neg hret).trans (if_pos hrecirc)
    exact ⟨fun _ => heq, hstay heq.symm⟩
  · have heq : kretprobeReturnHandler h retval args = ((args.exec h).1, (args.exec h).2.1) :=
      (if_neg hret).trans (if_neg hrecirc)
    rw [heq]
    refine ⟨fun hwhy => ?_, fun _ hq => TrackCall.exec_of_ne h hq, args.exec_trackedFrom h,
      args.exec_touchedFrom h⟩
    have hrej : args.Rejected := (hwhy.resolve_left hret).resolve_left hrecirc
    obtain ⟨hheap, hkey⟩ := vgwTcptrackMain_rejected (TrackCall.segment_of_rejected hrej) h
    rw [hheap, hkey]

/-! ### The packet behind a write -/

/-- The byte at offset `i` of the packet. -/
def SkBuff.byteAt (skb : SkBuff) (i : ℕ) : UInt8 := skb.data.getD i 0

/-- The version field and the header length in words of an IPv4 header at the network offset. -/
def SkBuff.ipVersion (skb : SkBuff) : ℕ := (skb.byteAt skb.networkOffset).toNat / 16
def SkBuff.ipIhl (skb : SkBuff) : ℕ := (skb.byteAt skb.networkOffset).toNat % 16

/-- Where the TCP header starts behind an IPv4 header, and its length in words. -/
def SkBuff.tcpOffset (skb : SkBuff) : ℕ := skb.networkOffset + 4 * skb.ipIhl
def SkBuff.tcpDoff (skb : SkBuff) : ℕ := (skb.byteAt (skb.tcpOffset + 12)).toNat / 16

/-- The packet has an IPv4 header at its network offset, of version 4, at least five words long, unfragmented
and for TCP, and behind it a whole TCP header of at least five words inside the packet. -/
structure SkBuff.TcpV4 (skb : SkBuff) : Prop where
  version : skb.ipVersion = 4
  ihl : 5 ≤ skb.ipIhl
  fragOff :
    get16 .big [skb.byteAt (skb.networkOffset + 6), skb.byteAt (skb.networkOffset + 7)] &&& ipOffset = 0
  protocol : skb.byteAt (skb.networkOffset + 9) = ipprotoTcp
  header : skb.networkOffset + iphdrLen ≤ skb.len
  tcpHeader : skb.tcpOffset + tcphdrLen ≤ skb.len
  doff : 5 ≤ skb.tcpDoff
  tcpOptions : skb.tcpOffset + 4 * skb.tcpDoff ≤ skb.len

/-- The call changes a field of a conntrack or of the key. -/
def TrackCall.Writes (c : TrackCall) (h : CtHeap) : Prop := (c.exec h).1 ≠ h ∨ (c.exec h).2.1 ≠ c.key

/-! The bytes behind the header checks. -/

theorem s32_pos {n : ℕ} (hn : n < 2 ^ 32) (hpos : 0 < s32 n) : (s32 n).toNat = n ∧ n < 2 ^ 31 := by
  unfold s32 at *
  omega

theorem skbHeaderPointer_some {skb : SkBuff} {off n : ℕ} {b : Bytes} (hoff : off < 2 ^ 31)
    (h : skbHeaderPointer skb off n = some b) : off + n ≤ skb.len ∧ b = (skb.data.drop off).take n := by
  unfold skbHeaderPointer at h
  split at h
  · rename_i hroom
    have hlen : s32 skb.len ≤ skb.len := by
      unfold s32
      omega
    have hs : s32 off = off := by
      unfold s32
      omega
    rw [hs] at hroom
    exact ⟨by omega, (Option.some.inj h).symm⟩
  · cases h

/-- A header's byte is the packet's. -/
theorem SkBuff.getD_header (skb : SkBuff) {off n k : ℕ} (hk : k < n) :
    ((skb.data.drop off).take n).getD k 0 = skb.byteAt (off + k) := by
  unfold byteAt
  rw [List.getD_eq_getElem?_getD, List.getElem?_take_of_lt hk, List.getElem?_drop,
    List.getD_eq_getElem?_getD]

theorem take_two_drop {b : Bytes} {k : ℕ} (hk : k + 2 ≤ b.length) :
    (b.drop k).take 2 = [b.getD k 0, b.getD (k + 1) 0] := by
  have h₀ : k < b.length := by omega
  have h₁ : k + 1 < b.length := by omega
  rw [List.drop_eq_getElem_cons h₀, List.drop_eq_getElem_cons h₁, List.getD_eq_getElem?_getD,
    List.getD_eq_getElem?_getD, List.getElem?_eq_getElem h₀, List.getElem?_eq_getElem h₁]
  rfl

/-- **What the header checks establish**: all of `SkBuff.TcpV4` but the two things no check looks at. -/
theorem tcptrackHeader_tcpV4 {e : TrackEnv} {skb : SkBuff} {info : OvsConntrackInfo} {th : Tcphdr}
    {dataoff : ℕ} (h : tcptrackHeader e skb info = .ok (th, dataoff)) (hversion : skb.ipVersion = 4)
    (hihl : 5 ≤ skb.ipIhl) : skb.TcpV4 := by
  have hnhoff := skb.networkOffset_lt
  obtain ⟨-, hdoff, hoptions⟩ := tcptrackHeader_ok h
  unfold tcptrackHeader at h
  split at h
  · cases h
  split at h
  · cases h
  cases hip : skbHeaderPointer skb skb.networkOffset iphdrLen with
  | none => simp [hip] at h
  | some b =>
    rcases hl4 : ipv4GetL4proto skb skb.networkOffset with ⟨off, proto⟩
    simp only [hip, hl4] at h
    split at h
    · cases h
    rename_i hoff
    split at h
    · cases h
    rename_i hproto
    obtain ⟨b', hb', hfrag, hprotocol, hoffset, -⟩ := ipv4GetL4proto_pos hl4 (by omega)
    obtain rfl : b' = b := Option.some.inj (hb'.symm.trans hip)
    obtain ⟨hroom, hbytes⟩ := skbHeaderPointer_some hnhoff hip
    have hlen : b'.length = iphdrLen := by
      rw [hbytes, List.length_take, List.length_drop]
      unfold SkBuff.len at hroom
      omega
    have hbyte : ∀ k, k < iphdrLen → b'.getD k 0 = skb.byteAt (skb.networkOffset + k) := by
      intro k hk
      rw [hbytes, skb.getD_header hk]
    have hihl' : (Iphdr.ofBytes b').ihl = skb.ipIhl := by
      show (b'.getD 0 0).toNat % 16 = _
      rw [hbyte 0 (by decide)]
      rfl
    have htcpOff : off.toNat = skb.tcpOffset ∧ off.toNat < 2 ^ 31 := by
      have hlt := Iphdr.ihl_lt b'
      rw [hihl'] at hlt hoffset
      obtain ⟨heq, hsmall⟩ := s32_pos (by omega) (hoffset ▸ Int.not_le.mp hoff)
      rw [hoffset, heq, Nat.mul_comm]
      exact ⟨rfl, by omega⟩
    cases htcp : skbHeaderPointer skb off.toNat tcphdrLen with
    | none => simp [htcp] at h
    | some t =>
      simp only [htcp] at h
      split at h
      · cases h
      cases h
      rw [htcpOff.1] at *
      obtain ⟨htcpRoom, htcpBytes⟩ := skbHeaderPointer_some htcpOff.2 htcp
      have hdoff' : (Tcphdr.ofBytes t).doff = skb.tcpDoff := by
        show (t.getD 12 0).toNat / 16 = _
        rw [htcpBytes, skb.getD_header (by decide)]
        rfl
      rw [hdoff'] at hdoff hoptions
      refine ⟨hversion, hihl, ?_, ?_, hroom, htcpRoom, hdoff, hoptions⟩
      · rw [← hbyte 6 (by decide), ← hbyte 7 (by decide), ← take_two_drop (by rw [hlen]; decide)]
        exact hfrag
      · rw [← hbyte 9 (by decide)]
        exact hprotocol.symm.trans (not_not.mp hproto)

/-- The record already shows all that the segment would write into it. -/
def IpCtTcp.Shows (t : IpCtTcp) (seg : TcpSegment) : Prop :=
  t.state.next seg = t.state ∧ seg.seq = t.lastSeq ∧
    (seg.ackSeq = t.lastAck ∨ (seg.ackSeq = 0 ∧ seg.endSeq = t.lastEnd))

theorem IpCtTcp.track_eq_self_iff (t : IpCtTcp) (seg : TcpSegment) : t.track seg = t ↔ t.Shows seg := by
  obtain ⟨seen0, seen1, state, lastDir, retrans, lastIndex, lastSeq, lastAck, lastEnd, lastWin, wscale,
    flags⟩ := t
  unfold track Shows
  by_cases hsame : seg.seq = lastSeq ∧ seg.ackSeq = lastAck
  · simp [hsame]
  · simp only [hsame, if_false]
    by_cases hzero : seg.ackSeq = 0
    · simp only [hzero, mk.injEq]
      grind
    · simp only [hzero, mk.injEq]
      grind

theorem adjustCtState_eq_self_iff (ctinfo : UInt8) (key : SwFlowKey) :
    adjustCtState ctinfo key = key ↔ ctinfo ≠ ipCtEstablished ∨ key.Established := by
  have hpresents := presentsEstablished_adjust_iff ctinfo key
  constructor
  · intro hsame
    rw [hsame] at hpresents
    have hno : ¬ PresentsEstablished key key := by
      unfold PresentsEstablished
      simp
    by_contra hcon
    exact hno (hpresents.mpr ⟨by tauto, by tauto⟩)
  · intro hdone
    unfold adjustCtState
    rcases hdone with hinfo | ⟨hest, hinv⟩
    · rw [if_neg hinfo]
    · simp [hest, hinv]

theorem adjustCtState_established (key : SwFlowKey) :
    (adjustCtState ipCtEstablished key).Established := by
  have hinvalid : ∀ x : UInt8, (x ||| ovsCsFEstablished) &&& ovsCsFInvalid = x &&& ovsCsFInvalid :=
    forall_byte (by decide +kernel)
  obtain ⟨hclear, hkeep, -⟩ := ctState_bits key.ctState
  have hset := fun x => (ctState_bits x).2.2
  unfold SwFlowKey.Established adjustCtState
  by_cases hinv : key.ctState &&& ovsCsFInvalid = 0 <;>
    by_cases hest : key.ctState &&& ovsCsFEstablished = 0 <;>
    simp [hinv, hest, hclear, hkeep, hset, hinvalid]

/-- When an accepted call writes something. -/
theorem TrackCall.writes_iff {c : TrackCall} {conn : TupleHash} {seg : TcpSegment}
    (hseg : c.segment = some (conn, seg)) (h : CtHeap) :
    c.Writes h ↔ ¬ ((h conn.ct).tcp.Shows seg ∧
      (c.skb.nfct.2 ≠ ipCtEstablished ∨ c.key.Established)) := by
  obtain ⟨hheap, hkey⟩ := vgwTcptrackMain_accepted hseg h
  have hsame : h.modify conn.ct (c.track conn.ct seg) = h ↔ (h conn.ct).tcp.Shows seg := by
    rw [← IpCtTcp.track_eq_self_iff]
    constructor
    · intro heq
      have hct := congrFun heq conn.ct
      rw [CtHeap.modify_self] at hct
      exact congrArg NfConn.tcp hct
    · intro htcp
      funext q
      by_cases hq : q = conn.ct
      · have hstate : (h conn.ct).tcp.state.next seg = (h conn.ct).tcp.state := by
          rw [← IpCtTcp.track_state, htcp]
        have htimeout : c.newTimeout conn.ct (h conn.ct) seg = (h conn.ct).timeout :=
          if_pos hstate.symm
        rw [hq, CtHeap.modify_self]
        unfold track
        rw [htcp, htimeout]
      · exact CtHeap.modify_of_ne h _ hq
  unfold Writes
  rw [hheap, hkey, getSkbCt_ctinfo, ne_eq, ne_eq, hsame, adjustCtState_eq_self_iff]
  tauto

/-- **Only packets with sound IPv4 and TCP headers cause a write**, if and only if an accepted call that
has something to write comes with a version field of 4 and an IP header of at least five words. -/
theorem writes_only_tcpV4_iff (c : TrackCall) (h : CtHeap) :
    (c.Writes h → c.skb.TcpV4) ↔
      ∀ conn seg, c.segment = some (conn, seg) →
        ((h conn.ct).tcp.Shows seg ∧ (c.skb.nfct.2 ≠ ipCtEstablished ∨ c.key.Established)) ∨
          (c.skb.ipVersion = 4 ∧ 5 ≤ c.skb.ipIhl) := by
  cases hs : c.segment with
  | none =>
    have hno : ¬ c.Writes h := by
      obtain ⟨hheap, hkey⟩ := vgwTcptrackMain_rejected hs h
      unfold TrackCall.Writes
      rw [hheap, hkey]
      simp
    simp [hno]
  | some r =>
    obtain ⟨conn, seg⟩ := r
    have hheader : ∃ r, tcptrackHeader c.env c.skb c.info = .ok r := by
      unfold TrackCall.segment at hs
      split at hs
      · cases hs
      · exact ⟨_, by assumption⟩
    obtain ⟨⟨th, dataoff⟩, hok⟩ := hheader
    rw [TrackCall.writes_iff hs]
    constructor
    · intro honly conn' seg' heq
      obtain ⟨rfl, rfl⟩ := Prod.mk.inj (Option.some.inj heq)
      by_cases hshows : (h conn.ct).tcp.Shows seg ∧
          (c.skb.nfct.2 ≠ ipCtEstablished ∨ c.key.Established)
      · exact .inl hshows
      · have htcp := honly hshows
        exact .inr ⟨htcp.version, htcp.ihl⟩
    · intro hsound hwrites
      rcases hsound conn seg rfl with hshows | ⟨hversion, hihl⟩
      · exact absurd hshows hwrites
      · exact tcptrackHeader_tcpV4 hok hversion hihl

/-- An IPv6 packet with hop limit 0 from fd06::1 on: what stands where an IPv4 header has its length,
fragment offset and protocol passes, and the end of its addresses reads as a TCP header. -/
def ipv6Packet : Bytes :=
  [0x65, 0, 0, 0, 0, 20, 0, 0]
    ++ [0xfd, 0x06, 0, 0, 0, 0, 0, 0, 0, 0, 0, 0, 0, 0, 0, 1]
    ++ [0xfd, 0x06, 0, 0, 0, 0, 0, 0, 0x50, 0x04, 0, 0, 0, 0, 0, 2]
    ++ List.replicate 20 0

/-- The packet, attached to conntrack 0. -/
def ipv6Call : TrackCall where
  env := sampleEnv
  net := 0
  skb := ⟨ipv6Packet, 0, (some 0, ipCtEstablished), by decide, atStart_lt⟩
  key := ⟨0, 0⟩
  info := ⟨nfprotoIpv6.toUInt16, ⟨100, 0, nfCtDefaultZoneDir⟩⟩

example :
    ipv6Call.segment = some (⟨0, .original⟩, ⟨0xfd060000, 0, 20, false, false, true, false⟩) := by decide

/-- The IPv6 packet writes into its conntrack's TCP state. -/
theorem writes_only_tcpV4_fails : ¬ ∀ (c : TrackCall) (h : CtHeap), c.Writes h → c.skb.TcpV4 := by
  intro hall
  have hheap : (ipv6Call.exec (sampleHeap (sampleTcp .established 0 0 0))).1
      ≠ sampleHeap (sampleTcp .established 0 0 0) := by
    intro heq
    have hstate := congrArg (fun h => (h 0).tcp.state) heq
    revert hstate
    decide
  have hversion := (hall ipv6Call _ (.inl hheap)).version
  revert hversion
  decide

end VgwDriver
