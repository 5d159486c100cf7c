import VgwDriver.Base.Run
import VgwDriver.Tracker

/-!
# Runs of the tracker

What a whole run of `vgw_tcptrack_main` calls leaves in a connection and in the flow keys.  A run is any
list of calls, for any connections, with module parameters that may change from call to call; results are
about the calls that bring a segment for one connection `p`.

* `records_segment_iff` — the stored sequence number and end are the last segment's, exactly when no
  segment repeats both stored numbers with another end;
* `closed_after_reset_iff` — a reset closes the connection for good, exactly when no FIN follows it and it
  does not itself establish the connection;
* `presents_established_iff` — when the flow key shows a connection as established that is not.
-/

namespace VgwDriver

open Base

/-! ### A connection and packets to try things on -/

/-- An IPv4 packet with a TCP header and `payload` zero bytes. -/
def samplePacket (seq ack : UInt32) (flags : UInt8) (payload : ℕ) : Bytes :=
  [0x45, 0, 0, 0, 0, 0, 0, 0, 64, 6, 0, 0, 10, 0, 0, 1, 10, 0, 0, 2]
    ++ ([0x30, 0x39, 0, 80] ++ put32 .big seq ++ put32 .big ack ++ [0x50, flags, 0x20, 0, 0, 0, 0, 0])
    ++ List.replicate payload 0

theorem length_samplePacket (seq ack : UInt32) (flags : UInt8) (payload : ℕ) :
    (samplePacket seq ack flags payload).length = 40 + payload := by
  simp only [samplePacket, List.length_append, List.length_cons, List.length_nil, length_put32,
    List.length_replicate]

/-- Tracking and the zone filter on, for zones 100 to 2099; every lookup finds conntrack 0; jiffies are 0
and a fixed timeout (status bit 10) is left alone. -/
def sampleEnv : TrackEnv where
  tcptrackFlags := 0x07
  zoneRangeMin := 100
  zoneRangeMax := 2099
  nfCtGetTuplepr := fun _ _ _ _ => some (sampleTuple 0x0a000001 0x0a000002 12345 80 0)
  nfConntrackFindGet := fun _ _ _ => some ⟨0, .original⟩
  nfCtTimeoutLookup := fun _ => none
  nfTcpPernetTimeouts := fun _ _ => 0
  nfCtRefreshAcct := fun status old extra => if status.toNat.testBit 10 then old else extra

/-- A call with such a packet, attached to conntrack 0 or not, with `ctinfo` in the low bits. -/
def sampleCall (nfct : Option CtPtr × UInt8) (seq ack : UInt32) (flags : UInt8) (payload : Fin 16)
    (ctState : UInt8) : TrackCall where
  env := sampleEnv
  net := 0
  skb :=
    { data := samplePacket seq ack flags payload
      networkOffset := 0
      nfct := nfct
      len_lt := by rw [length_samplePacket]; omega
      networkOffset_lt := atStart_lt }
  key := ⟨ctState, 0⟩
  info := ⟨2, ⟨100, 0, nfCtDefaultZoneDir⟩⟩

/-- A segment of conntrack 0 in the original direction. -/
def origCall (seq ack : UInt32) (flags : UInt8) (payload : Fin 16) : TrackCall :=
  sampleCall (some 0, ipCtEstablished) seq ack flags payload 0

/-- A segment of conntrack 0 in the reply direction. -/
def replyCall (seq ack : UInt32) (flags : UInt8) (payload : Fin 16) : TrackCall :=
  sampleCall (some 0, ipCtIsReply) seq ack flags payload 0

def sampleHeap (tcp : IpCtTcp) : CtHeap := fun _ => sampleConn tcp

example : (origCall 1000 2000 0x18 3).segmentFor 0
    = some ⟨1000, 2000, 3, false, false, false, true⟩ := by decide

/-! ### What a segment leaves in the record -/

@[simp] theorem IpCtTcp.track_lastSeq (t : IpCtTcp) (seg : TcpSegment) : (t.track seg).lastSeq = seg.seq := by
  unfold track
  by_cases hsame : seg.seq = t.lastSeq ∧ seg.ackSeq = t.lastAck <;> simp [hsame]

@[simp] theorem IpCtTcp.track_lastAck (t : IpCtTcp) (seg : TcpSegment) :
    (t.track seg).lastAck = if seg.ackSeq ≠ 0 then seg.ackSeq else t.lastAck := by
  unfold track
  by_cases hsame : seg.seq = t.lastSeq ∧ seg.ackSeq = t.lastAck <;> simp [hsame]

@[simp] theorem IpCtTcp.track_lastEnd (t : IpCtTcp) (seg : TcpSegment) :
    (t.track seg).lastEnd
      = if seg.seq = t.lastSeq ∧ seg.ackSeq = t.lastAck then t.lastEnd else seg.endSeq := by
  unfold track
  by_cases hsame : seg.seq = t.lastSeq ∧ seg.ackSeq = t.lastAck <;> simp [hsame]

/-- The segments a run brings for `p`. -/
def segmentsFor (p : CtPtr) (calls : List TrackCall) : List TcpSegment := calls.filterMap (·.segmentFor p)

/-! ### The recorded sequence number and end -/

/-- The stored sequence number and end are the segment's. -/
def IpCtTcp.Records (t : IpCtTcp) (seg : TcpSegment) : Prop :=
  t.lastSeq = seg.seq ∧ t.lastEnd = seg.endSeq

instance (t : IpCtTcp) (seg : TcpSegment) : Decidable (t.Records seg) :=
  inferInstanceAs (Decidable (_ ∧ _))

/-- The segment repeats both stored numbers, but ends elsewhere. -/
def IpCtTcp.Shortcut (t : IpCtTcp) (seg : TcpSegment) : Prop :=
  (seg.seq = t.lastSeq ∧ seg.ackSeq = t.lastAck) ∧ seg.endSeq ≠ t.lastEnd

instance (t : IpCtTcp) (seg : TcpSegment) : Decidable (t.Shortcut seg) :=
  inferInstanceAs (Decidable (_ ∧ _))

/-- One segment is recorded exactly when the shortcut does not skip it wrongly. -/
theorem IpCtTcp.records_track_iff (t : IpCtTcp) (seg : TcpSegment) :
    (t.track seg).Records seg ↔ ¬ t.Shortcut seg := by
  unfold IpCtTcp.track IpCtTcp.Records IpCtTcp.Shortcut
  by_cases hsame : seg.seq = t.lastSeq ∧ seg.ackSeq = t.lastAck
  · obtain ⟨hseq, hack⟩ := hsame
    simp [hseq, hack, eq_comm]
  · simp [hsame]

/-- **Last sequence number and last end.**  In every run, after every segment of `p` the stored sequence
number and end are that segment's, if and only if at no segment of `p` the stored numbers equal both of
its numbers while its end differs from the stored end. -/
theorem records_segment_iff (p : CtPtr) (h : CtHeap) (calls : List TrackCall) :
    (∀ pre c post seg, calls = pre ++ c :: post → c.segmentFor p = some seg →
        (run trackStep h (pre ++ [c]) p).tcp.Records seg) ↔
      (∀ pre c post seg, calls = pre ++ c :: post → c.segmentFor p = some seg →
        ¬ (run trackStep h pre p).tcp.Shortcut seg) := by
  have hstep : ∀ pre c seg, c.segmentFor p = some seg →
      ((run trackStep h (pre ++ [c]) p).tcp.Records seg
        ↔ ¬ (run trackStep h pre p).tcp.Shortcut seg) := by
    intro pre c seg hseg
    rw [run_snoc, trackStep_self hseg]
    exact IpCtTcp.records_track_iff _ _
  constructor
  · intro hrec pre c post seg hsplit hseg
    exact (hstep pre c seg hseg).mp (hrec pre c post seg hsplit hseg)
  · intro hno pre c post seg hsplit hseg
    exact (hstep pre c seg hseg).mpr (hno pre c post seg hsplit hseg)

/-- A bare ACK, then the first data segment: the data's end is not recorded. -/
theorem records_segment_fails :
    ¬ ∀ (p : CtPtr) (h : CtHeap) (calls : List TrackCall), ∀ pre c post seg,
      calls = pre ++ c :: post → c.segmentFor p = some seg →
        (run trackStep h (pre ++ [c]) p).tcp.Records seg := by
  intro hall
  have h := hall 0 (sampleHeap (sampleTcp .established 0 0 0))
    [origCall 1000 2000 0x10 0, origCall 1000 2000 0x18 3] [origCall 1000 2000 0x10 0]
    (origCall 1000 2000 0x18 3) [] ⟨1000, 2000, 3, false, false, false, true⟩ rfl (by decide)
  revert h
  decide

/-! ### The state after a reset -/

/-- The call brings a segment of `p` that carries SYN. -/
def TrackCall.SynFor (c : TrackCall) (p : CtPtr) : Prop := ∃ seg, c.segmentFor p = some seg ∧ seg.syn

/-- The call brings a segment of `p` that carries RST without SYN. -/
def TrackCall.ResetFor (c : TrackCall) (p : CtPtr) : Prop :=
  ∃ seg, c.segmentFor p = some seg ∧ seg.rst ∧ ¬ seg.syn

/-- Some call of the run resets `p`, and no later one brings a SYN. -/
def AfterReset (p : CtPtr) (calls : List TrackCall) : Prop :=
  ∃ pre r mid, calls = pre ++ r :: mid ∧ r.ResetFor p ∧ ∀ c ∈ mid, ¬ c.SynFor p

theorem not_afterReset_nil (p : CtPtr) : ¬ AfterReset p [] := not_since_nil

theorem afterReset_snoc {p : CtPtr} {calls : List TrackCall} {c : TrackCall} :
    AfterReset p (calls ++ [c]) ↔ c.ResetFor p ∨ (AfterReset p calls ∧ ¬ c.SynFor p) := since_snoc

/-- A reset closes the connection, unless it carries FIN or first establishes the connection. -/
theorem TcpConntrack.next_reset {s : TcpConntrack} {seg : TcpSegment} (hrst : seg.rst)
    (hsyn : ¬ seg.syn) :
    s.next seg = .close ↔ ¬ seg.fin ∧ ¬ (seg.rst ∧ seg.ack ∧ s.ltEstablished) := by
  by_cases hack : seg.ack ∧ s.ltEstablished
  · simp [TcpConntrack.next, hsyn, hack, hrst]
  · by_cases hfin : seg.fin <;> simp [TcpConntrack.next, hsyn, hack, hrst, hfin]

/-- A closed connection stays closed, unless the segment carries FIN (or SYN). -/
theorem TcpConntrack.next_close {seg : TcpSegment} (hsyn : ¬ seg.syn) :
    TcpConntrack.close.next seg = .close ↔ ¬ seg.fin := by
  have hlt : TcpConntrack.close.ltEstablished = false := rfl
  by_cases hfin : seg.fin <;> simp [TcpConntrack.next, hsyn, hfin, hlt]

/-- One call inside the window after a reset: still closed exactly when its segment, if it brings one,
carries no FIN and does not establish the connection while resetting it. -/
theorem close_step_iff {p : CtPtr} {h : CtHeap} {calls : List TrackCall} {c : TrackCall}
    (hwin : AfterReset p (calls ++ [c]))
    (hclosed : AfterReset p calls → (run trackStep h calls p).tcp.state = .close) :
    (run trackStep h (calls ++ [c]) p).tcp.state = .close ↔
      ∀ seg, c.segmentFor p = some seg →
        ¬ seg.fin ∧ ¬ (seg.rst ∧ seg.ack ∧ (run trackStep h calls p).tcp.state.ltEstablished) := by
  rw [run_snoc]
  rcases afterReset_snoc.mp hwin with ⟨seg, hseg, hrst, hsyn⟩ | ⟨hprev, hnosyn⟩
  · rw [trackStep_self hseg]
    simp only [TrackCall.track, IpCtTcp.track_state, hseg, Option.some.injEq, forall_eq']
    exact TcpConntrack.next_reset hrst hsyn
  · have hs := hclosed hprev
    cases hseg : c.segmentFor p with
    | none =>
      rw [trackStep_other hseg]
      simp [hs]
    | some seg =>
      rw [trackStep_self hseg]
      have hsyn : ¬ seg.syn := fun hsyn => hnosyn ⟨seg, hseg, hsyn⟩
      have hlt : TcpConntrack.close.ltEstablished = false := rfl
      simp only [TrackCall.track, IpCtTcp.track_state, hs, Option.some.injEq, forall_eq', hlt]
      rw [TcpConntrack.next_close hsyn]
      simp

/-- **A reset closes for good.**  In every run, `p` is in CLOSE at every point after a reset and before
the next SYN, if and only if no segment of `p` there carries FIN, and none is an RST with ACK that meets
a state below ESTABLISHED. -/
theorem closed_after_reset_iff (p : CtPtr) (h : CtHeap) (calls : List TrackCall) :
    (∀ pre post, calls = pre ++ post → AfterReset p pre →
        (run trackStep h pre p).tcp.state = .close) ↔
      (∀ pre c post seg, calls = pre ++ c :: post → AfterReset p (pre ++ [c]) →
        c.segmentFor p = some seg →
          ¬ seg.fin ∧ ¬ (seg.rst ∧ seg.ack ∧ (run trackStep h pre p).tcp.state.ltEstablished)) := by
  have hpoints : (∀ pre post, calls = pre ++ post → AfterReset p pre →
        (run trackStep h pre p).tcp.state = .close) ↔
      ∀ pre, pre <+: calls → AfterReset p pre → (run trackStep h pre p).tcp.state = .close := by
    constructor
    · intro hclosed pre hpre
      obtain ⟨post, hsplit⟩ := hpre
      exact hclosed pre post hsplit.symm
    · intro hclosed pre post hsplit
      exact hclosed pre ⟨post, hsplit.symm⟩
  -- a call inside the window keeps CLOSE exactly if its segment does, and outside nothing is asked
  have hstep : ∀ pre c, (AfterReset p pre → (run trackStep h pre p).tcp.state = .close) →
      ((AfterReset p (pre ++ [c]) → (run trackStep h (pre ++ [c]) p).tcp.state = .close) ↔
        (AfterReset p (pre ++ [c]) → ∀ seg, c.segmentFor p = some seg →
          ¬ seg.fin ∧ ¬ (seg.rst ∧ seg.ack ∧ (run trackStep h pre p).tcp.state.ltEstablished))) :=
    fun pre c hpre => imp_congr_right fun hwin => close_step_iff hwin hpre
  rw [hpoints, forall_prefix_iff_of_step (fun hwin => absurd hwin (not_afterReset_nil p)) hstep]
  constructor
  · intro hsegs pre c post seg hsplit hwin hseg
    exact hsegs pre c post hsplit hwin seg hseg
  · intro hsegs pre c post hsplit hwin seg hseg
    exact hsegs pre c post seg hsplit hwin hseg

/-- A refused connection: the RST that answers the SYN carries ACK, and establishes it instead. -/
theorem closed_after_reset_fails :
    ¬ ∀ (p : CtPtr) (h : CtHeap) (calls : List TrackCall), ∀ pre post,
      calls = pre ++ post → AfterReset p pre → (run trackStep h pre p).tcp.state = .close := by
  intro hall
  have hwin : AfterReset 0 [origCall 1000 0 0x02 0, replyCall 0 1001 0x14 0] :=
    ⟨[origCall 1000 0 0x02 0], replyCall 0 1001 0x14 0, [], rfl,
      ⟨⟨0, 1001, 0, false, false, true, true⟩, by decide, by decide, by decide⟩, by simp⟩
  have h := hall 0 (sampleHeap (sampleTcp .none 0 0 0))
    [origCall 1000 0 0x02 0, replyCall 0 1001 0x14 0] _ [] rfl hwin
  revert h
  decide

/-! ### The flow key on the lookup path -/

/-- The key is newly presented as established: ESTABLISHED was set, or INVALID was cleared. -/
def PresentsEstablished (key key' : SwFlowKey) : Prop :=
  (key.ctState &&& ovsCsFEstablished = 0 ∧ key'.ctState &&& ovsCsFEstablished ≠ 0) ∨
    (key.ctState &&& ovsCsFInvalid ≠ 0 ∧ key'.ctState &&& ovsCsFInvalid = 0)

/-- The handshake is complete: the state is neither below ESTABLISHED nor CLOSE. -/
def TcpConntrack.HandshakeComplete (s : TcpConntrack) : Prop := ¬ s.ltEstablished ∧ s ≠ .close

/-- The key already says ESTABLISHED and not INVALID. -/
def SwFlowKey.Established (key : SwFlowKey) : Prop :=
  key.ctState &&& ovsCsFEstablished ≠ 0 ∧ key.ctState &&& ovsCsFInvalid = 0

@[simp] theorem TcpConntrack.not_handshakeComplete_synRecv : ¬ synRecv.HandshakeComplete := by
  unfold HandshakeComplete
  decide

@[simp] theorem TcpConntrack.not_handshakeComplete_close : ¬ close.HandshakeComplete := by
  unfold HandshakeComplete
  decide

@[simp] theorem TcpConntrack.handshakeComplete_established : established.HandshakeComplete := by
  unfold HandshakeComplete
  decide

@[simp] theorem TcpConntrack.handshakeComplete_closeWait : closeWait.HandshakeComplete := by
  unfold HandshakeComplete
  decide

theorem TcpConntrack.next_handshakeComplete (s : TcpConntrack) (seg : TcpSegment) :
    (s.next seg).HandshakeComplete ↔
      ¬ (seg.syn ∧ s ≠ .established) ∧
        ((seg.ack ∧ s.ltEstablished) ∨ seg.fin ∨ (¬ seg.rst ∧ s.HandshakeComplete)) := by
  by_cases hsyn : seg.syn ∧ s ≠ .established
  · simp [TcpConntrack.next, hsyn]
  by_cases hack : seg.ack ∧ s.ltEstablished
  · simp [TcpConntrack.next, hsyn, hack]
  by_cases hfin : seg.fin
  · simp [TcpConntrack.next, hsyn, hack, hfin]
  by_cases hrst : seg.rst <;> simp [TcpConntrack.next, hsyn, hack, hfin, hrst]

/-- What clearing INVALID and setting ESTABLISHED do to the two bits. -/
theorem ctState_bits (x : UInt8) :
    (x &&& ~~~ovsCsFInvalid) &&& ovsCsFInvalid = 0 ∧
      (x &&& ~~~ovsCsFInvalid) &&& ovsCsFEstablished = x &&& ovsCsFEstablished ∧
      (x ||| ovsCsFEstablished) &&& ovsCsFEstablished ≠ 0 := by
  revert x
  exact forall_byte (by decide +kernel)

/-- The key is touched exactly when `ctinfo` is the ESTABLISHED constant and there is something to do. -/
theorem presentsEstablished_adjust_iff (ctinfo : UInt8) (key : SwFlowKey) :
    PresentsEstablished key (adjustCtState ctinfo key) ↔
      ctinfo = ipCtEstablished ∧ ¬ key.Established := by
  obtain ⟨hclear, hkeep, -⟩ := ctState_bits key.ctState
  have hset := fun x => (ctState_bits x).2.2
  unfold PresentsEstablished SwFlowKey.Established adjustCtState
  by_cases hinfo : ctinfo = ipCtEstablished
  · by_cases hinv : key.ctState &&& ovsCsFInvalid = 0 <;>
      by_cases hest : key.ctState &&& ovsCsFEstablished = 0 <;>
      simp [hinfo, hinv, hest, hclear, hkeep, hset]
  · by_cases hest : key.ctState &&& ovsCsFEstablished = 0 <;> simp [hinfo, hest]

/-- **A connection is presented as established only when it is**, if and only if the packet's `ctinfo`
bits are not zero, or the key already says so, or the segment leaves the handshake complete: no SYN
outside ESTABLISHED, and an ACK that completes it, a FIN, or no RST in a state that was complete before.
This holds on the lookup path as on the attached one; only there is `ctinfo` zero without meaning it. -/
theorem presents_established_iff {c : TrackCall} {conn : TupleHash} {seg : TcpSegment}
    (hseg : c.segment = some (conn, seg)) (h : CtHeap) :
    (PresentsEstablished c.key (c.exec h).2.1 →
        ((c.exec h).1 conn.ct).tcp.state.HandshakeComplete) ↔
      (c.skb.nfct.2 ≠ ipCtEstablished ∨ c.key.Established ∨
        (¬ (seg.syn ∧ (h conn.ct).tcp.state ≠ .established) ∧
          ((seg.ack ∧ (h conn.ct).tcp.state.ltEstablished) ∨ seg.fin ∨
            (¬ seg.rst ∧ (h conn.ct).tcp.state.HandshakeComplete)))) := by
  obtain ⟨hheap, hkey⟩ := vgwTcptrackMain_accepted hseg h
  rw [hheap, hkey, getSkbCt_ctinfo, CtHeap.modify_self, presentsEstablished_adjust_iff]
  simp only [TrackCall.track, IpCtTcp.track_state, ← TcpConntrack.next_handshakeComplete]
  by_cases hz : c.skb.nfct.2 = ipCtEstablished <;> by_cases hk : c.key.Established <;> simp [hz, hk]

/-- A data segment of an established connection that is found by lookup. -/
theorem presents_established_sample :
    PresentsEstablished ⟨0, 0⟩
        ((sampleCall (none, 0) 1000 2000 0x18 3 0).exec (sampleHeap (sampleTcp .established 0 0 0))).2.1 ∧
      (((sampleCall (none, 0) 1000 2000 0x18 3 0).exec
        (sampleHeap (sampleTcp .established 0 0 0))).1 0).tcp.state.HandshakeComplete := by
  have hseg : (sampleCall (none, 0) 1000 2000 0x18 3 0).segment
      = some (⟨0, .original⟩, ⟨1000, 2000, 3, false, false, false, true⟩) := by decide
  have hpresents : PresentsEstablished ⟨0, 0⟩
      ((sampleCall (none, 0) 1000 2000 0x18 3 0).exec (sampleHeap (sampleTcp .established 0 0 0))).2.1 :=
    .inl (by decide)
  refine ⟨hpresents, ?_⟩
  refine (presents_established_iff hseg (sampleHeap (sampleTcp .established 0 0 0))).mpr ?_ hpresents
  exact .inr (.inr ⟨by decide, .inr (.inr ⟨by decide, by simp [sampleHeap, sampleConn, sampleTcp]⟩)⟩)

/-- A SYN that starts a connection and comes without an attached conntrack is presented as established. -/
theorem presents_established_fails :
    ¬ ∀ (c : TrackCall) (conn : TupleHash) (seg : TcpSegment) (h : CtHeap),
      (getSkbCt c.skb).1 = none → c.segment = some (conn, seg) →
        PresentsEstablished c.key (c.exec h).2.1 →
          ((c.exec h).1 conn.ct).tcp.state.HandshakeComplete := by
  intro hall
  have h := hall (sampleCall (none, 0) 1000 0 0x02 0 0) ⟨0, .original⟩
    ⟨1000, 0, 0, true, false, false, false⟩ (sampleHeap (sampleTcp .none 0 0 0)) rfl (by decide)
    (.inl (by decide))
  revert h
  unfold TcpConntrack.HandshakeComplete
  decide

end VgwDriver
