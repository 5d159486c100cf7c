import VgwDriver.TrackerFrame

/-!
# Laws of the tracker

What a user of the tracker expects of it, and exactly when it keeps to that: a packet handed over twice
counts once, the stored acknowledgement number is the last one acknowledged, and a teardown only goes
forward.

* `repeat_same_iff` — **a second call with the same packet**: what it must not change, and when it does;
* `stores_acked_iff` — when the stored acknowledgement number is the last ACK segment's;
* `teardown_forward_iff` — when a connection stays in its teardown behind a FIN, and never goes back in it.
-/

namespace VgwDriver

open Base

/-! ### The same packet twice -/

/-- The same packet once more, with the key the first call left. -/
def TrackCall.again (c : TrackCall) (h : CtHeap) : TrackCall := { c with key := (c.exec h).2.1 }

/-- A second call right after the first leaves the state and the numbers of `p`, and the key's `ct_state`. -/
def TrackCall.SameAgain (c : TrackCall) (h : CtHeap) (p : CtPtr) : Prop :=
  let first := c.exec h
  let second := (c.again h).exec first.1
  (second.1 p).tcp.state = (first.1 p).tcp.state ∧
    (second.1 p).tcp.lastSeq = (first.1 p).tcp.lastSeq ∧
    (second.1 p).tcp.lastAck = (first.1 p).tcp.lastAck ∧
    (second.1 p).tcp.lastEnd = (first.1 p).tcp.lastEnd ∧
    second.2.1.ctState = first.2.1.ctState

/-- The numbers are the same after one and after two segments. -/
theorem IpCtTcp.track_track (t : IpCtTcp) (seg : TcpSegment) :
    ((t.track seg).track seg).lastSeq = (t.track seg).lastSeq ∧
      ((t.track seg).track seg).lastAck = (t.track seg).lastAck ∧
      ((t.track seg).track seg).lastEnd = (t.track seg).lastEnd := by
  refine ⟨by simp, ?_, ?_⟩
  · by_cases hzero : seg.ackSeq = 0 <;> simp [hzero]
  · rw [track_lastEnd (t.track seg)]
    split
    · rfl
    · rename_i hother
      -- the second segment is not skipped only if its zero acknowledgement was not stored
      rw [track_lastEnd, if_neg]
      intro hsame
      apply hother
      rw [track_lastSeq, track_lastAck, hsame.2]
      exact ⟨rfl, by simp⟩

/-- Adjusting the key twice is adjusting it once. -/
theorem adjustCtState_twice (ctinfo : UInt8) (key : SwFlowKey) :
    adjustCtState ctinfo (adjustCtState ctinfo key) = adjustCtState ctinfo key := by
  rw [adjustCtState_eq_self_iff]
  by_cases hinfo : ctinfo = ipCtEstablished
  · rw [hinfo]
    exact .inr (adjustCtState_established key)
  · exact .inl hinfo

/-- **Moving the state twice** is moving it once, unless the first move leads into a state from which a
FIN or RST of the same segment, passed over at first, or its SYN leads on. -/
theorem TcpConntrack.next_next_iff (s : TcpConntrack) (seg : TcpSegment) :
    (s.next seg).next seg = s.next seg ↔
      ¬ (((seg.syn ∧ s = .established) ∨ (¬ seg.syn ∧ seg.ack ∧ s.ltEstablished)) ∧
        (seg.fin ∨ seg.rst)) := by
  have hest : TcpConntrack.established.ltEstablished = false := rfl
  have hwait : TcpConntrack.closeWait.ltEstablished = false := rfl
  have hclose : TcpConntrack.close.ltEstablished = false := rfl
  by_cases hsyn : seg.syn
  · by_cases hs : s = .established
    · by_cases hfin : seg.fin <;> by_cases hrst : seg.rst <;> simp [next, hsyn, hs, hest, hfin, hrst]
    · simp [next, hsyn, hs]
  · by_cases hack : seg.ack ∧ s.ltEstablished
    · by_cases hfin : seg.fin <;> by_cases hrst : seg.rst <;>
        simp [next, hsyn, hack, hest, hfin, hrst]
    · by_cases hfin : seg.fin
      · simp [next, hsyn, hack, hwait, hfin]
      · by_cases hrst : seg.rst <;> simp [next, hsyn, hack, hclose, hfin, hrst]

/-- **The same packet twice.**  A second call leaves everything as the first one left it, if and only if
the first did not pass over a FIN or RST of the packet: by keeping ESTABLISHED on a SYN, or by moving there
on an ACK. -/
theorem repeat_same_iff {c : TrackCall} {conn : TupleHash} {seg : TcpSegment}
    (hseg : c.segment = some (conn, seg)) (h : CtHeap) :
    c.SameAgain h conn.ct ↔
      ¬ (((seg.syn ∧ (h conn.ct).tcp.state = .established) ∨
          (¬ seg.syn ∧ seg.ack ∧ (h conn.ct).tcp.state.ltEstablished)) ∧ (seg.fin ∨ seg.rst)) := by
  have hagain : (c.again h).segment = some (conn, seg) := hseg
  obtain ⟨hheap, hkey⟩ := vgwTcptrackMain_accepted hseg h
  obtain ⟨hheap', hkey'⟩ := vgwTcptrackMain_accepted hagain (c.exec h).1
  have hinfo : (getSkbCt (c.again h).skb).2 = (getSkbCt c.skb).2 := rfl
  have hkeyAgain : (c.again h).key = adjustCtState (getSkbCt c.skb).2 c.key := hkey
  have hnumbers := ((h conn.ct).tcp).track_track seg
  rw [← TcpConntrack.next_next_iff]
  unfold TrackCall.SameAgain
  dsimp only
  rw [hheap', hkey', hinfo, hkeyAgain, adjustCtState_twice, hheap, hkey, CtHeap.modify_self,
    CtHeap.modify_self]
  simp only [TrackCall.track, IpCtTcp.track_state, hnumbers, and_true]

/-- A segment with data, twice. -/
theorem repeat_same_sample :
    (origCall 1000 2000 0x18 3).SameAgain (sampleHeap (sampleTcp .established 0 0 0)) 0 :=
  have hseg : (origCall 1000 2000 0x18 3).segment
      = some (⟨0, .original⟩, ⟨1000, 2000, 3, false, false, false, true⟩) := by decide
  (repeat_same_iff hseg (sampleHeap (sampleTcp .established 0 0 0))).mpr (by decide)

/-- A FIN with ACK that finds SYN_RECV: established at first, in CLOSE_WAIT after the retransmission. -/
theorem repeat_same_fails :
    ¬ ∀ (c : TrackCall) (conn : TupleHash) (seg : TcpSegment) (h : CtHeap),
      c.segment = some (conn, seg) → c.SameAgain h conn.ct := by
  intro hall
  have h := hall (origCall 1000 2000 0x11 0) ⟨0, .original⟩ ⟨1000, 2000, 0, false, true, false, true⟩
    (sampleHeap (sampleTcp .synRecv 0 0 0)) (by decide)
  have hstate := h.1
  revert hstate
  decide

/-! ### The stored acknowledgement number -/

/-- The acknowledgement number of the last segment that carries ACK, or the one stored before. -/
def lastAcked (stored : UInt32) (segs : List TcpSegment) : UInt32 :=
  ((segs.filter (·.ack)).map (·.ackSeq)).getLastD stored

/-- The segment's acknowledgement number is not zero if it counts, unless zero is stored already; it is
zero or stored already if it does not count. -/
def TcpSegment.AckCounts (seg : TcpSegment) (t : IpCtTcp) : Prop :=
  (seg.ack → seg.ackSeq ≠ 0 ∨ t.lastAck = 0) ∧ (¬ seg.ack → seg.ackSeq = 0 ∨ seg.ackSeq = t.lastAck)

theorem lastAcked_snoc (stored : UInt32) (segs : List TcpSegment) (seg : TcpSegment) :
    lastAcked stored (segs ++ [seg]) = if seg.ack then seg.ackSeq else lastAcked stored segs := by
  unfold lastAcked
  rw [List.filter_append, List.map_append]
  by_cases hack : seg.ack <;> simp [hack]

theorem segmentsFor_snoc (p : CtPtr) (calls : List TrackCall) (c : TrackCall) :
    segmentsFor p (calls ++ [c]) = segmentsFor p calls ++ (c.segmentFor p).toList := by
  unfold segmentsFor
  rw [List.filterMap_append]
  cases hseg : c.segmentFor p <;> simp [hseg]

/-- One call, from a state in which the stored number is the last one acknowledged. -/
theorem acked_step_iff {p : CtPtr} {h : CtHeap} {calls : List TrackCall} {c : TrackCall}
    (hpre : (run trackStep h calls p).tcp.lastAck = lastAcked (h p).tcp.lastAck (segmentsFor p calls)) :
    (run trackStep h (calls ++ [c]) p).tcp.lastAck
        = lastAcked (h p).tcp.lastAck (segmentsFor p (calls ++ [c])) ↔
      ∀ seg, c.segmentFor p = some seg → seg.AckCounts (run trackStep h calls p).tcp := by
  rw [run_snoc, segmentsFor_snoc]
  cases hseg : c.segmentFor p with
  | none =>
    rw [trackStep_other hseg, hpre]
    simp
  | some seg =>
    rw [trackStep_self hseg, Option.toList_some, lastAcked_snoc, ← hpre]
    show ((run trackStep h calls p).tcp.track seg).lastAck = _ ↔ _
    rw [IpCtTcp.track_lastAck]
    unfold TcpSegment.AckCounts
    have hcomm := eq_comm (a := (0 : UInt32)) (b := (run trackStep h calls p).tcp.lastAck)
    by_cases hack : seg.ack <;> by_cases hzero : seg.ackSeq = 0 <;> simp [hack, hzero, hcomm]

/-- **The stored acknowledgement number** is that of the last segment with ACK at every point of a run, if
and only if no ACK segment of `p` acknowledges zero while another number is stored, and none without ACK
has a number in the field that is neither zero nor stored. -/
theorem stores_acked_iff (p : CtPtr) (h : CtHeap) (calls : List TrackCall) :
    (∀ pre, pre <+: calls → (run trackStep h pre p).tcp.lastAck
        = lastAcked (h p).tcp.lastAck (segmentsFor p pre)) ↔
      ∀ pre c post, calls = pre ++ c :: post → ∀ seg, c.segmentFor p = some seg →
        seg.AckCounts (run trackStep h pre p).tcp := by
  apply forall_prefix_iff_of_step
  · rfl
  · intro pre c hpre
    exact acked_step_iff hpre

/-- The acknowledgement number wraps to zero: the one before it stays. -/
theorem stores_acked_fails :
    ¬ ∀ (p : CtPtr) (h : CtHeap) (calls : List TrackCall), (run trackStep h calls p).tcp.lastAck
      = lastAcked (h p).tcp.lastAck (segmentsFor p calls) := by
  intro hall
  have h := hall 0 (sampleHeap (sampleTcp .established 0 0 0))
    [origCall 1000 0xffffff00 0x10 0, origCall 1000 0 0x10 0]
  revert h
  decide

/-! ### The teardown -/

/-- How far the teardown is: 0 before it, then CLOSE_WAIT, LAST_ACK, TIME_WAIT and CLOSE. -/
def TcpConntrack.stage : TcpConntrack → ℕ
  | .closeWait => 1
  | .lastAck => 2
  | .timeWait => 3
  | .close => 4
  | _ => 0

/-- A closing state. -/
def TcpConntrack.Closing (s : TcpConntrack) : Prop :=
  s = .closeWait ∨ s = .lastAck ∨ s = .timeWait ∨ s = .close

/-- The call brings a segment of `p` that carries FIN, without SYN and without RST. -/
def TrackCall.FinFor (c : TrackCall) (p : CtPtr) : Prop :=
  ∃ seg, c.segmentFor p = some seg ∧ seg.fin ∧ ¬ seg.syn ∧ ¬ seg.rst

/-- Some call of the run brings such a FIN, and no later one a SYN. -/
def AfterFin (p : CtPtr) (calls : List TrackCall) : Prop := Since (·.FinFor p) (·.SynFor p) calls

/-- The step to `s'` leads into the teardown, or forward in it. -/
def TcpConntrack.Forward (s s' : TcpConntrack) : Prop := s'.Closing ∧ s.stage ≤ s'.stage

theorem TcpConntrack.Closing.not_ltEstablished {s : TcpConntrack} (hs : s.Closing) :
    s.ltEstablished = false := by
  rcases hs with rfl | rfl | rfl | rfl <;> rfl

theorem TcpConntrack.Closing.stage_le {s : TcpConntrack} (hs : s.Closing) : s.stage ≤ stage .close := by
  rcases hs with rfl | rfl | rfl | rfl <;> decide

/-- A FIN moves forward unless its ACK comes first, or the teardown is already past CLOSE_WAIT. -/
theorem TcpConntrack.next_fin_forward_iff (s : TcpConntrack) {seg : TcpSegment} (hsyn : ¬ seg.syn)
    (hfin : seg.fin) :
    s.Forward (s.next seg) ↔
      ¬ (seg.ack ∧ s.ltEstablished) ∧ s ≠ .lastAck ∧ s ≠ .timeWait ∧ s ≠ .close := by
  by_cases hack : seg.ack ∧ s.ltEstablished
  · simp [next, hsyn, hack, Forward, Closing]
  · have hnext : s.next seg = .closeWait := by simp [next, hsyn, hack, hfin]
    rw [hnext]
    cases s <;> simp_all [Forward, Closing, stage]

/-- Inside the teardown, a segment without SYN and FIN moves forward. -/
theorem TcpConntrack.Closing.next_forward {s : TcpConntrack} (hs : s.Closing) {seg : TcpSegment}
    (hsyn : ¬ seg.syn) (hfin : ¬ seg.fin) : s.Forward (s.next seg) := by
  by_cases hrst : seg.rst
  · have hnext : s.next seg = .close := by simp [next, hsyn, hs.not_ltEstablished, hfin, hrst]
    rw [hnext]
    exact ⟨.inr (.inr (.inr rfl)), hs.stage_le⟩
  · have hnext : s.next seg = s := by simp [next, hsyn, hs.not_ltEstablished, hfin, hrst]
    rw [hnext]
    exact ⟨hs, Nat.le_refl _⟩

/-- One call inside the window behind a FIN. -/
theorem teardown_step_iff {p : CtPtr} {h : CtHeap} {calls : List TrackCall} {c : TrackCall}
    (hwin : AfterFin p (calls ++ [c]))
    (hclosing : AfterFin p calls → (run trackStep h calls p).tcp.state.Closing) :
    (run trackStep h calls p).tcp.state.Forward (run trackStep h (calls ++ [c]) p).tcp.state ↔
      ∀ seg, c.segmentFor p = some seg → seg.fin →
        ¬ (seg.ack ∧ (run trackStep h calls p).tcp.state.ltEstablished) ∧
          (run trackStep h calls p).tcp.state ≠ .lastAck ∧
          (run trackStep h calls p).tcp.state ≠ .timeWait ∧
          (run trackStep h calls p).tcp.state ≠ .close := by
  rw [run_snoc]
  cases hseg : c.segmentFor p with
  | none =>
    have hprev : AfterFin p calls := by
      rcases since_snoc.mp hwin with ⟨seg, hseg', -⟩ | ⟨hprev, -⟩
      · rw [hseg] at hseg'
        cases hseg'
      · exact hprev
    rw [trackStep_other hseg]
    simp only [reduceCtorEq, false_implies, implies_true, iff_true]
    exact ⟨hclosing hprev, Nat.le_refl _⟩
  | some seg =>
    rw [trackStep_self hseg]
    simp only [TrackCall.track, IpCtTcp.track_state, Option.some.injEq, forall_eq']
    have hsyn : ¬ seg.syn := by
      rcases since_snoc.mp hwin with ⟨seg', hseg', -, hsyn, -⟩ | ⟨-, hno⟩
      · rw [hseg] at hseg'
        rw [Option.some.inj hseg']
        exact hsyn
      · exact fun hsyn => hno ⟨seg, hseg, hsyn⟩
    by_cases hfin : seg.fin
    · rw [TcpConntrack.next_fin_forward_iff _ hsyn hfin]
      simp [hfin]
    · -- without FIN the segment does not open the window: the state before it is closing already
      have hprev : AfterFin p calls := by
        rcases since_snoc.mp hwin with ⟨seg', hseg', hfin', -⟩ | ⟨hprev, -⟩
        · rw [hseg] at hseg'
          rw [← Option.some.inj hseg'] at hfin'
          exact absurd hfin' hfin
        · exact hprev
      have hforward := (hclosing hprev).next_forward hsyn hfin
      simp [hfin, hforward]

/-- **The teardown goes forward.**  In every run, each call from a FIN of `p` up to the next SYN leads into
a closing state and never back in the teardown, if and only if no FIN there is an ACK that meets a state
below ESTABLISHED, and none meets LAST_ACK, TIME_WAIT or CLOSE. -/
theorem teardown_forward_iff (p : CtPtr) (h : CtHeap) (calls : List TrackCall) :
    (∀ pre c post, calls = pre ++ c :: post → AfterFin p (pre ++ [c]) →
        (run trackStep h pre p).tcp.state.Forward (run trackStep h (pre ++ [c]) p).tcp.state) ↔
      ∀ pre c post, calls = pre ++ c :: post → AfterFin p (pre ++ [c]) →
        ∀ seg, c.segmentFor p = some seg → seg.fin →
          ¬ (seg.ack ∧ (run trackStep h pre p).tcp.state.ltEstablished) ∧
            (run trackStep h pre p).tcp.state ≠ .lastAck ∧
            (run trackStep h pre p).tcp.state ≠ .timeWait ∧
            (run trackStep h pre p).tcp.state ≠ .close := by
  apply forall_split_iff_of_step
  intro pre c hprev
  apply forall_congr'
  intro hwin
  apply teardown_step_iff hwin
  intro hpre
  cases pre using List.reverseRecOn with
  | nil => exact absurd hpre not_since_nil
  | append_singleton pre d => exact (hprev pre d rfl hpre).1

/-- A SYN, then a FIN with ACK before the handshake is complete: the connection becomes established. -/
theorem teardown_forward_fails :
    ¬ ∀ (p : CtPtr) (h : CtHeap) (calls : List TrackCall), ∀ pre c post,
      calls = pre ++ c :: post → AfterFin p (pre ++ [c]) →
        (run trackStep h pre p).tcp.state.Forward (run trackStep h (pre ++ [c]) p).tcp.state := by
  intro hall
  have hwin : AfterFin 0 ([origCall 1000 0 0x02 0] ++ [replyCall 2000 1001 0x11 0]) :=
    since_snoc.mpr (.inl ⟨⟨2000, 1001, 0, false, true, false, true⟩, by decide, by decide, by decide,
      by decide⟩)
  have h := hall 0 (sampleHeap (sampleTcp .none 0 0 0))
    [origCall 1000 0 0x02 0, replyCall 2000 1001 0x11 0] _ _ [] rfl hwin
  have hclosing := h.1
  revert hclosing
  unfold TcpConntrack.Closing
  decide

end VgwDriver
