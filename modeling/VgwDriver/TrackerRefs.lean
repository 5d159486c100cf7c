import VgwDriver.Base.Refs
import VgwDriver.Tracker

/-!
# The references of one call

`vgw_tcptrack_main` takes a reference only through `lookup_conntrack_by_skb`, and drops it at the label
`out`.  Here each function that touches a conntrack is written again over the log of `Base.RefM`, statement
by statement, so that a call shows which references it takes and drops and what it does in between.

* `vgwTcptrackMainRefs` — the function with its log; `TrackCall.execRefs_value` forgets the log;
* `TrackCall.execRefs_rejected`, `TrackCall.execRefs_attached`, `TrackCall.execRefs_lookedUp` — **what stands
  in the log** of a call that is rejected, of one with a conntrack attached, and of one that looks one up.
-/

namespace VgwDriver

open Base

/-! ### The functions, with the log -/

/-- A computation on the conntracks, with the log of what it does to them. -/
abbrev CtM := RefM NfConn CtPtr

/-- `lookup_conntrack_by_skb`: `nf_conntrack_find_get` takes a reference to the conntrack it returns. -/
def lookupConntrackBySkbRefs (e : TrackEnv) (net : NetPtr) (zone : NfConntrackZone) (l3num : UInt16)
    (skb : SkBuff) : CtM (Option CtPtr) :=
  match lookupTupleHash e net zone l3num skb with
  | none => return none
  | some th => do
    RefM.get th.ct fun c => { c with use := c.use + 1 }
    return some th.ct

/-- `nf_ct_put`. -/
def nfCtPutRefs (ct : CtPtr) : CtM Unit := RefM.put ct fun c => { c with use := c.use - 1 }

/-- `set_ct_timeout`. -/
def setCtTimeoutRefs (e : TrackEnv) (net : NetPtr) (ct : CtPtr) (newState : TcpConntrack) : CtM Unit :=
  let timeouts := (e.nfCtTimeoutLookup ct).getD (e.nfTcpPernetTimeouts net)
  RefM.write ct fun c => { c with timeout := e.nfCtRefreshAcct c.status c.timeout (timeouts newState) }

/-- `set_ct_state`. -/
def setCtStateRefs (e : TrackEnv) (net : NetPtr) (ct : CtPtr) (newState : TcpConntrack) : CtM Unit := do
  let c ← RefM.read ct
  if c.tcp.state = newState then return ()
  else
    RefM.write ct fun c => { c with tcp := { c.tcp with state := newState } }
    setCtTimeoutRefs e net ct newState

/-- The `if`/`else` chain that moves the TCP state. -/
def tcptrackStateRefs (e : TrackEnv) (net : NetPtr) (ct : CtPtr) (th : Tcphdr) : CtM Unit := do
  let c ← RefM.read ct
  if th.syn ∧ c.tcp.state ≠ .established then setCtStateRefs e net ct .synRecv
  else if th.ack ∧ c.tcp.state.ltEstablished then setCtStateRefs e net ct .established
  else if th.fin then setCtStateRefs e net ct .closeWait
  else if th.rst then setCtStateRefs e net ct .close
  else return ()

/-- The end of `vgw_tcptrack_main`, which records the segment; the value is `ret`. -/
def tcptrackSeqRefs (ct : CtPtr) (th : Tcphdr) (len dataoff : ℕ) : CtM ℤ := do
  let c ← RefM.read ct
  if th.seq = c.tcp.lastSeq ∧ th.ackSeq = c.tcp.lastAck then return -10
  else
    RefM.write ct fun c =>
      { c with tcp :=
        { c.tcp with
          lastSeq := th.seq
          lastEnd := segmentSeqPlusLen th.seq len dataoff th
          lastAck := if th.ackSeq ≠ 0 then th.ackSeq else c.tcp.lastAck } }
    return 0

/-- What `vgw_tcptrack_main` does to the conntrack it has found. -/
def tcptrackConnRefs (e : TrackEnv) (net : NetPtr) (ct : CtPtr) (th : Tcphdr) (len dataoff : ℕ) :
    CtM ℤ := do
  tcptrackStateRefs e net ct th
  tcptrackSeqRefs ct th len dataoff

/-- `vgw_tcptrack_main`: the key and `ret`. -/
def vgwTcptrackMainRefs (e : TrackEnv) (net : NetPtr) (skb : SkBuff) (key : SwFlowKey)
    (info : OvsConntrackInfo) : CtM (SwFlowKey × ℤ) :=
  match tcptrackHeader e skb info with
  | .error ret => return (key, ret)
  | .ok (th, dataoff) =>
    match getSkbCt skb with
    | (some ct, ctinfo) => do
      let ret ← tcptrackConnRefs e net ct th skb.len dataoff
      return (adjustCtState ctinfo key, ret)
    | (none, ctinfo) => do
      let lookupCt ← lookupConntrackBySkbRefs e net (lookupZone info) (lookupFamily info) skb
      match lookupCt with
      | none => return (key, -8)
      | some ct =>
        let ret ← tcptrackConnRefs e net ct th skb.len dataoff
        nfCtPutRefs ct
        return (adjustCtState ctinfo key, ret)

/-- A call, with its log. -/
def TrackCall.execRefs (c : TrackCall) : CtM (SwFlowKey × ℤ) :=
  vgwTcptrackMainRefs c.env c.net c.skb c.key c.info

/-! ### Forgetting the log -/

section

variable (e : TrackEnv) (net : NetPtr) (h : CtHeap) (ct : CtPtr)

theorem setCtStateRefs_records (newState : TcpConntrack) :
    (setCtStateRefs e net ct newState).records h = setCtState e net h ct newState := by
  unfold setCtStateRefs setCtState
  rw [RefM.records_bind, RefM.value_read, RefM.records_read]
  by_cases hsame : (h ct).tcp.state = newState
  · rw [if_pos hsame, if_pos hsame]
    rfl
  · rw [if_neg hsame, if_neg hsame]
    rfl

theorem tcptrackStateRefs_records (th : Tcphdr) :
    (tcptrackStateRefs e net ct th).records h = tcptrackState e net h ct th := by
  unfold tcptrackStateRefs tcptrackState
  rw [RefM.records_bind, RefM.value_read, RefM.records_read]
  split
  · exact setCtStateRefs_records e net h ct _
  split
  · exact setCtStateRefs_records e net h ct _
  split
  · exact setCtStateRefs_records e net h ct _
  split
  · exact setCtStateRefs_records e net h ct _
  · rfl

theorem tcptrackSeqRefs_value (th : Tcphdr) (len dataoff : ℕ) :
    (tcptrackSeqRefs ct th len dataoff).records h = (tcptrackSeq h ct th len dataoff).1 ∧
      (tcptrackSeqRefs ct th len dataoff).value h = (tcptrackSeq h ct th len dataoff).2 := by
  unfold tcptrackSeqRefs tcptrackSeq
  rw [RefM.records_bind, RefM.value_bind, RefM.value_read, RefM.records_read]
  dsimp only
  split
  · exact ⟨rfl, rfl⟩
  · exact ⟨rfl, rfl⟩

theorem tcptrackConnRefs_value (th : Tcphdr) (len dataoff : ℕ) :
    (tcptrackConnRefs e net ct th len dataoff).records h
        = (tcptrackSeq (tcptrackState e net h ct th) ct th len dataoff).1 ∧
      (tcptrackConnRefs e net ct th len dataoff).value h
        = (tcptrackSeq (tcptrackState e net h ct th) ct th len dataoff).2 := by
  unfold tcptrackConnRefs
  rw [RefM.records_bind, RefM.value_bind, tcptrackStateRefs_records]
  exact tcptrackSeqRefs_value _ ct th len dataoff

end

/-- **Without its log** the function is `vgwTcptrackMain`. -/
theorem TrackCall.execRefs_value (c : TrackCall) (h : CtHeap) :
    (c.execRefs.records h, c.execRefs.value h) = c.exec h := by
  unfold execRefs exec vgwTcptrackMainRefs vgwTcptrackMain
  cases hheader : tcptrackHeader c.env c.skb c.info with
  | error ret => rfl
  | ok r =>
    obtain ⟨th, dataoff⟩ := r
    dsimp only
    rcases hct : getSkbCt c.skb with ⟨_ | ct, ctinfo⟩
    · unfold lookupConntrackBySkbRefs lookupConntrackBySkb
      cases hlookup : lookupTupleHash c.env c.net (lookupZone c.info) (lookupFamily c.info) c.skb with
      | none => rfl
      | some found =>
        obtain ⟨hrecords, hvalue⟩ :=
          tcptrackConnRefs_value c.env c.net (h.get found.ct) found.ct th c.skb.len dataoff
        refine Prod.ext ?_ (Prod.ext rfl hvalue)
        exact congrArg (fun g : CtHeap => g.put found.ct) hrecords
    · obtain ⟨hrecords, hvalue⟩ := tcptrackConnRefs_value c.env c.net h ct th c.skb.len dataoff
      exact Prod.ext hrecords (Prod.ext rfl hvalue)

/-! ### What stands in the log -/

section

variable (e : TrackEnv) (net : NetPtr) (ct : CtPtr)

theorem setCtStateRefs_accesses (newState : TcpConntrack) :
    RefM.Accesses ct (setCtStateRefs e net ct newState) := by
  refine RefM.Accesses.read.bind fun c => ?_
  split
  · exact RefM.Accesses.pure ()
  · exact (RefM.Accesses.write _).bind fun _ => RefM.Accesses.write _

theorem tcptrackStateRefs_accesses (th : Tcphdr) :
    RefM.Accesses ct (tcptrackStateRefs e net ct th) := by
  refine RefM.Accesses.read.bind fun c => ?_
  split
  · exact setCtStateRefs_accesses e net ct _
  split
  · exact setCtStateRefs_accesses e net ct _
  split
  · exact setCtStateRefs_accesses e net ct _
  split
  · exact setCtStateRefs_accesses e net ct _
  · exact RefM.Accesses.pure ()

theorem tcptrackSeqRefs_accesses (th : Tcphdr) (len dataoff : ℕ) :
    RefM.Accesses ct (tcptrackSeqRefs ct th len dataoff) := by
  refine RefM.Accesses.read.bind fun c => ?_
  split
  · exact RefM.Accesses.pure _
  · exact (RefM.Accesses.write _).bind fun _ => RefM.Accesses.pure _

theorem tcptrackConnRefs_accesses (th : Tcphdr) (len dataoff : ℕ) :
    RefM.Accesses ct (tcptrackConnRefs e net ct th len dataoff) :=
  (tcptrackStateRefs_accesses e net ct th).bind fun _ => tcptrackSeqRefs_accesses ct th len dataoff

end

namespace TrackCall

variable {c : TrackCall} (h : CtHeap)

/-- A rejected call takes and drops no reference, and accesses no conntrack. -/
theorem execRefs_rejected (hseg : c.segment = none) : c.execRefs.log h = [] := by
  unfold segment conn at hseg
  unfold execRefs vgwTcptrackMainRefs
  cases hheader : tcptrackHeader c.env c.skb c.info with
  | error ret => rfl
  | ok r =>
    rw [hheader] at hseg
    obtain ⟨th, dataoff⟩ := r
    dsimp only at hseg ⊢
    rcases hct : getSkbCt c.skb with ⟨_ | ct, ctinfo⟩
    · rw [hct] at hseg
      have hlookup := Option.map_eq_none_iff.mp hseg
      dsimp only at hlookup
      unfold lookupConntrackBySkbRefs
      rw [hlookup]
      rfl
    · rw [hct] at hseg
      cases hseg

/-- With a conntrack attached to the packet a call accesses that one only, and neither takes nor drops a
reference. -/
theorem execRefs_attached {ct : CtPtr} (hattached : (getSkbCt c.skb).1 = some ct) :
    AccessesOnly ct (c.execRefs.log h) := by
  unfold execRefs vgwTcptrackMainRefs
  cases hheader : tcptrackHeader c.env c.skb c.info with
  | error ret => exact RefM.Accesses.pure _ h
  | ok r =>
    obtain ⟨th, dataoff⟩ := r
    dsimp only
    rcases hct : getSkbCt c.skb with ⟨_ | ct', ctinfo⟩
    · rw [hct] at hattached
      cases hattached
    · rw [hct] at hattached
      cases hattached
      exact ((tcptrackConnRefs_accesses c.env c.net ct th c.skb.len dataoff).bind
        fun ret => RefM.Accesses.pure _) h

/-- Without one, an accepted call takes a reference to the conntrack it finds, works on that conntrack only,
and drops the reference as the last thing it does. -/
theorem execRefs_lookedUp {conn : TupleHash} {seg : TcpSegment} (hseg : c.segment = some (conn, seg))
    (hattached : (getSkbCt c.skb).1 = none) : Bracketed conn.ct (c.execRefs.log h) := by
  unfold segment TrackCall.conn at hseg
  unfold execRefs vgwTcptrackMainRefs
  cases hheader : tcptrackHeader c.env c.skb c.info with
  | error ret =>
    rw [hheader] at hseg
    cases hseg
  | ok r =>
    rw [hheader] at hseg
    obtain ⟨th, dataoff⟩ := r
    dsimp only at hseg ⊢
    rcases hct : getSkbCt c.skb with ⟨_ | ct', ctinfo⟩
    · rw [hct] at hseg
      obtain ⟨found, hlookup, heq⟩ := Option.map_eq_some_iff.mp hseg
      obtain ⟨rfl, -⟩ := Prod.mk.inj heq
      dsimp only at hlookup
      unfold lookupConntrackBySkbRefs
      rw [hlookup]
      have hbracketed := (tcptrackConnRefs_accesses c.env c.net found.ct th c.skb.len dataoff).bracketed
        (fun c => { c with use := c.use + 1 }) (fun c => { c with use := c.use - 1 })
        (fun ret => (adjustCtState ctinfo c.key, ret)) h
      simp only [RefM.log_bind, RefM.log_pure, List.append_nil, RefM.value_bind, RefM.records_bind,
        RefM.value_pure, RefM.records_pure] at hbracketed ⊢
      exact hbracketed
    · rw [hct] at hattached
      cases hattached

end TrackCall

end VgwDriver
