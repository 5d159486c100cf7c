import VgwDriver.Base.Refs
import VgwDriver.Base.Run
import VgwDriver.Netlink.Expect
import VgwDriver.Netlink.FilterSpec
import VgwDriver.Netlink.Session

/-!
# Dumping the expectations of a conntrack

`ctnetlink_dump_exp_ct` holds a reference to the conntrack it has found until it returns.  The session it
starts keeps the pointer in `cb->data`, takes no reference of its own, and goes on when the client reads the
next part.

* `ExpSystem.step` — the request, the session, and everyone else;
* `ExpInv` — **the invariant**: who holds what;
* `reads_held_iff` — the conntrack is read under a reference of the request or the session exactly if no
  call is made once the request has returned.
-/

namespace VgwDriver

open Base

/-! ### The parties -/

/-- Where `ctnetlink_dump_exp_ct` stands: in front of its lookup, behind it, behind `netlink_dump_start`, or
returned. -/
inductive ExpRequestPc where
  | start
  | found (p : CtPtr)
  | dumped (p : CtPtr) (err : ℤ)
  | returned (err : ℤ)
  deriving DecidableEq, Repr

/-- The request: its header, its attributes, of which `master` is `CTA_EXPECT_MASTER`, and the functions that
parse and look up. -/
structure ExpRequest where
  fenv : FilterEnv
  find : NfConntrackFind
  info : NfnlInfo
  master : Attr
  cda : NlaTable

/-- The world, the request, the session while it runs, and the references to conntracks that are held on
behalf of the two. -/
structure ExpSystem where
  world : ExpWorld
  pc : ExpRequestPc
  cb : Option ExpCallback
  request : Refs CtPtr
  session : Refs CtPtr

/-- The state before the request. -/
def ExpSystem.start (world : ExpWorld) : ExpSystem := ⟨world, .start, none, Refs.none, Refs.none⟩

/-- The world with another heap of conntracks. -/
def ExpWorld.withHeap (w : ExpWorld) (h : CtHeap) : ExpWorld := { w with table := w.table.withHeap h }

@[simp] theorem ExpWorld.withHeap_heap (w : ExpWorld) (h : CtHeap) : (w.withHeap h).table.heap = h := rfl

def eintr : ℤ := 4

/-- `netlink_dump`: one call of the session's function into a buffer.  A call that returns 0 is the last, and
`done` follows it. -/
def netlinkDump (env : ExpEnv) (cb : ExpCallback) (w : ExpWorld) (skb : Buf) :
    Option ExpCallback × ExpWorld :=
  match ctnetlinkExpCtDumpTable env cb w.table.heap (w.expectations cb.data) w.exps skb with
  | (len, cb, exps, _) =>
    if len ≠ 0 then (some cb, { w with exps := exps })
    else (none, { w with exps := ctnetlinkExpDone cb exps })

/-- What can happen: the request goes on, where `netlink_dump_start` fails or gets a buffer for the first
call; the client reads the next part; the session is closed; another party takes a reference, drops one of its
own, or changes anything but the reference counts. -/
inductive ExpEvent where
  | request (env : ExpEnv) (dumpStart : Except ℤ Buf)
  | read (env : ExpEnv) (skb : Buf)
  | close
  | get (p : CtPtr)
  | put (p : CtPtr)
  | change (w : ExpWorld)

/-- `ctnetlink_dump_exp_ct`, up to the next of its calls. -/
def ExpSystem.goOn (req : ExpRequest) (s : ExpSystem) (env : ExpEnv) (dumpStart : Except ℤ Buf) :
    ExpSystem :=
  match s.pc with
  | .start =>
    match dumpExpCtLookup req.fenv req.find req.info req.master req.cda s.world.table with
    | .error err => { s with pc := .returned err }
    | .ok p => { s with
        pc := .found p
        world := s.world.withHeap (s.world.table.heap.get p)
        request := s.request.get p }
  | .found p =>
    if (s.world.table.heap p).help.isNone then
      { s with
        pc := .returned 0
        world := s.world.withHeap (s.world.table.heap.put p)
        request := s.request.put p }
    else
      match dumpStart with
      | .error err => { s with pc := .dumped p err }
      | .ok skb =>
        match netlinkDump env ⟨req.info.portid, req.info.seq, req.info.family, p, 0, none⟩ s.world skb with
        | (cb, world) => { s with pc := .dumped p (-eintr), world := world, cb := cb }
  | .dumped p err => { s with
      pc := .returned err
      world := s.world.withHeap (s.world.table.heap.put p)
      request := s.request.put p }
  | .returned _ => s

/-- One event.  Nobody takes a reference to a conntrack that has none, and nobody drops a reference of the
request or the session but these. -/
def ExpSystem.step (req : ExpRequest) (s : ExpSystem) : ExpEvent → ExpSystem
  | .request env dumpStart => s.goOn req env dumpStart
  | .read env skb =>
    match s.cb with
    | none => s
    | some cb =>
      match netlinkDump env cb s.world skb with
      | (cb, world) => { s with world := world, cb := cb }
  | .close =>
    match s.cb with
    | none => s
    | some cb => { s with cb := none, world := { s.world with exps := ctnetlinkExpDone cb s.world.exps } }
  | .get p =>
    if (s.world.table.heap p).use ≠ 0 then { s with world := s.world.withHeap (s.world.table.heap.get p) }
    else s
  | .put p =>
    if s.request p + s.session p < (s.world.table.heap p).use then
      { s with world := s.world.withHeap (s.world.table.heap.put p) }
    else s
  | .change w =>
    { s with world := w.withHeap fun p => { w.table.heap p with use := (s.world.table.heap p).use } }

/-! ### Reading the conntrack -/

/-- The conntrack that a call of `ctnetlink_exp_ct_dump_table` reads in this event: it fetches
`nfct_help(ct)` before it looks at `args[0]`. -/
def ExpSystem.reads (s : ExpSystem) : ExpEvent → Option CtPtr
  | .request _ (.ok _) =>
    match s.pc with
    | .found p => if (s.world.table.heap p).help.isNone then none else some p
    | .start | .dumped _ _ | .returned _ => none
  | .read _ _ => s.cb.map ExpCallback.data
  | .request _ (.error _) | .close | .get _ | .put _ | .change _ => none

/-- The conntrack is held on behalf of the request or the session, and its last reference is not gone. -/
def ExpSystem.Held (s : ExpSystem) (p : CtPtr) : Prop :=
  1 ≤ s.request p + s.session p ∧ (s.world.table.heap p).use ≠ 0

/-- The client reads on in a running session, and the request has returned. -/
def ExpSystem.ReadsLate (s : ExpSystem) : ExpEvent → Prop
  | .read _ _ => s.cb.isSome ∧ ∃ err, s.pc = .returned err
  | .request _ _ | .close | .get _ | .put _ | .change _ => False

/-! ### The invariant -/

/-- The references of the request. -/
def ExpRequestPc.holds : ExpRequestPc → List CtPtr
  | .start | .returned _ => []
  | .found p | .dumped p _ => [p]

/-- **Who holds what**: the request the conntrack it has found, the session nothing. -/
structure ExpInv (s : ExpSystem) : Prop where
  request : s.request.Holds s.pc.holds
  session : s.session.Holds []
  counted : ∀ p, s.request p + s.session p ≤ (s.world.table.heap p).use
  /-- The session does not run before its request starts it, and is about the request's conntrack. -/
  running : ∀ cb, s.cb = some cb → (∃ err, s.pc = .dumped cb.data err) ∨ ∃ err, s.pc = .returned err

/-- A call leaves the conntracks alone, and the session is about the same one. -/
theorem netlinkDump_data (env : ExpEnv) (cb : ExpCallback) (w : ExpWorld) (skb : Buf) :
    (netlinkDump env cb w skb).2.table = w.table ∧
      ∀ cb', (netlinkDump env cb w skb).1 = some cb' → cb'.data = cb.data := by
  have hdata : (ctnetlinkExpCtDumpTable env cb w.table.heap (w.expectations cb.data) w.exps skb).2.1.data
      = cb.data := by
    unfold ctnetlinkExpCtDumpTable
    split
    · rfl
    · rfl
  unfold netlinkDump
  revert hdata
  obtain ⟨len, cb', exps, skb'⟩ :=
    ctnetlinkExpCtDumpTable env cb w.table.heap (w.expectations cb.data) w.exps skb
  intro hdata
  dsimp only at hdata ⊢
  split
  · refine ⟨rfl, fun cb'' hcb => ?_⟩
    rw [← Option.some.inj hcb]
    exact hdata
  · exact ⟨rfl, fun cb'' hcb => by cases hcb⟩

namespace ExpSystem

variable {req : ExpRequest} {s : ExpSystem}

theorem start_inv (world : ExpWorld) : ExpInv (start world) where
  request := Refs.none_holds
  session := Refs.none_holds
  counted := fun p => Int.natCast_nonneg _
  running := fun cb hcb => by cases hcb

/-- The invariant counts references and looks at no other part of the world. -/
theorem inv_of_use (h : ExpInv s) {world : ExpWorld} {cb : Option ExpCallback}
    (huse : ∀ p, s.request p + s.session p ≤ (world.table.heap p).use)
    (hrunning : ∀ cb', cb = some cb' →
      (∃ err, s.pc = .dumped cb'.data err) ∨ ∃ err, s.pc = .returned err) :
    ExpInv { s with world := world, cb := cb } :=
  ⟨h.request, h.session, huse, hrunning⟩

/-- No session runs before the request has started it. -/
theorem not_running (h : ExpInv s) (hpc : s.pc = .start ∨ ∃ p, s.pc = .found p) (cb : ExpCallback) :
    s.cb ≠ some cb := by
  intro hcb
  rcases h.running cb hcb with ⟨err, hrun⟩ | ⟨err, hrun⟩
  · rw [hrun] at hpc
    simp at hpc
  · rw [hrun] at hpc
    simp at hpc

/-- The request drops its reference and returns. -/
theorem inv_put (h : ExpInv s) {p : CtPtr} (hheld : s.pc.holds = [p]) (err : ℤ) :
    ExpInv { s with
      pc := .returned err
      world := s.world.withHeap (s.world.table.heap.put p)
      request := s.request.put p } where
  request := by
    have hrequest := h.request
    rw [hheld] at hrequest
    exact hrequest.put
  session := h.session
  counted := by
    intro q
    have hcounted := h.counted q
    have hone := h.request q
    rw [hheld] at hone
    show (if q = p then s.request q - 1 else s.request q) + s.session q
      ≤ ((s.world.table.heap.put p q).use : ℤ)
    rw [CtHeap.use_put]
    by_cases hq : q = p
    · subst hq
      have hsession := h.session q
      rw [List.count_nil] at hsession
      rw [List.count_singleton_self] at hone
      rw [if_pos rfl, if_pos rfl]
      omega
    · rw [if_neg hq, if_neg hq]
      exact hcounted
  running := fun _ _ => Or.inr ⟨err, rfl⟩

/-- **The request goes on.** -/
theorem inv_goOn (h : ExpInv s) (env : ExpEnv) (dumpStart : Except ℤ Buf) :
    ExpInv (s.goOn req env dumpStart) := by
  unfold goOn
  cases hpc : s.pc with
  | start =>
    have hnot := not_running h (Or.inl hpc)
    have hrequest := h.request
    rw [hpc] at hrequest
    dsimp only
    split
    · exact ⟨hrequest, h.session, h.counted, fun cb hcb => absurd hcb (hnot cb)⟩
    · rename_i p _
      refine ⟨hrequest.get p, h.session, fun q => ?_, fun cb hcb => absurd hcb (hnot cb)⟩
      have hcounted := h.counted q
      show (if q = p then s.request q + 1 else s.request q) + s.session q
        ≤ ((s.world.table.heap.get p q).use : ℤ)
      rw [CtHeap.use_get]
      by_cases hq : q = p
      · rw [if_pos hq, if_pos hq]
        push_cast
        omega
      · rw [if_neg hq, if_neg hq]
        exact hcounted
  | found p =>
    have hheld : s.pc.holds = [p] := by rw [hpc]; rfl
    have hrequest := h.request
    rw [hheld] at hrequest
    have hnot := not_running h (Or.inr ⟨p, hpc⟩)
    dsimp only
    split
    · exact inv_put h hheld 0
    · split
      · exact ⟨hrequest, h.session, h.counted, fun cb hcb => absurd hcb (hnot cb)⟩
      · rename_i skb
        obtain ⟨htable, hdata⟩ := netlinkDump_data env
          ⟨req.info.portid, req.info.seq, req.info.family, p, 0, none⟩ s.world skb
        refine ⟨hrequest, h.session, fun q => ?_, fun cb hcb => Or.inl ⟨-eintr, ?_⟩⟩
        · rw [htable]
          exact h.counted q
        · rw [hdata cb hcb]
  | dumped p err => exact inv_put h (by rw [hpc]; rfl) err
  | returned err => exact h

/-- **One event.** -/
theorem inv_step (h : ExpInv s) (e : ExpEvent) : ExpInv (s.step req e) := by
  cases e with
  | request env dumpStart => exact inv_goOn h env dumpStart
  | read env skb =>
    unfold step
    dsimp only
    cases hcb : s.cb with
    | none => exact h
    | some cb =>
      obtain ⟨htable, hdata⟩ := netlinkDump_data env cb s.world skb
      refine inv_of_use h (fun q => ?_) fun cb' hcb' => ?_
      · rw [htable]
        exact h.counted q
      · rw [hdata cb' hcb']
        exact h.running cb hcb
  | close =>
    unfold step
    dsimp only
    cases hcb : s.cb with
    | none => exact h
    | some cb => exact inv_of_use h h.counted fun cb' hcb' => by cases hcb'
  | get p =>
    unfold step
    dsimp only
    split
    · refine inv_of_use h (fun q => (h.counted q).trans ?_) h.running
      rw [ExpWorld.withHeap_heap, CtHeap.use_get]
      split
      · push_cast
        omega
      · exact le_refl _
    · exact h
  | put p =>
    unfold step
    dsimp only
    split
    · rename_i hlt
      refine inv_of_use h (fun q => ?_) h.running
      rw [ExpWorld.withHeap_heap, CtHeap.use_put]
      by_cases hq : q = p
      · subst hq
        rw [if_pos rfl]
        omega
      · rw [if_neg hq]
        exact h.counted q
    · exact h
  | change w => exact inv_of_use h h.counted h.running

/-- **Every reachable state.** -/
theorem run_inv (req : ExpRequest) (world : ExpWorld) (l : List ExpEvent) :
    ExpInv (run (step req) (start world) l) :=
  run_invariant (start_inv world) (fun _ e h => inv_step h e) l

/-! ### Reads -/

/-- **One read.**  It is under a reference exactly if the request has not returned. -/
theorem held_iff (h : ExpInv s) (e : ExpEvent) :
    (∀ p, s.reads e = some p → s.Held p) ↔ ¬ s.ReadsLate e := by
  -- while the request stands behind its lookup it holds the conntrack
  have hheld : ∀ p, s.pc.holds = [p] → s.Held p := by
    intro p hholds
    have hrequest := h.request p
    have hsession := h.session p
    have hcounted := h.counted p
    rw [hholds, List.count_singleton_self] at hrequest
    rw [List.count_nil] at hsession
    refine ⟨by omega, fun hzero => ?_⟩
    rw [hzero] at hcounted
    omega
  cases e with
  | request env dumpStart =>
    refine iff_of_true (fun p hp => ?_) id
    cases dumpStart with
    | error err => cases hp
    | ok skb =>
      unfold reads at hp
      dsimp only at hp
      cases hpc : s.pc with
      | found q =>
        rw [hpc] at hp
        dsimp only at hp
        split at hp
        · cases hp
        · obtain rfl := Option.some.inj hp
          exact hheld q (by rw [hpc]; rfl)
      | start =>
        rw [hpc] at hp
        cases hp
      | dumped q err =>
        rw [hpc] at hp
        cases hp
      | returned err =>
        rw [hpc] at hp
        cases hp
  | read env skb =>
    show (∀ p, s.cb.map ExpCallback.data = some p → s.Held p) ↔ ¬ (s.cb.isSome ∧ ∃ err, s.pc = .returned err)
    cases hcb : s.cb with
    | none => exact iff_of_true (fun p hp => by cases hp) fun hlate => by cases hlate.1
    | some cb =>
      rcases h.running cb hcb with ⟨err, hpc⟩ | ⟨err, hpc⟩
      · refine iff_of_true (fun p hp => ?_) fun hlate => ?_
        · obtain rfl := Option.some.inj hp
          exact hheld cb.data (by rw [hpc]; rfl)
        · obtain ⟨-, err', hret⟩ := hlate
          rw [hpc] at hret
          cases hret
      · refine iff_of_false (fun hall => ?_) fun hno => hno ⟨rfl, err, hpc⟩
        have hone := (hall cb.data rfl).1
        have hrequest := h.request cb.data
        have hsession := h.session cb.data
        rw [hpc] at hrequest
        rw [show ExpRequestPc.holds (.returned err) = [] from rfl, List.count_nil] at hrequest
        rw [List.count_nil] at hsession
        omega
  | close => exact iff_of_true (fun p hp => by cases hp) id
  | get p => exact iff_of_true (fun p hp => by cases hp) id
  | put p => exact iff_of_true (fun p hp => by cases hp) id
  | change w => exact iff_of_true (fun p hp => by cases hp) id

/-- **The conntrack of an expectation dump** is read under a reference of the request or the session, and
before its last reference is gone, exactly if the client reads no part once the request has returned. -/
theorem reads_held_iff (req : ExpRequest) (world : ExpWorld) (l : List ExpEvent) :
    (∀ pre e post, l = pre ++ e :: post → ∀ p, (run (step req) (start world) pre).reads e = some p →
        (run (step req) (start world) pre).Held p) ↔
      ∀ pre e post, l = pre ++ e :: post → ¬ (run (step req) (start world) pre).ReadsLate e := by
  refine forall_congr' fun pre => forall_congr' fun e => forall_congr' fun post => forall_congr' fun _ => ?_
  exact held_iff (run_inv req world pre) e

/-! ### A dump in two parts -/

/-- A lookup: the first node of the namespace with the tuple, in the zone. -/
def sampleFind : NfConntrackFind := fun t net zone tuple =>
  t.chains.flatten.find? fun h =>
    (t.heap h.ct).net = net && nfCtTuple (t.heap h.ct) h.dir = tuple &&
      nfCtZoneId (t.heap h.ct).zone h.dir = nfCtZoneId zone h.dir

/-- A request for the expectations of 10.0.0.1:12345 to 10.0.0.2:80 in zone 100. -/
def sampleExpRequest : ExpRequest where
  fenv := kernelFilterEnv
  find := sampleFind
  info := ⟨0, 1, 1, 0, nfprotoIpv4⟩
  master := nestAttr .little ctaExpectMaster
    [nestAttr .little ctaTupleIp [nlaBe32 ctaIpV4Src 0x0a000001, nlaBe32 ctaIpV4Dst 0x0a000002],
      nestAttr .little ctaTupleProto
        [nlaU8 ctaProtoNum ipprotoTcp, nlaBe16 ctaProtoSrcPort 12345, nlaBe16 ctaProtoDstPort 80]]
  cda := nlaTable 11 [nlaBe16 ctaExpectZone 100]

/-- An expectation of conntrack 1 for its data connection. -/
def sampleExpect : NfConntrackExpect where
  tuple := sampleTuple 0x0a000002 0x0a000001 20 5000 0
  mask := ⟨⟨0xffffffff, 0, 0, 0⟩, 0⟩
  use := 1
  flags := 0
  cls := 0
  expectfn := 0
  helper := 0
  master := 1
  timeoutExpires := 0
  savedAddr := ⟨0, 0, 0, 0⟩
  savedProto := 0
  dir := 0

/-- Two conntracks with a helper, of which the first has an expectation. -/
def expectWorld : ExpWorld where
  table := (pairTable 1 2 one_ne_two_ptr).withHeap fun _ => { liveConn with help := some none }
  expectations := fun p => if p = 1 then [1] else []
  exps := fun _ => sampleExpect

def sampleExpEnv : ExpEnv where
  toNlEnv := sampleNlEnv
  jiffies := 0
  siphash := fun _ => 0
  siphash4u64 := fun _ _ _ _ => 0
  expectfnName := fun _ => none

/-- The request dumps the expectation and returns, and then the table drops its reference to the conntrack. -/
def deletedInBetween : List ExpEvent :=
  List.replicate 3 (.request sampleExpEnv (.ok (.empty 1000 (by decide)))) ++ [.put 1]

/-- When the client reads on, nobody holds the conntrack any more, and it is read. -/
theorem deletedInBetween_reads :
    ¬ ∀ pre e post, deletedInBetween ++ [.read sampleExpEnv (.empty 1000 (by decide))] = pre ++ e :: post →
      ∀ p, (run (step sampleExpRequest) (start expectWorld) pre).reads e = some p →
        (run (step sampleExpRequest) (start expectWorld) pre).Held p := by
  intro hall
  obtain ⟨s, hs⟩ : ∃ s, s = run (step sampleExpRequest) (start expectWorld) deletedInBetween := ⟨_, rfl⟩
  have hend : s.cb.map ExpCallback.data = some 1 ∧ (s.world.table.heap 1).use = 0 := by
    rw [hs]
    decide +kernel
  have hheld := hall deletedInBetween (.read sampleExpEnv (.empty 1000 (by decide))) [] rfl 1
  rw [← hs] at hheld
  exact (hheld hend.1).2 hend.2

end ExpSystem

end VgwDriver
