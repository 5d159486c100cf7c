import VgwDriver.Netlink.TableSpec

/-!
# Dumping the dying list

`ctnetlink_dump_dying` goes over the dying list of a namespace under its lock, and saves the conntrack whose
message did not fit any more, with a reference.  The next call passes over everything in front of the saved
conntrack; when that one has left the list meanwhile, it passes over everything, and declares the dump done.

* `ctnetlinkDumpDying` — one call;
* `DyingSession` — the calls of a dump, with the list each one finds;
* `dumpDying_spec` — **what one call does** with what it has before it;
* `dying_complete` — in a session whose calls all find the saved conntrack on the list, nobody is left out;
* `references_dropped` — whenever a session ends, it has dropped the references it took.
-/

namespace VgwDriver

open Base

/-! ### One call -/

/-- `struct ctnetlink_list_dump_ctx`; `cpu` is not used. -/
structure ListDumpCtx where
  last : Option CtPtr
  done : Bool
  deriving DecidableEq, Repr

/-- The fields of the request's headers. -/
structure DyingRequest where
  portid : UInt32
  seq : UInt32
  type : UInt8
  /-- `nfgen_family` -/
  family : UInt8

/-- `ctx->last`, the conntracks and the buffer; `fills` logs the calls of `ctnetlink_fill_info`. -/
structure DyingState where
  last : Option CtPtr
  heap : CtHeap
  skb : Buf
  fills : List (FillCall × ℕ)

section Call

variable (env : NlEnv) (req : DyingRequest)

/-- The call of `ctnetlink_fill_info` about `ct`. -/
def DyingRequest.fillCall (p : CtPtr) (ct : NfConn) : FillCall :=
  FillSource.dumpDying.call env req.portid req.seq req.type p ct

/-- `ctnetlink_dump_one_entry`. -/
def ctnetlinkDumpOneEntry (s : DyingState) (p : CtPtr) : ℤ × DyingState :=
  let ct := s.heap p
  if req.family ≠ 0 ∧ nfCtL3num ct ≠ req.family.toUInt16 then (0, s)
  else if s.last.isSome ∧ some p ≠ s.last then (0, s)
  else
    let c := req.fillCall env p ct
    match c.exec s.skb with
    | (res, acct, skb) =>
      let s : DyingState :=
        { last := none
          heap := s.heap.modify p fun ct => { ct with acct := acct }
          skb := skb
          fills := s.fills ++ [(c, s.skb.room)] }
      if res < 0 then
        if (s.heap p).use = 0 then (0, s) else (res, { s with heap := s.heap.get p, last := some p })
      else (res, s)

/-- `nf_ct_put`, which takes `NULL`. -/
def DyingState.put (s : DyingState) (last : Option CtPtr) : DyingState :=
  match last with
  | none => s
  | some p => { s with heap := s.heap.put p }

/-- `hlist_nulls_for_each_entry`, with the variable `last` of the function; the first component of the result
says whether it returned from the loop. -/
def dumpDyingList (last : Option CtPtr) (s : DyingState) : List CtPtr → Bool × Option CtPtr × DyingState
  | [] => (false, last, s)
  | p :: l =>
    if last.isSome ∧ last ≠ some p then dumpDyingList last s l
    else
      match ctnetlinkDumpOneEntry env req s p with
      | (res, s) => if res < 0 then (true, last, s.put last) else dumpDyingList none (s.put last) l

/-- `ctnetlink_dump_dying` on the dying list of the namespace: it returns the length of the buffer, or 0 once
it is done, and leaves its context. -/
def ctnetlinkDumpDying (dyingList : List CtPtr) (ctx : ListDumpCtx) (heap : CtHeap) (skb : Buf) :
    ℕ × ListDumpCtx × DyingState :=
  if ctx.done then (0, ctx, ⟨ctx.last, heap, skb, []⟩)
  else
    match dumpDyingList env req ctx.last ⟨none, heap, skb, []⟩ dyingList with
    | (true, _, s) => (s.skb.data.length, ⟨s.last, false⟩, s)
    | (false, last, s) =>
      let s := s.put last
      (s.skb.data.length, ⟨s.last, true⟩, s)

/-- `ctnetlink_done_list`. -/
def ctnetlinkDoneList (ctx : ListDumpCtx) (heap : CtHeap) : CtHeap :=
  match ctx.last with
  | none => heap
  | some p => heap.put p

end Call

/-! ### Sessions -/

/-- The conntrack at `p` is of the requested family. -/
def dyingWanted (req : DyingRequest) (heap : CtHeap) (p : CtPtr) : Bool :=
  req.family = 0 || nfCtL3num (heap p) = req.family.toUInt16

/-- The room the message about the conntrack at `p` takes. -/
def dyingNeed (env : NlEnv) (req : DyingRequest) (heap : CtHeap) (p : CtPtr) : ℕ → Option ℕ :=
  (req.fillCall env p (heap p)).need

/-- For every call of a session: the environment, the dying list and the conntracks it finds, and the size of
its buffer.  The list has each conntrack once, and a reference to it. -/
structure DyingSession where
  req : DyingRequest
  env : ℕ → NlEnv
  list : ℕ → List CtPtr
  heap : ℕ → CtHeap
  cap : ℕ → ℕ
  cap_lt : ∀ k, cap k < 65536
  nodup : ∀ k, (list k).Nodup
  held : ∀ k, ∀ p ∈ list k, (heap k p).use ≠ 0

namespace DyingSession

variable (s : DyingSession)

/-- The buffer of the `k`-th call. -/
def skb (k : ℕ) : Buf := Buf.empty (s.cap k) (s.cap_lt k)

/-- The context in front of the `k`-th call. -/
def ctx : ℕ → ListDumpCtx
  | 0 => ⟨none, false⟩
  | k + 1 => (ctnetlinkDumpDying (s.env k) s.req (s.list k) (ctx k) (s.heap k) (s.skb k)).2.1

/-- The `k`-th call. -/
def call (k : ℕ) : ℕ × ListDumpCtx × DyingState :=
  ctnetlinkDumpDying (s.env k) s.req (s.list k) (s.ctx k) (s.heap k) (s.skb k)

/-- The messages the `k`-th call completes. -/
def completed (k : ℕ) : List (FillCall × ℕ) :=
  (s.call k).2.2.fills.filter fun f => (f.1.attrs f.2).isSome

/-- The conntracks they are about. -/
def reported (k : ℕ) : List CtPtr := (s.completed k).map fun f => f.1.p

/-- The session has declared itself done when the `n`-th call returns. -/
def DoneBy (n : ℕ) : Prop := (s.ctx (n + 1)).done = true

/-- The conntrack at `p` is of the requested family, as the `k`-th call finds it. -/
def wanted (k : ℕ) (p : CtPtr) : Bool := dyingWanted s.req (s.heap k) p

/-- The conntracks of the requested family on the list of the `k`-th call. -/
def eligible (k : ℕ) : List CtPtr := (s.list k).filter (s.wanted k)

/-- The call of `ctnetlink_fill_info` the `k`-th call makes about the conntrack at `p`. -/
def fillCall (k : ℕ) (p : CtPtr) : FillCall := s.req.fillCall (s.env k) p (s.heap k p)

/-- The room its message takes. -/
def need (k : ℕ) : CtPtr → ℕ → Option ℕ := dyingNeed (s.env k) s.req (s.heap k)

/-- The buffer of the `k`-th call can hold at least one message, whichever comes first. -/
def Roomy (k : ℕ) : Prop := ∀ p ∈ s.eligible k, (s.need k p (s.cap k)).isSome

/-- If a conntrack is saved, the `k`-th call finds it on the list. -/
def FindsLast (k : ℕ) : Prop := ∀ p, (s.ctx k).last = some p → p ∈ s.list k

/-- What the `k`-th call has before it. -/
def todo (k : ℕ) : List CtPtr :=
  if (s.ctx k).done then [] else (onward (s.ctx k).last (s.list k)).filter (s.wanted k)

/-- The part of it that does not fit. -/
def left (k : ℕ) : List CtPtr := leftOver (s.need k) (s.cap k) (s.todo k)

end DyingSession

/-- A change of the dying list `l` into `l'` between two calls, while the session holds a reference to
`held`: some conntracks stay, in their order, and others leave or come.  The memory of a conntrack that is
held is not used for a new one. -/
structure DyingChange (held : Option CtPtr) (l l' : List CtPtr) where
  kept : List CtPtr
  kept_old : kept.Sublist l
  kept_new : kept.Sublist l'
  added : ∀ p ∈ l', p ∉ kept → held ≠ some p

/-! ### What one call does -/

section Walk

variable {env : NlEnv} {req : DyingRequest} {heap : CtHeap}

/-- The state `s'` has, over `s`, tried the messages of `todo` as far as they fit, and saved the first that
did not. -/
structure DyingTo (env : NlEnv) (req : DyingRequest) (heap : CtHeap) (todo : List CtPtr)
    (s s' : DyingState) : Prop where
  fills : s'.fills = s.fills ++ (attempts (dyingNeed env req heap) s.skb.room todo).map
    fun x => (req.fillCall env x.1 (heap x.1), x.2)
  skb : s.skb.Appended ((attempts (dyingNeed env req heap) s.skb.room todo).flatMap
    fun x => (req.fillCall env x.1 (heap x.1)).bytes x.2) s'.skb
  last : s'.last = (leftOver (dyingNeed env req heap) s.skb.room todo).head?

theorem DyingTo.nil {s s' : DyingState} (hfills : s'.fills = s.fills) (hskb : s'.skb = s.skb)
    (hlast : s'.last = none) : DyingTo env req heap [] s s' where
  fills := by simp [hfills]
  skb := by
    rw [hskb]
    exact Buf.Appended.nil s.skb
  last := hlast

@[simp] theorem put_fills (s : DyingState) (last : Option CtPtr) : (s.put last).fills = s.fills := by
  cases last <;> rfl

@[simp] theorem put_skb (s : DyingState) (last : Option CtPtr) : (s.put last).skb = s.skb := by
  cases last <;> rfl

@[simp] theorem put_last (s : DyingState) (last : Option CtPtr) : (s.put last).last = s.last := by
  cases last <;> rfl

/-- References make no difference to what was written. -/
theorem DyingTo.put {todo : List CtPtr} {s s' : DyingState} (h : DyingTo env req heap todo s s')
    (last : Option CtPtr) : DyingTo env req heap todo s (s'.put last) where
  fills := by
    rw [put_fills]
    exact h.fills
  skb := by
    rw [put_skb]
    exact h.skb
  last := by
    rw [put_last]
    exact h.last

/-- Nor do they to what is tried after them. -/
theorem DyingTo.of_put {todo : List CtPtr} {s s' : DyingState} {last : Option CtPtr}
    (h : DyingTo env req heap todo (s.put last) s') : DyingTo env req heap todo s s' := by
  obtain ⟨hfills, hskb, hlast⟩ := h
  rw [put_skb] at hfills hskb hlast
  rw [put_fills] at hfills
  exact ⟨hfills, hskb, hlast⟩

theorem put_heap_of_ne {s : DyingState} {last : Option CtPtr} {q : CtPtr} (hq : last ≠ some q) :
    (s.put last).heap q = s.heap q := by
  cases last with
  | none => rfl
  | some p =>
    have hne : q ≠ p := fun heq => hq (congrArg some heq.symm)
    exact CtHeap.put_of_ne _ hne

/-- A conntrack of another family is passed over. -/
theorem dumpOneEntry_unwanted {s : DyingState} {p : CtPtr} (hrec : s.heap p = heap p)
    (h : dyingWanted req heap p = false) : ctnetlinkDumpOneEntry env req s p = (0, s) := by
  rw [dyingWanted] at h
  have hfamily : req.family ≠ 0 ∧ nfCtL3num (s.heap p) ≠ req.family.toUInt16 := by
    rw [hrec]
    simpa using h
  exact if_pos hfamily

/-- **One entry** of the requested family: its message is tried, and the conntrack saved if it does not
fit. -/
theorem dumpOneEntry_wanted {s : DyingState} {p : CtPtr} (hlast : s.last = none) (hrec : s.heap p = heap p)
    (huse : (heap p).use ≠ 0) (h : dyingWanted req heap p = true) :
    ∃ res s', ctnetlinkDumpOneEntry env req s p = (res, s') ∧
      (res < 0 ↔ dyingNeed env req heap p s.skb.room = none) ∧
      s'.fills = s.fills ++ [(req.fillCall env p (heap p), s.skb.room)] ∧
      s.skb.Appended ((req.fillCall env p (heap p)).bytes s.skb.room) s'.skb ∧
      s'.skb.room = s.skb.room - (dyingNeed env req heap p s.skb.room).getD 0 ∧
      s'.last = (if res < 0 then some p else none) ∧ ∀ q, q ≠ p → s'.heap q = s.heap q := by
  have hfamily : ¬ (req.family ≠ 0 ∧ nfCtL3num (heap p) ≠ req.family.toUInt16) := by
    rw [dyingWanted] at h
    simp only [Bool.or_eq_true, decide_eq_true_eq] at h
    rintro ⟨hne, hne'⟩
    exact h.elim hne hne'
  obtain ⟨res, b', hexec, happ, hres, hroom⟩ := (req.fillCall env p (heap p)).exec_spec s.skb
  have hheld : ((s.heap.modify p fun ct =>
      { ct with acct := (req.fillCall env p (heap p)).acctAfter s.skb.room }) p).use ≠ 0 := by
    rw [CtHeap.modify_self, hrec]
    exact huse
  rw [ctnetlinkDumpOneEntry]
  simp only [hrec, hlast, hexec, hheld, if_neg hfamily, Option.isSome_none, Bool.false_eq_true, false_and,
    if_false]
  by_cases hneg : res < 0
  · rw [if_pos hneg]
    refine ⟨_, _, rfl, hres, rfl, happ, hroom, (if_pos hneg).symm, fun q hq => ?_⟩
    show CtHeap.get _ p q = s.heap q
    rw [CtHeap.get_of_ne _ hq, CtHeap.modify_of_ne _ _ hq]
  · rw [if_neg hneg]
    refine ⟨_, _, rfl, hres, rfl, happ, hroom, (if_neg hneg).symm, fun q hq => ?_⟩
    dsimp only
    rw [CtHeap.modify_of_ne _ _ hq]

/-- The first message does not fit. -/
theorem DyingTo.stop {p : CtPtr} {todo : List CtPtr} {s s' : DyingState}
    (hneed : dyingNeed env req heap p s.skb.room = none)
    (hfills : s'.fills = s.fills ++ [(req.fillCall env p (heap p), s.skb.room)])
    (hskb : s.skb.Appended ((req.fillCall env p (heap p)).bytes s.skb.room) s'.skb)
    (hlast : s'.last = some p) : DyingTo env req heap (p :: todo) s s' := by
  obtain ⟨ha, -, hleft, -⟩ := fill_stops hneed todo
  refine ⟨?_, ?_, ?_⟩
  · rw [hfills, ha]
    rfl
  · rw [ha]
    simpa using hskb
  · rw [hlast, hleft]
    rfl

/-- The first message fits, and the others follow it. -/
theorem DyingTo.cons {p : CtPtr} {todo : List CtPtr} {s s' s'' : DyingState} {n : ℕ}
    (hneed : dyingNeed env req heap p s.skb.room = some n)
    (hfills : s'.fills = s.fills ++ [(req.fillCall env p (heap p), s.skb.room)])
    (hskb : s.skb.Appended ((req.fillCall env p (heap p)).bytes s.skb.room) s'.skb)
    (hroom : s'.skb.room = s.skb.room - n) (hrest : DyingTo env req heap todo s' s'') :
    DyingTo env req heap (p :: todo) s s'' := by
  obtain ⟨ha, -, hleft, -⟩ := fill_fits hneed todo
  obtain ⟨hf, hb, hl⟩ := hrest
  rw [hroom] at hf hb hl
  refine ⟨?_, ?_, ?_⟩
  · rw [hf, hfills, ha]
    simp
  · rw [ha, List.flatMap_cons]
    exact hskb.trans hb
  · rw [hl, hleft]

/-- **The walk** over what is left of the list: from `last` on, the messages of the requested family are
tried as far as they fit. -/
theorem dumpDyingList_spec (l : List CtPtr) (hl : l.Nodup) (huse : ∀ p ∈ l, (heap p).use ≠ 0) :
    ∀ (last : Option CtPtr) (s : DyingState), s.last = none → (∀ p ∈ l, s.heap p = heap p) →
      DyingTo env req heap ((onward last l).filter (dyingWanted req heap)) s
          (dumpDyingList env req last s l).2.2 ∧
        ((dumpDyingList env req last s l).1 = true ↔ leftOver (dyingNeed env req heap) s.skb.room
          ((onward last l).filter (dyingWanted req heap)) ≠ []) := by
  induction l with
  | nil =>
    intro last s hlast _
    rw [onward_nil, List.filter_nil, leftOver_nil]
    exact ⟨DyingTo.nil rfl rfl hlast, by simp [dumpDyingList]⟩
  | cons p l ih =>
    intro last s hlast hrec
    have hl' := List.nodup_cons.mp hl
    have huse' : ∀ q ∈ l, (heap q).use ≠ 0 := fun q hq => huse q (List.mem_cons_of_mem p hq)
    have hne : ∀ q ∈ l, q ≠ p := fun q hq heq => hl'.1 (heq ▸ hq)
    by_cases hskip : last.isSome ∧ last ≠ some p
    · -- in front of the saved conntrack
      obtain ⟨x, rfl⟩ := Option.isSome_iff_exists.mp hskip.1
      have hpx : p ≠ x := fun heq => hskip.2 (congrArg some heq.symm)
      rw [dumpDyingList, if_pos hskip, onward_cons_of_ne hpx]
      exact ih hl'.2 huse' _ s hlast fun q hq => hrec q (List.mem_cons_of_mem p hq)
    · -- at or behind it
      have honward : onward last (p :: l) = p :: l := by
        cases last with
        | none => rfl
        | some x =>
          have hxp : x = p := by
            by_contra hxp
            exact hskip ⟨rfl, fun heq => hxp (Option.some.inj heq)⟩
          rw [hxp, onward_cons_self]
      have hput : ∀ q ∈ l, last ≠ some q := by
        intro q hq heq
        exact hskip ⟨by rw [heq]; rfl, by
          rw [heq]
          exact fun h => hne q hq (Option.some.inj h)⟩
      rw [dumpDyingList, if_neg hskip, honward]
      cases hwanted : dyingWanted req heap p with
      | false =>
        rw [List.filter_cons_of_neg (by simp [hwanted]),
          dumpOneEntry_unwanted (hrec p List.mem_cons_self) hwanted]
        obtain ⟨hto, hstop⟩ := ih hl'.2 huse' none (s.put last) (by rw [put_last, hlast]) fun q hq => by
          rw [put_heap_of_ne (hput q hq)]
          exact hrec q (List.mem_cons_of_mem p hq)
        rw [put_skb] at hstop
        exact ⟨hto.of_put, hstop⟩
      | true =>
        rw [List.filter_cons_of_pos hwanted]
        obtain ⟨res, s', hrun, hres, hfills, happ, hroom, hlast', hframe⟩ := @dumpOneEntry_wanted env req heap
          s p hlast (hrec p List.mem_cons_self) (huse p List.mem_cons_self) hwanted
        rw [hrun]
        dsimp only
        cases hneed : dyingNeed env req heap p s.skb.room with
        | none =>
          have hneg : res < 0 := hres.mpr hneed
          obtain ⟨-, -, hleft, -⟩ := fill_stops hneed (l.filter (dyingWanted req heap))
          rw [if_pos hneg] at hlast' ⊢
          rw [hleft]
          exact ⟨(DyingTo.stop hneed hfills happ hlast').put last, by simp⟩
        | some n =>
          have hpos : ¬ res < 0 := by
            rw [hres, hneed]
            exact Option.some_ne_none n
          obtain ⟨-, -, hleft, -⟩ := fill_fits hneed (l.filter (dyingWanted req heap))
          rw [if_neg hpos] at hlast' ⊢
          rw [hneed] at hroom
          obtain ⟨hto, hstop⟩ := ih hl'.2 huse' none (s'.put last) (by rw [put_last, hlast']) fun q hq => by
            rw [put_heap_of_ne (hput q hq), hframe q (hne q hq)]
            exact hrec q (List.mem_cons_of_mem p hq)
          rw [put_skb, hroom] at hstop
          rw [hleft]
          exact ⟨DyingTo.cons hneed hfills happ hroom hto.of_put, hstop⟩

end Walk

namespace DyingSession

variable {s : DyingSession}

/-- **What one call does** with what it has before it: it tries the messages as far as they fit, saves the
first conntrack whose message did not, and declares the session done if there is none. -/
theorem dumpDying_spec (k : ℕ) :
    (s.call k).2.2.fills = (attempts (s.need k) (s.cap k) (s.todo k)).map
        (fun x => (s.fillCall k x.1, x.2)) ∧
      (s.call k).2.2.skb.data = (attempts (s.need k) (s.cap k) (s.todo k)).flatMap
        (fun x => (s.fillCall k x.1).bytes x.2) ∧
      (s.call k).1 = (s.call k).2.2.skb.data.length ∧
      ((s.ctx (k + 1)).done = true ↔ s.left k = []) ∧
      ((s.ctx k).done = false → (s.ctx (k + 1)).last = (s.left k).head?) := by
  have hctx : s.ctx (k + 1) = (s.call k).2.1 := rfl
  rw [hctx, left, todo]
  cases hdone : (s.ctx k).done with
  | true =>
    have hrun : s.call k = (0, s.ctx k, ⟨(s.ctx k).last, s.heap k, s.skb k, []⟩) := by
      rw [call, ctnetlinkDumpDying, if_pos hdone]
    rw [hrun, if_pos rfl, leftOver_nil]
    exact ⟨rfl, rfl, rfl, by simp [hdone], fun h => by cases h⟩
  | false =>
    rw [if_neg Bool.false_ne_true]
    obtain ⟨hto, hstop⟩ := @dumpDyingList_spec (s.env k) s.req (s.heap k) (s.list k) (s.nodup k)
      (s.held k) (s.ctx k).last ⟨none, s.heap k, s.skb k, []⟩ rfl fun _ _ => rfl
    obtain ⟨stop, last, s', hlist⟩ : ∃ stop last s', dumpDyingList (s.env k) s.req (s.ctx k).last
        ⟨none, s.heap k, s.skb k, []⟩ (s.list k) = (stop, last, s') := ⟨_, _, _, rfl⟩
    rw [hlist] at hto
    replace hstop : stop = true ↔ leftOver (s.need k) (s.cap k)
        ((onward (s.ctx k).last (s.list k)).filter (s.wanted k)) ≠ [] := by
      rw [hlist] at hstop
      exact hstop
    have hrun : s.call k = if stop then (s'.skb.data.length, ⟨s'.last, false⟩, s') else
        ((s'.put last).skb.data.length, ⟨(s'.put last).last, true⟩, s'.put last) := by
      rw [call, ctnetlinkDumpDying, hdone, if_neg Bool.false_ne_true, hlist]
      cases stop <;> rfl
    have hdata : ∀ s'' : DyingState, DyingTo (s.env k) s.req (s.heap k)
        ((onward (s.ctx k).last (s.list k)).filter (s.wanted k)) ⟨none, s.heap k, s.skb k, []⟩ s'' →
        s''.skb.data = (attempts (s.need k) (s.cap k)
          ((onward (s.ctx k).last (s.list k)).filter (s.wanted k))).flatMap
            (fun x => (s.fillCall k x.1).bytes x.2) := fun s'' h => h.skb.1
    rw [hrun]
    cases stop with
    | true => exact ⟨hto.fills, hdata s' hto, rfl, by simpa using hstop, fun _ => hto.last⟩
    | false =>
      have hto' := hto.put last
      exact ⟨hto'.fills, hdata _ hto', rfl, by simpa using hstop, fun _ => hto'.last⟩

theorem ctx_succ_of_done {k : ℕ} (h : (s.ctx k).done = true) : s.ctx (k + 1) = s.ctx k := by
  show (ctnetlinkDumpDying (s.env k) s.req (s.list k) (s.ctx k) (s.heap k) (s.skb k)).2.1 = s.ctx k
  rw [ctnetlinkDumpDying, if_pos h]

/-- Nothing is saved once the session is done. -/
theorem last_of_done (k : ℕ) (h : (s.ctx k).done = true) : (s.ctx k).last = none := by
  induction k with
  | zero => rfl
  | succ k ih =>
    cases hdone : (s.ctx k).done with
    | true =>
      rw [ctx_succ_of_done hdone]
      exact ih hdone
    | false =>
      obtain ⟨-, -, -, hleft, hlast⟩ := s.dumpDying_spec k
      rw [hlast hdone, hleft.mp h]
      rfl

theorem reported_eq (k : ℕ) : s.reported k = placed (s.need k) (s.cap k) (s.todo k) := by
  rw [reported, completed, (dumpDying_spec k).1]
  exact FillCall.completed_attempts (s.fillCall k) (fun _ => rfl) _ _

theorem reported_append_left (k : ℕ) : s.reported k ++ s.left k = s.todo k := by
  rw [reported_eq]
  exact placed_append_leftOver _ _

/-- The buffer of a call holds the messages it completes, and nothing else. -/
theorem buffer_eq (k : ℕ) :
    (s.call k).2.2.skb.data = (s.completed k).flatMap fun f => f.1.bytes f.2 := by
  obtain ⟨hfills, hdata, -⟩ := s.dumpDying_spec k
  rw [completed, ← FillCall.flatMap_bytes, hdata, hfills, List.flatMap_map]

theorem left_suffix_todo (k : ℕ) : s.left k <:+ s.todo k := ⟨_, reported_append_left k⟩

theorem todo_subset {k : ℕ} {p : CtPtr} (h : p ∈ s.todo k) : p ∈ s.eligible k := by
  rw [todo] at h
  split at h
  · cases h
  · obtain ⟨hp, hw⟩ := List.mem_filter.mp h
    exact List.mem_filter.mpr ⟨(onward_suffix _ _).subset hp, hw⟩

/-- Where a call stopped: it has saved the first conntrack that is left, and what is left are the wanted ones
from there on. -/
theorem left_cons {k : ℕ} {x : CtPtr} {rest : List CtPtr} (h : s.left k = x :: rest) :
    (s.ctx (k + 1)).done = false ∧ (s.ctx (k + 1)).last = some x ∧
      (onward (some x) (s.list k)).filter (s.wanted k) = x :: rest := by
  obtain ⟨-, -, -, hdone, hlast⟩ := s.dumpDying_spec k
  rw [h] at hdone hlast
  have hrunning : (s.ctx k).done = false := by
    cases hd : (s.ctx k).done with
    | false => rfl
    | true =>
      have hnil : s.left k = [] := by
        rw [left, todo, if_pos hd, leftOver_nil]
      rw [h] at hnil
      cases hnil
  have hsuffix : x :: rest <:+ (s.list k).filter (s.wanted k) := by
    rw [← h]
    refine (left_suffix_todo k).trans ?_
    rw [todo, hrunning, if_neg Bool.false_ne_true]
    exact (onward_suffix _ _).filter _
  refine ⟨?_, hlast hrunning, onward_filter_of_suffix (s.nodup k) hsuffix⟩
  cases hd : (s.ctx (k + 1)).done with
  | false => rfl
  | true =>
    have hnil := hdone.mp hd
    cases hnil

/-- What is saved was on the list. -/
theorem mem_of_last {k : ℕ} {p : CtPtr} (h : (s.ctx (k + 1)).last = some p) : p ∈ s.list k := by
  cases hleft : s.left k with
  | nil =>
    rw [last_of_done (k + 1) ((s.dumpDying_spec k).2.2.2.1.mpr hleft)] at h
    cases h
  | cons x rest =>
    obtain ⟨-, hlast, honward⟩ := left_cons hleft
    obtain rfl := Option.some.inj (hlast.symm.trans h)
    have hx : x ∈ (onward (some x) (s.list k)).filter (s.wanted k) := by
      rw [honward]
      exact List.mem_cons_self
    exact (onward_suffix _ _).subset (List.mem_filter.mp hx).1

/-- What is saved is found if nothing leaves the list. -/
theorem findsLast_succ {k : ℕ} (h : s.list k ⊆ s.list (k + 1)) : s.FindsLast (k + 1) :=
  fun _ hp => h (mem_of_last hp)

/-- **A call that does not find the saved conntrack** reports nothing, and declares the session done. -/
theorem done_of_not_findsLast {k : ℕ} (h : ¬ s.FindsLast k) : s.reported k = [] ∧ s.DoneBy k := by
  obtain ⟨p, hp⟩ := not_forall.mp h
  obtain ⟨hlast, hgone⟩ := Classical.not_imp.mp hp
  have htodo : s.todo k = [] := by
    rw [todo, hlast, onward_some_eq_nil.mpr hgone, List.filter_nil, ite_self]
  have hsplit := s.reported_append_left k
  rw [htodo] at hsplit
  obtain ⟨hreported, hleft⟩ := List.append_eq_nil_iff.mp hsplit
  exact ⟨hreported, (s.dumpDying_spec k).2.2.2.1.mpr hleft⟩

/-- **A conntrack that stays is not passed over**, if the next call finds the one the last call stopped at. -/
theorem mem_todo_succ {k : ℕ} {y : CtPtr}
    (change : DyingChange (s.ctx (k + 1)).last (s.list k) (s.list (k + 1))) (hkept : y ∈ change.kept)
    (hfinds : s.FindsLast (k + 1)) (hafter : y ∈ s.eligible (k + 1)) (hy : y ∈ s.left k) :
    y ∈ s.todo (k + 1) := by
  cases hleft : s.left k with
  | nil =>
    rw [hleft] at hy
    cases hy
  | cons x rest =>
    obtain ⟨hrunning, hlast, honward⟩ := left_cons hleft
    rw [hleft, ← honward] at hy
    have hx := hfinds x hlast
    have hxkept : x ∈ change.kept := by
      by_contra hnot
      exact change.added x hx hnot hlast
    rw [todo, hrunning, if_neg Bool.false_ne_true, hlast]
    refine List.mem_filter.mpr ⟨mem_onward.mpr ?_, (List.mem_filter.mp hafter).2⟩
    rcases mem_onward.mp (List.mem_filter.mp hy).1 with ⟨hxy, -⟩ | hxy
    · exact Or.inl ⟨hxy, hx⟩
    · exact Or.inr ((order_of_sublist (s.nodup k) change.kept_old hxkept hkept hxy).trans change.kept_new)

/-- A conntrack that is there all the time is reported, or is still before the call. -/
theorem reported_or_mem_todo {n : ℕ} {y : CtPtr}
    (change : ∀ k < n, DyingChange (s.ctx (k + 1)).last (s.list k) (s.list (k + 1)))
    (hkept : ∀ k (hk : k < n), y ∈ (change k hk).kept) (hfinds : ∀ k ≤ n, s.FindsLast k)
    (hpresent : ∀ k ≤ n, y ∈ s.eligible k) : (∃ k < n, y ∈ s.reported k) ∨ y ∈ s.todo n := by
  induction n with
  | zero => exact Or.inr (hpresent 0 (Nat.le_refl 0))
  | succ n ih =>
    rcases ih (fun k hk => change k (by omega)) (fun k hk => hkept k (by omega))
      (fun k hk => hfinds k (by omega)) (fun k hk => hpresent k (by omega)) with ⟨k, hk, hy⟩ | hy
    · exact Or.inl ⟨k, by omega, hy⟩
    · rw [← reported_append_left] at hy
      rcases List.mem_append.mp hy with hy | hy
      · exact Or.inl ⟨n, by omega, hy⟩
      · exact Or.inr (mem_todo_succ (change n (by omega)) (hkept n (by omega)) (hfinds (n + 1) (Nat.le_refl _))
          (hpresent (n + 1) (Nat.le_refl _)) hy)

/-! ### A list that does not change, or only gets shorter -/

/-- The list is the same before the next call, and the families of the conntracks on it. -/
structure Unchanged (s : DyingSession) (k : ℕ) : Prop where
  list : s.list (k + 1) = s.list k
  wanted : ∀ p ∈ s.list k, s.wanted (k + 1) p = s.wanted k p

/-- Conntracks may leave the list before the next call, and nothing else happens to it. -/
structure Shrinks (s : DyingSession) (k : ℕ) : Prop where
  list : (s.list (k + 1)).Sublist (s.list k)
  wanted : ∀ p ∈ s.list (k + 1), s.wanted (k + 1) p = s.wanted k p

theorem Unchanged.todo_succ {k : ℕ} (h : s.Unchanged k) : s.todo (k + 1) = s.left k := by
  cases hleft : s.left k with
  | nil =>
    have hdone : (s.ctx (k + 1)).done = true := (s.dumpDying_spec k).2.2.2.1.mpr hleft
    rw [todo, if_pos hdone]
  | cons x rest =>
    obtain ⟨hrunning, hlast, honward⟩ := left_cons hleft
    rw [todo, hrunning, if_neg Bool.false_ne_true, hlast, h.list, ← honward]
    exact List.filter_congr fun p hp => h.wanted p ((onward_suffix _ _).subset hp)

/-- **Over a list that does not change** the calls report what is eligible, in order. -/
theorem reports_append_todo {n : ℕ} (hunchanged : ∀ k < n, s.Unchanged k) :
    (List.range n).flatMap s.reported ++ s.todo n = s.eligible 0 := by
  induction n with
  | zero => rfl
  | succ n ih =>
    rw [List.range_succ, List.flatMap_append, List.flatMap_singleton, List.append_assoc,
      (hunchanged n (Nat.lt_succ_self n)).todo_succ, reported_append_left]
    exact ih fun k hk => hunchanged k (by omega)

theorem reported_ne_nil {k : ℕ} (hroomy : s.Roomy k) (h : s.todo k ≠ []) : s.reported k ≠ [] := by
  obtain ⟨p, rest, htodo⟩ := List.exists_cons_of_ne_nil h
  have hmem : p ∈ s.eligible k := todo_subset (by rw [htodo]; exact List.mem_cons_self)
  obtain ⟨rest', hplaced⟩ := placed_cons (l := rest) (hroomy p hmem)
  rw [reported_eq, htodo, hplaced]
  exact List.cons_ne_nil _ _

/-- A call that writes nothing, though its buffer could hold a message, has declared the session done. -/
theorem doneBy_of_call {n : ℕ} (hroomy : s.Roomy n) (h : (s.call n).1 = 0) : s.DoneBy n := by
  obtain ⟨-, -, hlen, hdone, -⟩ := s.dumpDying_spec n
  rw [hlen] at h
  have hdata := List.length_eq_zero_iff.mp h
  rw [buffer_eq] at hdata
  have hnil : s.completed n = [] := FillCall.completed_eq_nil (fun f hf => (List.mem_filter.mp hf).2) hdata
  have hreported : s.reported n = [] := by
    rw [reported, hnil]
    rfl
  have htodo : s.todo n = [] := by
    by_contra hne
    exact reported_ne_nil hroomy hne hreported
  refine hdone.mpr ?_
  rw [left, htodo, leftOver_nil]

/-- **A list that only gets shorter**: every call that does not declare the session done leaves less to the
next one. -/
theorem Shrinks.length_todo_lt {k : ℕ} (h : s.Shrinks k) (hroomy : s.Roomy k) (hrunning : ¬ s.DoneBy k) :
    (s.todo (k + 1)).length < (s.todo k).length := by
  have hdone := (s.dumpDying_spec k).2.2.2.1
  obtain ⟨x, rest, hleft⟩ := List.exists_cons_of_ne_nil fun hnil => hrunning (hdone.mpr hnil)
  obtain ⟨hctx, hlast, honward⟩ := left_cons hleft
  have hsub : s.todo (k + 1) ⊆ s.left k := by
    intro p hp
    rw [todo, hctx, if_neg Bool.false_ne_true, hlast] at hp
    obtain ⟨hp, hw⟩ := List.mem_filter.mp hp
    have hplist : p ∈ s.list (k + 1) := (onward_suffix _ _).subset hp
    rw [h.wanted p hplist] at hw
    rw [hleft, ← honward]
    refine List.mem_filter.mpr ⟨mem_onward.mpr ?_, hw⟩
    rcases mem_onward.mp hp with ⟨rfl, hx⟩ | hxp
    · exact Or.inl ⟨rfl, h.list.subset hx⟩
    · exact Or.inr (hxp.trans h.list)
  have hnodup : (s.todo (k + 1)).Nodup := by
    rw [todo]
    split
    · exact List.nodup_nil
    · exact ((s.nodup (k + 1)).sublist (onward_suffix _ _).sublist).filter _
  have hle := List.Nodup.length_le_of_subset hnodup hsub
  have hne : s.reported k ≠ [] := reported_ne_nil hroomy fun hnil => by
    have hsuffix := s.left_suffix_todo k
    rw [hnil, hleft, List.suffix_nil] at hsuffix
    cases hsuffix
  have hlen := congrArg List.length (s.reported_append_left k)
  have hpos := List.length_pos_iff.mpr hne
  rw [List.length_append] at hlen
  omega

theorem exists_doneBy (hroomy : ∀ k, s.Roomy k) (hshrinks : ∀ k, s.Shrinks k) : ∃ n, s.DoneBy n := by
  by_contra hnever
  have hlen : ∀ n, (s.todo n).length + n ≤ (s.todo 0).length := by
    intro n
    induction n with
    | zero => exact Nat.le_refl _
    | succ n ih =>
      have hlt := (hshrinks n).length_todo_lt (hroomy n) fun hdone => hnever ⟨n, hdone⟩
      omega
  have hlast := hlen ((s.todo 0).length + 1)
  omega

/-- Everybody is reported: a conntrack of the requested family that stays on the list before the session
declares itself done, and each exactly once if nothing is removed or added; a call that writes nothing means
that the session is done, and if conntracks are only removed it comes to its end. -/
structure Complete (s : DyingSession) : Prop where
  stays : ∀ n, s.DoneBy n →
    ∀ change : ∀ k < n, DyingChange (s.ctx (k + 1)).last (s.list k) (s.list (k + 1)),
      ∀ y, (∀ k ≤ n, y ∈ s.eligible k) → (∀ k (hk : k < n), y ∈ (change k hk).kept) →
        ∃ k ≤ n, y ∈ s.reported k
  once : ∀ n, s.DoneBy n → (∀ k < n, s.Unchanged k) →
    (List.range (n + 1)).flatMap s.reported = s.eligible 0 ∧ (s.eligible 0).Nodup
  done : ∀ n, (s.call n).1 = 0 → s.DoneBy n
  ends : (∀ k, s.Shrinks k) → ∃ n, s.DoneBy n

end DyingSession

/-- **A dump of the dying list**, into buffers that each hold at least one message, leaves nobody out if every
call finds the conntrack that the call before has saved. -/
theorem dying_complete (s : DyingSession) (hroomy : ∀ k, s.Roomy k) (hfinds : ∀ k, s.FindsLast k) :
    s.Complete where
  stays := by
    intro n hdone change y hpresent hkept
    rcases DyingSession.reported_or_mem_todo change hkept (fun k _ => hfinds k) hpresent with ⟨k, hk, hy⟩ | hy
    · exact ⟨k, by omega, hy⟩
    · have hleft := (s.dumpDying_spec n).2.2.2.1.mp hdone
      rw [← s.reported_append_left n, hleft, List.append_nil] at hy
      exact ⟨n, Nat.le_refl n, hy⟩
  once := by
    intro n hdone hunchanged
    have hall := DyingSession.reports_append_todo hunchanged
    have hleft := (s.dumpDying_spec n).2.2.2.1.mp hdone
    rw [← s.reported_append_left n, hleft, List.append_nil] at hall
    refine ⟨?_, (s.nodup 0).filter _⟩
    rw [List.range_succ, List.flatMap_append, List.flatMap_singleton, hall]
  done := fun n h => DyingSession.doneBy_of_call (hroomy n) h
  ends := DyingSession.exists_doneBy hroomy

/-! ### References -/

section References

variable {env : NlEnv} {req : DyingRequest} {last : Option CtPtr}

/-- The references to the conntrack at `q` that saving `last` accounts for. -/
def savedRefs (last : Option CtPtr) (q : CtPtr) : ℕ := if last = some q then 1 else 0

theorem use_put {s : DyingState} (hheld : ∀ p, last = some p → 0 < (s.heap p).use) (q : CtPtr) :
    ((s.put last).heap q).use + savedRefs last q = (s.heap q).use := by
  unfold savedRefs
  cases last with
  | none => rfl
  | some p =>
    have hpos := hheld p rfl
    show ((s.heap.put p) q).use + _ = _
    rw [CtHeap.use_put]
    by_cases hq : q = p
    · rw [if_pos hq, if_pos (congrArg some hq.symm), hq]
      omega
    · rw [if_neg hq, if_neg fun heq => hq (Option.some.inj heq).symm, Nat.add_zero]

/-- One entry takes a reference to what it saves, and no other. -/
theorem dumpOneEntry_use {s : DyingState} (hlast : s.last = none) (p : CtPtr) :
    (∀ q, ((ctnetlinkDumpOneEntry env req s p).2.heap q).use
      = (s.heap q).use + savedRefs (ctnetlinkDumpOneEntry env req s p).2.last q) ∧
      (¬ (ctnetlinkDumpOneEntry env req s p).1 < 0 → (ctnetlinkDumpOneEntry env req s p).2.last = none) := by
  have hidle : ∀ q, (s.heap q).use = (s.heap q).use + savedRefs s.last q := by
    intro q
    rw [hlast]
    rfl
  have hmodify : ∀ acct q, ((s.heap.modify p fun ct => { ct with acct := acct }) q).use = (s.heap q).use :=
    fun acct q => CtHeap.modify_rel (R := fun c c' => c'.use = c.use) (fun _ => rfl) rfl
  unfold ctnetlinkDumpOneEntry
  dsimp only
  split
  · exact ⟨hidle, fun _ => hlast⟩
  · split
    · exact ⟨hidle, fun _ => hlast⟩
    · split
      · next hneg =>
        split
        · exact ⟨fun q => hmodify _ q, fun _ => rfl⟩
        · refine ⟨fun q => ?_, fun hpos => absurd hneg hpos⟩
          dsimp only
          rw [CtHeap.use_get, hmodify]
          unfold savedRefs
          by_cases hq : q = p
          · rw [if_pos hq, if_pos (congrArg some hq.symm)]
          · rw [if_neg hq, if_neg fun heq => hq (Option.some.inj heq).symm, Nat.add_zero]
      · exact ⟨fun q => hmodify _ q, fun _ => rfl⟩

/-- What the walk leaves of the references: the one of `last`, until it is dropped, and the one of what is
saved. -/
structure DyingRefs (last : Option CtPtr) (s : DyingState) (r : Bool × Option CtPtr × DyingState) : Prop where
  use : ∀ q, (r.2.2.heap q).use + savedRefs last q
    = (s.heap q).use + savedRefs r.2.2.last q + if r.1 then 0 else savedRefs r.2.1 q
  held : r.1 = false → ∀ p, r.2.1 = some p → 0 < (r.2.2.heap p).use

theorem dumpDyingList_refs (l : List CtPtr) {s : DyingState} (hlast : s.last = none)
    (hheld : ∀ p, last = some p → 0 < (s.heap p).use) : DyingRefs last s (dumpDyingList env req last s l) := by
  induction l generalizing last s with
  | nil =>
    refine ⟨fun q => ?_, fun _ => hheld⟩
    show (s.heap q).use + savedRefs last q = (s.heap q).use + savedRefs s.last q + savedRefs last q
    rw [hlast]
    rfl
  | cons p l ih =>
    by_cases hskip : last.isSome ∧ last ≠ some p
    · rw [dumpDyingList, if_pos hskip]
      exact ih hlast hheld
    · rw [dumpDyingList, if_neg hskip]
      obtain ⟨huse, hgoes⟩ := @dumpOneEntry_use env req s hlast p
      obtain ⟨res, s', hrun⟩ : ∃ res s', ctnetlinkDumpOneEntry env req s p = (res, s') := ⟨_, _, rfl⟩
      rw [hrun] at huse hgoes ⊢
      dsimp only at huse hgoes ⊢
      -- the conntrack at `last` is still held, so that its reference can be dropped
      have hput := @use_put last s' fun x hx => by
        have hpos := hheld x hx
        have hx' := huse x
        omega
      by_cases hneg : res < 0
      · rw [if_pos hneg]
        refine ⟨fun q => ?_, fun h => by cases h⟩
        dsimp only
        rw [put_last, hput, huse]
        rfl
      · rw [if_neg hneg]
        have hnone := hgoes hneg
        obtain ⟨hrest, hheld'⟩ := @ih none (s'.put last) (by rw [put_last, hnone]) fun x hx => by cases hx
        refine ⟨fun q => ?_, hheld'⟩
        have hq := hrest q
        have hq' := hput q
        rw [huse, hnone] at hq'
        have hzero : savedRefs none q = 0 := rfl
        omega

/-- **One call** takes a reference to what it saves, and drops the one to what the call before it saved. -/
theorem dumpDying_use (l : List CtPtr) {ctx : ListDumpCtx} {heap : CtHeap} (skb : Buf)
    (hheld : ∀ p, ctx.last = some p → 0 < (heap p).use) (q : CtPtr) :
    ((ctnetlinkDumpDying env req l ctx heap skb).2.2.heap q).use + savedRefs ctx.last q
      = (heap q).use + savedRefs (ctnetlinkDumpDying env req l ctx heap skb).2.1.last q := by
  unfold ctnetlinkDumpDying
  split
  · rfl
  · obtain ⟨huse, hheld'⟩ := @dumpDyingList_refs env req ctx.last l ⟨none, heap, skb, []⟩ rfl hheld
    obtain ⟨stop, last', s', hrun⟩ : ∃ stop last' s', dumpDyingList env req ctx.last ⟨none, heap, skb, []⟩ l
      = (stop, last', s') := ⟨_, _, _, rfl⟩
    rw [hrun] at huse hheld' ⊢
    have hq := huse q
    cases stop with
    | true => exact hq
    | false =>
      have hput := use_put (hheld' rfl) q
      dsimp only at hq hput ⊢
      rw [put_last]
      simp only [Bool.false_eq_true, if_false] at hq
      omega

theorem doneList_use {ctx : ListDumpCtx} {heap : CtHeap} (hheld : ∀ p, ctx.last = some p → 0 < (heap p).use)
    (q : CtPtr) : (ctnetlinkDoneList ctx heap q).use + savedRefs ctx.last q = (heap q).use := by
  have hput := use_put (s := ⟨none, heap, Buf.empty 0 (by decide), []⟩) hheld q
  unfold ctnetlinkDoneList
  cases hlast : ctx.last with
  | none => rfl
  | some p =>
    rw [hlast] at hput
    exact hput

namespace DyingSession

variable {s : DyingSession}

/-- Between its calls nobody else takes or drops a reference. -/
def Alone (s : DyingSession) : Prop := ∀ k q, (s.heap (k + 1) q).use = ((s.call k).2.2.heap q).use

/-- Over the calls, the session holds the conntrack it has saved. -/
theorem saved_use (halone : s.Alone) (n : ℕ) :
    (∀ q, (s.heap n q).use = (s.heap 0 q).use + savedRefs (s.ctx n).last q) ∧
      ∀ p, (s.ctx n).last = some p → 0 < (s.heap n p).use := by
  have hpos : ∀ n, (∀ q, (s.heap n q).use = (s.heap 0 q).use + savedRefs (s.ctx n).last q) →
      ∀ p, (s.ctx n).last = some p → 0 < (s.heap n p).use := by
    intro n hn p hp
    rw [hn p, savedRefs, if_pos hp]
    exact Nat.succ_pos _
  suffices hall : ∀ q, (s.heap n q).use = (s.heap 0 q).use + savedRefs (s.ctx n).last q from ⟨hall, hpos n hall⟩
  induction n with
  | zero => exact fun q => rfl
  | succ n ih =>
    intro q
    have hcall : ((s.call n).2.2.heap q).use + savedRefs (s.ctx n).last q
        = (s.heap n q).use + savedRefs (s.ctx (n + 1)).last q :=
      dumpDying_use (s.list n) (s.skb n) (hpos n ih) q
    have hbefore := ih q
    rw [halone n q]
    omega

/-- **The end of a dump**, after however many calls: every reference the session took is dropped. -/
theorem references_dropped (halone : s.Alone) (n : ℕ) (q : CtPtr) :
    (ctnetlinkDoneList (s.ctx n) (s.heap n) q).use = (s.heap 0 q).use := by
  obtain ⟨huse, hheld⟩ := saved_use halone n
  have hdone := doneList_use hheld q
  have hn := huse q
  omega

end DyingSession

end References

/-! ### Two sessions -/

/-- A session with the lists `list`, into buffers that hold one message each. -/
def narrowSession (list : ℕ → List CtPtr) (nodup : ∀ k, (list k).Nodup) : DyingSession where
  req := ⟨1, 1, 6, 0⟩
  env := fun _ => sampleNlEnv
  list := list
  heap := fun _ _ => sampleConn (sampleTcp .established 1000 2000 1003)
  cap := fun _ => 300
  cap_lt := narrows_lt
  nodup := nodup
  held := fun _ _ _ => Nat.one_ne_zero

section Narrow

variable {list : ℕ → List CtPtr} {nodup : ∀ k, (list k).Nodup}

theorem narrowSession_need (k : ℕ) (p : CtPtr) :
    (narrowSession list nodup).need k p 300 = some 220 ∧ (narrowSession list nodup).need k p 80 = none := by
  have hzero : (FillSource.dumpDying.call sampleNlEnv 1 1 6 0
      (sampleConn (sampleTcp .established 1000 2000 1003))).need 300 = some 220 ∧
      (FillSource.dumpDying.call sampleNlEnv 1 1 6 0
        (sampleConn (sampleTcp .established 1000 2000 1003))).need 80 = none := by decide +kernel
  exact hzero

theorem narrowSession_roomy (k : ℕ) : (narrowSession list nodup).Roomy k := by
  intro p _
  show ((narrowSession list nodup).need k p 300).isSome
  rw [(narrowSession_need k p).1]
  rfl

/-- Of two or more conntracks the first is reported. -/
theorem narrowSession_first (k : ℕ) (p q : CtPtr) (l : List CtPtr) :
    placed ((narrowSession list nodup).need k) 300 (p :: q :: l) = [p] ∧
      leftOver ((narrowSession list nodup).need k) 300 (p :: q :: l) = q :: l := by
  obtain ⟨-, hp, hl, -⟩ := fill_fits (@narrowSession_need list nodup k p).1 (q :: l)
  obtain ⟨-, hp', hl', -⟩ := fill_stops (@narrowSession_need list nodup k q).2 l
  exact ⟨by rw [hp, hp'], by rw [hl, hl']⟩

end Narrow

/-- Nothing happens to a list of three. -/
def steadyDying : DyingSession := narrowSession (fun _ => [1, 2, 3]) fun _ => by decide

theorem dying_complete_steady : steadyDying.Complete := by
  refine dying_complete steadyDying narrowSession_roomy fun k => ?_
  cases k with
  | zero => exact fun p hp => by cases hp
  | succ k => exact DyingSession.findsLast_succ fun p hp => hp

/-- The second conntrack of three leaves the list behind the first call, which has saved it. -/
def cutDying : DyingSession :=
  narrowSession (fun k => if k = 0 then [1, 2, 3] else [1, 3]) fun k => by
    split <;> decide

/-- The third stays on the list, and is not reported. -/
theorem cutDying_incomplete : (∀ k, cutDying.Roomy k) ∧ (∀ k, cutDying.Shrinks k) ∧ ¬ cutDying.Complete := by
  have hshrinks : ∀ k, cutDying.Shrinks k := by
    intro k
    refine ⟨?_, fun _ _ => rfl⟩
    cases k with
    | zero => exact show [1, 3].Sublist [1, 2, 3] by decide
    | succ k => exact List.Sublist.refl _
  refine ⟨narrowSession_roomy, hshrinks, fun hcomplete => ?_⟩
  have htodo : cutDying.todo 0 = [1, 2, 3] := rfl
  have hreported : cutDying.reported 0 = [1] := by
    rw [DyingSession.reported_eq, htodo]
    exact (narrowSession_first 0 1 2 [3]).1
  have hleft : cutDying.left 0 = [2, 3] := by
    rw [DyingSession.left, htodo]
    exact (narrowSession_first 0 1 2 [3]).2
  have hlast := (DyingSession.left_cons hleft).2.1
  have hgone : ¬ cutDying.FindsLast 1 := fun hfinds => by
    have hmem : 2 ∈ [1, 3] := hfinds 2 hlast
    exact absurd hmem (by decide)
  obtain ⟨hnothing, hdone⟩ := DyingSession.done_of_not_findsLast hgone
  have hstays : ∀ k, 3 ∈ cutDying.list k := by
    intro k
    cases k with
    | zero => exact show 3 ∈ [1, 2, 3] by decide
    | succ k => exact show 3 ∈ [1, 3] by decide
  obtain ⟨k, hk, hthree⟩ := hcomplete.stays 1 hdone
    (fun k _ => ⟨cutDying.list (k + 1), (hshrinks k).list, List.Sublist.refl _, fun _ hp hnot => absurd hp hnot⟩)
    3 (fun k _ => List.mem_filter.mpr ⟨hstays k, rfl⟩) (fun k _ => hstays (k + 1))
  have hcalls : k = 0 ∨ k = 1 := by omega
  rcases hcalls with rfl | rfl
  · rw [hreported] at hthree
    exact absurd hthree (by decide)
  · rw [hnothing] at hthree
    cases hthree

end VgwDriver
