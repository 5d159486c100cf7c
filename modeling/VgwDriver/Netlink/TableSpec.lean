import VgwDriver.Netlink.Table

/-!
# What one call of `ctnetlink_dump_table` does

* `pending` — the conntracks a call has before it, in order: from the saved one on, or its whole bucket
  again when it is gone, then the buckets behind;
* `DumpFrame` — what a call may change of the table: it unlinks expired conntracks, and takes counters;
* `DumpInv` — the invariant of the walk, kept by one entry (`dumpEntry_spec`), one chain, one bucket;
* `dumpTable_spec` — **what one call does**: it makes the messages of `pending` as far as they fit, and
  saves the place of the first that does not.
-/

namespace VgwDriver

open Base

/-! ### One message -/

namespace FillCall

variable (c : FillCall)

/-- The room a message takes when `room` bytes are left, if it fits. -/
def need (room : ℕ) : Option ℕ := (c.attrs room).map fun l => nlMsgHdrLen + attrsSize l

/-- What a call appends when `room` bytes are left. -/
def bytes (room : ℕ) : Bytes :=
  match c.attrs room with
  | some l => nlMsgBytes c.env.endian c.hdr l
  | none => []

/-- The counters a call leaves behind when `room` bytes are left. -/
def acctAfter (room : ℕ) : Option NfConnAcct :=
  match c.attrs room with
  | some _ => if c.extinfo then afterBoth c.type c.ct.acct else c.ct.acct
  | none => c.lostCounters room

/-- **One call of `ctnetlink_fill_info`**, whether its message fits or not. -/
theorem exec_spec (b : Buf) :
    ∃ res b', c.exec b = (res, c.acctAfter b.room, b') ∧ b.Appended (c.bytes b.room) b' ∧
      (res < 0 ↔ c.need b.room = none) ∧ b'.room = b.room - (c.need b.room).getD 0 := by
  unfold need bytes acctAfter
  cases h : c.attrs b.room with
  | none => exact ⟨-1, b, exec_full h, Buf.Appended.nil b, by simp, by simp⟩
  | some l =>
    obtain ⟨b', hrun, happ⟩ := exec_fits h
    refine ⟨_, b', hrun, happ, ?_, ?_⟩
    · simp
    · rw [happ.room, length_nlMsgBytes]
      rfl

/-- The messages tried for a list that are completed are about the items placed. -/
theorem completed_attempts (call : CtPtr → FillCall) (hcall : ∀ p, (call p).p = p) (room : ℕ)
    (l : List CtPtr) :
    ((((attempts (fun p => (call p).need) room l).map fun x => (call x.1, x.2)).filter
        fun f => (f.1.attrs f.2).isSome).map fun f => f.1.p)
      = placed (fun p => (call p).need) room l := by
  have hneed : (fun f : FillCall × ℕ => (f.1.attrs f.2).isSome) ∘
      (fun x : CtPtr × ℕ => (call x.1, x.2)) = fun y : CtPtr × ℕ => ((call y.1).need y.2).isSome := by
    funext y
    show ((call y.1).attrs y.2).isSome = ((call y.1).need y.2).isSome
    rw [FillCall.need, Option.isSome_map]
  have hp : (fun f : FillCall × ℕ => f.1.p) ∘ (fun x : CtPtr × ℕ => (call x.1, x.2)) = Prod.fst := by
    funext y
    exact hcall y.1
  rw [List.filter_map, List.map_map, ← attempts_fit, hneed, hp]

/-- Only completed messages leave anything in the buffer. -/
theorem flatMap_bytes (fills : List (FillCall × ℕ)) :
    (fills.flatMap fun f => f.1.bytes f.2)
      = (fills.filter fun f => (f.1.attrs f.2).isSome).flatMap fun f => f.1.bytes f.2 := by
  induction fills with
  | nil => rfl
  | cons f fills ih =>
    rw [List.flatMap_cons, ih]
    cases hattrs : f.1.attrs f.2 with
    | none =>
      rw [List.filter_cons_of_neg (by simp [hattrs]), FillCall.bytes, hattrs, List.nil_append]
    | some attrs =>
      rw [List.filter_cons_of_pos (by simp [hattrs]), List.flatMap_cons]

/-- A completed message is not empty. -/
theorem completed_eq_nil {l : List (FillCall × ℕ)} (hl : ∀ f ∈ l, (f.1.attrs f.2).isSome)
    (h : (l.flatMap fun f => f.1.bytes f.2) = []) : l = [] := by
  cases l with
  | nil => rfl
  | cons f l =>
    obtain ⟨attrs, hattrs⟩ := Option.isSome_iff_exists.mp (hl f List.mem_cons_self)
    have hlen := congrArg List.length h
    rw [List.flatMap_cons, List.length_append, FillCall.bytes, hattrs, length_nlMsgBytes, nlMsgHdrLen,
      List.length_nil] at hlen
    omega

end FillCall

/-! ### What a call has before it -/

section Pending

variable (env : NlEnv) (req : DumpRequest) (t : NfConntrackHash)

/-- The nodes the walk may report: of unexpired conntracks of the session's namespace, in the original
direction. -/
def dumpableNode (h : TupleHash) : Bool :=
  !nfCtIsExpired env (t.heap h.ct) && (t.heap h.ct).net = req.net && h.dir = .original

/-- The conntracks a list of nodes can report, in order. -/
def dumpable (l : List TupleHash) : List CtPtr := (l.filter (dumpableNode env req t)).map TupleHash.ct

/-- Whether the session's filter matches. -/
def wanted (p : CtPtr) : Bool := ctnetlinkFilterMatch (t.heap p) req.filter

/-- The call a dump makes about the conntrack at `p`. -/
def dumpCall (p : CtPtr) : FillCall := req.fillCall env p (t.heap p)

/-- The room that call takes. -/
def dumpNeed (p : CtPtr) (room : ℕ) : Option ℕ := (dumpCall env req t p).need room

/-- What the `n` buckets from `i` on have to report, the first of them from the saved conntrack on. -/
def pendingFrom : ℕ → ℕ → Option CtPtr → List CtPtr
  | 0, _, _ => []
  | n + 1, i, saved =>
    (resume saved (dumpable env req t (t.chain i))).filter (wanted req t) ++ pendingFrom n (i + 1) none

theorem pendingFrom_succ (n i : ℕ) (saved : Option CtPtr) :
    pendingFrom env req t (n + 1) i saved
      = (resume saved (dumpable env req t (t.chain i))).filter (wanted req t) ++
        pendingFrom env req t n (i + 1) none := rfl

/-- What a call on the saved arguments `args0` and `args1` has before it. -/
def pending (args0 : ℕ) (args1 : Option CtPtr) : List CtPtr :=
  pendingFrom env req t (t.size - args0) args0 args1

/-- The unexpired original-direction entries of the namespace that the filter matches, in bucket and chain
order. -/
def eligible : List CtPtr :=
  t.chains.flatMap fun chain => (dumpable env req t chain).filter (wanted req t)

end Pending

/-! ### The nodes that can be reported -/

section Dumpable

variable {env : NlEnv} {req : DumpRequest} {t : NfConntrackHash}

theorem dumpableNode_iff {h : TupleHash} :
    dumpableNode env req t h = true ↔
      nfCtIsExpired env (t.heap h.ct) = false ∧ (t.heap h.ct).net = req.net ∧ h.dir = .original := by
  simp only [dumpableNode, Bool.and_eq_true, Bool.not_eq_true', decide_eq_true_eq, and_assoc]

theorem mem_dumpable_iff {p : CtPtr} {l : List TupleHash} :
    p ∈ dumpable env req t l ↔ ⟨p, .original⟩ ∈ l ∧ dumpableNode env req t ⟨p, .original⟩ = true := by
  rw [dumpable, List.mem_map]
  constructor
  · rintro ⟨⟨q, dir⟩, hh, rfl⟩
    obtain ⟨hmem, hnode⟩ := List.mem_filter.mp hh
    obtain ⟨-, -, rfl⟩ := dumpableNode_iff.mp hnode
    exact ⟨hmem, hnode⟩
  · rintro ⟨hmem, hnode⟩
    exact ⟨_, List.mem_filter.mpr ⟨hmem, hnode⟩, rfl⟩

theorem dumpable_append (l₁ l₂ : List TupleHash) :
    dumpable env req t (l₁ ++ l₂) = dumpable env req t l₁ ++ dumpable env req t l₂ := by
  rw [dumpable, List.filter_append, List.map_append]
  rfl

theorem dumpable_single {h : TupleHash} (hh : dumpableNode env req t h = true) :
    dumpable env req t [h] = [h.ct] := by
  rw [dumpable, List.filter_cons_of_pos hh]
  rfl

theorem dumpable_single_not {h : TupleHash} (hh : dumpableNode env req t h = false) :
    dumpable env req t [h] = [] := by
  rw [dumpable, List.filter_cons_of_neg (by rw [hh]; exact Bool.false_ne_true)]
  rfl

/-- Nodes of expired conntracks make no difference. -/
theorem dumpable_keep {keep : CtPtr → Bool}
    (hkeep : ∀ p, keep p = false → nfCtIsExpired env (t.heap p) = true) (l : List TupleHash) :
    dumpable env req t (l.filter fun h => keep h.ct) = dumpable env req t l := by
  rw [dumpable, dumpable, List.filter_filter]
  congr 1
  apply List.filter_congr
  intro h _
  cases hh : keep h.ct with
  | true => rw [Bool.and_true]
  | false => simp [dumpableNode, hkeep _ hh]

end Dumpable

/-! ### What a call may change of the table -/

/-- All but the reference count and the counters is the same. -/
def SameButCounters (ct ct' : NfConn) : Prop := ct' = { ct with use := ct'.use, acct := ct'.acct }

/-- All but the reference count and the status is the same. -/
def SameButStatus (ct ct' : NfConn) : Prop := ct' = { ct with use := ct'.use, status := ct'.status }

theorem SameButCounters.refl (ct : NfConn) : SameButCounters ct ct := rfl

theorem SameButStatus.refl (ct : NfConn) : SameButStatus ct ct := rfl

theorem SameButCounters.trans {a b c : NfConn} (hab : SameButCounters a b) (hbc : SameButCounters b c) :
    SameButCounters a c := by
  unfold SameButCounters at *
  rw [hbc, hab]

theorem SameButCounters.symm {a b : NfConn} (h : SameButCounters a b) : SameButCounters b a := by
  unfold SameButCounters at *
  rw [h]

theorem SameButStatus.trans {a b c : NfConn} (hab : SameButStatus a b) (hbc : SameButStatus b c) :
    SameButStatus a c := by
  unfold SameButStatus at *
  rw [hbc, hab]

/-- The table `t'` comes from `t` by unlinking and marking expired conntracks, by taking counters of others,
and by counting references. -/
structure DumpFrame (env : NlEnv) (t t' : NfConntrackHash) : Prop where
  chains : ∃ keep : CtPtr → Bool, (∀ p, keep p = false → nfCtIsExpired env (t.heap p) = true) ∧
    t'.chains = t.chains.map fun chain => chain.filter fun h => keep h.ct
  live : ∀ p, nfCtIsExpired env (t.heap p) = false → SameButCounters (t.heap p) (t'.heap p)
  dead : ∀ p, nfCtIsExpired env (t.heap p) = true → SameButStatus (t.heap p) (t'.heap p)

namespace DumpFrame

variable {env : NlEnv} {t t' t'' : NfConntrackHash}

theorem refl (env : NlEnv) (t : NfConntrackHash) : DumpFrame env t t where
  chains := ⟨fun _ => true, fun _ h => (by cases h), by simp⟩
  live := fun _ _ => SameButCounters.refl _
  dead := fun _ _ => SameButStatus.refl _

theorem expired_eq (h : DumpFrame env t t') (p : CtPtr) :
    nfCtIsExpired env (t'.heap p) = nfCtIsExpired env (t.heap p) := by
  cases hexp : nfCtIsExpired env (t.heap p) with
  | false =>
    rw [h.live p hexp]
    exact hexp
  | true =>
    rw [h.dead p hexp]
    exact hexp

theorem trans (h : DumpFrame env t t') (h' : DumpFrame env t' t'') : DumpFrame env t t'' where
  chains := by
    obtain ⟨keep, hkeep, hc⟩ := h.chains
    obtain ⟨keep', hkeep', hc'⟩ := h'.chains
    refine ⟨fun p => keep p && keep' p, fun p hp => ?_, ?_⟩
    · rcases Bool.and_eq_false_iff.mp hp with hp | hp
      · exact hkeep p hp
      · rw [← h.expired_eq]
        exact hkeep' p hp
    · rw [hc', hc, List.map_map]
      apply List.map_congr_left
      intro chain _
      show (chain.filter fun h => keep h.ct).filter (fun h => keep' h.ct) = _
      rw [List.filter_filter]
      apply List.filter_congr
      intro x _
      rw [Bool.and_comm]
  live := fun p hp => (h.live p hp).trans (h'.live p (by rw [h.expired_eq, hp]))
  dead := fun p hp => (h.dead p hp).trans (h'.dead p (by rw [h.expired_eq, hp]))

/-- Counting references. -/
theorem modify_use (env : NlEnv) (t : NfConntrackHash) (p : CtPtr) (f : ℕ → ℕ) :
    DumpFrame env t (t.withHeap (t.heap.modify p fun c => { c with use := f c.use })) where
  chains := ⟨fun _ => true, fun _ h => (by cases h), by simp [NfConntrackHash.withHeap]⟩
  live := by
    intro q _
    rw [NfConntrackHash.withHeap_heap]
    exact CtHeap.modify_rel (R := SameButCounters) SameButCounters.refl rfl
  dead := by
    intro q _
    rw [NfConntrackHash.withHeap_heap]
    exact CtHeap.modify_rel (R := SameButStatus) SameButStatus.refl rfl

theorem get (env : NlEnv) (t : NfConntrackHash) (p : CtPtr) :
    DumpFrame env t (t.withHeap (t.heap.get p)) := modify_use env t p fun n => n + 1

theorem put (env : NlEnv) (t : NfConntrackHash) (p : CtPtr) :
    DumpFrame env t (t.withHeap (t.heap.put p)) := modify_use env t p fun n => n - 1

/-- Taking counters of a conntrack that is not expired. -/
theorem modify_acct {p : CtPtr} (hp : nfCtIsExpired env (t.heap p) = false) (acct : Option NfConnAcct) :
    DumpFrame env t (t.withHeap (t.heap.modify p fun c => { c with acct := acct })) where
  chains := ⟨fun _ => true, fun _ h => (by cases h), by simp [NfConntrackHash.withHeap]⟩
  live := by
    intro q _
    rw [NfConntrackHash.withHeap_heap]
    exact CtHeap.modify_rel (R := SameButCounters) SameButCounters.refl rfl
  dead := by
    intro q hdead
    have hq : q ≠ p := by
      rintro rfl
      rw [hp] at hdead
      cases hdead
    rw [NfConntrackHash.withHeap_heap, CtHeap.modify_of_ne _ _ hq]
    exact SameButStatus.refl _

/-- Killing an expired conntrack. -/
theorem kill {p : CtPtr} (hp : nfCtIsExpired env (t.heap p) = true) :
    DumpFrame env t (nfCtKill t p) := by
  unfold nfCtKill
  split
  · exact refl env t
  · refine ⟨⟨fun q => q ≠ p, fun q hq => ?_, rfl⟩, fun q hlive => ?_, fun q _ => ?_⟩
    · have hqp : q = p := by simpa using hq
      rw [hqp]
      exact hp
    · have hq : q ≠ p := by
        rintro rfl
        rw [hp] at hlive
        cases hlive
      rw [NfConntrackHash.withHeap_heap, CtHeap.modify_of_ne _ _ hq]
      exact SameButCounters.refl _
    · rw [NfConntrackHash.withHeap_heap]
      exact CtHeap.modify_rel (R := SameButStatus) SameButStatus.refl rfl

theorem size_eq (h : DumpFrame env t t') : t'.size = t.size := by
  obtain ⟨keep, -, hc⟩ := h.chains
  unfold NfConntrackHash.size
  rw [hc, List.length_map]

theorem chain_eq (h : DumpFrame env t t') :
    ∃ keep : CtPtr → Bool, (∀ p, keep p = false → nfCtIsExpired env (t.heap p) = true) ∧
      ∀ i, t'.chain i = (t.chain i).filter fun h => keep h.ct := by
  obtain ⟨keep, hkeep, hc⟩ := h.chains
  refine ⟨keep, hkeep, fun i => ?_⟩
  unfold NfConntrackHash.chain
  rw [hc, List.getD_eq_getElem?_getD, List.getElem?_map, List.getD_eq_getElem?_getD]
  cases t.chains[i]? <;> rfl

theorem dumpableNode_eq (h : DumpFrame env t t') (req : DumpRequest) (n : TupleHash) :
    dumpableNode env req t' n = dumpableNode env req t n := by
  have hnet : (t'.heap n.ct).net = (t.heap n.ct).net := by
    cases hexp : nfCtIsExpired env (t.heap n.ct) with
    | false => rw [h.live n.ct hexp]
    | true => rw [h.dead n.ct hexp]
  unfold dumpableNode
  rw [h.expired_eq, hnet]

/-- A call leaves the conntracks that can be reported in their place. -/
theorem dumpable_eq (h : DumpFrame env t t') (req : DumpRequest) (i : ℕ) :
    dumpable env req t' (t'.chain i) = dumpable env req t (t.chain i) := by
  obtain ⟨keep, hkeep, hchain⟩ := h.chain_eq
  have hnodes : dumpableNode env req t' = dumpableNode env req t := funext (h.dumpableNode_eq req)
  rw [hchain, dumpable, hnodes]
  exact dumpable_keep hkeep (t.chain i)

theorem wanted_eq (h : DumpFrame env t t') (req : DumpRequest) {p : CtPtr}
    (hp : nfCtIsExpired env (t.heap p) = false) : wanted req t' p = wanted req t p := by
  unfold wanted
  rw [h.live p hp]
  rfl

end DumpFrame

theorem nfCtKill_heap_of_ne (t : NfConntrackHash) {p q : CtPtr} (hq : q ≠ p) :
    (nfCtKill t p).heap q = t.heap q := by
  unfold nfCtKill
  split
  · rfl
  · rw [NfConntrackHash.withHeap_heap, CtHeap.modify_of_ne _ _ hq]

/-- Dropping the expired conntracks that were collected keeps every other record. -/
theorem dumpEvict_spec {env : NlEnv} (l : List CtPtr) :
    ∀ t : NfConntrackHash, (∀ p ∈ l, nfCtIsExpired env (t.heap p) = true) →
      DumpFrame env t (dumpEvict env t l) ∧
        ∀ q, nfCtIsExpired env (t.heap q) = false → (dumpEvict env t l).heap q = t.heap q := by
  induction l with
  | nil => exact fun t _ => ⟨DumpFrame.refl env t, fun _ _ => rfl⟩
  | cons p l ih =>
    intro t hl
    have hp : nfCtIsExpired env (t.heap p) = true := hl p List.mem_cons_self
    -- the table once `p` is killed, if it is
    obtain ⟨t₁, ht₁⟩ : ∃ t₁, t₁ = if nfCtShouldGc env (t.heap p) then nfCtKill t p else t := ⟨_, rfl⟩
    have hkill : DumpFrame env t t₁ := by
      rw [ht₁]
      split
      · exact DumpFrame.kill hp
      · exact DumpFrame.refl env t
    have hheap₁ : ∀ q, q ≠ p → t₁.heap q = t.heap q := by
      intro q hq
      rw [ht₁]
      split
      · exact nfCtKill_heap_of_ne t hq
      · rfl
    have hstep : DumpFrame env t (t₁.withHeap (t₁.heap.put p)) := hkill.trans (DumpFrame.put env t₁ p)
    have hrest : ∀ q ∈ l, nfCtIsExpired env ((t₁.withHeap (t₁.heap.put p)).heap q) = true := by
      intro q hq
      rw [hstep.expired_eq]
      exact hl q (List.mem_cons_of_mem p hq)
    obtain ⟨hframe, hheap⟩ := ih _ hrest
    have hcons : dumpEvict env t (p :: l) = dumpEvict env (t₁.withHeap (t₁.heap.put p)) l := by
      rw [ht₁]
      rfl
    rw [hcons]
    refine ⟨hstep.trans hframe, fun q hq => ?_⟩
    have hqp : q ≠ p := by
      rintro rfl
      rw [hp] at hq
      cases hq
    rw [hheap q (by rw [hstep.expired_eq, hq]), NfConntrackHash.withHeap_heap, CtHeap.put_of_ne _ hqp,
      hheap₁ q hqp]

/-- It keeps all counters. -/
theorem dumpEvict_acct {env : NlEnv} {l : List CtPtr} {t : NfConntrackHash}
    (hl : ∀ p ∈ l, nfCtIsExpired env (t.heap p) = true) (q : CtPtr) :
    ((dumpEvict env t l).heap q).acct = (t.heap q).acct := by
  obtain ⟨hframe, hheap⟩ := dumpEvict_spec l t hl
  cases hexp : nfCtIsExpired env (t.heap q) with
  | false => rw [hheap q hexp]
  | true => rw [hframe.dead q hexp]

/-! ### The walk -/

section Walk

variable {env : NlEnv} {req : DumpRequest} {t : NfConntrackHash}

/-- **The invariant of a call that found the table `t`**: a conntrack no message was tried for is as it was,
and one that a message was tried for has the counters its call left. -/
structure DumpInv (env : NlEnv) (t : NfConntrackHash) (s : DumpState) : Prop where
  frame : DumpFrame env t s.table
  fresh : ∀ p, nfCtIsExpired env (t.heap p) = false → (∀ f ∈ s.fills, f.1.p ≠ p) →
    s.table.heap p = t.heap p
  taken : ∀ f ∈ s.fills, (s.table.heap f.1.p).acct = f.1.acctAfter f.2
  evict : ∀ p ∈ s.evict, nfCtIsExpired env (t.heap p) = true

/-- The state `s'` has, over `s`, tried the messages of `todo` as far as they fit. -/
structure DumpsTo (env : NlEnv) (req : DumpRequest) (t : NfConntrackHash) (todo : List CtPtr)
    (s s' : DumpState) : Prop where
  inv : DumpInv env t s'
  fills : s'.fills = s.fills ++ (attempts (dumpNeed env req t) s.skb.room todo).map
    fun x => (dumpCall env req t x.1, x.2)
  skb : s.skb.Appended ((attempts (dumpNeed env req t) s.skb.room todo).flatMap
    fun x => (dumpCall env req t x.1).bytes x.2) s'.skb
  room : s'.skb.room = roomAfter (dumpNeed env req t) s.skb.room todo

namespace DumpsTo

variable {todo l₁ l₂ : List CtPtr} {s s' s'' : DumpState}

/-- Nothing is tried. -/
theorem nil (hinv : DumpInv env t s') (hfills : s'.fills = s.fills) (hskb : s'.skb = s.skb) :
    DumpsTo env req t [] s s' where
  inv := hinv
  fills := by simp [hfills]
  skb := by
    rw [hskb]
    exact Buf.Appended.nil s.skb
  room := by rw [hskb, roomAfter_nil]

/-- One message is tried. -/
theorem one {p : CtPtr} (hinv : DumpInv env t s')
    (hfills : s'.fills = s.fills ++ [(dumpCall env req t p, s.skb.room)])
    (hskb : s.skb.Appended ((dumpCall env req t p).bytes s.skb.room) s'.skb)
    (hroom : s'.skb.room = s.skb.room - (dumpNeed env req t p s.skb.room).getD 0) :
    DumpsTo env req t [p] s s' := by
  obtain ⟨ha, hr⟩ := fill_singleton (dumpNeed env req t) s.skb.room p
  refine ⟨hinv, ?_, ?_, ?_⟩
  · rw [hfills, ha]
    rfl
  · rw [ha, List.flatMap_singleton]
    exact hskb
  · rw [hroom, hr]

/-- The first list is placed, and the walk goes on to the second. -/
theorem append (h₁ : DumpsTo env req t l₁ s s') (h₂ : DumpsTo env req t l₂ s' s'')
    (hleft : leftOver (dumpNeed env req t) s.skb.room l₁ = []) :
    DumpsTo env req t (l₁ ++ l₂) s s'' := by
  obtain ⟨ha, -, -, hr⟩ := fill_append l₂ hleft
  refine ⟨h₂.inv, ?_, ?_, ?_⟩
  · rw [h₂.fills, h₁.fills, h₁.room, ha, List.map_append, List.append_assoc]
  · have hskb := h₁.skb.trans h₂.skb
    rw [h₁.room, ← List.flatMap_append, ← ha] at hskb
    exact hskb
  · rw [h₂.room, h₁.room, hr]

/-- The first list does not go in whole, and the walk stops. -/
theorem append_stops (h₁ : DumpsTo env req t l₁ s s') (l₂ : List CtPtr)
    (hleft : leftOver (dumpNeed env req t) s.skb.room l₁ ≠ []) :
    DumpsTo env req t (l₁ ++ l₂) s s' := by
  obtain ⟨ha, -, -, hr⟩ := fill_append_stops l₂ hleft
  refine ⟨h₁.inv, ?_, ?_, ?_⟩
  · rw [h₁.fills, ha]
  · rw [ha]
    exact h₁.skb
  · rw [h₁.room, hr]

end DumpsTo

/-- What is saved once the walk has the dumpable conntracks `w` behind it and `left` did not fit. -/
def savedAfter (saved : Option CtPtr) (w left : List CtPtr) : Option CtPtr :=
  match left with
  | x :: _ => some x
  | [] => if onward saved w = [] then saved else none

theorem savedAfter_append (saved : Option CtPtr) (w₁ w₂ left : List CtPtr) :
    savedAfter saved (w₁ ++ w₂) left
      = savedAfter (if onward saved w₁ = [] then saved else none) w₂ left := by
  cases left with
  | cons x left => rfl
  | nil =>
    unfold savedAfter
    rw [onward_append]
    by_cases hw : onward saved w₁ = []
    · rw [if_pos hw, hw, List.nil_append]
    · rw [if_neg hw, ite_self, if_neg (fun hnil => hw (List.append_eq_nil_iff.mp hnil).1)]

/-- What a part of a walk does: from `s` to the second component of `r`, over the dumpable conntracks `w`
with `saved` saved. -/
def Walks (env : NlEnv) (req : DumpRequest) (t : NfConntrackHash) (w : List CtPtr) (s : DumpState)
    (r : Bool × DumpState) : Prop :=
  DumpsTo env req t ((onward s.args1 w).filter (wanted req t)) s r.2 ∧
    (r.1 = true ↔
      leftOver (dumpNeed env req t) s.skb.room ((onward s.args1 w).filter (wanted req t)) ≠ []) ∧
    r.2.args1 = savedAfter s.args1 w
      (leftOver (dumpNeed env req t) s.skb.room ((onward s.args1 w).filter (wanted req t)))

theorem ne_of_expired {env : NlEnv} {heap : CtHeap} {p q : CtPtr}
    (hp : nfCtIsExpired env (heap p) = false) (hq : nfCtIsExpired env (heap q) = true) : p ≠ q := by
  rintro rfl
  rw [hp] at hq
  cases hq

/-- An expired conntrack is collected. -/
theorem DumpInv.collect {s : DumpState} (hinv : DumpInv env t s) {p : CtPtr}
    (hp : nfCtIsExpired env (t.heap p) = true) :
    DumpInv env t { s with table := s.table.withHeap (s.table.heap.get p), evict := p :: s.evict } where
  frame := hinv.frame.trans (DumpFrame.get env _ _)
  fresh := by
    intro q hq hf
    show s.table.heap.get p q = t.heap q
    rw [CtHeap.get_of_ne _ (ne_of_expired hq hp)]
    exact hinv.fresh q hq hf
  taken := by
    intro f hf
    show (s.table.heap.get p f.1.p).acct = _
    rw [CtHeap.get_acct]
    exact hinv.taken f hf
  evict := by
    intro q hq
    rcases List.mem_cons.mp hq with rfl | hq
    · exact hp
    · exact hinv.evict q hq

/-- A message is tried for an unexpired conntrack, for the first time. -/
theorem DumpInv.fill {s : DumpState} (hinv : DumpInv env t s) {p : CtPtr}
    (hp : nfCtIsExpired env (t.heap p) = false) (hnew : ∀ f ∈ s.fills, f.1.p ≠ p) (args1 : Option CtPtr)
    (skb : Buf) :
    DumpInv env t { s with
      args1 := args1
      table := s.table.withHeap
        (s.table.heap.modify p fun c => { c with acct := (dumpCall env req t p).acctAfter s.skb.room })
      skb := skb
      fills := s.fills ++ [(dumpCall env req t p, s.skb.room)] } where
  frame := hinv.frame.trans (DumpFrame.modify_acct (by rw [hinv.frame.expired_eq, hp]) _)
  fresh := by
    intro q hq hf
    have hqp : q ≠ p := by
      rintro rfl
      exact hf (dumpCall env req t q, s.skb.room) (by simp) rfl
    dsimp only
    rw [NfConntrackHash.withHeap_heap, CtHeap.modify_of_ne _ _ hqp]
    exact hinv.fresh q hq fun f hmem => hf f (List.mem_append_left _ hmem)
  taken := by
    intro f hf
    show (s.table.heap.modify p _ f.1.p).acct = _
    rcases List.mem_append.mp hf with hf | hf
    · rw [CtHeap.modify_of_ne _ _ (hnew f hf)]
      exact hinv.taken f hf
    · rw [List.mem_singleton.mp hf]
      show (s.table.heap.modify p _ p).acct = _
      rw [CtHeap.modify_self]
  evict := hinv.evict

/-- A reference to a conntrack that a message was tried for is taken. -/
theorem DumpInv.hold {s : DumpState} (hinv : DumpInv env t s) {p : CtPtr}
    (hp : ∃ f ∈ s.fills, f.1.p = p) (args1 : Option CtPtr) :
    DumpInv env t { s with table := s.table.withHeap (s.table.heap.get p), args1 := args1 } where
  frame := hinv.frame.trans (DumpFrame.get env _ _)
  fresh := by
    intro q hq hf
    have hqp : q ≠ p := by
      rintro rfl
      obtain ⟨f, hmem, hfq⟩ := hp
      exact hf f hmem hfq
    show s.table.heap.get p q = t.heap q
    rw [CtHeap.get_of_ne _ hqp]
    exact hinv.fresh q hq hf
  taken := by
    intro f hf
    show (s.table.heap.get p f.1.p).acct = _
    rw [CtHeap.get_acct]
    exact hinv.taken f hf
  evict := hinv.evict

/-- **One entry** that may be reported and is reached. -/
theorem dumpEntry_reached {last : Option CtPtr} {s : DumpState} {h : TupleHash} (hinv : DumpInv env t s)
    (hnode : dumpableNode env req t h = true) (hnew : ∀ f ∈ s.fills, f.1.p ≠ h.ct)
    (hsaved : s.args1 = none ∨ last = some h.ct) (honward : onward s.args1 [h.ct] = [h.ct]) :
    Walks env req t [h.ct] s (dumpEntry env req last s h) := by
  obtain ⟨hexp, hnet, hdir⟩ := dumpableNode_iff.mp hnode
  have hrec : s.table.heap h.ct = t.heap h.ct := hinv.fresh h.ct hexp hnew
  have hpast : ¬ (s.args1.isSome ∧ some h.ct ≠ last) := by
    rintro ⟨hsome, hne⟩
    rcases hsaved with hsaved | hsaved
    · rw [hsaved] at hsome
      cases hsome
    · exact hne hsaved.symm
  unfold Walks dumpEntry
  simp only [hrec, hexp, hnet, hdir, hpast, honward, ne_eq, not_true_eq_false, if_false, Bool.false_eq_true]
  by_cases hmatch : ctnetlinkFilterMatch (t.heap h.ct) req.filter = true
  swap
  · have hfilter : [h.ct].filter (wanted req t) = [] := by simp [wanted, hmatch]
    rw [if_pos (by simpa using hmatch), hfilter]
    refine ⟨DumpsTo.nil ⟨hinv.frame, hinv.fresh, hinv.taken, hinv.evict⟩ rfl rfl, by simp, ?_⟩
    simp [savedAfter, honward]
  have hfilter : [h.ct].filter (wanted req t) = [h.ct] := by simp [wanted, hmatch]
  rw [if_neg (by simpa using hmatch), hfilter]
  obtain ⟨res, b', hexec, happ, hres, hroom⟩ := (dumpCall env req t h.ct).exec_spec s.skb
  have hexec' : (req.fillCall env h.ct (t.heap h.ct)).exec s.skb
    = (res, (dumpCall env req t h.ct).acctAfter s.skb.room, b') := hexec
  rw [hexec']
  dsimp only
  have hfill := fun args1 => @DumpInv.fill env req t s hinv h.ct hexp hnew args1 b'
  cases hneed : dumpNeed env req t h.ct s.skb.room with
  | none =>
    have hneg : res < 0 := hres.mpr hneed
    obtain ⟨-, -, hl, -⟩ := fill_stops hneed []
    rw [if_pos hneg, hl]
    have hheld := (hfill none).hold ⟨_, List.mem_append_right _ List.mem_cons_self, rfl⟩ (some h.ct)
    exact ⟨DumpsTo.one hheld rfl happ hroom, by simp, rfl⟩
  | some n =>
    have hpos : ¬ res < 0 := by
      rw [hres]
      exact fun hnone => Option.some_ne_none n (hneed.symm.trans hnone)
    obtain ⟨-, -, hl, -⟩ := fill_fits hneed []
    rw [if_neg hpos, hl]
    exact ⟨DumpsTo.one (hfill none) rfl happ hroom, by simp, by simp [savedAfter, honward]⟩

/-- **One entry.** -/
theorem dumpEntry_spec {last : Option CtPtr} {s : DumpState} {h : TupleHash} (hinv : DumpInv env t s)
    (hsaved : s.args1 = none ∨ s.args1 = last)
    (hnew : h.dir = .original → ∀ f ∈ s.fills, f.1.p ≠ h.ct) :
    Walks env req t (dumpable env req t [h]) s (dumpEntry env req last s h) := by
  have hexpired := hinv.frame.expired_eq h.ct
  -- an entry that is passed over
  have hskip : ∀ s' : DumpState, DumpInv env t s' → s'.fills = s.fills → s'.skb = s.skb →
      s'.args1 = s.args1 → onward s.args1 (dumpable env req t [h]) = [] →
      Walks env req t (dumpable env req t [h]) s (false, s') := by
    intro s' hinv' hfills hskb hargs1 hnil
    unfold Walks
    rw [hnil]
    refine ⟨DumpsTo.nil hinv' hfills hskb, ?_, ?_⟩
    · simp
    · simp [savedAfter, hnil, hargs1]
  cases hnode : dumpableNode env req t h with
  | false =>
    have hnil : onward s.args1 (dumpable env req t [h]) = [] := by
      rw [dumpable_single_not hnode, onward_nil]
    unfold dumpEntry
    dsimp only
    split
    · rename_i hexp
      rw [hexpired] at hexp
      split
      · exact hskip _ (hinv.collect hexp) rfl rfl rfl hnil
      · exact hskip s hinv rfl rfl rfl hnil
    · rename_i hexp
      split
      · exact hskip s hinv rfl rfl rfl hnil
      · rename_i hnet
        split
        · exact hskip s hinv rfl rfl rfl hnil
        · rename_i hdir
          -- the node would be dumpable after all
          rw [not_not] at hdir hnet
          have hlive : nfCtIsExpired env (t.heap h.ct) = false := by
            rw [← hexpired]
            simpa using hexp
          rw [hinv.fresh h.ct hlive (hnew hdir)] at hnet
          simp [dumpableNode, hlive, hnet, hdir] at hnode
  | true =>
    obtain ⟨hlive, hnet, hdir⟩ := dumpableNode_iff.mp hnode
    rw [dumpable_single hnode] at hskip ⊢
    by_cases hmet : s.args1 = none ∨ last = some h.ct
    · refine dumpEntry_reached hinv hnode (hnew hdir) hmet ?_
      rcases hmet with hmet | hmet
      · rw [hmet, onward_none]
      · rcases hsaved with hsaved | hsaved
        · rw [hsaved, onward_none]
        · rw [hsaved, hmet]
          show [h.ct].dropWhile (· ≠ h.ct) = [h.ct]
          rw [List.dropWhile_cons_of_neg (by simp)]
    · -- a saved conntrack is still waited for
      rw [not_or] at hmet
      have hargs1 : s.args1 = last := hsaved.resolve_left hmet.1
      obtain ⟨x, hx⟩ := Option.ne_none_iff_exists'.mp hmet.1
      have hxh : x ≠ h.ct := by
        rintro rfl
        exact hmet.2 (hargs1 ▸ hx)
      have hnil : onward s.args1 [h.ct] = [] := by
        rw [hx, onward_some_eq_nil, List.mem_singleton]
        exact hxh
      have hpast : s.args1.isSome ∧ some h.ct ≠ last := by
        rw [← hargs1, hx]
        exact ⟨rfl, fun heq => hxh (Option.some.inj heq).symm⟩
      have hrec : s.table.heap h.ct = t.heap h.ct := hinv.fresh h.ct hlive (hnew hdir)
      unfold dumpEntry
      simp only [hrec, hlive, hnet, hdir, ne_eq, not_true_eq_false, if_false, Bool.false_eq_true]
      rw [if_pos hpast]
      exact hskip s hinv rfl rfl rfl hnil

/-- A part of a walk that does not stop has placed all its messages, and has met the saved conntrack if it
has tried any. -/
theorem Walks.placed {w : List CtPtr} {s s' : DumpState} (h : Walks env req t w s (false, s')) :
    leftOver (dumpNeed env req t) s.skb.room ((onward s.args1 w).filter (wanted req t)) = [] ∧
      s'.args1 = if onward s.args1 w = [] then s.args1 else none := by
  obtain ⟨-, hstop, hargs1⟩ := h
  have hleft : leftOver (dumpNeed env req t) s.skb.room ((onward s.args1 w).filter (wanted req t)) = [] := by
    by_contra hne
    exact Bool.false_ne_true (hstop.mpr hne)
  rw [hleft] at hargs1
  exact ⟨hleft, hargs1⟩

/-- **Two parts of a walk in a row.**  When the first one stops the second is not walked. -/
theorem Walks.append_stops {w₁ : List CtPtr} {s s' : DumpState} (h : Walks env req t w₁ s (true, s'))
    (w₂ : List CtPtr) : Walks env req t (w₁ ++ w₂) s (true, s') := by
  obtain ⟨hto, hstop, hargs1⟩ := h
  have hleft := hstop.mp rfl
  unfold Walks
  rw [onward_append, List.filter_append]
  obtain ⟨-, -, hl, -⟩ := fill_append_stops ((onward (if onward s.args1 w₁ = [] then s.args1 else none)
    w₂).filter (wanted req t)) hleft
  refine ⟨hto.append_stops _ hleft, ?_, ?_⟩
  · rw [hl]
    exact iff_of_true rfl fun hnil => hleft (List.append_eq_nil_iff.mp hnil).1
  · rw [hl, hargs1]
    obtain ⟨x, rest, hx⟩ := List.exists_cons_of_ne_nil hleft
    rw [hx]
    rfl

/-- When the first part does not stop, the second one goes on with what is saved then. -/
theorem Walks.append {w₁ w₂ : List CtPtr} {s s' : DumpState} {r : Bool × DumpState}
    (h₁ : Walks env req t w₁ s (false, s')) (h₂ : Walks env req t w₂ s' r) :
    Walks env req t (w₁ ++ w₂) s r := by
  obtain ⟨hleft, hargs1⟩ := h₁.placed
  obtain ⟨hto, -, -⟩ := h₁
  obtain ⟨hto₂, hstop₂, hargs1₂⟩ := h₂
  unfold Walks
  obtain ⟨-, -, hl, -⟩ := fill_append ((onward s'.args1 w₂).filter (wanted req t)) hleft
  have hroom := hto.room
  rw [onward_append, ← hargs1, List.filter_append, hl, ← hroom]
  refine ⟨hto.append hto₂ hleft, hstop₂, ?_⟩
  rw [hargs1₂, savedAfter_append, ← hargs1]

theorem DumpsTo.mem_fills {todo : List CtPtr} {s s' : DumpState} (h : DumpsTo env req t todo s s')
    {f : FillCall × ℕ} (hf : f ∈ s'.fills) : f ∈ s.fills ∨ f.1.p ∈ todo := by
  rw [h.fills] at hf
  rcases List.mem_append.mp hf with hf | hf
  · exact Or.inl hf
  · obtain ⟨x, hx, rfl⟩ := List.mem_map.mp hf
    exact Or.inr (mem_of_mem_attempts hx)

/-- The conntracks a part of a walk tries messages for are among its nodes. -/
theorem Walks.mem_fills {l : List TupleHash} {s : DumpState} {r : Bool × DumpState}
    (h : Walks env req t (dumpable env req t l) s r) {f : FillCall × ℕ} (hf : f ∈ r.2.fills) :
    f ∈ s.fills ∨ ⟨f.1.p, .original⟩ ∈ l := by
  apply (h.1.mem_fills hf).imp_right
  intro hp
  exact (mem_dumpable_iff.mp ((onward_suffix _ _).subset (List.mem_of_mem_filter hp))).1

/-- A part of a walk changes nothing but what is saved, or leaves nothing saved that was not. -/
theorem Walks.saved {w : List CtPtr} {s s' : DumpState} {last : Option CtPtr}
    (h : Walks env req t w s (false, s')) (hsaved : s.args1 = none ∨ s.args1 = last) :
    s'.args1 = none ∨ s'.args1 = last := by
  rw [h.placed.2]
  split
  · exact hsaved
  · exact Or.inl rfl

theorem dumpChain_cons_stop {last : Option CtPtr} {s s' : DumpState} {h : TupleHash} {l : List TupleHash}
    (hr : dumpEntry env req last s h = (true, s')) : dumpChain env req last s (h :: l) = (true, s') := by
  rw [dumpChain, hr]

theorem dumpChain_cons_go {last : Option CtPtr} {s s' : DumpState} {h : TupleHash} {l : List TupleHash}
    (hr : dumpEntry env req last s h = (false, s')) :
    dumpChain env req last s (h :: l) = dumpChain env req last s' l := by
  rw [dumpChain, hr]

/-- **One chain.** -/
theorem dumpChain_spec {last : Option CtPtr} (l : List TupleHash) :
    ∀ s : DumpState, DumpInv env t s → (s.args1 = none ∨ s.args1 = last) → l.Nodup →
      (∀ h ∈ l, h.dir = .original → ∀ f ∈ s.fills, f.1.p ≠ h.ct) →
      Walks env req t (dumpable env req t l) s (dumpChain env req last s l) := by
  induction l with
  | nil =>
    intro s hinv hsaved _ _
    refine ⟨?_, ?_, ?_⟩
    · rw [show dumpable env req t [] = [] from rfl, onward_nil]
      exact DumpsTo.nil hinv rfl rfl
    · simp [dumpChain, dumpable]
    · simp [dumpChain, dumpable, savedAfter]
  | cons h l ih =>
    intro s hinv hsaved hnodup hnew
    obtain ⟨hhl, hnodup⟩ := List.nodup_cons.mp hnodup
    have hentry : Walks env req t (dumpable env req t [h]) s (dumpEntry env req last s h) :=
      dumpEntry_spec hinv hsaved (hnew h List.mem_cons_self)
    have hsplit : dumpable env req t (h :: l) = dumpable env req t [h] ++ dumpable env req t l :=
      dumpable_append [h] l
    rw [hsplit]
    cases hr : dumpEntry env req last s h with
    | mk stop s' =>
      rw [hr] at hentry
      cases stop with
      | true =>
        rw [dumpChain_cons_stop hr]
        exact hentry.append_stops _
      | false =>
        rw [dumpChain_cons_go hr]
        refine hentry.append (ih s' hentry.1.inv (hentry.saved hsaved) hnodup ?_)
        intro h' hh' hdir f hf
        rcases hentry.mem_fills hf with hf | hf
        · exact hnew h' (List.mem_cons_of_mem h hh') hdir f hf
        · -- `f` is about the node just walked, which is not in the rest of the chain
          intro hp
          have hfh : (⟨f.1.p, .original⟩ : TupleHash) = h := List.mem_singleton.mp hf
          rw [hp, ← hdir] at hfh
          exact hhl (hfh ▸ hh')

/-! ### One bucket -/

/-- Dropping what was collected. -/
theorem DumpInv.dropEvicted {s : DumpState} (hinv : DumpInv env t s) (args1 : Option CtPtr) :
    DumpInv env t { s with table := dumpEvict env s.table s.evict, evict := [], args1 := args1 } := by
  have hexpired : ∀ p ∈ s.evict, nfCtIsExpired env (s.table.heap p) = true := by
    intro p hp
    rw [hinv.frame.expired_eq]
    exact hinv.evict p hp
  obtain ⟨hframe, hheap⟩ := dumpEvict_spec s.evict s.table hexpired
  refine ⟨hinv.frame.trans hframe, ?_, ?_, fun p hp => by cases hp⟩
  · intro p hp hf
    show (dumpEvict env s.table s.evict).heap p = t.heap p
    rw [hheap p (by rw [hinv.frame.expired_eq, hp])]
    exact hinv.fresh p hp hf
  · intro f hf
    show ((dumpEvict env s.table s.evict).heap f.1.p).acct = _
    rw [dumpEvict_acct hexpired]
    exact hinv.taken f hf

/-- The starting point counts only by its buffer and its log. -/
theorem DumpsTo.congr {todo : List CtPtr} {s₁ s s' : DumpState} (h : DumpsTo env req t todo s₁ s')
    (hfills : s₁.fills = s.fills) (hskb : s₁.skb = s.skb) : DumpsTo env req t todo s s' := by
  obtain ⟨hinv, hf, hs, hr⟩ := h
  rw [hskb] at hf hs hr
  rw [hfills] at hf
  exact ⟨hinv, hf, hs, hr⟩

/-- The chain a call walks has the same dumpable nodes as the chain it found. -/
theorem DumpInv.walk {last : Option CtPtr} {s : DumpState} (hinv : DumpInv env t s)
    (hsaved : s.args1 = none ∨ s.args1 = last) {i : ℕ}
    (hnew : ∀ h ∈ t.chain i, h.dir = .original → ∀ f ∈ s.fills, f.1.p ≠ h.ct) :
    Walks env req t (dumpable env req t (t.chain i)) s (dumpChain env req last s (s.table.chain i)) := by
  obtain ⟨keep, hkeep, hchain⟩ := hinv.frame.chain_eq
  have hsub : (s.table.chain i).Sublist (t.chain i) := by
    rw [hchain]
    exact List.filter_sublist
  have hdumpable : dumpable env req t (s.table.chain i) = dumpable env req t (t.chain i) := by
    rw [hchain]
    exact dumpable_keep hkeep (t.chain i)
  rw [← hdumpable]
  exact dumpChain_spec _ s hinv hsaved (hsub.nodup (t.nodup_chain i))
    fun h hh => hnew h (hsub.subset hh)

@[simp] theorem dumpEntry_args0 (env : NlEnv) (req : DumpRequest) (last : Option CtPtr) (s : DumpState)
    (h : TupleHash) : (dumpEntry env req last s h).2.args0 = s.args0 := by
  unfold dumpEntry
  dsimp only
  repeat' split
  all_goals rfl

@[simp] theorem dumpChain_args0 (env : NlEnv) (req : DumpRequest) (last : Option CtPtr)
    (l : List TupleHash) (s : DumpState) : (dumpChain env req last s l).2.args0 = s.args0 := by
  induction l generalizing s with
  | nil => rfl
  | cons h l ih =>
    have hentry := dumpEntry_args0 env req last s h
    unfold dumpChain
    split
    · rename_i heq
      rw [heq] at hentry
      exact hentry
    · rename_i heq
      rw [heq] at hentry
      rw [ih]
      exact hentry

theorem Walks.congr {w : List CtPtr} {s₁ s : DumpState} {r : Bool × DumpState}
    (h : Walks env req t w s₁ r) (hfills : s₁.fills = s.fills) (hskb : s₁.skb = s.skb)
    (hargs1 : s₁.args1 = s.args1) : Walks env req t w s r := by
  obtain ⟨hto, hstop, hsaved⟩ := h
  rw [hargs1] at hto hstop hsaved
  rw [hskb] at hstop hsaved
  exact ⟨hto.congr hfills hskb, hstop, hsaved⟩

/-- What the walk over a bucket does: from `s` to the second component of `r`, with `todo` before it. -/
def WalksBucket (env : NlEnv) (req : DumpRequest) (t : NfConntrackHash) (todo : List CtPtr) (s : DumpState)
    (r : Bool × DumpState) : Prop :=
  DumpsTo env req t todo s r.2 ∧
    (r.1 = true ↔ leftOver (dumpNeed env req t) s.skb.room todo ≠ []) ∧
    r.2.args1 = (leftOver (dumpNeed env req t) s.skb.room todo).head?

section Bucket

variable {w : List CtPtr} {s s' : DumpState}

/-- The walk stops at a message that does not fit. -/
theorem Walks.bucket_stops (h : Walks env req t w s (true, s')) :
    WalksBucket env req t ((resume s.args1 w).filter (wanted req t)) s (true, s') := by
  obtain ⟨hto, hstop, hargs1⟩ := h
  have hleft := hstop.mp rfl
  have hne : onward s.args1 w ≠ [] := by
    intro hnil
    rw [hnil] at hleft
    exact hleft rfl
  have hresume : resume s.args1 w = onward s.args1 w := if_neg hne
  rw [hresume]
  refine ⟨hto, hstop, hargs1.trans ?_⟩
  obtain ⟨x, rest, hx⟩ := List.exists_cons_of_ne_nil hleft
  rw [hx]
  rfl

/-- The walk has met what was saved, and comes to the end. -/
theorem Walks.bucket_met (h : Walks env req t w s (false, s')) (hnone : s'.args1 = none) :
    WalksBucket env req t ((resume s.args1 w).filter (wanted req t)) s (false, s') := by
  obtain ⟨hleft, hargs1⟩ := h.placed
  obtain ⟨hto, hstop, -⟩ := h
  have hresume : resume s.args1 w = onward s.args1 w := by
    rw [resume]
    by_cases hnil : onward s.args1 w = []
    · rw [if_pos hnil] at hargs1 ⊢
      rw [← hargs1, hnone, onward_none]
    · rw [if_neg hnil]
  rw [hresume]
  refine ⟨hto, hstop, ?_⟩
  rw [hleft]
  exact hnone

/-- The walk has not met what was saved: it has tried no message. -/
theorem Walks.bucket_missed (h : Walks env req t w s (false, s')) (hmissed : s'.args1.isSome) :
    onward s.args1 w = [] ∧ DumpsTo env req t [] s s' := by
  have hnil : onward s.args1 w = [] := by
    by_contra hne
    rw [h.placed.2, if_neg hne] at hmissed
    cases hmissed
  refine ⟨hnil, ?_⟩
  have hto := h.1
  rw [hnil] at hto
  exact hto

/-- The walk from the start of the chain. -/
theorem Walks.bucket_start {r : Bool × DumpState} (h : Walks env req t w s r) (hnone : s.args1 = none) :
    WalksBucket env req t (w.filter (wanted req t)) s r := by
  obtain ⟨hto, hstop, hargs1⟩ := h
  rw [hnone, onward_none] at hto hstop hargs1
  refine ⟨hto, hstop, hargs1.trans ?_⟩
  cases hleft : leftOver (dumpNeed env req t) s.skb.room (w.filter (wanted req t)) with
  | nil => exact ite_self none
  | cons x rest => rfl

/-- Nothing was tried in front of it. -/
theorem WalksBucket.of_nil {todo : List CtPtr} {r : Bool × DumpState}
    (h : WalksBucket env req t todo s' r) (hto : DumpsTo env req t [] s s') :
    WalksBucket env req t todo s r := by
  obtain ⟨hto', hstop, hargs1⟩ := h
  have hroom : s'.skb.room = s.skb.room := hto.room
  rw [hroom] at hstop hargs1
  exact ⟨hto.append hto' rfl, hstop, hargs1⟩

end Bucket

/-- **One bucket.**  A saved conntrack that the chain no longer has makes the walk start again. -/
theorem dumpBucket_spec {last : Option CtPtr} {s : DumpState} (hinv : DumpInv env t s)
    (hsaved : s.args1 = none ∨ s.args1 = last)
    (hnew : ∀ h ∈ t.chain s.args0, h.dir = .original → ∀ f ∈ s.fills, f.1.p ≠ h.ct) :
    WalksBucket env req t ((resume s.args1 (dumpable env req t (t.chain s.args0))).filter (wanted req t)) s
      (dumpBucket env req last s) := by
  have hwalk := (@DumpInv.walk env req t last _ (hinv.dropEvicted s.args1) hsaved s.args0 hnew).congr
    (s := s) rfl rfl rfl
  have hargs0 := dumpChain_args0 env req last ((dumpEvict env s.table s.evict).chain s.args0)
    { s with table := dumpEvict env s.table s.evict, evict := [] }
  rw [dumpBucket]
  dsimp only at hwalk hargs0 ⊢
  generalize dumpChain env req last { s with table := dumpEvict env s.table s.evict, evict := [] }
    ((dumpEvict env s.table s.evict).chain s.args0) = r at hwalk hargs0 ⊢
  obtain ⟨stop, s'⟩ := r
  replace hargs0 : s'.args0 = s.args0 := hargs0
  cases stop with
  | true => exact hwalk.bucket_stops
  | false =>
    dsimp only
    by_cases hmissed : s'.args1.isSome
    · -- the chain is walked once more, from its start
      rw [if_pos hmissed, hargs0]
      obtain ⟨hnil, hto⟩ := hwalk.bucket_missed hmissed
      have hresume : resume s.args1 (dumpable env req t (t.chain s.args0))
          = dumpable env req t (t.chain s.args0) := if_pos hnil
      have hfills : s'.fills = s.fills := by simpa using hto.fills
      have hnew' : ∀ h ∈ t.chain s.args0, h.dir = .original → ∀ f ∈ s'.fills, f.1.p ≠ h.ct := by
        rw [hfills]
        exact hnew
      rw [hresume]
      have hagain := @DumpInv.walk env req t last _ (hto.inv.dropEvicted none) (Or.inl rfl) s.args0 hnew'
      have hstart := (hagain.bucket_start rfl).of_nil
        (⟨hto.inv.dropEvicted none, hto.fills, hto.skb, hto.room⟩ : DumpsTo env req t [] s _)
      rw [hargs0] at hstart
      exact hstart
    · rw [if_neg hmissed]
      exact hwalk.bucket_met (by simpa using hmissed)

/-! ### The buckets -/

@[simp] theorem dumpBucket_args0 (env : NlEnv) (req : DumpRequest) (last : Option CtPtr)
    (s : DumpState) : (dumpBucket env req last s).2.args0 = s.args0 := by
  unfold dumpBucket
  dsimp only
  split
  · rename_i heq
    have h := dumpChain_args0 env req last ((dumpEvict env s.table s.evict).chain s.args0)
      { s with table := dumpEvict env s.table s.evict, evict := [] }
    rw [heq] at h
    exact h
  · rename_i heq
    have h := dumpChain_args0 env req last ((dumpEvict env s.table s.evict).chain s.args0)
      { s with table := dumpEvict env s.table s.evict, evict := [] }
    rw [heq] at h
    split
    · rw [dumpChain_args0]
      exact h
    · exact h

/-- The place at which a call stopped: `x` in its bucket, with everything from `x` on left over. -/
structure StopsAt (env : NlEnv) (req : DumpRequest) (t : NfConntrackHash) (left : List CtPtr)
    (args0 : ℕ) (x : CtPtr) : Prop where
  lt : args0 < t.size
  wanted : wanted req t x = true
  split : ∃ front back, dumpable env req t (t.chain args0) = front ++ x :: back ∧
    left = (x :: back).filter (VgwDriver.wanted req t) ++
      pendingFrom env req t (t.size - (args0 + 1)) (args0 + 1) none

/-- A part of what a bucket has before it is left over from one of its conntracks on. -/
theorem split_of_leftOver {w : List CtPtr} {saved : Option CtPtr} {room : ℕ} {x : CtPtr}
    {rest : List CtPtr}
    (h : leftOver (dumpNeed env req t) room ((resume saved w).filter (wanted req t)) = x :: rest) :
    wanted req t x = true ∧
      ∃ front back, w = front ++ x :: back ∧ x :: rest = (x :: back).filter (wanted req t) := by
  have hsplit : placed (dumpNeed env req t) room ((resume saved w).filter (wanted req t)) ++
      leftOver (dumpNeed env req t) room ((resume saved w).filter (wanted req t))
        = (resume saved w).filter (wanted req t) := placed_append_leftOver room _
  rw [h] at hsplit
  obtain ⟨front, tail, hresume, -, htail⟩ := List.filter_eq_append_iff.mp hsplit.symm
  obtain ⟨front', back, rfl, -, hx, hrest⟩ := List.filter_eq_cons_iff.mp htail
  obtain ⟨pre, hpre⟩ := resume_suffix saved w
  refine ⟨hx, pre ++ front ++ front', back, ?_, ?_⟩
  · rw [← hpre, hresume]
    simp only [List.append_assoc]
  · rw [List.filter_cons_of_pos hx, hrest]

/-- A walk that stops in the bucket `i` stops at `x`. -/
theorem stopsAt_of_leftOver {i n room : ℕ} {saved : Option CtPtr} {x : CtPtr} {rest : List CtPtr}
    (hn : n + 1 = t.size - i)
    (h : leftOver (dumpNeed env req t) room ((resume saved (dumpable env req t (t.chain i))).filter
      (wanted req t)) = x :: rest) :
    StopsAt env req t (x :: (rest ++ pendingFrom env req t n (i + 1) none)) i x := by
  obtain ⟨hwant, front, back, hsplit, hrest⟩ := split_of_leftOver h
  have hsize : t.size - (i + 1) = n := by omega
  refine ⟨by omega, hwant, front, back, hsplit, ?_⟩
  rw [← hrest, hsize]
  rfl

/-- No message was tried for a conntrack of the later buckets. -/
theorem DumpsTo.untried {i : ℕ} {saved : Option CtPtr} {s s' : DumpState}
    (hto : DumpsTo env req t ((resume saved (dumpable env req t (t.chain i))).filter (wanted req t)) s s')
    (hnew : ∀ j, i ≤ j → ∀ h ∈ t.chain j, h.dir = .original → ∀ f ∈ s.fills, f.1.p ≠ h.ct) :
    ∀ j, i + 1 ≤ j → ∀ h ∈ t.chain j, h.dir = .original → ∀ f ∈ s'.fills, f.1.p ≠ h.ct := by
  intro j hj h hh hdir f hf hp
  rcases hto.mem_fills hf with hf | hf
  · exact hnew j (by omega) h hh hdir f hf hp
  · -- `f` is about a node of the bucket just walked
    have hmem := (resume_suffix _ _).subset (List.mem_of_mem_filter hf)
    have hnode := (mem_dumpable_iff.mp hmem).1
    rw [hp, ← hdir] at hnode
    have heq := t.chain_disjoint hnode hh
    omega

theorem dumpBuckets_stop {last : Option CtPtr} {s s' : DumpState} (n : ℕ)
    (hr : dumpBucket env req last s = (true, s')) : dumpBuckets env req last (n + 1) s = s' := by
  rw [dumpBuckets, hr]

theorem dumpBuckets_go {last : Option CtPtr} {s s' : DumpState} (n : ℕ)
    (hr : dumpBucket env req last s = (false, s')) :
    dumpBuckets env req last (n + 1) s = dumpBuckets env req last n { s' with args0 := s'.args0 + 1 } := by
  rw [dumpBuckets, hr]

/-- **The loop over the buckets.** -/
theorem dumpBuckets_spec {last : Option CtPtr} (n : ℕ) :
    ∀ s : DumpState, DumpInv env t s → (s.args1 = none ∨ s.args1 = last) → n = t.size - s.args0 →
      (∀ i, s.args0 ≤ i → ∀ h ∈ t.chain i, h.dir = .original → ∀ f ∈ s.fills, f.1.p ≠ h.ct) →
      DumpsTo env req t (pendingFrom env req t n s.args0 s.args1) s (dumpBuckets env req last n s) ∧
        (leftOver (dumpNeed env req t) s.skb.room (pendingFrom env req t n s.args0 s.args1) = [] →
          t.size ≤ (dumpBuckets env req last n s).args0 ∧
            (n ≠ 0 → (dumpBuckets env req last n s).args1 = none)) ∧
        ∀ x rest, leftOver (dumpNeed env req t) s.skb.room (pendingFrom env req t n s.args0 s.args1)
            = x :: rest → (dumpBuckets env req last n s).args1 = some x ∧
          StopsAt env req t (x :: rest) (dumpBuckets env req last n s).args0 x := by
  induction n with
  | zero =>
    intro s hinv _ hn _
    have hle : t.size ≤ s.args0 := by omega
    refine ⟨DumpsTo.nil hinv rfl rfl, fun _ => ⟨hle, fun h => absurd rfl h⟩, fun x rest h => ?_⟩
    cases h
  | succ n ih =>
    intro s hinv hsaved hn hnew
    have hargs0 := dumpBucket_args0 env req last s
    obtain ⟨hto, hstop, hargs1⟩ := @dumpBucket_spec env req t last s hinv hsaved
      (hnew s.args0 (Nat.le_refl _))
    rw [pendingFrom_succ]
    obtain ⟨stop, s', hr⟩ : ∃ stop s', dumpBucket env req last s = (stop, s') := ⟨_, _, rfl⟩
    rw [hr] at hargs0 hto hstop hargs1
    dsimp only at hargs0 hto hstop hargs1
    cases stop with
    | true =>
      rw [dumpBuckets_stop n hr]
      have hleft := hstop.mp rfl
      obtain ⟨-, -, hl, -⟩ := fill_append_stops (pendingFrom env req t n (s.args0 + 1) none) hleft
      refine ⟨hto.append_stops _ hleft, fun hnil => ?_, fun x rest hx => ?_⟩
      · rw [hl] at hnil
        exact absurd (List.append_eq_nil_iff.mp hnil).1 hleft
      · obtain ⟨y, rest', hy⟩ := List.exists_cons_of_ne_nil hleft
        rw [hl, hy, List.cons_append] at hx
        obtain ⟨rfl, rfl⟩ := List.cons.inj hx
        rw [hargs1, hy, hargs0]
        exact ⟨rfl, stopsAt_of_leftOver hn hy⟩
    | false =>
      rw [dumpBuckets_go n hr]
      have hleft : leftOver (dumpNeed env req t) s.skb.room
          ((resume s.args1 (dumpable env req t (t.chain s.args0))).filter (wanted req t)) = [] := by
        by_contra hne
        exact Bool.false_ne_true (hstop.mpr hne)
      have hnone : s'.args1 = none := by
        rw [hargs1, hleft]
        rfl
      rw [hargs0]
      obtain ⟨hto', hend, hplace⟩ := ih { s' with args0 := s.args0 + 1 }
        ⟨hto.inv.frame, hto.inv.fresh, hto.inv.taken, hto.inv.evict⟩ (Or.inl hnone)
        (by dsimp only; omega) (hto.untried hnew)
      dsimp only at hto' hend hplace
      rw [hnone] at hto' hend hplace
      obtain ⟨-, -, hl, -⟩ := fill_append (pendingFrom env req t n (s.args0 + 1) none) hleft
      rw [hl, ← hto.room, hnone]
      refine ⟨hto.append (hto'.congr rfl rfl) hleft, fun hnil => ⟨(hend hnil).1, fun _ => ?_⟩, hplace⟩
      cases n with
      | zero => rfl
      | succ n => exact (hend hnil).2 (Nat.succ_ne_zero n)

/-! ### The call -/

/-- **What one call does** on the table `t`, the saved arguments and the buffer `skb`, if it ends in `out`. -/
structure DumpOutcome (env : NlEnv) (req : DumpRequest) (t : NfConntrackHash) (args0 : ℕ)
    (args1 : Option CtPtr) (skb : Buf) (out : DumpState) : Prop where
  frame : DumpFrame env t out.table
  fills : out.fills = (attempts (dumpNeed env req t) skb.room (pending env req t args0 args1)).map
    fun x => (dumpCall env req t x.1, x.2)
  buf : skb.Appended ((attempts (dumpNeed env req t) skb.room (pending env req t args0 args1)).flatMap
    fun x => (dumpCall env req t x.1).bytes x.2) out.skb
  /-- A conntrack that no message was tried for keeps its counters. -/
  untouched : ∀ p, (∀ f ∈ out.fills, f.1.p ≠ p) → (out.table.heap p).acct = (t.heap p).acct
  /-- Any other has the counters its call left. -/
  taken : ∀ f ∈ out.fills, (out.table.heap f.1.p).acct = f.1.acctAfter f.2
  finishes : leftOver (dumpNeed env req t) skb.room (pending env req t args0 args1) = [] →
    t.size ≤ out.args0
  /-- The place of the first message that does not fit is saved, unless it is the place the call began at. -/
  stops : ∀ x rest, leftOver (dumpNeed env req t) skb.room (pending env req t args0 args1) = x :: rest →
    StopsAt env req t (x :: rest) out.args0 x ∧ out.args1 = if args1 = some x then none else some x

/-- The end of a call: the reference to the saved conntrack is dropped, and what was collected. -/
theorem release_spec {s : DumpState} (hinv : DumpInv env t s) (last : Option CtPtr) {t₂ : NfConntrackHash}
    (ht₂ : t₂ = match last with
      | none => s.table
      | some p => s.table.withHeap (s.table.heap.put p)) :
    DumpFrame env t (dumpEvict env t₂ s.evict) ∧
      (∀ p, (∀ f ∈ s.fills, f.1.p ≠ p) → ((dumpEvict env t₂ s.evict).heap p).acct = (t.heap p).acct) ∧
      ∀ f ∈ s.fills, ((dumpEvict env t₂ s.evict).heap f.1.p).acct = f.1.acctAfter f.2 := by
  have hframe₂ : DumpFrame env s.table t₂ := by
    rw [ht₂]
    cases last with
    | none => exact DumpFrame.refl env _
    | some p => exact DumpFrame.put env _ p
  have hacct₂ : ∀ p, (t₂.heap p).acct = (s.table.heap p).acct := by
    intro p
    rw [ht₂]
    cases last with
    | none => rfl
    | some q => exact CtHeap.put_acct _ q p
  have hframe : DumpFrame env t t₂ := hinv.frame.trans hframe₂
  have hexpired : ∀ p ∈ s.evict, nfCtIsExpired env (t₂.heap p) = true := by
    intro p hp
    rw [hframe.expired_eq]
    exact hinv.evict p hp
  refine ⟨hframe.trans (dumpEvict_spec s.evict t₂ hexpired).1, fun p hp => ?_, fun f hf => ?_⟩
  · rw [dumpEvict_acct hexpired, hacct₂]
    cases hexp : nfCtIsExpired env (t.heap p) with
    | false => rw [hinv.fresh p hexp hp]
    | true => rw [hinv.frame.dead p hexp]
  · rw [dumpEvict_acct hexpired, hacct₂]
    exact hinv.taken f hf

/-- **`ctnetlink_dump_table`** makes the messages of `pending` as far as they fit, and saves the place of the
first that does not. -/
theorem dumpTable_spec (env : NlEnv) (req : DumpRequest) (t : NfConntrackHash) (args0 : ℕ)
    (args1 : Option CtPtr) (skb : Buf) :
    DumpOutcome env req t args0 args1 skb (ctnetlinkDumpTable env req t args0 args1 skb).2 := by
  have hinit : DumpInv env t ⟨t, args0, args1, [], skb, []⟩ :=
    ⟨DumpFrame.refl env t, fun _ _ _ => rfl, fun f hf => (by cases hf), fun p hp => (by cases hp)⟩
  obtain ⟨hto, hend, hplace⟩ := @dumpBuckets_spec env req t args1 (t.size - args0)
    ⟨t, args0, args1, [], skb, []⟩ hinit (Or.inr rfl) rfl fun i _ h _ _ f hf => (by cases hf)
  dsimp only at hto hend hplace
  unfold ctnetlinkDumpTable
  dsimp only
  generalize dumpBuckets env req args1 (t.size - args0) ⟨t, args0, args1, [], skb, []⟩ = s
    at hto hend hplace ⊢
  obtain ⟨hframe, huntouched, htaken⟩ := release_spec hto.inv args1 rfl
  have hfills : s.fills = (attempts (dumpNeed env req t) skb.room (pending env req t args0 args1)).map
      fun x => (dumpCall env req t x.1, x.2) := by
    rw [hto.fills]
    rfl
  cases args1 with
  | none =>
    refine ⟨hframe, hfills, hto.skb, huntouched, htaken, fun h => (hend h).1, fun x rest h => ?_⟩
    obtain ⟨hargs1, hstops⟩ := hplace x rest h
    exact ⟨hstops, by rw [if_neg (by simp)]; exact hargs1⟩
  | some p =>
    refine ⟨hframe, hfills, hto.skb, huntouched, htaken, fun h => (hend h).1, fun x rest h => ?_⟩
    obtain ⟨hargs1, hstops⟩ := hplace x rest h
    refine ⟨hstops, ?_⟩
    show (if s.args1 = some p then none else s.args1) = _
    rw [hargs1]
    by_cases hxp : x = p
    · rw [if_pos (by rw [hxp]), if_pos (by rw [hxp])]
    · rw [if_neg (fun h => hxp (Option.some.inj h)), if_neg (fun h => hxp (Option.some.inj h).symm)]

end Walk

end VgwDriver
