import VgwDriver.Base.Run
import VgwDriver.Netlink.Session

/-!
# The counters, and the requests that zero them

`IPCTNL_MSG_CT_GET_CTRZERO` exchanges the counters of a conntrack with zero while it writes them into a
message.  `CounterState` keeps the books beside the table: what completed messages have delivered of every
counter, and what was ever counted.

* `ctnetlinkGetConntrack` — the request for one conntrack;
* `FillCall.Swallows` — the messages that take counters and are then cancelled;
* `FillCall.fill_balanced_iff`, `Taken.balanced_iff` — the books of one message, and of the messages of one
  call of `ctnetlink_dump_table` (`dump_taken`) or one request (`get_taken`);
* `counters_conserved_iff` — **the books balance** all along a run exactly if no message of it swallows
  counters.
-/

namespace VgwDriver

open Base

/-! ### Requests for one conntrack -/

/-- What a request carries besides its attributes: the namespace, and the fields of its headers. -/
structure NfnlInfo where
  net : NetPtr
  portid : UInt32
  seq : UInt32
  type : UInt8
  family : UInt8

/-- `nf_conntrack_find_get`, without the reference it takes. -/
abbrev NfConntrackFind := NfConntrackHash → NetPtr → NfConntrackZone → NfConntrackTuple → Option TupleHash

/-- What `ctnetlink_get_conntrack` returns and leaves, with the message it hands to `nfnetlink_unicast`;
`fills` logs its call of `ctnetlink_fill_info` with the room it found. -/
structure GetResult where
  err : ℤ
  table : NfConntrackHash
  reply : Option Buf
  fills : List (FillCall × ℕ)

section Get

variable (fenv : FilterEnv) (env : NlEnv) (find : NfConntrackFind) (info : NfnlInfo) (cda : NlaTable)

/-- The first part of `ctnetlink_get_conntrack`: the zone and the tuple of the request, and the lookup. -/
def getLookup (t : NfConntrackHash) : Except ℤ TupleHash := do
  let zone := ctnetlinkParseZone (cda ctaZone)
  let (tuple, zone) ← match cda ctaTupleOrig, cda ctaTupleReply with
    | some a, _ => ctnetlinkParseTuple fenv a ctaTupleOrig info.family zone
    | none, some a => ctnetlinkParseTuple fenv a ctaTupleReply info.family zone
    | none, none => throw (-einval)
  match find t info.net zone tuple with
  | none => throw (-enoent)
  | some h => pure h

/-- The call of `ctnetlink_fill_info` about the conntrack at `p`, which is held for it. -/
def getCall (t : NfConntrackHash) (p : CtPtr) : FillCall :=
  FillSource.getConntrack.call env info.portid info.seq info.type p (t.heap.get p p)

/-- `ctnetlink_get_conntrack`, for a request without `NLM_F_DUMP`; `skb2` is what `nlmsg_new` returns, and
`nfnetlinkUnicast` what sending a message to a port of a namespace does. -/
def ctnetlinkGetConntrack (nfnetlinkUnicast : NetPtr → UInt32 → Buf → ℤ) (skb2 : Option Buf)
    (t : NfConntrackHash) : GetResult :=
  match getLookup fenv find info cda t with
  | .error err => ⟨err, t, none, []⟩
  | .ok h =>
    let held := t.withHeap (t.heap.get h.ct)
    match skb2 with
    | none => ⟨-enomem, held.withHeap (held.heap.put h.ct), none, []⟩
    | some skb2 =>
      let c := getCall env info t h.ct
      match c.exec skb2 with
      | (err, acct, skb) =>
        let filled := held.withHeap (held.heap.modify h.ct fun ct => { ct with acct := acct })
        let t := filled.withHeap (filled.heap.put h.ct)
        if err ≤ 0 then ⟨-enomem, t, none, [(c, skb2.room)]⟩
        else ⟨nfnetlinkUnicast info.net info.portid skb, t, some skb, [(c, skb2.room)]⟩

end Get

/-! ### Counting -/

instance : Zero NfConnCounter := ⟨⟨0, 0⟩⟩

/-- Both counts wrap as the kernel's 64-bit atomics do. -/
instance : Add NfConnCounter := ⟨fun a b => ⟨a.packets + b.packets, a.bytes + b.bytes⟩⟩

namespace NfConnCounter

@[ext] theorem ext {a b : NfConnCounter} (hp : a.packets = b.packets) (hb : a.bytes = b.bytes) : a = b := by
  cases a
  cases b
  simp_all

@[simp] theorem add_packets (a b : NfConnCounter) : (a + b).packets = a.packets + b.packets := rfl
@[simp] theorem add_bytes (a b : NfConnCounter) : (a + b).bytes = a.bytes + b.bytes := rfl
@[simp] theorem zero_packets : (0 : NfConnCounter).packets = 0 := rfl
@[simp] theorem zero_bytes : (0 : NfConnCounter).bytes = 0 := rfl

theorem add_zero (a : NfConnCounter) : a + 0 = a := by ext <;> simp

theorem zero_add (a : NfConnCounter) : 0 + a = a := by ext <;> simp

theorem add_assoc (a b c : NfConnCounter) : a + b + c = a + (b + c) := by
  apply NfConnCounter.ext
  · exact UInt64.add_assoc _ _ _
  · exact UInt64.add_assoc _ _ _

theorem add_left_cancel {a b c : NfConnCounter} : a + b = a + c ↔ b = c := by
  constructor
  · intro h
    have hp : a.packets + b.packets = a.packets + c.packets := congrArg packets h
    have hb : a.bytes + b.bytes = a.bytes + c.bytes := congrArg bytes h
    apply NfConnCounter.ext
    · exact (UInt64.add_right_inj a.packets).mp hp
    · exact (UInt64.add_right_inj a.bytes).mp hb
  · rintro rfl
    rfl

end NfConnCounter

/-- The counter of one direction; nothing is counted without the extension. -/
def acctCounter (acct : Option NfConnAcct) (dir : IpConntrackDir) : NfConnCounter :=
  match acct with
  | none => 0
  | some a => a.counter dir

/-- `nf_ct_acct_add`. -/
def nfCtAcctAdd (ct : NfConn) (dir : IpConntrackDir) (n : NfConnCounter) : NfConn :=
  { ct with acct := ct.acct.map fun a => a.setCounter dir (a.counter dir + n) }

theorem acctCounter_add {ct : NfConn} (hacct : ct.acct.isSome) (dir dir' : IpConntrackDir)
    (n : NfConnCounter) : acctCounter (nfCtAcctAdd ct dir n).acct dir'
      = if dir' = dir then acctCounter ct.acct dir' + n else acctCounter ct.acct dir' := by
  obtain ⟨a, ha⟩ := Option.isSome_iff_exists.mp hacct
  unfold nfCtAcctAdd acctCounter
  rw [ha]
  cases dir <;> cases dir' <;> rfl

theorem acctCounter_afterOrig (type : UInt8) (acct : Option NfConnAcct) (dir : IpConntrackDir) :
    acctCounter (afterOrig type acct) dir
      = if type = ipctnlMsgCtGetCtrzero ∧ dir = .original then 0 else acctCounter acct dir := by
  cases acct with
  | none =>
    show (0 : NfConnCounter) = if _ then 0 else 0
    rw [ite_self]
  | some a =>
    unfold afterOrig takeCounter
    by_cases ht : type = ipctnlMsgCtGetCtrzero
    · cases dir with
      | original =>
        simp only [ht, if_true, and_self]
        rfl
      | reply =>
        simp only [ht, if_true, reduceCtorEq, and_false, if_false]
        rfl
    · simp [ht]

theorem acctCounter_afterBoth (type : UInt8) (acct : Option NfConnAcct) (dir : IpConntrackDir) :
    acctCounter (afterBoth type acct) dir
      = if type = ipctnlMsgCtGetCtrzero then 0 else acctCounter acct dir := by
  cases acct with
  | none =>
    show (0 : NfConnCounter) = if _ then 0 else 0
    rw [ite_self]
  | some a =>
    unfold afterBoth afterOrig takeCounter
    by_cases ht : type = ipctnlMsgCtGetCtrzero
    · simp only [ht, if_true]
      cases dir <;> rfl
    · simp [ht]

/-! ### One message -/

namespace FillCall

variable (c : FillCall)

/-- What a message that is completed delivers of one direction's counter to a zeroing request. -/
def delivers (room : ℕ) (dir : IpConntrackDir) : NfConnCounter :=
  if c.type = ipctnlMsgCtGetCtrzero ∧ c.extinfo = true ∧ (c.attrs room).isSome then acctCounter c.ct.acct dir
  else 0

/-- The message gets as far as the counters of the direction: everything in front of them fits. -/
def Reaches (room : ℕ) : IpConntrackDir → Prop
  | .original => nlMsgHdrLen + attrsSize (frontAttrs c.env c.p c.ct c.hdr.flags) ≤ room
  | .reply => nlMsgHdrLen + attrsSize (frontAttrs c.env c.p c.ct c.hdr.flags) + counterSize ≤ room

/-- The message of a zeroing request does not fit, but gets as far as a counter that is not zero. -/
def Swallows (room : ℕ) : Prop :=
  c.type = ipctnlMsgCtGetCtrzero ∧ c.extinfo = true ∧ c.attrs room = none ∧
    ∃ dir, c.Reaches room dir ∧ acctCounter c.ct.acct dir ≠ 0

variable {c}

/-- What is left of a counter. -/
theorem acctCounter_acctAfter (room : ℕ) (dir : IpConntrackDir) :
    (c.type = ipctnlMsgCtGetCtrzero → c.extinfo = true → (c.attrs room).isSome ∨ c.Reaches room dir →
      acctCounter (c.acctAfter room) dir = 0) ∧
    (¬ (c.type = ipctnlMsgCtGetCtrzero ∧ c.extinfo = true ∧ ((c.attrs room).isSome ∨ c.Reaches room dir)) →
      acctCounter (c.acctAfter room) dir = acctCounter c.ct.acct dir) := by
  unfold acctAfter
  cases hattrs : c.attrs room with
  | some l =>
    refine ⟨fun ht he _ => ?_, fun h => ?_⟩
    · rw [if_pos he, acctCounter_afterBoth, if_pos ht]
    · dsimp only
      by_cases he : c.extinfo = true
      · rw [if_pos he, acctCounter_afterBoth, if_neg (fun ht => h ⟨ht, he, Or.inl rfl⟩)]
      · rw [if_neg he]
  | none =>
    unfold lostCounters takenCounters
    dsimp only
    generalize hfront : attrsSize (frontAttrs c.env c.p c.ct c.hdr.flags) = front
    have horig : c.Reaches room .original ↔ nlMsgHdrLen + front ≤ room := by
      rw [← hfront]
      exact Iff.rfl
    have hreply : c.Reaches room .reply ↔ nlMsgHdrLen + front + counterSize ≤ room := by
      rw [← hfront]
      exact Iff.rfl
    have hsize : counterSize = 28 := rfl
    by_cases hno : room < nlMsgHdrLen + front
    · -- the message stops in front of the counters
      have hnone : ∀ dir, ¬ c.Reaches room dir := by
        intro dir h
        cases dir with
        | original => rw [horig] at h; omega
        | reply => rw [hreply] at h; omega
      refine ⟨fun _ _ h => absurd (h.resolve_left (by simp)) (hnone dir), fun _ => ?_⟩
      split
      · rw [if_pos (Or.inr (by omega))]
      · rfl
    · rw [if_pos (by omega)]
      by_cases he : c.extinfo = true
      swap
      · rw [if_pos (Or.inl he)]
        exact ⟨fun _ h => absurd h he, fun _ => rfl⟩
      rw [if_neg (by simp only [he, not_true_eq_false, false_or]; omega)]
      by_cases hone : room - nlMsgHdrLen < front + counterSize
      · rw [if_pos hone, acctCounter_afterOrig]
        cases dir with
        | original =>
          refine ⟨fun ht _ _ => if_pos ⟨ht, rfl⟩, fun h => if_neg ?_⟩
          rintro ⟨ht, -⟩
          exact h ⟨ht, he, Or.inr (horig.mpr (by omega))⟩
        | reply =>
          refine ⟨fun _ _ h => ?_, fun _ => if_neg (by simp)⟩
          have hreach := hreply.mp (h.resolve_left (by simp))
          omega
      · rw [if_neg hone, acctCounter_afterBoth]
        refine ⟨fun ht _ _ => if_pos ht, fun h => if_neg fun ht => h ⟨ht, he, Or.inr ?_⟩⟩
        cases dir with
        | original => exact horig.mpr (by omega)
        | reply => exact hreply.mpr (by omega)

/-- **The books of one message**: what it delivers and what it leaves are what there was, unless it swallows
counters. -/
theorem fill_balanced_iff (room : ℕ) :
    (∀ dir, c.delivers room dir + acctCounter (c.acctAfter room) dir = acctCounter c.ct.acct dir) ↔
      ¬ c.Swallows room := by
  have hleft := fun dir => acctCounter_acctAfter (c := c) room dir
  unfold Swallows delivers
  by_cases hzero : c.type = ipctnlMsgCtGetCtrzero ∧ c.extinfo = true
  swap
  · refine iff_of_true (fun dir => ?_) fun h => hzero ⟨h.1, h.2.1⟩
    rw [if_neg (fun h => hzero ⟨h.1, h.2.1⟩), (hleft dir).2 (fun h => hzero ⟨h.1, h.2.1⟩),
      NfConnCounter.zero_add]
  obtain ⟨ht, he⟩ := hzero
  cases hattrs : c.attrs room with
  | some l =>
    refine iff_of_true (fun dir => ?_) fun h => by cases h.2.2.1
    rw [if_pos ⟨ht, he, rfl⟩, (hleft dir).1 ht he (Or.inl (by rw [hattrs]; rfl)), NfConnCounter.add_zero]
  | none =>
    have hzero : ∀ dir, (if c.type = ipctnlMsgCtGetCtrzero ∧ c.extinfo = true ∧
        (none : Option (List Attr)).isSome then acctCounter c.ct.acct dir else 0) = 0 :=
      fun dir => if_neg fun h => by cases h.2.2
    constructor
    · rintro h ⟨-, -, -, dir, hreach, hne⟩
      have hdir := h dir
      rw [hzero, (hleft dir).1 ht he (Or.inr hreach), NfConnCounter.add_zero] at hdir
      exact hne hdir.symm
    · intro h dir
      rw [hzero, NfConnCounter.zero_add]
      by_cases hreach : c.Reaches room dir
      · rw [(hleft dir).1 ht he (Or.inr hreach)]
        by_contra hne
        exact h ⟨ht, he, rfl, dir, hreach, fun heq => hne heq.symm⟩
      · refine (hleft dir).2 ?_
        rintro ⟨-, -, hsome | hr⟩
        · rw [hattrs] at hsome
          cases hsome
        · exact hreach hr

end FillCall

/-! ### The books -/

/-- What was delivered, or counted, of every counter. -/
abbrev Books := CtPtr → IpConntrackDir → NfConnCounter

/-- The books once the completed messages of a log are entered. -/
def Books.enter (d : Books) (fills : List (FillCall × ℕ)) : Books :=
  fills.foldl (fun d f p dir => if p = f.1.p then d p dir + f.1.delivers f.2 dir else d p dir) d

theorem Books.enter_of_ne {fills : List (FillCall × ℕ)} {p : CtPtr} (h : ∀ f ∈ fills, f.1.p ≠ p)
    (d : Books) (dir : IpConntrackDir) : d.enter fills p dir = d p dir := by
  induction fills generalizing d with
  | nil => rfl
  | cons f fills ih =>
    have hf : p ≠ f.1.p := fun heq => h f List.mem_cons_self heq.symm
    refine (ih (fun g hg => h g (List.mem_cons_of_mem f hg)) _).trans ?_
    exact if_neg hf

theorem Books.enter_of_mem {fills : List (FillCall × ℕ)} (hnodup : (fills.map fun f => f.1.p).Nodup)
    {f : FillCall × ℕ} (hf : f ∈ fills) (d : Books) (dir : IpConntrackDir) :
    d.enter fills f.1.p dir = d f.1.p dir + f.1.delivers f.2 dir := by
  induction fills generalizing d with
  | nil => cases hf
  | cons g fills ih =>
    obtain ⟨hg, hnodup⟩ := List.nodup_cons.mp hnodup
    rcases List.mem_cons.mp hf with rfl | hf
    · have hne : ∀ g ∈ fills, g.1.p ≠ f.1.p := by
        intro g hmem heq
        exact hg (List.mem_map.mpr ⟨g, hmem, heq⟩)
      refine (Books.enter_of_ne hne _ dir).trans ?_
      exact if_pos rfl
    · have hne : f.1.p ≠ g.1.p := by
        intro heq
        exact hg (List.mem_map.mpr ⟨f, hf, heq⟩)
      refine (ih hnodup hf _).trans ?_
      dsimp only
      rw [if_neg hne]

/-- The table, and the books about it. -/
structure CounterState where
  table : NfConntrackHash
  delivered : Books
  total : Books

/-- The counters of a conntrack now. -/
def CounterState.current (s : CounterState) (p : CtPtr) (dir : IpConntrackDir) : NfConnCounter :=
  acctCounter (s.table.heap p).acct dir

/-- **The books balance**: of every counter, what was delivered and what there is are what was counted. -/
def CounterState.Balanced (s : CounterState) : Prop :=
  ∀ p dir, s.delivered p dir + s.current p dir = s.total p dir

/-- The books when they are opened. -/
def CounterState.start (t : NfConntrackHash) : CounterState :=
  ⟨t, fun _ _ => 0, fun p dir => acctCounter (t.heap p).acct dir⟩

theorem CounterState.start_balanced (t : NfConntrackHash) : (CounterState.start t).Balanced :=
  fun _ _ => NfConnCounter.zero_add _

/-- The messages of a log are about conntracks of the table `t`, one each, and leave the table `t'`. -/
structure Taken (t t' : NfConntrackHash) (fills : List (FillCall × ℕ)) : Prop where
  nodup : (fills.map fun f => f.1.p).Nodup
  found : ∀ f ∈ fills, f.1.ct.acct = (t.heap f.1.p).acct
  untouched : ∀ p, (∀ f ∈ fills, f.1.p ≠ p) → (t'.heap p).acct = (t.heap p).acct
  taken : ∀ f ∈ fills, (t'.heap f.1.p).acct = f.1.acctAfter f.2

/-- **The books of a log of messages.** -/
theorem Taken.balanced_iff {s : CounterState} {t' : NfConntrackHash} {fills : List (FillCall × ℕ)}
    (h : Taken s.table t' fills) (hs : s.Balanced) :
    CounterState.Balanced ⟨t', s.delivered.enter fills, s.total⟩ ↔ ∀ f ∈ fills, ¬ f.1.Swallows f.2 := by
  constructor
  · intro hb f hf
    rw [← FillCall.fill_balanced_iff]
    intro dir
    have hbefore := hs f.1.p dir
    have hafter := hb f.1.p dir
    unfold CounterState.current at hbefore hafter
    dsimp only at hafter
    rw [Books.enter_of_mem h.nodup hf, h.taken f hf, ← hbefore, NfConnCounter.add_assoc,
      NfConnCounter.add_left_cancel] at hafter
    rw [hafter, h.found f hf]
  · intro hno p dir
    have hbefore := hs p dir
    unfold CounterState.current at hbefore ⊢
    dsimp only
    by_cases hp : ∃ f ∈ fills, f.1.p = p
    · obtain ⟨f, hf, rfl⟩ := hp
      have hfill := FillCall.fill_balanced_iff (c := f.1) f.2 |>.mpr (hno f hf) dir
      rw [Books.enter_of_mem h.nodup hf, h.taken f hf, NfConnCounter.add_assoc, hfill, h.found f hf, hbefore]
    · have hne : ∀ f ∈ fills, f.1.p ≠ p := fun f hf heq => hp ⟨f, hf, heq⟩
      rw [Books.enter_of_ne hne, h.untouched p hne, hbefore]

/-! ### The calls -/

theorem dump_taken (env : NlEnv) (req : DumpRequest) (t : NfConntrackHash) (args0 : ℕ)
    (args1 : Option CtPtr) (skb : Buf) :
    Taken t (ctnetlinkDumpTable env req t args0 args1 skb).2.table
      (ctnetlinkDumpTable env req t args0 args1 skb).2.fills := by
  have hspec := dumpTable_spec env req t args0 args1 skb
  refine ⟨?_, ?_, hspec.untouched, hspec.taken⟩
  · rw [hspec.fills, List.map_map]
    exact (attempts_sublist _ _).nodup (nodup_pendingFrom _ _ _)
  · rw [hspec.fills]
    intro f hf
    obtain ⟨x, -, rfl⟩ := List.mem_map.mp hf
    rfl

theorem get_taken (fenv : FilterEnv) (env : NlEnv) (find : NfConntrackFind) (info : NfnlInfo)
    (cda : NlaTable) (nfnetlinkUnicast : NetPtr → UInt32 → Buf → ℤ) (skb2 : Option Buf)
    (t : NfConntrackHash) :
    Taken t (ctnetlinkGetConntrack fenv env find info cda nfnetlinkUnicast skb2 t).table
      (ctnetlinkGetConntrack fenv env find info cda nfnetlinkUnicast skb2 t).fills := by
  have hnone : ∀ t' : NfConntrackHash, (∀ p, (t'.heap p).acct = (t.heap p).acct) → Taken t t' [] :=
    fun t' h => ⟨List.nodup_nil, fun f hf => (by cases hf), fun p _ => h p, fun f hf => (by cases hf)⟩
  unfold ctnetlinkGetConntrack
  split
  · exact hnone t fun _ => rfl
  · rename_i h _
    dsimp only
    split
    · refine hnone _ fun p => ?_
      rw [NfConntrackHash.withHeap_heap, CtHeap.put_acct, NfConntrackHash.withHeap_heap, CtHeap.get_acct]
    · rename_i skb2
      obtain ⟨res, b', hexec, -, -, -⟩ := (getCall env info t h.ct).exec_spec skb2
      rw [hexec]
      dsimp only
      obtain ⟨t', ht'⟩ : ∃ t', t' = (((t.withHeap (t.heap.get h.ct)).withHeap
          ((t.withHeap (t.heap.get h.ct)).heap.modify h.ct fun ct =>
            { ct with acct := (getCall env info t h.ct).acctAfter skb2.room })).withHeap
          (((t.withHeap (t.heap.get h.ct)).withHeap
            ((t.withHeap (t.heap.get h.ct)).heap.modify h.ct fun ct =>
              { ct with acct := (getCall env info t h.ct).acctAfter skb2.room })).heap.put h.ct)) := ⟨_, rfl⟩
      have hacct : ∀ p, (t'.heap p).acct = ((t.heap.get h.ct).modify h.ct
          (fun ct => { ct with acct := (getCall env info t h.ct).acctAfter skb2.room }) p).acct := by
        intro p
        rw [ht', NfConntrackHash.withHeap_heap, CtHeap.put_acct]
        rfl
      have hone : Taken t t' [(getCall env info t h.ct, skb2.room)] := by
        refine ⟨List.nodup_singleton _, fun f hf => ?_, fun p hp => ?_, fun f hf => ?_⟩
        · rw [List.mem_singleton.mp hf]
          exact CtHeap.get_acct t.heap h.ct h.ct
        · have hne : p ≠ h.ct := fun heq => hp _ List.mem_cons_self heq.symm
          rw [hacct, CtHeap.modify_of_ne _ _ hne, CtHeap.get_acct]
        · rw [List.mem_singleton.mp hf]
          exact (hacct h.ct).trans (by rw [CtHeap.modify_self])
      rw [← ht']
      split
      · exact hone
      · exact hone

/-! ### Runs -/

/-- What happens to the counters: packets are counted, a call of `ctnetlink_dump_table` or a request for one
conntrack is made, with whatever arguments and buffer, or anything else that leaves the counters alone. -/
inductive CounterStep where
  | count (p : CtPtr) (dir : IpConntrackDir) (n : NfConnCounter)
  | dump (env : NlEnv) (req : DumpRequest) (args0 : ℕ) (args1 : Option CtPtr) (skb : Buf)
  | get (fenv : FilterEnv) (env : NlEnv) (find : NfConntrackFind) (info : NfnlInfo) (cda : NlaTable)
      (nfnetlinkUnicast : NetPtr → UInt32 → Buf → ℤ) (skb2 : Option Buf)
  | other (f : NfConntrackHash → NfConntrackHash)
      (hf : ∀ t p, ((f t).heap p).acct = (t.heap p).acct)

/-- One step, with the books. -/
def CounterState.step (s : CounterState) : CounterStep → CounterState
  | .count p dir n =>
    { s with
      table := s.table.withHeap (s.table.heap.modify p fun ct => nfCtAcctAdd ct dir n)
      total := fun q dir' =>
        if q = p ∧ dir' = dir ∧ (s.table.heap p).acct.isSome then s.total q dir' + n else s.total q dir' }
  | .dump env req args0 args1 skb =>
    let out := (ctnetlinkDumpTable env req s.table args0 args1 skb).2
    { s with table := out.table, delivered := s.delivered.enter out.fills }
  | .get fenv env find info cda nfnetlinkUnicast skb2 =>
    let out := ctnetlinkGetConntrack fenv env find info cda nfnetlinkUnicast skb2 s.table
    { s with table := out.table, delivered := s.delivered.enter out.fills }
  | .other f _ => { s with table := f s.table }

/-- The step swallows no counters: of the conntracks a zeroing call tries, the one whose message does not
fit, if there is one, runs out of room in front of its counters, or they are zero. -/
def CounterStep.Keeps (t : NfConntrackHash) : CounterStep → Prop
  | .count _ _ _ => True
  | .dump env req args0 args1 skb =>
    ∀ x ∈ attempts (dumpNeed env req t) skb.room (pending env req t args0 args1),
      ¬ (dumpCall env req t x.1).Swallows x.2
  | .get fenv env find info cda _ skb2 =>
    ∀ h b, getLookup fenv find info cda t = .ok h → skb2 = some b →
      ¬ (getCall env info t h.ct).Swallows b.room
  | .other _ _ => True

theorem get_fills_iff (fenv : FilterEnv) (env : NlEnv) (find : NfConntrackFind) (info : NfnlInfo)
    (cda : NlaTable) (nfnetlinkUnicast : NetPtr → UInt32 → Buf → ℤ) (skb2 : Option Buf)
    (t : NfConntrackHash) :
    (∀ f ∈ (ctnetlinkGetConntrack fenv env find info cda nfnetlinkUnicast skb2 t).fills,
        ¬ f.1.Swallows f.2) ↔
      CounterStep.Keeps t (.get fenv env find info cda nfnetlinkUnicast skb2) := by
  unfold ctnetlinkGetConntrack CounterStep.Keeps
  cases hlookup : getLookup fenv find info cda t with
  | error err =>
    refine iff_of_true (fun f hf => by cases hf) fun h b hh => ?_
    rw [hlookup] at hh
    cases hh
  | ok h =>
    cases skb2 with
    | none => exact iff_of_true (fun f hf => by cases hf) fun h b _ hb => by cases hb
    | some skb2 =>
      have hfills : ∀ err sent t' t'' reply f, f ∈ (if err ≤ (0 : ℤ) then
          (⟨-enomem, t', none, [(getCall env info t h.ct, skb2.room)]⟩ : GetResult)
        else ⟨sent, t'', reply, [(getCall env info t h.ct, skb2.room)]⟩).fills ↔
          f = (getCall env info t h.ct, skb2.room) := by
        intro err sent t' t'' reply f
        split <;> exact List.mem_singleton
      dsimp only
      constructor
      · rintro hall h' b hh hb
        rw [hlookup] at hh
        cases hh
        cases hb
        exact hall _ ((hfills _ _ _ _ _ _).mpr rfl)
      · intro hkeeps f hf
        rw [(hfills _ _ _ _ _ _).mp hf]
        exact hkeeps h skb2 hlookup rfl

/-- **The books of one step.** -/
theorem step_balanced_iff {s : CounterState} (hs : s.Balanced) (a : CounterStep) :
    (s.step a).Balanced ↔ a.Keeps s.table := by
  cases a with
  | count p dir n =>
    refine iff_of_true (fun q dir' => ?_) trivial
    have hbefore := hs q dir'
    unfold CounterState.current at hbefore
    show s.delivered q dir' + acctCounter (s.table.heap.modify p (fun ct => nfCtAcctAdd ct dir n) q).acct dir'
      = if q = p ∧ dir' = dir ∧ (s.table.heap p).acct.isSome then s.total q dir' + n else s.total q dir'
    by_cases hq : q = p
    · subst hq
      rw [CtHeap.modify_self]
      by_cases hacct : (s.table.heap q).acct.isSome
      · rw [acctCounter_add hacct]
        by_cases hdir : dir' = dir
        · rw [if_pos hdir, if_pos ⟨rfl, hdir, hacct⟩, ← NfConnCounter.add_assoc, hbefore]
        · rw [if_neg hdir, if_neg (fun h => hdir h.2.1), hbefore]
      · rw [if_neg (fun h => hacct h.2.2)]
        have hnone : (s.table.heap q).acct = none := by simpa using hacct
        rw [nfCtAcctAdd, hnone]
        rw [hnone] at hbefore
        exact hbefore
    · rw [CtHeap.modify_of_ne _ _ hq, if_neg (fun h => hq h.1), hbefore]
  | dump env req args0 args1 skb =>
    have hiff := (dump_taken env req s.table args0 args1 skb).balanced_iff hs
    refine hiff.trans ?_
    rw [(dumpTable_spec env req s.table args0 args1 skb).fills]
    exact List.forall_mem_map
  | get fenv env find info cda nfnetlinkUnicast skb2 =>
    exact ((get_taken fenv env find info cda nfnetlinkUnicast skb2 s.table).balanced_iff hs).trans
      (get_fills_iff fenv env find info cda nfnetlinkUnicast skb2 s.table)
  | other f hf =>
    refine iff_of_true (fun p dir => ?_) trivial
    show s.delivered p dir + acctCounter ((f s.table).heap p).acct dir = s.total p dir
    rw [hf]
    exact hs p dir

/-- **No count is lost** in a run, at any point of it, exactly if none of its steps swallows counters. -/
theorem counters_conserved_iff (t : NfConntrackHash) (l : List CounterStep) :
    (∀ pre, pre <+: l → (run CounterState.step (.start t) pre).Balanced) ↔
      ∀ pre a post, l = pre ++ a :: post → a.Keeps (run CounterState.step (.start t) pre).table := by
  have hequiv : EachStep CounterState.step (fun s a => (s.step a).Balanced) (.start t) l ↔
      EachStep CounterState.step (fun s a => a.Keeps s.table) (.start t) l :=
    @EachStep.iff_of_invariant _ _ CounterState.step _ _ (fun _ _ => True) CounterState.Balanced _ _
      (fun s a hs _ => step_balanced_iff hs a) (fun s a _ _ h => h) (CounterState.start_balanced t)
      (eachStep_iff_split.mpr fun _ _ _ _ => trivial)
  rw [forall_prefix_iff, hequiv]
  exact (and_iff_right (CounterState.start_balanced t)).trans eachStep_iff_split

/-! ### A dump that swallows counters -/

/-- Two connections of zone 100 with five packets counted in the original direction and three in the other. -/
def countedTable : NfConntrackHash :=
  (pairTable 1 2 one_ne_two_ptr).withHeap fun _ => { liveConn with acct := some ⟨⟨5, 500⟩, ⟨3, 300⟩⟩ }

/-- A zeroing dump of them into a buffer that holds the first message and most of the second. -/
def zeroingDump : CounterStep :=
  .dump sampleNlEnv { sampleRequest with type := ipctnlMsgCtGetCtrzero } 0 none (.empty 660 (by decide))

/-- The second message gets as far as both counters, which are gone when it is cancelled. -/
theorem zeroingDump_swallows :
    ¬ ∀ pre, pre <+: [zeroingDump] → (run CounterState.step (.start countedTable) pre).Balanced := by
  intro hall
  have hbalanced := hall [zeroingDump] (List.prefix_refl _)
  have hkeeps := (step_balanced_iff (CounterState.start_balanced countedTable) zeroingDump).mp hbalanced
  have htried : ((2, 316) : CtPtr × ℕ) ∈ attempts
      (dumpNeed sampleNlEnv { sampleRequest with type := ipctnlMsgCtGetCtrzero } countedTable) 660
      (pending sampleNlEnv { sampleRequest with type := ipctnlMsgCtGetCtrzero } countedTable 0 none) := by
    decide +kernel
  refine hkeeps (2, 316) htried ⟨rfl, rfl, by decide +kernel, .original, ?_, by decide⟩
  show nlMsgHdrLen + attrsSize _ ≤ 316
  decide +kernel

end VgwDriver
