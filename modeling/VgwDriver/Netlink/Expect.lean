import VgwDriver.Netlink.Counters

/-!
# Expectations

`struct nf_conntrack_expect`, its message (`ctnetlink_exp_fill_info`), and the requests for the expectations
of one conntrack: `ctnetlink_dump_exp_ct`, which finds the conntrack and starts the dump, and
`ctnetlink_exp_ct_dump_table`, which writes one buffer of it.

* `ctnetlinkExpCtDumpTable` — one call;
* `dumpExpCtLookup` — the part of `ctnetlink_dump_exp_ct` in front of `netlink_dump_start`.
-/

namespace VgwDriver

open Base

/-! ### The record -/

/-- Where an expectation is. -/
abbrev ExpPtr := ℕ

/-- `struct nf_conntrack_tuple_mask`. -/
structure NfConntrackTupleMask where
  u3 : NfInetAddr
  u : UInt16
  deriving DecidableEq, Repr

/-- `struct nf_conntrack_expect`, as far as its messages go; `helper` and `expectfn` are pointers. -/
structure NfConntrackExpect where
  tuple : NfConntrackTuple
  mask : NfConntrackTupleMask
  use : ℕ
  flags : UInt32
  cls : UInt32
  expectfn : UInt64
  helper : UInt64
  master : CtPtr
  timeoutExpires : UInt64
  savedAddr : NfInetAddr
  savedProto : UInt16
  dir : UInt32
  deriving DecidableEq, Repr

/-- Every expectation there is. -/
abbrev ExpHeap := ExpPtr → NfConntrackExpect

/-- Change the reference count of the expectation at `p`. -/
def ExpHeap.modifyUse (h : ExpHeap) (p : ExpPtr) (f : ℕ → ℕ) : ExpHeap :=
  fun q => if q = p then { h q with use := f (h q).use } else h q

/-- The conntracks, the list `help->expectations` of each, and the expectations. -/
structure ExpWorld where
  table : NfConntrackHash
  expectations : CtPtr → List ExpPtr
  exps : ExpHeap

/-! ### Its message -/

def nfnlSubsysCtnetlinkExp : UInt8 := 2
def ipctnlMsgExpNew : UInt8 := 0

def ctaExpectMaster : UInt16 := 1
def ctaExpectTuple : UInt16 := 2
def ctaExpectMask : UInt16 := 3
def ctaExpectTimeout : UInt16 := 4
def ctaExpectId : UInt16 := 5
def ctaExpectHelpName : UInt16 := 6
def ctaExpectZone : UInt16 := 7
def ctaExpectFlags : UInt16 := 8
def ctaExpectClass : UInt16 := 9
def ctaExpectNat : UInt16 := 10
def ctaExpectFn : UInt16 := 11
def ctaExpectNatDir : UInt16 := 1
def ctaExpectNatTuple : UInt16 := 2

/-- What the writers of expectations need besides: `jiffies`, the keyed hash functions of
`nf_expect_get_id`, and the name that `nf_ct_helper_expectfn_find_by_symbol` finds. -/
structure ExpEnv extends NlEnv where
  jiffies : UInt64
  siphash : NfConntrackTuple → UInt64
  siphash4u64 : UInt64 → UInt64 → UInt64 → UInt64 → UInt64
  expectfnName : UInt64 → Option Bytes

section Message

variable (env : ExpEnv)

/-- `ctnetlink_exp_dump_tuple`. -/
def ctnetlinkExpDumpTuple (tuple : NfConntrackTuple) (type : UInt16) : NlWriter := do
  let nestParms ← nestStart (-1) env.endian type
  ctnetlinkDumpTuples env.toNlEnv tuple
  nestEnd env.endian nestParms

/-- The tuple that stands for a mask: all bits set but where the mask or the tuple has a value. -/
def maskTuple (tuple : NfConntrackTuple) (mask : NfConntrackTupleMask) : NfConntrackTuple where
  src := ⟨mask.u3, mask.u, tuple.src.l3num⟩
  dst := ⟨⟨0xffffffff, 0xffffffff, 0xffffffff, 0xffffffff⟩, 0xffff, tuple.dst.protonum, 0xff⟩

/-- `ctnetlink_exp_dump_mask`. -/
def ctnetlinkExpDumpMask (tuple : NfConntrackTuple) (mask : NfConntrackTupleMask) : NlWriter := do
  let nestParms ← nestStart (-1) env.endian ctaExpectMask
  ctnetlinkDumpTuplesIp env.toNlEnv (maskTuple tuple mask)
  ctnetlinkDumpTuplesProto env.toNlEnv (maskTuple tuple mask)
  nestEnd env.endian nestParms

/-- `nf_expect_get_id`: the low half of a keyed hash of the expectation and what it points to. -/
def nfExpectGetId (p : ExpPtr) (exp : NfConntrackExpect) : UInt32 :=
  (env.siphash4u64 (UInt64.ofNat p) exp.helper (UInt64.ofNat exp.master) (env.siphash exp.tuple)).toUInt32

/-- The seconds left, at least 0. -/
def expTimeout (exp : NfConntrackExpect) : ℕ :=
  ((exp.timeoutExpires - env.jiffies).toInt64.toInt.tdiv env.hz.toNat).toNat

/-- The part about the address that NAT has replaced. -/
def expDumpNat (master : NfConn) (exp : NfConntrackExpect) : NlWriter :=
  if exp.savedAddr ≠ ⟨0, 0, 0, 0⟩ ∨ exp.savedProto ≠ 0 then do
    let nestParms ← nestStart (-1) env.endian ctaExpectNat
    putAttr (-1) env.endian (nlaBe32 ctaExpectNatDir exp.dir)
    ctnetlinkExpDumpTuple env
      ⟨⟨exp.savedAddr, exp.savedProto, nfCtL3num master⟩, ⟨⟨0, 0, 0, 0⟩, 0, nfCtProtonum master, 0⟩⟩
      ctaExpectNatTuple
    nestEnd env.endian nestParms
  else pure ()

/-- `ctnetlink_exp_dump_expect`. -/
def ctnetlinkExpDumpExpect (p : ExpPtr) (exp : NfConntrackExpect) (master : NfConn) : NlWriter := do
  ctnetlinkExpDumpTuple env exp.tuple ctaExpectTuple
  ctnetlinkExpDumpMask env exp.tuple exp.mask
  ctnetlinkExpDumpTuple env master.tupleOrig ctaExpectMaster
  expDumpNat env master exp
  putAttr (-1) env.endian (nlaBe32 ctaExpectTimeout (UInt32.ofNat (expTimeout env exp)))
  -- the id's bytes as they stand in memory
  putAttr (-1) env.endian ⟨ctaExpectId, put32 env.endian (nfExpectGetId env p exp)⟩
  putAttr (-1) env.endian (nlaBe32 ctaExpectFlags exp.flags)
  putAttr (-1) env.endian (nlaBe32 ctaExpectClass exp.cls)
  (match master.help with
    | some (some helper) => putAttr (-1) env.endian (nlaString ctaExpectHelpName helper.name)
    | _ => pure ())
  match env.expectfnName exp.expectfn with
  | some name => putAttr (-1) env.endian (nlaString ctaExpectFn name)
  | none => pure ()

/-- `ctnetlink_exp_fill_info` for the event `IPCTNL_MSG_EXP_NEW`: the new length of the buffer or `-1`, and
the buffer. -/
def ctnetlinkExpFillInfo (portid seq : UInt32) (p : ExpPtr) (exp : NfConntrackExpect) (master : NfConn)
    (b : Buf) : ℤ × Buf :=
  let hdr : NlMsgHdr :=
    ⟨nfnlMsgType nfnlSubsysCtnetlinkExp ipctnlMsgExpNew, if portid ≠ 0 then nlmFMulti else 0, seq, portid,
      exp.tuple.src.l3num.toUInt8, 0, 0⟩
  match nlMsg env.endian hdr (ctnetlinkExpDumpExpect env p exp master) none b with
  | (res, _, b) => (res, b)

end Message

/-! ### One call -/

/-- The fields of `struct netlink_callback` that the dump of one conntrack's expectations uses: those of the
request, the conntrack in `cb->data`, and `args`. -/
structure ExpCallback where
  portid : UInt32
  seq : UInt32
  family : UInt8
  data : CtPtr
  args0 : ℕ
  args1 : Option ExpPtr

/-- The callback's `args[1]`, the expectations and the buffer. -/
structure ExpDumpState where
  args1 : Option ExpPtr
  exps : ExpHeap
  skb : Buf

section Call

variable (env : ExpEnv) (cb : ExpCallback) (heap : CtHeap)

/-- The body of `hlist_for_each_entry_rcu`; the result says whether it left the loop by `goto out`. -/
def expDumpEntry (s : ExpDumpState) (p : ExpPtr) : Bool × ExpDumpState :=
  let exp := s.exps p
  if cb.family ≠ 0 ∧ exp.tuple.src.l3num ≠ cb.family.toUInt16 then (false, s)
  else if s.args1.isSome ∧ some p ≠ cb.args1 then (false, s)
  else
    match ctnetlinkExpFillInfo env cb.portid cb.seq p exp (heap exp.master) s.skb with
    | (res, skb) =>
      if res < 0 ∧ exp.use ≠ 0 then
        (true, ⟨some p, s.exps.modifyUse p (· + 1), skb⟩)
      else (false, ⟨none, s.exps, skb⟩)

/-- The walk over the list. -/
def expDumpList (s : ExpDumpState) : List ExpPtr → Bool × ExpDumpState
  | [] => (false, s)
  | p :: l =>
    match expDumpEntry env cb heap s p with
    | (true, s) => (true, s)
    | (false, s) => expDumpList s l

/-- `ctnetlink_exp_ct_dump_table` on the list `help->expectations` of the conntrack in `cb->data`: it returns
a length, and leaves the callback, the expectations and the buffer.  When the saved expectation was not met,
`goto restart` walks the list once more; then nothing is saved any more. -/
def ctnetlinkExpCtDumpTable (expectations : List ExpPtr) (exps : ExpHeap) (skb : Buf) :
    ℕ × ExpCallback × ExpHeap × Buf :=
  if cb.args0 ≠ 0 then (0, cb, exps, skb)
  else
    let (stop, s) :=
      match expDumpList env cb heap ⟨cb.args1, exps, skb⟩ expectations with
      | (true, s) => (true, s)
      | (false, s) =>
        if s.args1.isSome then expDumpList env cb heap { s with args1 := none } expectations else (false, s)
    let exps := match cb.args1 with
      | none => s.exps
      | some p => s.exps.modifyUse p (· - 1)
    (s.skb.data.length, { cb with args0 := if stop then 0 else 1, args1 := s.args1 }, exps, s.skb)

/-- `ctnetlink_exp_done`. -/
def ctnetlinkExpDone (exps : ExpHeap) : ExpHeap :=
  match cb.args1 with
  | none => exps
  | some p => exps.modifyUse p (· - 1)

end Call

/-! ### The request -/

section Request

variable (fenv : FilterEnv)

/-- `ctnetlink_parse_tuple` without a place for a zone: a tuple that names one is refused, behind every other
error. -/
def ctnetlinkParseTupleNoZone (attr : Attr) (type : UInt16) (l3num : UInt8) :
    Except ℤ NfConntrackTuple := do
  let (tuple, _) ← ctnetlinkParseTupleFilter fenv attr type l3num
    ⟨nfCtDefaultZoneId, 0, nfCtDefaultZoneDir⟩ (ctaFilterFAll &&& ~~~ctaFilterFCtaTupleZone)
  let tb ← nlaParseNestedDeprecated fenv.endian 3 tupleNlaPolicy attr
  if (tb ctaTupleZone).isSome then throw (-einval) else pure tuple

/-- The part of `ctnetlink_dump_exp_ct` up to `nf_conntrack_find_get`, which finds only a conntrack that it
can take a reference to.  `master` is the attribute `CTA_EXPECT_MASTER`, without which the function is not
called. -/
def dumpExpCtLookup (find : NfConntrackFind) (info : NfnlInfo) (master : Attr) (cda : NlaTable)
    (t : NfConntrackHash) : Except ℤ CtPtr := do
  let tuple ← ctnetlinkParseTupleNoZone fenv master ctaExpectMaster info.family
  let zone := ctnetlinkParseZone (cda ctaExpectZone)
  match find t info.net zone tuple with
  | none => throw (-enoent)
  | some h => if (t.heap h.ct).use = 0 then throw (-enoent) else pure h.ct

end Request

end VgwDriver
