import VgwDriver.Base.Pack
import VgwDriver.Netlink.Export

/-!
# Dumping the hash table

The conntrack hash table and one call of `ctnetlink_dump_table`: the walk over the chains with its saved
bucket and saved conntrack, the `restart` of a bucket whose saved conntrack is gone, and the expired
conntracks collected on the way and killed outside the lock.

* `NfConntrackHash` — the table;
* `ctnetlinkDumpTable` — the function; `DumpState.fills` logs its calls of `ctnetlink_fill_info`.
-/

namespace VgwDriver

open Base

/-! ### The table -/

/-- The conntrack hash table: the chains, each in order, and the records.  A node is in one chain only. -/
structure NfConntrackHash where
  chains : List (List TupleHash)
  heap : CtHeap
  nodup : chains.flatten.Nodup

namespace NfConntrackHash

variable (t : NfConntrackHash)

/-- `nf_conntrack_htable_size`. -/
def size : ℕ := t.chains.length

/-- `nf_conntrack_hash[i]`. -/
def chain (i : ℕ) : List TupleHash := t.chains.getD i []

/-- The table with another heap. -/
def withHeap (h : CtHeap) : NfConntrackHash := { t with heap := h }

@[simp] theorem withHeap_heap (h : CtHeap) : (t.withHeap h).heap = h := rfl

/-- The table without the nodes of `p`. -/
def unlink (p : CtPtr) : NfConntrackHash where
  chains := t.chains.map fun c => c.filter fun h => h.ct ≠ p
  heap := t.heap
  nodup := by
    rw [← List.filter_flatten]
    exact t.nodup.filter _

theorem chain_of_lt {i : ℕ} (hi : i < t.size) : t.chain i = t.chains[i] := by
  unfold chain
  rw [List.getD_eq_getElem?_getD, List.getElem?_eq_getElem hi, Option.getD_some]

theorem chain_of_le {i : ℕ} (hi : t.size ≤ i) : t.chain i = [] := by
  unfold chain
  rw [List.getD_eq_getElem?_getD, List.getElem?_eq_none hi, Option.getD_none]

/-- A node is in its chain once. -/
theorem nodup_chain (i : ℕ) : (t.chain i).Nodup := by
  by_cases hi : i < t.size
  · rw [t.chain_of_lt hi]
    exact (List.nodup_flatten.mp t.nodup).1 _ (List.getElem_mem hi)
  · rw [t.chain_of_le (by omega)]
    exact List.nodup_nil

/-- A node is in one chain only. -/
theorem chain_disjoint {h : TupleHash} {i j : ℕ} (hi : h ∈ t.chain i) (hj : h ∈ t.chain j) : i = j := by
  have hlt : ∀ {i : ℕ}, h ∈ t.chain i → i < t.size := by
    intro i hi
    by_contra hge
    rw [t.chain_of_le (by omega)] at hi
    cases hi
  have hpair := List.pairwise_iff_getElem.mp (List.nodup_flatten.mp t.nodup).2
  have hne : ∀ {i j : ℕ}, h ∈ t.chain i → h ∈ t.chain j → ¬ i < j := by
    intro i j hi hj hij
    have hdisj := hpair i j (hlt hi) (hlt hj) hij
    rw [t.chain_of_lt (hlt hi)] at hi
    rw [t.chain_of_lt (hlt hj)] at hj
    exact hdisj hi hj
  have h₁ := hne hi hj
  have h₂ := hne hj hi
  omega

end NfConntrackHash

/-- `nf_ct_is_expired`. -/
def nfCtIsExpired (env : NlEnv) (ct : NfConn) : Bool :=
  s32 (ct.timeout - env.nfctTimeStamp).toNat ≤ 0

/-- `nf_ct_should_gc`. -/
def nfCtShouldGc (env : NlEnv) (ct : NfConn) : Bool :=
  nfCtIsExpired env ct && ct.testStatus ipsConfirmedBit && !ct.testStatus ipsDyingBit

/-- `IPS_DYING`. -/
def ipsDying : UInt32 := 512

/-- `nf_ct_kill`: unless it is dying already, the conntrack is marked as dying, its nodes leave the table,
and the table's reference is dropped. -/
def nfCtKill (t : NfConntrackHash) (p : CtPtr) : NfConntrackHash :=
  if (t.heap p).testStatus ipsDyingBit then t
  else (t.unlink p).withHeap
    (t.heap.modify p fun c => { c with status := c.status ||| ipsDying, use := c.use - 1 })

/-! ### One call -/

/-- The fields of `struct netlink_callback` that do not change during a session, and its namespace. -/
structure DumpRequest where
  net : NetPtr
  portid : UInt32
  seq : UInt32
  type : UInt8
  /-- `cb->data` -/
  filter : Option CtnetlinkFilter

/-- The call of `ctnetlink_fill_info` a dump makes about `ct`. -/
def DumpRequest.fillCall (req : DumpRequest) (env : NlEnv) (p : CtPtr) (ct : NfConn) : FillCall :=
  (FillSource.dumpTable req.filter).call env req.portid req.seq req.type p ct

/-- The variables of `ctnetlink_dump_table`, the table and the buffer; `fills` is not part of the source, it
logs the calls of `ctnetlink_fill_info` with the room each one found. -/
structure DumpState where
  table : NfConntrackHash
  args0 : ℕ
  args1 : Option CtPtr
  /-- `nf_ct_evict[i - 1], …, nf_ct_evict[0]` -/
  evict : List CtPtr
  skb : Buf
  fills : List (FillCall × ℕ)

def nfCtEvictSize : ℕ := 8

/-- The loop `while (i) { i--; … }`. -/
def dumpEvict (env : NlEnv) (t : NfConntrackHash) : List CtPtr → NfConntrackHash
  | [] => t
  | p :: l =>
    let t := if nfCtShouldGc env (t.heap p) then nfCtKill t p else t
    dumpEvict env (t.withHeap (t.heap.put p)) l

section

variable (env : NlEnv) (req : DumpRequest) (last : Option CtPtr)

/-- The body of `hlist_nulls_for_each_entry`; the result says whether it left the loops by `goto out`. -/
def dumpEntry (s : DumpState) (h : TupleHash) : Bool × DumpState :=
  let ct := s.table.heap h.ct
  if nfCtIsExpired env ct then
    if s.evict.length < nfCtEvictSize ∧ ct.use ≠ 0 then
      (false, { s with
        table := s.table.withHeap (s.table.heap.get h.ct)
        evict := h.ct :: s.evict })
    else (false, s)
  else if ct.net ≠ req.net then (false, s)
  else if h.dir ≠ .original then (false, s)
  else if s.args1.isSome ∧ some h.ct ≠ last then (false, s)
  else
    let s := { s with args1 := none }
    if !ctnetlinkFilterMatch ct req.filter then (false, s)
    else
      let c := req.fillCall env h.ct ct
      match c.exec s.skb with
      | (res, acct, skb) =>
        let s := { s with
          table := s.table.withHeap (s.table.heap.modify h.ct fun ct => { ct with acct := acct })
          skb := skb
          fills := s.fills ++ [(c, s.skb.room)] }
        if res < 0 then
          (true, { s with
            table := s.table.withHeap (s.table.heap.get h.ct)
            args1 := some h.ct })
        else (false, s)

/-- The walk over one chain. -/
def dumpChain (s : DumpState) : List TupleHash → Bool × DumpState
  | [] => (false, s)
  | h :: l =>
    match dumpEntry env req last s h with
    | (true, s) => (true, s)
    | (false, s) => dumpChain s l

/-- One bucket: when the saved conntrack was not met, `goto restart` walks the chain once more.  Then
nothing is saved any more, so there is no third walk. -/
def dumpBucket (s : DumpState) : Bool × DumpState :=
  let s := { s with table := dumpEvict env s.table s.evict, evict := [] }
  match dumpChain env req last s (s.table.chain s.args0) with
  | (true, s) => (true, s)
  | (false, s) =>
    if s.args1.isSome then
      let s := { s with table := dumpEvict env s.table s.evict, evict := [], args1 := none }
      dumpChain env req last s (s.table.chain s.args0)
    else (false, s)

/-- The loop over the last `n` buckets. -/
def dumpBuckets : ℕ → DumpState → DumpState
  | 0, s => s
  | n + 1, s =>
    match dumpBucket env req last s with
    | (true, s) => s
    | (false, s) => dumpBuckets n { s with args0 := s.args0 + 1 }

end

/-- `ctnetlink_dump_table`, on the saved arguments and the buffer it gets; it returns the length of the
buffer. -/
def ctnetlinkDumpTable (env : NlEnv) (req : DumpRequest) (t : NfConntrackHash) (args0 : ℕ)
    (args1 : Option CtPtr) (skb : Buf) : ℕ × DumpState :=
  let last := args1
  let s := dumpBuckets env req last (t.size - args0) ⟨t, args0, args1, [], skb, []⟩
  let s := match last with
    | none => s
    | some p => { s with
        args1 := if s.args1 = some p then none else s.args1
        table := s.table.withHeap (s.table.heap.put p) }
  let s := { s with table := dumpEvict env s.table s.evict, evict := [] }
  (s.skb.data.length, s)

end VgwDriver
