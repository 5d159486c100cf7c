import VgwDriver.Base.Counted
import VgwDriver.Netlink.Change
import VgwDriver.Netlink.ExpectId
import VgwDriver.Netlink.Flush

/-!
# Creating a conntrack

`ctnetlink_new_conntrack`: a request that names a conntrack of the table changes it, and one that does not
creates it, where its flags say so.  The table, the records and who refers to them are one state, `CtWorld`.

* `ctnetlinkCreateConntrack`, `ctnetlinkNewConntrack` — the functions;
* `ctnetlinkDelete`, `ctnetlinkFlush` — the requests that delete, on the same state;
* `CtWorld.put` — a reference dropped, the last of which frees the conntrack and drops its master.
-/

namespace VgwDriver

open Base

def eexist : ℤ := 17
def eagain : ℤ := 11

/-! ### The table and the records -/

/-- The conntracks: the table with the records, `ct->master`, and which records are allocated. -/
structure CtWorld where
  hash : NfConntrackHash
  master : CtPtr → Option CtPtr
  live : List CtPtr

/-- Node `a` in front of the chain `i`. -/
def addHead (chains : List (List TupleHash)) (i : ℕ) (a : TupleHash) : List (List TupleHash) :=
  chains.modify i (a :: ·)

theorem addHead_flatten (chains : List (List TupleHash)) {i : ℕ} (hi : i < chains.length) (a : TupleHash) :
    (addHead chains i a).flatten.Perm (a :: chains.flatten) := by
  induction chains generalizing i with
  | nil => cases hi
  | cons c chains ih =>
    cases i with
    | zero => exact List.Perm.refl _
    | succ i =>
      have hrest := ih (Nat.lt_of_succ_lt_succ hi)
      show (c ++ (addHead chains i a).flatten).Perm (a :: (c ++ chains.flatten))
      exact (hrest.append_left c).trans List.perm_middle

@[simp] theorem addHead_length (chains : List (List TupleHash)) (i : ℕ) (a : TupleHash) :
    (addHead chains i a).length = chains.length := List.length_modify _ _ _

namespace NfConntrackHash

/-- The nodes of the table. -/
def nodes (t : NfConntrackHash) : List TupleHash := t.chains.flatten

/-- `__nf_conntrack_hash_insert`: both nodes of `p`, which is not in the table, go in front of their chains. -/
def insert (t : NfConntrackHash) (p : CtPtr) (hp : ∀ h ∈ t.nodes, h.ct ≠ p) (i j : Fin t.size) :
    NfConntrackHash where
  chains := addHead (addHead t.chains i ⟨p, .original⟩) j ⟨p, .reply⟩
  heap := t.heap
  nodup := by
    have hi := addHead_flatten t.chains i.isLt ⟨p, .original⟩
    have hj := addHead_flatten (addHead t.chains i ⟨p, .original⟩)
      (by rw [addHead_length]; exact j.isLt) ⟨p, .reply⟩
    have hnot : ∀ dir, ⟨p, dir⟩ ∉ t.nodes := fun dir hmem => hp _ hmem rfl
    refine (hj.trans (hi.cons _)).nodup_iff.mpr (List.nodup_cons.mpr ⟨?_, List.nodup_cons.mpr ⟨?_, t.nodup⟩⟩)
    · intro hmem
      rcases List.mem_cons.mp hmem with heq | hmem
      · cases heq
      · exact hnot _ hmem
    · exact hnot _

end NfConntrackHash

namespace CtWorld

variable (w : CtWorld)

/-- The record at `p`. -/
def conn (p : CtPtr) : NfConn := w.hash.heap p

/-- The conntrack at `p` is in the table. -/
def Listed (p : CtPtr) : Prop := ⟨p, .original⟩ ∈ w.hash.nodes

instance (p : CtPtr) : Decidable (w.Listed p) := inferInstanceAs (Decidable (_ ∈ _))

/-- Change the record at `p`. -/
def modify (p : CtPtr) (f : NfConn → NfConn) : CtWorld :=
  { w with hash := w.hash.withHeap (w.hash.heap.modify p f) }

/-- Who refers to whom. -/
def counted : Counted CtPtr := ⟨w.live, fun p => (w.conn p).use, w.master⟩

/-- The state with the counts and the allocated records of `s`. -/
def withCounted (s : Counted CtPtr) : CtWorld := { w with
  hash := w.hash.withHeap fun p => { w.conn p with use := s.count p }
  live := s.live }

/-- Take a reference. -/
def get (p : CtPtr) : CtWorld := w.withCounted (w.counted.get p)

/-- `nf_ct_put`: the last reference frees the conntrack, and its reference to the master is dropped. -/
def put (p : CtPtr) : CtWorld := w.withCounted (w.counted.put p)

/-- `nf_ct_delete`, with a destroy event that is delivered: one that is not would leave the table's reference to
the worker that sends it again.  The time stamp's stop is left out. -/
def delete (p : CtPtr) : CtWorld :=
  if (w.conn p).testStatus ipsDyingBit then w
  else
    let w := w.modify p fun ct => { ct with status := ct.status ||| ipsDying }
    { w with hash := w.hash.unlink p }.put p

/-- The part of `nf_conntrack_hash_check_insert` behind its checks, for the new conntrack `ct` at `p` with the
master `m`: one reference is the table's, one the caller's. -/
def insert (p : CtPtr) (ct : NfConn) (m : Option CtPtr) (i j : Fin w.hash.size) : CtWorld :=
  if hp : ∀ h ∈ w.hash.nodes, h.ct ≠ p then
    { hash := (w.hash.insert p hp i j).withHeap (w.hash.heap.modify p fun _ => { ct with use := 2 })
      master := Function.update w.master p m
      live := p :: w.live }
  else w

end CtWorld

/-! ### The kernel around a creation -/

/-- `enum nf_nat_manip_type`. -/
inductive NfNatManipType where
  | src
  | dst
  deriving DecidableEq, Repr

/-- What the requests call besides the functions that change a conntrack. -/
structure CreateEnv extends ChangeEnv where
  /-- where `nf_conntrack_alloc` gets the memory; the conntracks that `early_drop` deletes to make room for it
  are left out -/
  alloc : CtWorld → Option CtPtr
  /-- `nf_ct_helper_ext_add` -/
  helperExtAdd : NfConn → Option NfConn
  /-- `request_module("nfct-helper-%s")`, and `__nf_conntrack_helper_find` once it is loaded -/
  requestHelper : Bytes → Bool
  helperFindLoaded : Bytes → UInt16 → UInt8 → Option NfConntrackHelper
  /-- `__nf_ct_try_assign_helper` without a template -/
  tryAssignHelper : NfConn → ℤ × NfConn
  /-- `nf_nat_hook->parse_nat_setup`, `none` without the hook -/
  parseNatSetup : Option (NfNatManipType → Option Attr → NfConn → ℤ × NfConn)
  /-- `request_module("nf-nat")` brings the hook, `request_module("nf-nat-%u")` succeeds -/
  requestNat : Bool
  requestNatL3 : UInt16 → Bool
  /-- the six `nf_ct_*_ext_add` for the accounting, the time stamp, the events, the labels, the sequence
  adjustment and the SYN proxy -/
  extAdd : NfConn → NfConn
  /-- `__nf_ct_set_timeout`, of a time in jiffies -/
  setTimeout : ℕ → NfConn → NfConn
  /-- `ktime_get_real_ns` -/
  realNs : UInt64
  /-- the checks of `nf_conntrack_hash_check_insert`: an error, or the chains of the two nodes -/
  place : (t : NfConntrackHash) → NfConn → Except ℤ (Fin t.size × Fin t.size)
  /-- `nf_conntrack_find_get`, without the reference it takes, and without the collection of the expired entries
  it comes to -/
  find : NfConntrackFind
  nfCtGetId : CtPtr → UInt32

/-! ### Creating -/

def IpCtTcpState.zero : IpCtTcpState := ⟨0, 0, 0, 0, 0, 0⟩

/-- The TCP state of all zero bytes. -/
def IpCtTcp.zero : IpCtTcp := ⟨.zero, .zero, .none, 0, 0, 0, 0, 0, 0, 0, 0, 0⟩

/-- The record that `nf_conntrack_alloc` returns. -/
def nfConntrackAlloc (net : NetPtr) (zone : NfConntrackZone) (orig repl : NfConntrackTuple) : NfConn where
  net := net
  tupleOrig := orig
  tupleReply := repl
  zone := zone
  status := 0
  mark := 0
  secmark := 0
  timeout := 0
  use := 0
  masterTuple := .zero
  tcp := .zero
  acct := none
  tstamp := none
  help := none
  labels := none
  seqadj := none
  synproxy := none

/-- `IPS_EXPECTED`, `IPS_CONFIRMED` and `IPS_HELPER`. -/
def ipsExpected : UInt32 := 1
def ipsConfirmed : UInt32 := 8
def ipsHelper : UInt32 := 8192

section Create

variable (env : CreateEnv)

/-- The helper of a new conntrack. -/
def createHelper (cda : NlaTable) (ct : NfConn) : ℤ × NfConn :=
  match cda ctaHelp with
  | none => env.tryAssignHelper ct
  | some attr =>
    match ctnetlinkParseHelp env.endian attr with
    | .error err => (err, ct)
    | .ok (helpname, helpinfo) =>
      match env.helperFind helpname (nfCtL3num ct) (nfCtProtonum ct) with
      | none =>
        if env.requestHelper helpname ∧ (env.helperFindLoaded helpname (nfCtL3num ct) (nfCtProtonum ct)).isSome
        then (-eagain, ct)
        else (-eopnotsupp, ct)
      | some helper =>
        match env.helperExtAdd ct with
        | none => (-enomem, ct)
        | some ct => (0, { ct with
            help := some (some (env.helperFromNlattr helper helpinfo ct))
            status := ct.status ||| ipsHelper })

/-- `ctnetlink_parse_nat_setup`. -/
def ctnetlinkParseNatSetup (manip : NfNatManipType) (attr : Option Attr) (ct : NfConn) : ℤ × NfConn :=
  match env.parseNatSetup with
  | none => (if env.requestNat then -eagain else -eopnotsupp, ct)
  | some parseNatSetup =>
    match parseNatSetup manip attr ct with
    | (err, ct) =>
      if err = -eagain ∧ ¬ env.requestNatL3 (nfCtL3num ct) then (-eopnotsupp, ct) else (err, ct)

/-- `ctnetlink_setup_nat`. -/
def ctnetlinkSetupNat (cda : NlaTable) (ct : NfConn) : ℤ × NfConn :=
  if (cda ctaNatDst).isNone ∧ (cda ctaNatSrc).isNone then (0, ct)
  else untilError [ctnetlinkParseNatSetup env .dst (cda ctaNatDst),
    ctnetlinkParseNatSetup env .src (cda ctaNatSrc)] ct

/-- `ctnetlink_create_conntrack` between the allocation and the confirmation. -/
def unconfirmedParts (cda : NlaTable) : List (NfConn → ℤ × NfConn) :=
  [fun ct => (if (cda ctaTimeout).isNone then -einval else 0, ct), createHelper env cda,
    ctnetlinkSetupNat env cda, fun ct => (0, env.extAdd ct)]

def setConfirmed (ct : NfConn) : ℤ × NfConn := (0, { ct with status := ct.status ||| ipsConfirmed })

/-- Between the confirmation and the master. -/
def confirmedParts (cda : NlaTable) : List (NfConn → ℤ × NfConn) :=
  [part (cda ctaTimeout) fun a ct => (0, env.setTimeout ((nlaGetBe32 a).toNat * env.hz) ct),
    part (cda ctaStatus) (ctnetlinkChangeStatus env.toChangeEnv), seqAdjPart env.toChangeEnv cda,
    fun ct => (0, { ct with tcp := .zero }),
    part (cda ctaProtoinfo) (ctnetlinkChangeProtoinfo env.toChangeEnv),
    part (cda ctaSynproxy) (ctnetlinkChangeSynproxy env.toChangeEnv), markPart cda]

def createParts (cda : NlaTable) : List (NfConn → ℤ × NfConn) :=
  unconfirmedParts env cda ++ setConfirmed :: confirmedParts env cda

/-- The master of a new conntrack, without the reference to it. -/
def createMaster (info : NfnlInfo) (zone : NfConntrackZone) (cda : NlaTable) (t : NfConntrackHash) :
    Except ℤ (Option CtPtr) :=
  match cda ctaTupleMaster with
  | none => .ok none
  | some attr => do
    let tuple ← ctnetlinkParseTupleNoZone env.toFilterEnv attr ctaTupleMaster info.family
    match env.find t info.net zone tuple with
    | none => throw (-enoent)
    | some h => pure (some h.ct)

/-- The conntrack `ct` behind the lookup of its master. -/
def NfConn.withMaster (ct : NfConn) (w : CtWorld) : Option CtPtr → NfConn
  | none => ct
  | some m => { ct with
      status := ct.status ||| ipsExpected
      masterTuple := (w.conn m).tupleOrig }

/-- A reference to what may be null, and `nf_ct_put` on it. -/
def CtWorld.getOpt (w : CtWorld) : Option CtPtr → CtWorld
  | none => w
  | some m => w.get m
def CtWorld.putOpt (w : CtWorld) : Option CtPtr → CtWorld
  | none => w
  | some m => w.put m

/-- `ctnetlink_create_conntrack`: an error, or the conntrack with a reference to it. -/
def ctnetlinkCreateConntrack (info : NfnlInfo) (zone : NfConntrackZone) (cda : NlaTable)
    (otuple rtuple : NfConntrackTuple) (w : CtWorld) : Except ℤ CtPtr × CtWorld :=
  match env.alloc w with
  | none => (.error (-enomem), w)
  | some p =>
    match untilError (createParts env cda) (nfConntrackAlloc info.net zone otuple rtuple) with
    | (err, ct) =>
      if err < 0 then (.error err, w)
      else
        match createMaster env info zone cda w.hash with
        | .error err => (.error err, w)
        | .ok m =>
          let w := w.getOpt m
          let ct := ct.withMaster w m
          let ct := { ct with tstamp := ct.tstamp.map fun t => { t with start := env.realNs } }
          match env.place w.hash ct with
          | .error err => (.error err, w.putOpt m)
          | .ok (i, j) => (.ok p, w.insert p ct m i j)

/-! ### Requests -/

/-- What a request returns and leaves, and the conntrack and the events that are reported. -/
structure NewResult where
  err : ℤ
  world : CtWorld
  report : Option (CtPtr × UInt32)

/-- The events of both kinds of request, and of a change. -/
def ipctReply : ℕ := 3
def ipctAssured : ℕ := 4
def eventMask (bits : List ℕ) : UInt32 := UInt32.ofNat (bits.foldl (fun mask bit => mask ||| 2 ^ bit) 0)
def createEvents : List ℕ :=
  [ipctReply, ipctAssured, ipctHelper, ipctProtoinfo, ipctSeqadj, ipctMark, ipctSynproxy]
def changeEvents : UInt32 := eventMask (ipctLabel :: createEvents)

/-- The labels of a new conntrack at `p`; an error is ignored. -/
def createLabels (cda : NlaTable) (p : CtPtr) (w : CtWorld) : CtWorld × List ℕ :=
  match cda ctaLabels with
  | none => (w, [])
  | some a =>
    match ctnetlinkAttachLabels env.toChangeEnv cda a (w.conn p) with
    | (err, ct) => (w.modify p fun _ => ct, if err = 0 then [ipctLabel] else [])

/-- The branch of `ctnetlink_new_conntrack` for a conntrack that is not there. -/
def newCreate (info : NfnlInfo) (cda : NlaTable) (otuple rtuple : Option NfConntrackTuple)
    (zone : NfConntrackZone) (w : CtWorld) : NewResult :=
  match otuple, rtuple with
  | some otuple, some rtuple =>
    if otuple.dst.protonum ≠ rtuple.dst.protonum then ⟨-einval, w, none⟩
    else
      match ctnetlinkCreateConntrack env info zone cda otuple rtuple w with
      | (.error err, w) => ⟨err, w, none⟩
      | (.ok p, w) =>
        let event := if (w.conn p).testStatus ipsExpectedBit then ipctRelated else ipctNew
        match createLabels env cda p w with
        | (w, labels) => ⟨0, w.put p, some (p, eventMask (createEvents ++ event :: labels))⟩
  | _, _ => ⟨-einval, w, none⟩

/-- The branch for the conntrack at `p`, which is held. -/
def newChange (flags : UInt16) (cda : NlaTable) (p : CtPtr) (w : CtWorld) : NewResult :=
  if flags &&& nlmFExcl ≠ 0 then ⟨-eexist, w.put p, none⟩
  else
    match ctnetlinkChangeConntrack env.toChangeEnv (w.master p).isSome cda (w.conn p) with
    | (err, ct) => ⟨err, (w.modify p fun _ => ct).put p, if err = 0 then some (p, changeEvents) else none⟩

/-- `ctnetlink_new_conntrack`, for a request with the `nlmsg_flags` `flags`. -/
def ctnetlinkNewConntrack (info : NfnlInfo) (flags : UInt16) (cda : NlaTable) (w : CtWorld) : NewResult :=
  match newConntrackKeys env.toFilterEnv cda info.family with
  | .error err => ⟨err, w, none⟩
  | .ok (otuple, rtuple, zone) =>
    match (otuple.or rtuple).bind (env.find w.hash info.net zone) with
    | none =>
      if flags &&& nlmFCreate = 0 then ⟨-enoent, w, none⟩ else newCreate env info cda otuple rtuple zone w
    | some h => newChange env flags cda h.ct (w.get h.ct)

namespace CtWorld

/-- `nf_ct_iterate_cleanup_net`, which looks at what is in the table. -/
def iterateCleanupNet (w : CtWorld) (net : NetPtr) (iter : NfConn → Bool) : CtWorld :=
  (w.hash.nodes.map (·.ct)).foldl (fun w p =>
    if w.Listed p ∧ (w.conn p).net = net ∧ iter (w.conn p) then ((w.get p).delete p).put p else w) w

/-- `ctnetlink_flush_conntrack`. -/
def flushConntrack (info : NfnlInfo) (cda : NlaTable) (family : UInt8) (w : CtWorld) : ℤ × CtWorld :=
  if ctnetlinkNeedsFilter family cda then
    if (cda ctaFilter).isSome then (-eopnotsupp, w)
    else
      match ctnetlinkAllocFilter env.toFilterEnv cda family with
      | .error err => (err, w)
      | .ok filter => (0, w.iterateCleanupNet info.net fun ct => ctnetlinkFlushIterate ct (some filter))
  else (0, w.iterateCleanupNet info.net fun ct => ctnetlinkFlushIterate ct none)

/-- The branch of `ctnetlink_del_conntrack` for the conntrack at `p`, which is held. -/
def delOne (cda : NlaTable) (p : CtPtr) (w : CtWorld) : ℤ × CtWorld :=
  if (w.conn p).testStatus ipsOffloadBit then (-ebusy, w.put p)
  else
    match cda ctaId with
    | some id =>
      if nlaGetU32 env.endian id ≠ env.nfCtGetId p then (-enoent, w.put p) else (0, (w.delete p).put p)
    | none => (0, (w.delete p).put p)

/-- `ctnetlink_del_conntrack`, for a request of the given `nfgen` version. -/
def delConntrack (info : NfnlInfo) (version : UInt8) (cda : NlaTable) (w : CtWorld) : ℤ × CtWorld :=
  if (cda ctaTupleOrig).isNone ∧ (cda ctaTupleReply).isNone then
    flushConntrack env info cda (if version ≠ 0 then info.family else 0) w
  else
    match getLookup env.toFilterEnv env.find info cda w.hash with
    | .error err => (err, w)
    | .ok h => delOne env cda h.ct (w.get h.ct)

/-- What a dump does about a conntrack that it finds expired, and `nf_ct_gc_expired` elsewhere: it is held, killed
if it should go, and no longer held. -/
def gcExpired (env : NlEnv) (p : CtPtr) (w : CtWorld) : CtWorld :=
  let w := w.get p
  (if nfCtShouldGc env (w.conn p) then w.delete p else w).put p

end CtWorld

end Create

end VgwDriver
