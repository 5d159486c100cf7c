import Mathlib.Algebra.Order.BigOperators.Group.List
import VgwDriver.Netlink.FilterSpec
import VgwDriver.Netlink.Lifecycle

/-!
# Runs of requests

Requests that create, change and delete conntracks, and expired ones that are collected in between, in any
order and against any behaviour of the kernel around them.

* `Sound.new`, `Sound.del`, `Sound.gc` — what one of them keeps;
* `run_references` — **the counts of the references stay exact**;
* `run_keys` — **the table**: what is in it, and that no two of its conntracks share a key;
* `run_reached` — **nothing is left behind** without a reference;
* `run_kept` — **a conntrack keeps its identity** as long as it is there;
* `refused_unchanged` — **a request that is refused** changes nothing, except that a change has done its parts
  up to its error.
-/

namespace VgwDriver

open Base

namespace CtWorld

variable {env : CreateEnv} {w : CtWorld} {held : CtPtr → ℕ} {p q : CtPtr} {info : NfnlInfo} {cda : NlaTable}
  {zone : NfConntrackZone} {otuple rtuple : NfConntrackTuple}

/-! ### One request -/

/-- A conntrack that is found is allocated. -/
theorem Sound.live_of_found (h : w.Sound held) (henv : env.Lawful) {net : NetPtr} {tuple : NfConntrackTuple}
    {n : TupleHash} (hfind : env.find w.hash net zone tuple = some n) : n.ct ∈ w.live :=
  h.live_of_listed (h.listed_of_mem (henv.found _ _ _ _ n hfind).1)

/-- A reference in addition to those of a master. -/
theorem getOpt_cases (h : w.Sound held) {m : Option CtPtr} (hm : ∀ q, m = some q → q ∈ w.live) :
    ∃ held' : CtPtr → ℕ, (w.getOpt m).Sound held' ∧ ∀ q, held' q = held q + if m = some q then 1 else 0 := by
  cases m with
  | none => exact ⟨held, h, fun q => rfl⟩
  | some m =>
    refine ⟨Counted.more held m, h.get (hm m rfl), fun q => ?_⟩
    rw [Counted.more_apply]
    by_cases hq : q = m
    · rw [if_pos hq, if_pos (congrArg some hq.symm), hq]
    · rw [if_neg hq, if_neg fun heq => hq (Option.some.inj heq).symm]
      rfl

@[simp] theorem live_getOpt (w : CtWorld) (m : Option CtPtr) : (w.getOpt m).live = w.live := by
  cases m <;> rfl

@[simp] theorem nodes_getOpt (w : CtWorld) (m : Option CtPtr) : (w.getOpt m).hash.nodes = w.hash.nodes := by
  cases m <;> rfl

theorem net_getOpt (w : CtWorld) (m : Option CtPtr) (q : CtPtr) : ((w.getOpt m).conn q).net = (w.conn q).net := by
  cases m <;> rfl

/-- The master of a new conntrack is one of its namespace. -/
theorem createMaster_net (henv : env.Lawful) {m : CtPtr}
    (hm : createMaster env info zone cda w.hash = .ok (some m)) : (w.conn m).net = info.net := by
  obtain ⟨n, tuple, hfind, rfl⟩ := createMaster_found hm
  exact (henv.found _ _ _ _ n hfind).2.2.2

/-- **A conntrack created**: the caller holds it. -/
theorem Sound.create (h : w.Sound held) (henv : env.Lawful) {w' : CtWorld}
    (hcreate : ctnetlinkCreateConntrack env info zone cda otuple rtuple w = (.ok p, w')) :
    w'.Sound (Counted.more held p) := by
  rcases create_cases h henv info zone cda otuple rtuple with ⟨err, heq⟩ | ⟨p', m, i, j, halloc, hok, hm, hplace, heq⟩
  · rw [heq] at hcreate
    cases hcreate
  · rw [heq] at hcreate
    cases hcreate
    have hfree := henv.alloc w p halloc
    have hmlive : ∀ q, m = some q → q ∈ w.live := by
      rintro q rfl
      exact createMaster_live h henv hm
    obtain ⟨held', hheld, hmore⟩ := getOpt_cases h hmlive
    obtain ⟨hexpected, hconfirmed, hdying⟩ := createdConn_bits (w := w.getOpt m) henv m hok
    have hinsert := hheld.insert (p := p) (m := m) (i := i) (j := j) (by rwa [live_getOpt])
      (fun q hq => by rw [hmore, if_pos hq]; omega) hexpected hconfirmed hdying
      (fun q dir hq hsame => henv.place _ _ i j hplace ⟨q, dir⟩ (hheld.paired _ hq dir) hsame.keyEqual)
      (by
        rintro q rfl
        rw [net_getOpt, createMaster_net henv hm]
        exact (createdConn_fate henv _ hok).net.symm)
    have hzero : held p = 0 := Nat.eq_zero_of_not_pos fun hpos => hfree (h.exact.held p (by omega))
    have hfun : (fun q => if q = p then 1 else held' q - if m = some q then 1 else 0) = Counted.more held p := by
      funext q
      rw [Counted.more_apply, hmore, hzero]
      split <;> omega
    rwa [hfun] at hinsert

/-- The labels of a new conntrack. -/
theorem Sound.createLabels (h : w.Sound held) (henv : env.Lawful) :
    (createLabels env cda p w).1.Sound held := by
  unfold VgwDriver.createLabels
  cases cda ctaLabels with
  | none => exact h
  | some a => exact h.modify (attachLabels_sameCore henv.change cda a)

/-- A reference taken and dropped at the end of what was done under it. -/
theorem Sound.putTaken (h : w.Sound (Counted.more held p)) : (w.put p).Sound held := by
  have hput := h.put (p := p) (by rw [Counted.more_apply, if_pos rfl]; omega)
  rwa [Counted.less_more] at hput

theorem Sound.newCreate (h : w.Sound held) (henv : env.Lawful) (otuple rtuple : Option NfConntrackTuple) :
    (newCreate env info cda otuple rtuple zone w).world.Sound held := by
  unfold VgwDriver.newCreate
  cases otuple with
  | none => exact h
  | some otuple =>
    cases rtuple with
    | none => exact h
    | some rtuple =>
      dsimp only
      split
      · exact h
      · rcases hcreate : ctnetlinkCreateConntrack env info zone cda otuple rtuple w with ⟨err | p, w'⟩
        · rcases create_cases h henv info zone cda otuple rtuple with ⟨err', heq⟩ | ⟨p, m, i, j, -, -, -, -, heq⟩
          · rw [heq] at hcreate
            cases hcreate
            exact h
          · rw [heq] at hcreate
            cases hcreate
        · exact ((h.create henv hcreate).createLabels henv).putTaken

theorem Sound.newChange (h : w.Sound (Counted.more held p)) (henv : env.Lawful) (flags : UInt16) :
    (newChange env flags cda p w).world.Sound held := by
  unfold VgwDriver.newChange
  split
  · exact h.putTaken
  · exact (h.modify (change_sameCore henv.change _ cda _)).putTaken

/-- **A request for a new conntrack**, or to change one. -/
theorem Sound.new (h : w.Sound held) (henv : env.Lawful) (info : NfnlInfo) (flags : UInt16) (cda : NlaTable) :
    (ctnetlinkNewConntrack env info flags cda w).world.Sound held := by
  unfold ctnetlinkNewConntrack
  cases newConntrackKeys env.toFilterEnv cda info.family with
  | error err => exact h
  | ok r =>
    obtain ⟨otuple, rtuple, zone⟩ := r
    dsimp only
    cases hfind : (otuple.or rtuple).bind (env.find w.hash info.net zone) with
    | none =>
      dsimp only
      split
      · exact h
      · exact h.newCreate henv otuple rtuple
    | some n =>
      obtain ⟨tuple, -, hfound⟩ := Option.bind_eq_some_iff.mp hfind
      exact (h.get (h.live_of_found henv hfound)).newChange henv flags

/-- The step of a cleanup. -/
def cleanupStep (net : NetPtr) (iter : NfConn → Bool) (w : CtWorld) (p : CtPtr) : CtWorld :=
  if w.Listed p ∧ (w.conn p).net = net ∧ iter (w.conn p) then ((w.get p).delete p).put p else w

theorem iterateCleanupNet_eq (w : CtWorld) (net : NetPtr) (iter : NfConn → Bool) :
    w.iterateCleanupNet net iter = run (cleanupStep net iter) w (w.hash.nodes.map (·.ct)) := rfl

/-- A conntrack deleted under a reference of its own. -/
theorem Sound.deleteTaken (h : w.Sound held) (hp : p ∈ w.live) : (((w.get p).delete p).put p).Sound held :=
  ((h.get hp).delete (by rw [Counted.more_apply, if_pos rfl]; omega)).putTaken

theorem Sound.cleanupStep (h : w.Sound held) (net : NetPtr) (iter : NfConn → Bool) (p : CtPtr) :
    (cleanupStep net iter w p).Sound held := by
  unfold CtWorld.cleanupStep
  by_cases hp : w.Listed p ∧ (w.conn p).net = net ∧ iter (w.conn p)
  · rw [if_pos hp]
    exact h.deleteTaken (h.live_of_listed hp.1)
  · rw [if_neg hp]
    exact h

theorem Sound.cleanup (h : w.Sound held) (net : NetPtr) (iter : NfConn → Bool) :
    (w.iterateCleanupNet net iter).Sound held := by
  have hstep : ∀ (w : CtWorld) p, w.Sound held → (CtWorld.cleanupStep net iter w p).Sound held :=
    fun _ p hs => hs.cleanupStep net iter p
  rw [iterateCleanupNet_eq]
  exact @run_invariant CtWorld CtPtr _ (fun w => w.Sound held) w h hstep _

theorem Sound.flush (h : w.Sound held) (info : NfnlInfo) (cda : NlaTable) (family : UInt8) :
    (w.flushConntrack env info cda family).2.Sound held := by
  unfold flushConntrack
  split
  · split
    · exact h
    · cases ctnetlinkAllocFilter env.toFilterEnv cda family with
      | error err => exact h
      | ok filter => exact h.cleanup info.net fun ct => ctnetlinkFlushIterate ct (some filter)
  · exact h.cleanup info.net fun ct => ctnetlinkFlushIterate ct none

theorem Sound.delOne (h : w.Sound (Counted.more held p)) : (w.delOne env cda p).2.Sound held := by
  have hdelete : ((w.delete p).put p).Sound held :=
    (h.delete (by rw [Counted.more_apply, if_pos rfl]; omega)).putTaken
  unfold CtWorld.delOne
  split
  · exact h.putTaken
  · cases cda ctaId with
    | none => exact hdelete
    | some id =>
      dsimp only
      split
      · exact h.putTaken
      · exact hdelete

/-- What a request names is looked up. -/
theorem getLookup_found {n : TupleHash} {t : NfConntrackHash}
    (hlookup : getLookup env.toFilterEnv env.find info cda t = .ok n) :
    ∃ zone tuple, env.find t info.net zone tuple = some n := by
  unfold getLookup at hlookup
  split at hlookup
  all_goals
    obtain ⟨r, -, hr⟩ := bind_eq_ok hlookup
    dsimp only at hr
    cases hfind : env.find t info.net r.2 r.1 with
    | none =>
      rw [hfind] at hr
      cases hr
    | some m =>
      rw [hfind] at hr
      cases hr
      exact ⟨r.2, r.1, hfind⟩

/-- The lookup of a request finds what is allocated. -/
theorem Sound.live_of_lookup (h : w.Sound held) (henv : env.Lawful) {n : TupleHash}
    (hlookup : getLookup env.toFilterEnv env.find info cda w.hash = .ok n) : n.ct ∈ w.live := by
  obtain ⟨zone, tuple, hfind⟩ := getLookup_found hlookup
  exact h.live_of_found henv hfind

/-- **A request to delete** a conntrack, or many. -/
theorem Sound.del (h : w.Sound held) (henv : env.Lawful) (info : NfnlInfo) (version : UInt8) (cda : NlaTable) :
    (w.delConntrack env info version cda).2.Sound held := by
  unfold delConntrack
  split
  · exact h.flush info cda _
  · cases hlookup : getLookup env.toFilterEnv env.find info cda w.hash with
    | error err => exact h
    | ok n => exact (h.get (h.live_of_lookup henv hlookup)).delOne

/-- **An expired conntrack collected.** -/
theorem Sound.gc (h : w.Sound held) (env : NlEnv) (hp : p ∈ w.live) : (w.gcExpired env p).Sound held := by
  unfold gcExpired
  refine Sound.putTaken ?_
  split
  · exact (h.get hp).delete (by rw [Counted.more_apply, if_pos rfl]; omega)
  · exact h.get hp

end CtWorld

/-! ### Runs -/

/-- The kernel around a request. -/
abbrev Kernel := {env : CreateEnv // env.Lawful}

/-- What happens to the conntracks. -/
inductive CtRequest where
  /-- `IPCTNL_MSG_CT_NEW` -/
  | new (k : Kernel) (info : NfnlInfo) (flags : UInt16) (cda : NlaTable)
  /-- `IPCTNL_MSG_CT_DELETE` -/
  | del (k : Kernel) (info : NfnlInfo) (version : UInt8) (cda : NlaTable)
  /-- a conntrack of the table is looked at, and collected if it has expired -/
  | gc (env : NlEnv) (p : CtPtr)

namespace CtRequest

/-- The result of a request and the state behind it. -/
def exec (w : CtWorld) : CtRequest → ℤ × CtWorld
  | new k info flags cda => ((ctnetlinkNewConntrack k.1 info flags cda w).err,
      (ctnetlinkNewConntrack k.1 info flags cda w).world)
  | del k info version cda => w.delConntrack k.1 info version cda
  | gc env p => (0, if w.Listed p then w.gcExpired env p else w)

/-- The state behind a request. -/
def step (w : CtWorld) (r : CtRequest) : CtWorld := (r.exec w).2

end CtRequest

/-! A kernel, to try requests with. -/

/-- `nf_ct_change_status_common`: the bits that may be set are `IPS_SEEN_REPLY`, `IPS_ASSURED`,
`IPS_FIXED_TIMEOUT` and `IPS_HELPER`. -/
def kernelChangeStatus (status : UInt32) (ct : NfConn) : ℤ × NfConn :=
  if (ct.status ^^^ status) &&& 521 ≠ 0 ∨ ct.status &&& ~~~status &&& 6 ≠ 0 then (-ebusy, ct)
  else (0, { ct with status := ct.status ||| (status &&& 9222) })

/-- A kernel without helpers, labels and address translation. -/
def kernelEnv : CreateEnv where
  toFilterEnv := kernelFilterEnv
  hz := 250
  helperFind := fun _ _ _ => none
  helperFromNlattr := fun helper _ _ => helper
  changeTimeout := fun t ct => (0, { ct with timeout := UInt32.ofNat t })
  changeStatusCommon := kernelChangeStatus
  fromNlattr := fun _ => none
  connlabelsReplace := fun _ _ ct => (-eopnotsupp, ct)
  alloc := fun w => some (w.live.sum + 1)
  helperExtAdd := fun ct => some { ct with help := some none }
  requestHelper := fun _ => false
  helperFindLoaded := fun _ _ _ => none
  tryAssignHelper := fun ct => (0, ct)
  parseNatSetup := none
  requestNat := false
  requestNatL3 := fun _ => false
  extAdd := fun ct => { ct with acct := some ⟨0, 0⟩, tstamp := some ⟨0, 0⟩ }
  setTimeout := fun t ct => { ct with timeout := UInt32.ofNat t }
  realNs := 1
  place := fun t ct =>
    if ∃ h ∈ t.nodes, t.KeyEqual h ct.net ct.zone (nfCtTuple ct h.dir) then .error (-eexist)
    else if hsize : 0 < t.size then .ok (⟨0, hsize⟩, ⟨0, hsize⟩)
    else .error (-enomem)
  find := fun t net zone tuple => t.nodes.find? fun h => t.KeyEqual h net zone tuple
  nfCtGetId := fun p => UInt32.ofNat p

theorem kernelChangeStatus_lawful (s : UInt32) (ct : NfConn) : ∃ status, (kernelChangeStatus s ct).2 =
    { ct with status := status } ∧ (∀ bit ∈ fixedBits, status.toNat.testBit bit = ct.testStatus bit) ∧
      ∀ bit ∈ stickyBits, ct.testStatus bit → status.toNat.testBit bit := by
  unfold kernelChangeStatus
  split
  · exact ⟨ct.status, rfl, fun _ _ => rfl, fun _ _ h => h⟩
  · have hor : ∀ bit, (ct.status ||| (s &&& 9222)).toNat.testBit bit =
        (ct.testStatus bit || (s &&& 9222).toNat.testBit bit) := ct.testStatus_or (s &&& 9222)
    refine ⟨_, rfl, fun bit hbit => ?_, fun bit _ hset => ?_⟩
    · have hclear : (9222 : ℕ).testBit bit = false := by
        simp only [fixedBits, List.mem_cons, List.not_mem_nil, or_false] at hbit
        rcases hbit with rfl | rfl | rfl | rfl | rfl | rfl | rfl | rfl | rfl | rfl | rfl <;> decide
      rw [hor, UInt32.toNat_and, Nat.testBit_and, show (9222 : UInt32).toNat = 9222 from rfl, hclear, Bool.and_false,
        Bool.or_false]
    · rw [hor, hset, Bool.true_or]

theorem kernelEnv_lawful : kernelEnv.Lawful where
  change :=
    { timeout := fun t ct => ⟨UInt32.ofNat t, rfl⟩
      status := kernelChangeStatus_lawful
      proto := fun _ f hf => by cases hf
      labels := fun _ _ ct => ⟨ct.labels, rfl, rfl⟩ }
  alloc := by
    intro w p hp hmem
    cases hp
    exact absurd (List.le_sum_of_mem hmem) (Nat.not_succ_le_self _)
  helperExt := fun ct ct' h => (Option.some.inj h).symm
  tryAssign := fun ct => ⟨ct.help, rfl⟩
  nat := fun f hf => by cases hf
  ext := fun ct => ⟨some ⟨0, 0⟩, some ⟨0, 0⟩, ct.labels, ct.seqadj, ct.synproxy, rfl⟩
  setTimeout := fun t ct => ⟨UInt32.ofNat t, rfl⟩
  place := by
    intro t ct i j hplace h hh hkey
    unfold kernelEnv at hplace
    dsimp only at hplace
    rw [if_pos ⟨h, hh, hkey⟩] at hplace
    cases hplace
  found := by
    intro t net zone tuple h hfind
    exact ⟨List.mem_of_find?_eq_some hfind, by simpa using List.find?_some hfind⟩

def kernel : Kernel := ⟨kernelEnv, kernelEnv_lawful⟩

/-- No conntracks, and one bucket. -/
def emptyWorld : CtWorld := ⟨⟨[[]], fun _ => sampleConn (sampleTcp .none 0 0 0), List.nodup_nil⟩, fun _ => none, []⟩

theorem emptyWorld_sound : emptyWorld.Sound fun _ => 0 where
  exact :=
    { nodup := List.nodup_nil
      count := fun p hp => by cases hp
      pos := fun p hp => by cases hp
      held := fun p hp => by cases hp
      parent := fun q hq => by cases hq }
  paired := fun h hh => by cases hh
  expected := fun p hp => by cases hp
  confirmed := fun p hp => by cases hp
  dying := fun p hp => by cases hp
  keys := fun p q hp => by cases hp
  nets := fun p hp => by cases hp
  older := ⟨List.Pairwise.nil, fun p hp => by cases hp⟩

/-- The attribute of a TCP connection's tuple. -/
def tcpTupleAttr (type : UInt16) (src dst : UInt32) (sport dport : UInt16) : Attr :=
  nestAttr .little type [nestAttr .little ctaTupleIp [nlaBe32 ctaIpV4Src src, nlaBe32 ctaIpV4Dst dst],
    nestAttr .little ctaTupleProto [nlaU8 ctaProtoNum ipprotoTcp, nlaBe16 2 sport, nlaBe16 3 dport]]

/-- A request about the connection from 1.2.3.4 to 5.6.7.8 in zone 100. -/
def connRequest (flags : UInt16) (mark : UInt32) : CtRequest :=
  .new kernel ⟨0, 1, 1, 0, nfprotoIpv4⟩ flags (nlaTable ctaMax
    [tcpTupleAttr ctaTupleOrig 0x01020304 0x05060708 1 80, tcpTupleAttr ctaTupleReply 0x05060708 0x01020304 80 1,
      nlaBe32 ctaTimeout 120, nlaBe32 ctaMark mark, nlaBe16 ctaZone 100])

/-- The connection is created twice, changed, and looked at. -/
def sampleRequests : List CtRequest :=
  [connRequest (nlmFCreate ||| nlmFExcl) 0xff, connRequest (nlmFCreate ||| nlmFExcl) 1, connRequest 0 2,
    .gc sampleNlEnv 1]

/-- The conntracks behind its creation. -/
def oneWorld : CtWorld := CtRequest.step emptyWorld (connRequest (nlmFCreate ||| nlmFExcl) 0xff)

section Runs

variable {w : CtWorld} {held : CtPtr → ℕ} {p : CtPtr}

theorem step_sound (h : w.Sound held) (r : CtRequest) : (CtRequest.step w r).Sound held := by
  cases r with
  | new k info flags cda => exact h.new k.2 info flags cda
  | del k info version cda => exact h.del k.2 info version cda
  | gc env p =>
    by_cases hp : w.Listed p
    · rw [show CtRequest.step w (.gc env p) = w.gcExpired env p from if_pos hp]
      exact h.gc env (h.live_of_listed hp)
    · rw [show CtRequest.step w (.gc env p) = w from if_neg hp]
      exact h

/-- **Whatever is requested, in whatever order**, the state stays sound for the references that others hold. -/
theorem sound_run (h : w.Sound held) (l : List CtRequest) : (run CtRequest.step w l).Sound held :=
  @run_invariant CtWorld CtRequest _ (fun w => w.Sound held) w h (fun _ r hs => step_sound hs r) l

theorem oneWorld_sound : oneWorld.Sound fun _ => 0 := step_sound emptyWorld_sound _

theorem oneWorld_live : oneWorld.live = [1] := by decide +kernel

/-- **The counts stay exact**: in every state that is reached, the count of a conntrack is that of the references
there are, the table's, those of others and those of the conntracks it is the master of; and what is in the
table, held by others or a master is there. -/
theorem run_references (h : w.Sound held) (l : List CtRequest) :
    (∀ p ∈ (run CtRequest.step w l).live,
      ((run CtRequest.step w l).conn p).use = (if (run CtRequest.step w l).Listed p then 1 else 0) + held p +
          (run CtRequest.step w l).live.countP (fun q => (run CtRequest.step w l).master q = some p) ∧
        0 < ((run CtRequest.step w l).conn p).use) ∧
      ∀ q, ((run CtRequest.step w l).Listed q ∨ 0 < held q ∨
          ∃ p ∈ (run CtRequest.step w l).live, (run CtRequest.step w l).master p = some q) →
        q ∈ (run CtRequest.step w l).live := by
  have hexact := (sound_run h l).exact
  refine ⟨fun p hp => ⟨hexact.count p hp, hexact.pos p hp⟩, fun q hq => ?_⟩
  rcases hq with hlisted | hheld | ⟨p, hp, hmaster⟩
  · exact (sound_run h l).live_of_listed hlisted
  · exact hexact.held q (Nat.lt_of_lt_of_le hheld (Nat.le_add_left _ _))
  · exact hexact.parent p hp q hmaster

theorem run_references_sample :
    (∀ p ∈ (run CtRequest.step emptyWorld sampleRequests).live,
      ((run CtRequest.step emptyWorld sampleRequests).conn p).use =
          (if (run CtRequest.step emptyWorld sampleRequests).Listed p then 1 else 0) + 0 +
          (run CtRequest.step emptyWorld sampleRequests).live.countP
            (fun q => (run CtRequest.step emptyWorld sampleRequests).master q = some p) ∧
        0 < ((run CtRequest.step emptyWorld sampleRequests).conn p).use) ∧
      ∀ q, ((run CtRequest.step emptyWorld sampleRequests).Listed q ∨ 0 < 0 ∨
          ∃ p ∈ (run CtRequest.step emptyWorld sampleRequests).live,
            (run CtRequest.step emptyWorld sampleRequests).master p = some q) →
        q ∈ (run CtRequest.step emptyWorld sampleRequests).live :=
  run_references emptyWorld_sound sampleRequests

/-- **Keys and states**: in every state that is reached, the conntracks in the table are those that are not being
deleted, both their nodes are in it, no two of them have the same tuple in one direction, zone and namespace,
and those with a master are the expected ones. -/
theorem run_keys (h : w.Sound held) (l : List CtRequest) :
    (∀ p ∈ (run CtRequest.step w l).live, ((run CtRequest.step w l).conn p).testStatus ipsDyingBit =
      !decide ((run CtRequest.step w l).Listed p)) ∧
    (∀ p, (run CtRequest.step w l).Listed p ↔ ⟨p, .reply⟩ ∈ (run CtRequest.step w l).hash.nodes) ∧
    (∀ p q dir, (run CtRequest.step w l).Listed p → (run CtRequest.step w l).Listed q →
      CtWorld.SameKey ((run CtRequest.step w l).conn p) ((run CtRequest.step w l).conn q) dir → p = q) ∧
    ∀ p ∈ (run CtRequest.step w l).live, ((run CtRequest.step w l).conn p).testStatus ipsExpectedBit =
      ((run CtRequest.step w l).master p).isSome := by
  have hsound := sound_run h l
  refine ⟨hsound.dying, fun p => ?_, fun p q dir hp hq hsame => hsound.keys p q hp hq dir hsame, hsound.expected⟩
  exact ⟨fun hp => hsound.paired _ hp .reply, fun hp => hsound.paired _ hp .original⟩

theorem run_keys_sample :
    (∀ p ∈ (run CtRequest.step emptyWorld sampleRequests).live,
      ((run CtRequest.step emptyWorld sampleRequests).conn p).testStatus ipsDyingBit =
        !decide ((run CtRequest.step emptyWorld sampleRequests).Listed p)) ∧
    (∀ p, (run CtRequest.step emptyWorld sampleRequests).Listed p ↔
      ⟨p, .reply⟩ ∈ (run CtRequest.step emptyWorld sampleRequests).hash.nodes) ∧
    (∀ p q dir, (run CtRequest.step emptyWorld sampleRequests).Listed p →
      (run CtRequest.step emptyWorld sampleRequests).Listed q →
      CtWorld.SameKey ((run CtRequest.step emptyWorld sampleRequests).conn p)
        ((run CtRequest.step emptyWorld sampleRequests).conn q) dir → p = q) ∧
    ∀ p ∈ (run CtRequest.step emptyWorld sampleRequests).live,
      ((run CtRequest.step emptyWorld sampleRequests).conn p).testStatus ipsExpectedBit =
        ((run CtRequest.step emptyWorld sampleRequests).master p).isSome :=
  run_keys emptyWorld_sound sampleRequests

/-- **Nothing is left behind**: in every state that is reached, a conntrack is in the table, or held by
somebody else, or the master of another one, directly or not, that is. -/
theorem run_reached (h : w.Sound held) (l : List CtRequest) (hp : p ∈ (run CtRequest.step w l).live) :
    ∃ q ∈ (run CtRequest.step w l).live, ((run CtRequest.step w l).Listed q ∨ 0 < held q) ∧
      Relation.ReflTransGen (fun a b => (run CtRequest.step w l).master a = some b) q p := by
  have hsound := sound_run h l
  obtain ⟨q, hq, hheld, hpath⟩ := hsound.exact.reached hsound.older hp
  refine ⟨q, hq, ?_, hpath⟩
  by_cases hlisted : (run CtRequest.step w l).Listed q
  · exact .inl hlisted
  · rw [CtWorld.linked, if_neg hlisted, Nat.zero_add] at hheld
    exact .inr hheld

/-- The connection itself is in the table. -/
theorem run_reached_sample : ∃ q ∈ oneWorld.live, (oneWorld.Listed q ∨ 0 < 0) ∧
    Relation.ReflTransGen (fun a b => oneWorld.master a = some b) q 1 :=
  run_reached emptyWorld_sound [connRequest (nlmFCreate ||| nlmFExcl) 0xff]
    (show 1 ∈ oneWorld.live by rw [oneWorld_live]; exact List.mem_singleton_self 1)

end Runs

/-! ### What a conntrack keeps -/

/-- The same conntrack. -/
structure NfConn.SameIdentity (ct ct' : NfConn) : Prop where
  net : ct'.net = ct.net
  zone : ct'.zone = ct.zone
  tupleOrig : ct'.tupleOrig = ct.tupleOrig
  tupleReply : ct'.tupleReply = ct.tupleReply
  masterTuple : ct'.masterTuple = ct.masterTuple
  bits : ∀ bit ∈ [ipsExpectedBit, ipsConfirmedBit], ct'.testStatus bit = ct.testStatus bit
  sticky : ∀ bit ∈ [ipsSeenReplyBit, ipsAssuredBit, ipsDyingBit], ct.testStatus bit → ct'.testStatus bit

theorem NfConn.SameIdentity.refl (ct : NfConn) : ct.SameIdentity ct :=
  ⟨rfl, rfl, rfl, rfl, rfl, fun _ _ => rfl, fun _ _ h => h⟩

theorem NfConn.SameIdentity.trans {a b c : NfConn} (h₁ : a.SameIdentity b) (h₂ : b.SameIdentity c) :
    a.SameIdentity c where
  net := h₂.net.trans h₁.net
  zone := h₂.zone.trans h₁.zone
  tupleOrig := h₂.tupleOrig.trans h₁.tupleOrig
  tupleReply := h₂.tupleReply.trans h₁.tupleReply
  masterTuple := h₂.masterTuple.trans h₁.masterTuple
  bits := fun bit hbit => (h₂.bits bit hbit).trans (h₁.bits bit hbit)
  sticky := fun bit hbit h => h₂.sticky bit hbit (h₁.sticky bit hbit h)

theorem NfConn.SameCore.sameIdentity {ct ct' : NfConn} (h : ct.SameCore ct') : ct.SameIdentity ct' where
  net := h.net
  zone := h.zone
  tupleOrig := h.tupleOrig
  tupleReply := h.tupleReply
  masterTuple := h.masterTuple
  bits := by
    intro bit hbit
    refine h.fixed bit ?_
    simp only [List.mem_cons, List.not_mem_nil, or_false] at hbit
    rcases hbit with rfl | rfl <;> decide
  sticky := by
    intro bit hbit hset
    simp only [List.mem_cons, List.not_mem_nil, or_false] at hbit
    rcases hbit with rfl | rfl | rfl
    · exact h.sticky _ (by decide) hset
    · exact h.sticky _ (by decide) hset
    · rwa [h.fixed _ (by decide)]

theorem setDying_sameIdentity (ct : NfConn) : ct.SameIdentity { ct with status := ct.status ||| ipsDying } := by
  refine ⟨rfl, rfl, rfl, rfl, rfl, ?_, ?_⟩
  · intro bit hbit
    have hclear : ipsDying.toNat.testBit bit = false := by
      simp only [List.mem_cons, List.not_mem_nil, or_false] at hbit
      rcases hbit with rfl | rfl <;> decide
    rw [ct.testStatus_or ipsDying bit, hclear, Bool.or_false]
  · intro bit _ hset
    rw [ct.testStatus_or ipsDying bit, hset, Bool.true_or]

/-- What becomes of the conntrack at `p`: it is the same one, with the same master, and does not get into the
table again. -/
structure CtWorld.Kept (w w' : CtWorld) (p : CtPtr) : Prop where
  identity : (w.conn p).SameIdentity (w'.conn p)
  master : w'.master p = w.master p
  listed : w'.Listed p → w.Listed p

namespace CtWorld

variable {env : CreateEnv} {w w' : CtWorld} {held : CtPtr → ℕ} {p q : CtPtr} {info : NfnlInfo} {cda : NlaTable}
  {zone : NfConntrackZone}

theorem Kept.refl (w : CtWorld) (p : CtPtr) : w.Kept w p := ⟨.refl _, rfl, id⟩

theorem Kept.trans {a b c : CtWorld} (h₁ : a.Kept b p) (h₂ : b.Kept c p) : a.Kept c p :=
  ⟨h₁.identity.trans h₂.identity, h₂.master.trans h₁.master, fun h => h₁.listed (h₂.listed h)⟩

theorem kept_withCounted (w : CtWorld) (s : Counted CtPtr) (q : CtPtr) : w.Kept (w.withCounted s) q :=
  ⟨⟨rfl, rfl, rfl, rfl, rfl, fun _ _ => rfl, fun _ _ h => h⟩, rfl, id⟩

theorem kept_get (w : CtWorld) (p q : CtPtr) : w.Kept (w.get p) q := kept_withCounted w _ q
theorem kept_put (w : CtWorld) (p q : CtPtr) : w.Kept (w.put p) q := kept_withCounted w _ q

theorem kept_getOpt (w : CtWorld) (m : Option CtPtr) (q : CtPtr) : w.Kept (w.getOpt m) q := by
  cases m with
  | none => exact .refl w q
  | some m => exact kept_get w m q

theorem kept_modify (f : NfConn → NfConn) (h : (w.conn p).SameIdentity (f (w.conn p))) (q : CtPtr) :
    w.Kept (w.modify p f) q :=
  ⟨CtHeap.modify_rel (R := NfConn.SameIdentity) NfConn.SameIdentity.refl h, rfl, id⟩

theorem kept_delete (w : CtWorld) (p q : CtPtr) : w.Kept (w.delete p) q := by
  unfold CtWorld.delete
  split
  · exact .refl w q
  · have hmark := kept_modify (fun ct => { ct with status := ct.status ||| ipsDying })
      (setDying_sameIdentity (w.conn p)) q
    refine (hmark.trans ?_).trans (kept_put _ p q)
    refine ⟨.refl _, rfl, fun hlisted => ?_⟩
    rw [Listed, nodes_unlink] at hlisted
    exact (List.mem_filter.mp hlisted).1

theorem kept_insert {ct : NfConn} {m : Option CtPtr} {i j : Fin w.hash.size} (hq : q ≠ p) :
    w.Kept (w.insert p ct m i j) q := by
  by_cases hp : ∀ n ∈ w.hash.nodes, n.ct ≠ p
  · refine ⟨?_, ?_, fun hlisted => ?_⟩
    · rw [conn_insert _ _ _ _ hp, if_neg hq]
      exact .refl _
    · rw [master_insert _ _ _ _ hp, if_neg hq]
    · exact ((mem_insert _ _ _ _ hp _).mp hlisted).resolve_left hq
  · rw [show w.insert p ct m i j = w from dif_neg hp]
    exact .refl w q

variable (info cda zone) in
theorem kept_create (h : w.Sound held) (henv : env.Lawful) (otuple rtuple : NfConntrackTuple) (hq : q ∈ w.live) :
    w.Kept (ctnetlinkCreateConntrack env info zone cda otuple rtuple w).2 q := by
  rcases create_cases h henv info zone cda otuple rtuple with ⟨err, heq⟩ | ⟨p, m, i, j, halloc, -, -, -, heq⟩
  · rw [heq]
    exact .refl w q
  · rw [heq]
    refine (kept_getOpt w m q).trans (kept_insert ?_)
    rintro rfl
    exact henv.alloc w q halloc hq

theorem kept_createLabels (henv : env.Lawful) (w : CtWorld) (p q : CtPtr) :
    w.Kept (createLabels env cda p w).1 q := by
  unfold createLabels
  cases cda ctaLabels with
  | none => exact .refl w q
  | some a => exact kept_modify _ (attachLabels_sameCore henv.change cda a).sameIdentity q

theorem kept_newCreate (h : w.Sound held) (henv : env.Lawful) (otuple rtuple : Option NfConntrackTuple)
    (hq : q ∈ w.live) : w.Kept (newCreate env info cda otuple rtuple zone w).world q := by
  unfold newCreate
  cases otuple with
  | none => exact .refl w q
  | some otuple =>
    cases rtuple with
    | none => exact .refl w q
    | some rtuple =>
      have hkept := kept_create info cda zone h henv otuple rtuple hq
      dsimp only
      split
      · exact .refl w q
      · rcases hcreate : ctnetlinkCreateConntrack env info zone cda otuple rtuple w with ⟨err | p, w'⟩
        · rw [hcreate] at hkept
          exact hkept
        · rw [hcreate] at hkept
          exact (hkept.trans (kept_createLabels henv w' p q)).trans (kept_put _ p q)

theorem kept_newChange (henv : env.Lawful) (flags : UInt16) (w : CtWorld) (p q : CtPtr) :
    w.Kept (newChange env flags cda p w).world q := by
  unfold newChange
  split
  · exact kept_put w p q
  · exact (kept_modify _ (change_sameCore henv.change _ cda _).sameIdentity q).trans (kept_put _ p q)

theorem kept_new (h : w.Sound held) (henv : env.Lawful) (flags : UInt16) (hq : q ∈ w.live) :
    w.Kept (ctnetlinkNewConntrack env info flags cda w).world q := by
  unfold ctnetlinkNewConntrack
  cases newConntrackKeys env.toFilterEnv cda info.family with
  | error err => exact .refl w q
  | ok r =>
    obtain ⟨otuple, rtuple, zone⟩ := r
    dsimp only
    cases (otuple.or rtuple).bind (env.find w.hash info.net zone) with
    | none =>
      dsimp only
      split
      · exact .refl w q
      · exact kept_newCreate h henv otuple rtuple hq
    | some n => exact (kept_get w n.ct q).trans (kept_newChange henv flags _ n.ct q)

theorem kept_deleteTaken (w : CtWorld) (p q : CtPtr) : w.Kept (((w.get p).delete p).put p) q :=
  ((kept_get w p q).trans (kept_delete _ p q)).trans (kept_put _ p q)

theorem kept_cleanup (w : CtWorld) (net : NetPtr) (iter : NfConn → Bool) (q : CtPtr) :
    w.Kept (w.iterateCleanupNet net iter) q := by
  have hstep : ∀ w' p, w.Kept w' q → w.Kept (cleanupStep net iter w' p) q := by
    intro w' p h
    unfold cleanupStep
    split
    · exact h.trans (kept_deleteTaken w' p q)
    · exact h
  rw [iterateCleanupNet_eq]
  exact @run_invariant CtWorld CtPtr _ (fun w' => w.Kept w' q) w (.refl w q) hstep _

theorem kept_flush (w : CtWorld) (family : UInt8) (q : CtPtr) :
    w.Kept (w.flushConntrack env info cda family).2 q := by
  unfold flushConntrack
  split
  · split
    · exact .refl w q
    · cases ctnetlinkAllocFilter env.toFilterEnv cda family with
      | error err => exact .refl w q
      | ok filter => exact kept_cleanup w info.net (fun ct => ctnetlinkFlushIterate ct (some filter)) q
  · exact kept_cleanup w info.net (fun ct => ctnetlinkFlushIterate ct none) q

theorem kept_delOne (w : CtWorld) (p q : CtPtr) : w.Kept (w.delOne env cda p).2 q := by
  have hdelete : w.Kept ((w.delete p).put p) q := (kept_delete w p q).trans (kept_put _ p q)
  unfold CtWorld.delOne
  split
  · exact kept_put w p q
  · cases cda ctaId with
    | none => exact hdelete
    | some id =>
      dsimp only
      split
      · exact kept_put w p q
      · exact hdelete

theorem kept_del (w : CtWorld) (version : UInt8) (q : CtPtr) :
    w.Kept (w.delConntrack env info version cda).2 q := by
  unfold delConntrack
  split
  · exact kept_flush w _ q
  · cases getLookup env.toFilterEnv env.find info cda w.hash with
    | error err => exact .refl w q
    | ok n => exact (kept_get w n.ct q).trans (kept_delOne _ n.ct q)

theorem kept_gc (w : CtWorld) (env : NlEnv) (p q : CtPtr) : w.Kept (w.gcExpired env p) q := by
  unfold gcExpired
  refine ((kept_get w p q).trans ?_).trans (kept_put _ p q)
  split
  · exact kept_delete _ p q
  · exact .refl _ q

end CtWorld

section Identity

variable {w : CtWorld} {held : CtPtr → ℕ} {p : CtPtr}

theorem step_kept (h : w.Sound held) (hp : p ∈ w.live) (r : CtRequest) : w.Kept (CtRequest.step w r) p := by
  cases r with
  | new k info flags cda => exact CtWorld.kept_new h k.2 flags hp
  | del k info version cda => exact CtWorld.kept_del w version p
  | gc env q =>
    by_cases hq : w.Listed q
    · rw [show CtRequest.step w (.gc env q) = w.gcExpired env q from if_pos hq]
      exact CtWorld.kept_gc w env q p
    · rw [show CtRequest.step w (.gc env q) = w from if_neg hq]
      exact .refl w p

/-- **A conntrack keeps its identity** through any run of requests for as long as it is there: its namespace,
zone and tuples, its master, that it is expected and was put in the table, and what it has seen; and once it is
out of the table it does not get back. -/
theorem run_kept (h : w.Sound held) (l : List CtRequest)
    (hp : ∀ pre, pre <+: l → p ∈ (run CtRequest.step w pre).live) : w.Kept (run CtRequest.step w l) p := by
  have hstep : ∀ (w : CtWorld) r, w.Sound held ∧ p ∈ w.live → w.Kept (CtRequest.step w r) p :=
    fun _ r hs => step_kept hs.1 hs.2 r
  exact @run_rel CtWorld CtRequest CtRequest.step _ (fun w w' => w.Kept w' p) (fun w => .refl w p)
    CtWorld.Kept.trans hstep w l fun pre hpre => ⟨sound_run h pre, hp pre hpre⟩

/-- Another mark, and a creation that is refused. -/
theorem run_kept_sample : oneWorld.Kept
    (run CtRequest.step oneWorld [connRequest 0 2, connRequest (nlmFCreate ||| nlmFExcl) 1]) 1 := by
  refine run_kept oneWorld_sound _ fun pre hpre => ?_
  rcases List.prefix_cons_iff.mp hpre with rfl | ⟨rest, rfl, hrest⟩
  · decide +kernel
  · rcases List.prefix_cons_iff.mp hrest with rfl | ⟨tail, rfl, htail⟩
    · decide +kernel
    · rw [List.prefix_nil.mp htail]
      decide +kernel

end Identity

/-! ### Requests that are refused -/

namespace CtWorld

variable {env : CreateEnv} {w : CtWorld} {held : CtPtr → ℕ} {p : CtPtr} {info : NfnlInfo} {cda : NlaTable}
  {zone : NfConntrackZone}

theorem newCreate_refused (h : w.Sound held) (henv : env.Lawful) (otuple rtuple : Option NfConntrackTuple)
    (herr : (newCreate env info cda otuple rtuple zone w).err ≠ 0) :
    (newCreate env info cda otuple rtuple zone w).world = w := by
  unfold newCreate at herr ⊢
  cases otuple with
  | none => rfl
  | some otuple =>
    cases rtuple with
    | none => rfl
    | some rtuple =>
      dsimp only at herr ⊢
      by_cases hproto : otuple.dst.protonum ≠ rtuple.dst.protonum
      · rw [if_pos hproto]
      · rw [if_neg hproto] at herr ⊢
        rcases create_cases h henv info zone cda otuple rtuple with ⟨err, heq⟩ | ⟨p, m, i, j, -, -, -, -, heq⟩
        · rw [heq]
        · rw [heq] at herr
          exact absurd rfl herr

variable (cda) in
/-- A change that is refused leaves what its parts have done up to the error. -/
theorem newChange_refused (h : w.Sound held) (henv : env.Lawful) (hp : p ∈ w.live) (flags : UInt16) :
    (newChange env flags cda p (w.get p)).world = w ∨ (flags &&& nlmFExcl = 0 ∧
      ∃ ct', (w.conn p).SameCore ct' ∧ (newChange env flags cda p (w.get p)).world = w.modify p fun _ => ct') := by
  unfold newChange
  by_cases hexcl : flags &&& nlmFExcl = 0
  · rw [if_neg (not_not.mpr hexcl)]
    have hcore := change_sameCore henv.change ((w.get p).master p).isSome cda ((w.get p).conn p)
    set ct' := (ctnetlinkChangeConntrack env.toChangeEnv ((w.get p).master p).isSome cda ((w.get p).conn p)).2
    have huse : ct'.use = (w.conn p).use + 1 := hcore.use.trans (Function.update_self _ _ _)
    refine .inr ⟨hexcl, { ct' with use := (w.conn p).use }, ?_, put_modify_get h hp huse⟩
    exact { hcore with use := rfl }
  · rw [if_pos hexcl]
    exact .inl (put_get h hp)

theorem delOne_refused (h : w.Sound held) (hp : p ∈ w.live) (herr : ((w.get p).delOne env cda p).1 ≠ 0) :
    ((w.get p).delOne env cda p).2 = w := by
  unfold CtWorld.delOne at herr ⊢
  by_cases hoff : ((w.get p).conn p).testStatus ipsOffloadBit
  · rw [if_pos hoff]
    exact put_get h hp
  · rw [if_neg hoff] at herr ⊢
    cases hid : cda ctaId with
    | none =>
      rw [hid] at herr
      exact absurd rfl herr
    | some id =>
      rw [hid] at herr
      dsimp only at herr ⊢
      by_cases hne : nlaGetU32 env.endian id ≠ env.nfCtGetId p
      · rw [if_pos hne]
        exact put_get h hp
      · rw [if_neg hne] at herr
        exact absurd rfl herr

theorem flush_refused {family : UInt8} (herr : (w.flushConntrack env info cda family).1 ≠ 0) :
    (w.flushConntrack env info cda family).2 = w := by
  unfold flushConntrack at herr ⊢
  by_cases hneeds : ctnetlinkNeedsFilter family cda
  · rw [if_pos hneeds] at herr ⊢
    by_cases hfilter : (cda ctaFilter).isSome
    · rw [if_pos hfilter]
    · rw [if_neg hfilter] at herr ⊢
      cases halloc : ctnetlinkAllocFilter env.toFilterEnv cda family with
      | error err => rfl
      | ok filter =>
        rw [halloc] at herr
        exact absurd rfl herr
  · rw [if_neg hneeds] at herr
    exact absurd rfl herr

end CtWorld

/-- **A request that is refused** leaves the whole state as it was, the references with it.  Only a request to
change a conntrack may have changed this one, in what a change may change. -/
theorem refused_unchanged {w : CtWorld} {held : CtPtr → ℕ} (h : w.Sound held) (r : CtRequest)
    (herr : (r.exec w).1 ≠ 0) :
    (r.exec w).2 = w ∨ ∃ k info flags cda p ct', r = .new k info flags cda ∧ flags &&& nlmFExcl = 0 ∧
      w.Listed p ∧ (w.conn p).SameCore ct' ∧ (r.exec w).2 = w.modify p fun _ => ct' := by
  cases r with
  | new k info flags cda =>
    obtain ⟨env, henv⟩ := k
    show (ctnetlinkNewConntrack env info flags cda w).world = w ∨ _
    replace herr : (ctnetlinkNewConntrack env info flags cda w).err ≠ 0 := herr
    have hexec : (CtRequest.exec w (.new ⟨env, henv⟩ info flags cda)).2 =
        (ctnetlinkNewConntrack env info flags cda w).world := rfl
    rw [hexec]
    unfold ctnetlinkNewConntrack at herr ⊢
    cases hkeys : newConntrackKeys env.toFilterEnv cda info.family with
    | error err => exact .inl rfl
    | ok keys =>
      obtain ⟨otuple, rtuple, zone⟩ := keys
      rw [hkeys] at herr
      dsimp only at herr ⊢
      cases hfind : (otuple.or rtuple).bind (env.find w.hash info.net zone) with
      | none =>
        rw [hfind] at herr
        dsimp only at herr ⊢
        by_cases hflag : flags &&& nlmFCreate = 0
        · rw [if_pos hflag]
          exact .inl rfl
        · rw [if_neg hflag] at herr ⊢
          exact .inl (CtWorld.newCreate_refused h henv otuple rtuple herr)
      | some n =>
        obtain ⟨tuple, -, hfound⟩ := Option.bind_eq_some_iff.mp hfind
        have hlisted := h.listed_of_mem (henv.found _ _ _ _ n hfound).1
        rcases CtWorld.newChange_refused cda h henv (h.live_of_listed hlisted) flags with hsame | hchange
        · exact .inl hsame
        · obtain ⟨hexcl, ct', hcore, hworld⟩ := hchange
          exact .inr ⟨⟨env, henv⟩, info, flags, cda, n.ct, ct', rfl, hexcl, hlisted, hcore, hworld⟩
  | del k info version cda =>
    refine .inl ?_
    have hexec : CtRequest.exec w (.del k info version cda) = w.delConntrack k.1 info version cda := rfl
    rw [hexec] at herr ⊢
    unfold CtWorld.delConntrack at herr ⊢
    by_cases hflush : (cda ctaTupleOrig).isNone ∧ (cda ctaTupleReply).isNone
    · rw [if_pos hflush] at herr ⊢
      exact CtWorld.flush_refused herr
    · rw [if_neg hflush] at herr ⊢
      cases hlookup : getLookup k.1.toFilterEnv k.1.find info cda w.hash with
      | error err => rfl
      | ok n =>
        rw [hlookup] at herr
        exact CtWorld.delOne_refused h (h.live_of_lookup k.2 hlookup) herr
  | gc env p => exact absurd rfl herr

/-- The connection is there already. -/
theorem refused_unchanged_sample :
    (CtRequest.exec oneWorld (connRequest (nlmFCreate ||| nlmFExcl) 1)).2 = oneWorld ∨
      ∃ k info flags cda p ct', connRequest (nlmFCreate ||| nlmFExcl) 1 = .new k info flags cda ∧
        flags &&& nlmFExcl = 0 ∧ oneWorld.Listed p ∧ (oneWorld.conn p).SameCore ct' ∧
        (CtRequest.exec oneWorld (connRequest (nlmFCreate ||| nlmFExcl) 1)).2 = oneWorld.modify p fun _ => ct' :=
  refused_unchanged oneWorld_sound _ (by decide +kernel)

end VgwDriver
