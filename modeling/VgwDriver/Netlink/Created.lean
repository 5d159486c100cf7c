import VgwDriver.Netlink.Deletion

/-!
# A new conntrack

What a request leaves that may only create: the conntrack is there already, or it is refused, or there is one
conntrack more.

* `createParts_data` — the reply tuple and the mark of a conntrack that is created;
* `CtWorld.Gained` — **one conntrack more**, and nothing else;
* `new_cases` — the three outcomes of such a request;
* `new_err` — what is refused is refused with an error.
-/

namespace VgwDriver

open Base

/-! ### The reply tuple and the mark -/

/-- What the parts of a creation keep, but the one about the mark and the address translation. -/
structure NfConn.SameData (ct ct' : NfConn) : Prop where
  tupleReply : ct'.tupleReply = ct.tupleReply
  mark : ct'.mark = ct.mark

theorem NfConn.SameData.refl (ct : NfConn) : ct.SameData ct := ⟨rfl, rfl⟩

theorem NfConn.SameData.trans {a b c : NfConn} (h₁ : a.SameData b) (h₂ : b.SameData c) : a.SameData c :=
  ⟨h₂.tupleReply.trans h₁.tupleReply, h₂.mark.trans h₁.mark⟩

/-- A request without address translation, master and labels. -/
structure NlaTable.Plain (cda : NlaTable) : Prop where
  natSrc : cda ctaNatSrc = none
  natDst : cda ctaNatDst = none
  master : cda ctaTupleMaster = none
  labels : cda ctaLabels = none

section Parts

variable {env : CreateEnv} {cda : NlaTable}

theorem createHelper_sameData (henv : env.Lawful) (ct : NfConn) : ct.SameData (createHelper env cda ct).2 := by
  unfold createHelper
  cases cda ctaHelp with
  | none =>
    obtain ⟨help, heq⟩ := henv.tryAssign ct
    dsimp only
    rw [heq]
    exact ⟨rfl, rfl⟩
  | some attr =>
    dsimp only
    cases ctnetlinkParseHelp env.endian attr with
    | error err => exact .refl ct
    | ok r =>
      obtain ⟨helpname, helpinfo⟩ := r
      dsimp only
      cases env.helperFind helpname (nfCtL3num ct) (nfCtProtonum ct) with
      | none =>
        dsimp only
        split <;> exact .refl ct
      | some helper =>
        dsimp only
        cases hext : env.helperExtAdd ct with
        | none => exact .refl ct
        | some ct' =>
          rw [henv.helperExt ct ct' hext]
          exact ⟨rfl, rfl⟩

theorem changeSeqAdjDir_sameData (e : Endian) (dir : IpConntrackDir) (ct : NfConn) (attr : Option Attr) :
    ct.SameData (changeSeqAdjDir e dir ct attr).2 := by
  unfold changeSeqAdjDir
  cases ct.seqadj with
  | none => exact .refl ct
  | some seqs =>
    cases attr with
    | none => exact .refl ct
    | some attr =>
      dsimp only
      split <;> exact ⟨rfl, rfl⟩

theorem changeSeqAdj_sameData (e : Endian) (cda : NlaTable) (ct : NfConn) :
    ct.SameData (ctnetlinkChangeSeqAdj e ct cda).2 := by
  unfold ctnetlinkChangeSeqAdj
  cases ct.seqadj with
  | none => exact .refl ct
  | some seqs =>
    have horig := changeSeqAdjDir_sameData e .original ct (cda ctaSeqAdjOrig)
    dsimp only
    split
    · exact horig
    · exact horig.trans (changeSeqAdjDir_sameData e .reply _ (cda ctaSeqAdjReply))

theorem changeProtoinfo_sameData (henv : env.Lawful) (attr : Attr) (ct : NfConn) :
    ct.SameData (ctnetlinkChangeProtoinfo env.toChangeEnv attr ct).2 := by
  unfold ctnetlinkChangeProtoinfo
  cases nlaParseNestedDeprecated env.endian ctaProtoinfoMax protoinfoPolicy attr with
  | error err => exact .refl ct
  | ok tb =>
    dsimp only
    cases hf : env.fromNlattr (nfCtProtonum ct) with
    | none => exact .refl ct
    | some f =>
      obtain ⟨tcp, heq⟩ := henv.change.proto _ f hf tb ct
      dsimp only
      rw [heq]
      exact ⟨rfl, rfl⟩

theorem changeSynproxy_sameData (attr : Attr) (ct : NfConn) :
    ct.SameData (ctnetlinkChangeSynproxy env.toChangeEnv attr ct).2 := by
  unfold ctnetlinkChangeSynproxy
  cases ct.synproxy with
  | none => exact .refl ct
  | some s =>
    dsimp only
    split
    · exact .refl ct
    · split <;> exact ⟨rfl, rfl⟩

theorem part_sameData {attr : Option Attr} {f : Attr → NfConn → ℤ × NfConn}
    (h : ∀ a ct, NfConn.SameData ct (f a ct).2) (ct : NfConn) : ct.SameData (part attr f ct).2 := by
  cases attr with
  | none => exact .refl ct
  | some a => exact h a ct

/-- The parts in front of the one about the mark. -/
def unmarkedParts (env : CreateEnv) (cda : NlaTable) : List (NfConn → ℤ × NfConn) :=
  unconfirmedParts env cda ++ setConfirmed :: (confirmedParts env cda).dropLast

theorem unmarkedParts_append (env : CreateEnv) (cda : NlaTable) :
    unmarkedParts env cda ++ [markPart cda] = createParts env cda := rfl

theorem unmarkedParts_sameData (henv : env.Lawful) (hplain : cda.Plain) (ct : NfConn) :
    ct.SameData (untilError (unmarkedParts env cda) ct).2 := by
  refine untilError_rel NfConn.SameData.refl NfConn.SameData.trans ?_ ct
  intro f hf ct
  simp only [unmarkedParts, unconfirmedParts, confirmedParts, List.dropLast_cons_cons, List.dropLast_singleton,
    List.cons_append, List.nil_append, List.mem_cons, List.not_mem_nil, or_false] at hf
  rcases hf with rfl | rfl | rfl | rfl | rfl | rfl | rfl | rfl | rfl | rfl | rfl
  · exact .refl ct
  · exact createHelper_sameData henv ct
  · unfold ctnetlinkSetupNat
    rw [if_pos ⟨by rw [hplain.natDst]; rfl, by rw [hplain.natSrc]; rfl⟩]
    exact .refl ct
  · obtain ⟨acct, tstamp, labels, seqadj, synproxy, heq⟩ := henv.ext ct
    dsimp only
    rw [heq]
    exact ⟨rfl, rfl⟩
  · exact ⟨rfl, rfl⟩
  · refine part_sameData (fun a ct => ?_) ct
    obtain ⟨timeout, heq⟩ := henv.setTimeout ((nlaGetBe32 a).toNat * env.hz) ct
    dsimp only
    rw [heq]
    exact ⟨rfl, rfl⟩
  · refine part_sameData (fun a ct => ?_) ct
    obtain ⟨status, heq, -, -⟩ := henv.change.status (nlaGetBe32 a) ct
    rw [ctnetlinkChangeStatus, heq]
    exact ⟨rfl, rfl⟩
  · exact changeSeqAdj_sameData env.endian cda ct
  · exact ⟨rfl, rfl⟩
  · exact part_sameData (changeProtoinfo_sameData henv) ct
  · exact part_sameData changeSynproxy_sameData ct

/-- The mark that a request asks for; a mask does not matter to a new conntrack. -/
def NlaTable.mark (cda : NlaTable) : UInt32 :=
  match cda ctaMark with
  | none => 0
  | some a => nlaGetBe32 a

/-- **The reply tuple and the mark** of a conntrack that is created are those of the request. -/
theorem createParts_data (henv : env.Lawful) (hplain : cda.Plain) {net : NetPtr} {zone : NfConntrackZone}
    {otuple rtuple : NfConntrackTuple}
    (hok : ¬ (untilError (createParts env cda) (nfConntrackAlloc net zone otuple rtuple)).1 < 0) :
    (untilError (createParts env cda) (nfConntrackAlloc net zone otuple rtuple)).2.tupleReply = rtuple ∧
      (untilError (createParts env cda) (nfConntrackAlloc net zone otuple rtuple)).2.mark = cda.mark := by
  set ct := nfConntrackAlloc net zone otuple rtuple
  rw [← unmarkedParts_append] at hok ⊢
  obtain ⟨-, heq⟩ := untilError_append hok
  obtain ⟨hreply, hmark⟩ := unmarkedParts_sameData henv hplain ct
  set ct' := (untilError (unmarkedParts env cda) ct).2
  have hlast : untilError [markPart cda] ct' = (0, (markPart cda ct').2) := by
    refine untilError_goOn ?_
    unfold markPart part
    cases cda ctaMark with
    | none => exact Int.lt_irrefl 0
    | some a => exact Int.lt_irrefl 0
  rw [heq, hlast]
  unfold markPart NlaTable.mark
  cases cda ctaMark with
  | none => exact ⟨hreply, hmark⟩
  | some a =>
    refine ⟨hreply, ?_⟩
    have hzero : ct'.mark = 0 := hmark
    show (ct'.mark &&& _) ^^^ nlaGetBe32 a = nlaGetBe32 a
    rw [hzero, UInt32.zero_and, UInt32.zero_xor]

end Parts

/-! ### One conntrack more -/

/-- Behind `w`, the conntrack at `p` is new, and everything else is as it was. -/
structure CtWorld.Gained (w w' : CtWorld) (p : CtPtr) : Prop where
  fresh : p ∉ w.live
  live : w'.live = p :: w.live
  nodes : ∀ n, n ∈ w'.hash.nodes ↔ n.ct = p ∨ n ∈ w.hash.nodes
  conn : ∀ q, q ≠ p → w'.conn q = w.conn q
  master : ∀ q, w'.master q = if q = p then none else w.master q
  use : (w'.conn p).use = 1

/-- A conntrack of the given keys and the mark that has just been put in the table. -/
structure NfConn.Fresh (ct : NfConn) (net : NetPtr) (zone : NfConntrackZone) (otuple rtuple : NfConntrackTuple)
    (mark : UInt32) : Prop where
  net : ct.net = net
  zone : ct.zone = zone
  tupleOrig : ct.tupleOrig = otuple
  tupleReply : ct.tupleReply = rtuple
  mark : ct.mark = mark
  expected : ct.testStatus ipsExpectedBit = false
  confirmed : ct.testStatus ipsConfirmedBit = true
  dying : ct.testStatus ipsDyingBit = false

/-- What `nf_conntrack_hash_check_insert` returns for a conntrack that does not get in is an error number. -/
def CreateEnv.PlaceFails (env : CreateEnv) : Prop := ∀ t ct err, env.place t ct = .error err → err < 0

theorem kernelEnv_placeFails : kernelEnv.PlaceFails := by
  intro t ct err hplace
  unfold kernelEnv at hplace
  dsimp only at hplace
  split at hplace
  · cases hplace
    decide
  · split at hplace
    · cases hplace
    · cases hplace
      decide

namespace CtWorld

variable {env : CreateEnv} {w : CtWorld} {held : CtPtr → ℕ} {p : CtPtr} {info : NfnlInfo} {cda : NlaTable}
  {zone : NfConntrackZone} {otuple rtuple : NfConntrackTuple}

/-- The reference of the caller dropped, the table's is left. -/
theorem gained_insert (h : w.Sound held) (hp : p ∉ w.live) (ct : NfConn) (i j : Fin w.hash.size) :
    w.Gained ((w.insert p ct none i j).put p) p ∧
      ((w.insert p ct none i j).put p).conn p = { ct with use := 1 } := by
  have hunlisted : ∀ n ∈ w.hash.nodes, n.ct ≠ p := fun n hn heq => hp (heq ▸ h.live_of_listed (h.listed_of_mem hn))
  have hconn := conn_insert ct none i j hunlisted
  have hmaster := master_insert ct none i j hunlisted
  have hlive := live_insert ct none i j hunlisted
  have hmem := mem_insert ct none i j hunlisted
  set w' := w.insert p ct none i j
  have hcount : w'.counted.count p = 2 := by
    show (w'.conn p).use = 2
    rw [hconn, if_pos rfl]
  have hput : w'.counted.put p = w'.counted.dec p := by
    refine Counted.put_of_count_ne_one ?_ (by rw [hcount]; decide)
    show p ∈ w'.live
    rw [hlive]
    exact List.mem_cons_self
  have hconn' : ∀ q, (w'.put p).conn q = { w'.conn q with use := (w'.counted.dec p).count q } := by
    intro q
    rw [CtWorld.put, conn_withCounted, hput]
  have hself : (w'.put p).conn p = { ct with use := 1 } := by
    have huse : (w'.counted.dec p).count p = 1 := by
      show Function.update w'.counted.count p (w'.counted.count p - 1) p = 1
      rw [Function.update_self, hcount]
    rw [hconn', huse, hconn, if_pos rfl]
  refine ⟨⟨hp, ?_, hmem, ?_, ?_, ?_⟩, hself⟩
  · have heq : (w'.put p).live = (w'.counted.put p).live := rfl
    rw [heq, hput]
    exact hlive
  · intro q hq
    have huse : (w'.counted.dec p).count q = (w'.conn q).use := Function.update_of_ne hq _ _
    rw [hconn', huse, hconn, if_neg hq]
  · exact hmaster
  · rw [hself]

/-- What a creation returns that does not fail. -/
theorem newCreate_ok (h : w.Sound held) (hp : p ∉ w.live) (hplain : cda.Plain) {ct : NfConn}
    {i j : Fin w.hash.size} (hproto : otuple.dst.protonum = rtuple.dst.protonum)
    (hct : ct.testStatus ipsExpectedBit = false)
    (hcreate : ctnetlinkCreateConntrack env info zone cda otuple rtuple w = (.ok p, w.insert p ct none i j)) :
    newCreate env info cda (some otuple) (some rtuple) zone w =
      ⟨0, (w.insert p ct none i j).put p, some (p, eventMask (createEvents ++ [ipctNew]))⟩ := by
  have hunlisted : ∀ n ∈ w.hash.nodes, n.ct ≠ p := fun n hn heq => hp (heq ▸ h.live_of_listed (h.listed_of_mem hn))
  have hevent : ((w.insert p ct none i j).conn p).testStatus ipsExpectedBit = false := by
    rw [conn_insert ct none i j hunlisted, if_pos rfl]
    exact hct
  have hlabels : createLabels env cda p (w.insert p ct none i j) = (w.insert p ct none i j, []) := by
    unfold createLabels
    rw [hplain.labels]
  unfold newCreate
  dsimp only
  rw [if_neg (not_not.mpr hproto), hcreate]
  dsimp only
  rw [hlabels, hevent]
  rfl

/-- **A creation** without a master is refused, or there is one conntrack more. -/
theorem newCreate_cases (h : w.Sound held) (henv : env.Lawful) (info : NfnlInfo) (zone : NfConntrackZone)
    (hplain : cda.Plain) (otuple rtuple : NfConntrackTuple) :
    (∃ err, newCreate env info cda (some otuple) (some rtuple) zone w = ⟨err, w, none⟩) ∨
      ∃ p w', newCreate env info cda (some otuple) (some rtuple) zone w =
          ⟨0, w', some (p, eventMask (createEvents ++ [ipctNew]))⟩ ∧
        w.Gained w' p ∧ (w'.conn p).Fresh info.net zone otuple rtuple cda.mark := by
  by_cases hproto : otuple.dst.protonum = rtuple.dst.protonum
  · rcases create_cases h henv info zone cda otuple rtuple with ⟨err, heq⟩ | ⟨p, m, i, j, halloc, hok, hm, -, heq⟩
    · refine .inl ⟨err, ?_⟩
      unfold newCreate
      dsimp only
      rw [if_neg (not_not.mpr hproto), heq]
    · have hnone : m = none := by
        rw [createMaster, hplain.master] at hm
        exact (Except.ok.inj hm).symm
      subst hnone
      have hfree := henv.alloc w p halloc
      have hfate := createdConn_fate (w := w) henv none hok
      obtain ⟨hexpected, hconfirmed, hdying⟩ := createdConn_bits (w := w) henv none hok
      obtain ⟨hreply, hmark⟩ := createParts_data henv hplain hok
      obtain ⟨hgained, hconn⟩ := gained_insert h hfree (createdConn env info zone cda otuple rtuple w none) i j
      refine .inr ⟨p, _, newCreate_ok h hfree hplain hproto hexpected heq, hgained, ?_⟩
      rw [hconn]
      exact ⟨hfate.net, hfate.zone, hfate.tupleOrig, hreply, hmark, hexpected, hconfirmed, hdying⟩
  · refine .inl ⟨-einval, ?_⟩
    unfold newCreate
    dsimp only
    rw [if_pos hproto]

/-- **A request that may only create**: the conntrack is there already, or the request is refused, or there is one
conntrack more. -/
theorem new_cases (h : w.Sound held) (henv : env.Lawful) {flags : UInt16} (hcreate : flags &&& nlmFCreate ≠ 0)
    (hexcl : flags &&& nlmFExcl ≠ 0) (hplain : cda.Plain)
    (hkeys : newConntrackKeys env.toFilterEnv cda info.family = .ok (some otuple, some rtuple, zone)) :
    (∀ n, env.find w.hash info.net zone otuple = some n →
      ctnetlinkNewConntrack env info flags cda w = ⟨-eexist, w, none⟩) ∧
    (env.find w.hash info.net zone otuple = none →
      (∃ err, ctnetlinkNewConntrack env info flags cda w = ⟨err, w, none⟩) ∨
        ∃ p w', ctnetlinkNewConntrack env info flags cda w =
            ⟨0, w', some (p, eventMask (createEvents ++ [ipctNew]))⟩ ∧
          w.Gained w' p ∧ (w'.conn p).Fresh info.net zone otuple rtuple cda.mark) := by
  have hbind : ((some otuple).or (some rtuple)).bind (env.find w.hash info.net zone) =
      env.find w.hash info.net zone otuple := rfl
  unfold ctnetlinkNewConntrack
  rw [hkeys]
  dsimp only
  rw [hbind]
  constructor
  · intro n hfind
    rw [hfind]
    dsimp only
    rw [newChange, if_pos hexcl, put_get h (h.live_of_found henv hfind)]
  · intro hfind
    rw [hfind]
    dsimp only
    rw [if_neg hcreate]
    exact newCreate_cases h henv info zone hplain otuple rtuple

/-! ### Refusals -/

theorem create_err (hplace : env.PlaceFails) (hmaster : cda ctaTupleMaster = none) {err : ℤ} {w' : CtWorld}
    (hcreate : ctnetlinkCreateConntrack env info zone cda otuple rtuple w = (.error err, w')) : err < 0 := by
  have hnone : createMaster env info zone cda w.hash = .ok none := by
    rw [createMaster, hmaster]
  unfold ctnetlinkCreateConntrack at hcreate
  rw [hnone] at hcreate
  cases halloc : env.alloc w with
  | none =>
    rw [halloc] at hcreate
    cases hcreate
    decide
  | some p =>
    rw [halloc] at hcreate
    dsimp only at hcreate
    split at hcreate
    · next hneg =>
      cases hcreate
      exact hneg
    · split at hcreate
      · next err' hfail =>
        cases hcreate
        exact hplace _ _ _ hfail
      · cases hcreate

theorem newCreate_err (hplace : env.PlaceFails) (hmaster : cda ctaTupleMaster = none)
    (hreport : (newCreate env info cda (some otuple) (some rtuple) zone w).report = none) :
    (newCreate env info cda (some otuple) (some rtuple) zone w).err < 0 := by
  unfold newCreate at hreport ⊢
  dsimp only at hreport ⊢
  split
  · exact show (-einval : ℤ) < 0 by decide
  · next hproto =>
    rw [if_neg hproto] at hreport
    rcases hcreate : ctnetlinkCreateConntrack env info zone cda otuple rtuple w with ⟨err | p, w'⟩
    · exact create_err hplace hmaster hcreate
    · rw [hcreate] at hreport
      cases hreport

/-- **What is not reported** of a request that may only create has failed. -/
theorem new_err (hplace : env.PlaceFails) {flags : UInt16} (hcreate : flags &&& nlmFCreate ≠ 0)
    (hexcl : flags &&& nlmFExcl ≠ 0) (hmaster : cda ctaTupleMaster = none)
    (hkeys : newConntrackKeys env.toFilterEnv cda info.family = .ok (some otuple, some rtuple, zone))
    (hreport : (ctnetlinkNewConntrack env info flags cda w).report = none) :
    (ctnetlinkNewConntrack env info flags cda w).err < 0 := by
  have hbind : ((some otuple).or (some rtuple)).bind (env.find w.hash info.net zone) =
      env.find w.hash info.net zone otuple := rfl
  unfold ctnetlinkNewConntrack at hreport ⊢
  rw [hkeys] at hreport ⊢
  dsimp only at hreport ⊢
  rw [hbind] at hreport ⊢
  cases hfind : env.find w.hash info.net zone otuple with
  | none =>
    rw [hfind] at hreport
    dsimp only at hreport ⊢
    rw [if_neg hcreate] at hreport ⊢
    exact newCreate_err hplace hmaster hreport
  | some n =>
    dsimp only
    rw [newChange, if_pos hexcl]
    exact show (-eexist : ℤ) < 0 by decide

end CtWorld

end VgwDriver
