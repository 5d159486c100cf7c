import Mathlib.Data.Nat.Bitwise
import VgwDriver.Cli.Add
import VgwDriver.Netlink.EventSize

/-!
# The queue's attribute

`nfnetlink_queue` hands packets to a listener and takes its verdicts.  Through the hook of this module it tells
the listener about the packet's conntrack, in an attribute of the packet's message, and changes the conntrack as
an attribute of the verdict says.

* `ctnetlinkGlueBuild`, `ctnetlinkGlueParse` — the two directions;
* `queue_run` — **no verdict touches what a conntrack is kept by**, in whatever order requests and verdicts come;
* `glueBuild_fits` — the room that is counted for the attribute, and when it is enough;
* `glueParse_glueBuild` — **a listener that repeats what it was told** changes no more than the timeout.
-/

namespace VgwDriver

open Base

/-! ### Verdicts -/

def enospc : ℤ := 28

/-- What a verdict calls besides. -/
structure QueueEnv extends ChangeEnv where
  /-- `__nf_ct_change_status`, of the bits to set and the bits to clear -/
  changeStatus : UInt32 → UInt32 → NfConn → NfConn

def ipsSeenReply : UInt32 := 2
def ipsAssured : UInt32 := 4

section Parse

variable (env : QueueEnv)

/-- `ctnetlink_update_status`. -/
def ctnetlinkUpdateStatus (attr : Attr) (ct : NfConn) : ℤ × NfConn :=
  let status := nlaGetBe32 attr
  let d := ct.status ^^^ status
  if d &&& ipsSeenReply ≠ 0 ∧ status &&& ipsSeenReply = 0 then (-ebusy, ct)
  else if d &&& ipsAssured ≠ 0 ∧ status &&& ipsAssured = 0 then (-ebusy, ct)
  else (0, env.changeStatus status (~~~status) ct)

/-- `ctnetlink_glue_parse_ct`; `expected` says whether `ct->master` is set. -/
def ctnetlinkGlueParseCt (expected : Bool) (cda : NlaTable) : NfConn → ℤ × NfConn :=
  untilError
    [part (cda ctaTimeout) (ctnetlinkChangeTimeout env.toChangeEnv), part (cda ctaStatus) (ctnetlinkUpdateStatus env),
      part (cda ctaHelp) (ctnetlinkChangeHelper env.toChangeEnv expected),
      part (cda ctaLabels) (ctnetlinkAttachLabels env.toChangeEnv cda), markPart cda]

/-- `ctnetlink_glue_parse`. -/
def ctnetlinkGlueParse (expected : Bool) (attr : Attr) (ct : NfConn) : ℤ × NfConn :=
  match nlaParseCt (scanAttrs env.endian attr.payload) with
  | .error err => (err, ct)
  | .ok cda => ctnetlinkGlueParseCt env expected cda ct

end Parse

/-- The bits that are not in `IPS_UNCHANGEABLE_MASK`. -/
def changeableBits : List ℕ := [ipsSeenReplyBit, ipsAssuredBit, 10, 13]

/-- What the kernel's functions change: of the status, the changeable bits, as they are told. -/
structure QueueEnv.Lawful (env : QueueEnv) : Prop where
  change : env.toChangeEnv.Lawful
  status : ∀ on off ct, ∃ status, env.changeStatus on off ct = { ct with status := status } ∧
    ∀ bit, status.toNat.testBit bit =
      if bit ∈ changeableBits then on.toNat.testBit bit || (ct.testStatus bit && !off.toNat.testBit bit)
      else ct.testStatus bit

section SameCore

variable {env : QueueEnv} {ct : NfConn}

theorem flag_clear_iff {flag x : UInt32} {bit : ℕ} (hflag : flag.toNat = 2 ^ bit) :
    x &&& flag = 0 ↔ x.toNat.testBit bit = false := by
  rw [← UInt32.toNat_inj, UInt32.toNat_and, hflag, Nat.and_two_pow]
  cases x.toNat.testBit bit with
  | false => simp
  | true => simp

/-- A bit that may only be set, where the guard lets the request pass. -/
theorem guarded_bit {flag old new : UInt32} {bit : ℕ} (hflag : flag.toNat = 2 ^ bit)
    (hpass : ¬ ((old ^^^ new) &&& flag ≠ 0 ∧ new &&& flag = 0)) (hold : old.toNat.testBit bit) :
    new.toNat.testBit bit := by
  by_contra hnew
  rw [Bool.not_eq_true] at hnew
  refine hpass ⟨fun hsame => ?_, (flag_clear_iff hflag).mpr hnew⟩
  rw [flag_clear_iff hflag, UInt32.toNat_xor, Nat.testBit_xor, hold, hnew] at hsame
  cases hsame

theorem updateStatus_sameCore (henv : env.Lawful) (attr : Attr) :
    ct.SameCore (ctnetlinkUpdateStatus env attr ct).2 := by
  unfold ctnetlinkUpdateStatus
  dsimp only
  split
  · exact .refl ct
  · rename_i hseen
    split
    · exact .refl ct
    · rename_i hassured
      obtain ⟨status, heq, hbits⟩ := henv.status (nlaGetBe32 attr) (~~~nlaGetBe32 attr) ct
      rw [heq]
      refine { NfConn.SameCore.refl ct with fixed := fun bit hbit => ?_, sticky := fun bit hbit hset => ?_ }
      · have hnot : bit ∉ changeableBits := by
          simp only [fixedBits, List.mem_cons, List.not_mem_nil, or_false] at hbit
          rcases hbit with rfl | rfl | rfl | rfl | rfl | rfl | rfl | rfl | rfl | rfl | rfl <;> decide
        exact (hbits bit).trans (if_neg hnot)
      · have hthis := hbits bit
        simp only [stickyBits, List.mem_cons, List.not_mem_nil, or_false] at hbit
        rcases hbit with rfl | rfl | rfl
        · rw [if_pos (by decide), guarded_bit (show ipsSeenReply.toNat = 2 ^ ipsSeenReplyBit from rfl) hseen hset,
            Bool.true_or] at hthis
          exact hthis
        · rw [if_pos (by decide), guarded_bit (show ipsAssured.toNat = 2 ^ ipsAssuredBit from rfl) hassured hset,
            Bool.true_or] at hthis
          exact hthis
        · rw [if_neg (by decide)] at hthis
          exact hthis.trans hset

/-- **A verdict** keeps what a conntrack keeps, refused or not. -/
theorem glueParse_sameCore (henv : env.Lawful) (expected : Bool) (attr : Attr) (ct : NfConn) :
    ct.SameCore (ctnetlinkGlueParse env expected attr ct).2 := by
  unfold ctnetlinkGlueParse
  cases nlaParseCt (scanAttrs env.endian attr.payload) with
  | error err => exact .refl ct
  | ok cda =>
    refine untilError_rel NfConn.SameCore.refl NfConn.SameCore.trans ?_ ct
    intro f hf ct
    simp only [List.mem_cons, List.not_mem_nil, or_false] at hf
    rcases hf with rfl | rfl | rfl | rfl | rfl
    · exact part_sameCore (fun a ct => changeTimeout_sameCore henv.change a) ct
    · exact part_sameCore (fun a ct => updateStatus_sameCore henv a) ct
    · exact part_sameCore (fun a ct => changeHelper_sameCore expected a) ct
    · exact part_sameCore (fun a ct => attachLabels_sameCore henv.change cda a) ct
    · exact markPart_sameCore cda ct

end SameCore

/-! ### Requests and verdicts -/

/-- What happens to the conntracks where packets are queued. -/
inductive QueueStep where
  | request (r : CtRequest)
  /-- a verdict on a packet of the conntrack at `p`, which the packet holds -/
  | verdict (env : {env : QueueEnv // env.Lawful}) (p : CtPtr) (attr : Attr)

/-- The state behind a step. -/
def QueueStep.step (w : CtWorld) : QueueStep → CtWorld
  | request r => CtRequest.step w r
  | verdict env p attr =>
    if p ∈ w.live then w.modify p fun _ => (ctnetlinkGlueParse env.1 (w.master p).isSome attr (w.conn p)).2 else w

section Runs

variable {w : CtWorld} {held : CtPtr → ℕ} {p : CtPtr}

theorem queue_step_sound (h : w.Sound held) (x : QueueStep) : (QueueStep.step w x).Sound held := by
  cases x with
  | request r => exact step_sound h r
  | verdict env q attr =>
    by_cases hq : q ∈ w.live
    · rw [show QueueStep.step w (.verdict env q attr) = w.modify q fun _ =>
        (ctnetlinkGlueParse env.1 (w.master q).isSome attr (w.conn q)).2 from if_pos hq]
      exact h.modify (glueParse_sameCore env.2 _ attr _)
    · rw [show QueueStep.step w (.verdict env q attr) = w from if_neg hq]
      exact h

theorem queue_step_kept (h : w.Sound held) (hp : p ∈ w.live) (x : QueueStep) : w.Kept (QueueStep.step w x) p := by
  cases x with
  | request r => exact step_kept h hp r
  | verdict env q attr =>
    by_cases hq : q ∈ w.live
    · rw [show QueueStep.step w (.verdict env q attr) = w.modify q fun _ =>
        (ctnetlinkGlueParse env.1 (w.master q).isSome attr (w.conn q)).2 from if_pos hq]
      exact CtWorld.kept_modify (fun _ => _) (glueParse_sameCore env.2 _ attr _).sameIdentity p
    · rw [show QueueStep.step w (.verdict env q attr) = w from if_neg hq]
      exact .refl w p

/-- **Requests and verdicts, in whatever order**, leave the state sound for the references that others hold: the
counts, the keys and the states in the table; and for as long as a conntrack is there, it is the same one, with
the same master, has what it has seen, and does not get back into the table. -/
theorem queue_run (h : w.Sound held) (l : List QueueStep) :
    (run QueueStep.step w l).Sound held ∧
      ∀ p, (∀ pre, pre <+: l → p ∈ (run QueueStep.step w pre).live) → w.Kept (run QueueStep.step w l) p := by
  have hsound : ∀ l, (run QueueStep.step w l).Sound held := fun l =>
    @run_invariant CtWorld QueueStep _ (fun w => w.Sound held) w h (fun _ x hs => queue_step_sound hs x) l
  refine ⟨hsound l, fun p hp => ?_⟩
  have hstep : ∀ (w : CtWorld) x, w.Sound held ∧ p ∈ w.live → w.Kept (QueueStep.step w x) p :=
    fun _ x hs => queue_step_kept hs.1 hs.2 x
  exact @run_rel CtWorld QueueStep QueueStep.step _ (fun w w' => w.Kept w' p) (fun w => .refl w p)
    CtWorld.Kept.trans hstep w l fun pre hpre => ⟨hsound pre, hp pre hpre⟩

/-- `__nf_ct_change_status`, with the four changeable bits in one mask. -/
def kernelQueueStatus (on off : UInt32) (ct : NfConn) : NfConn :=
  { ct with status := (ct.status ^^^ (ct.status &&& (off &&& 9222))) ||| (on &&& 9222) }

/-- A word of the labels, on a little-endian host. -/
def labelWord (bits : Bytes) (i : ℕ) : UInt64 := get64 .little ((bits.drop (8 * i)).take 8)

/-- `nf_connlabels_replace`: the bits outside the mask are kept. -/
def kernelReplace (bits : Bytes) (mask : Option Bytes) (ct : NfConn) : ℤ × NfConn :=
  let kept (i : ℕ) (old : UInt64) : UInt64 :=
    match mask with
    | none => 0
    | some mask => old &&& ~~~labelWord mask i
  match ct.labels with
  | none => (-enospc, ct)
  | some labels =>
    (0, { ct with
      labels := some ⟨kept 0 labels.bits0 ^^^ labelWord bits 0, kept 1 labels.bits1 ^^^ labelWord bits 1⟩ })

theorem labelWord_bytes (x y : UInt64) :
    labelWord (put64 .little x ++ put64 .little y) 0 = x ∧ labelWord (put64 .little x ++ put64 .little y) 1 = y := by
  have hlen := length_put64 .little x
  constructor
  · rw [labelWord, Nat.mul_zero, List.drop_zero, List.take_left' hlen, get64_put64]
  · rw [labelWord, Nat.mul_one, List.drop_left' hlen, List.take_of_length_le (length_put64 .little y).le, get64_put64]

/-- A helper without data, whose name has the greatest length. -/
def longHelper : NfConntrackHelper := ⟨List.replicate 15 97, []⟩

/-- A kernel with labels and one helper. -/
def kernelQueueEnv : QueueEnv where
  toChangeEnv :=
    { kernelEnv.toChangeEnv with
      helperFind := fun name _ _ => if name = longHelper.name then some longHelper else none
      connlabelsReplace := kernelReplace }
  changeStatus := kernelQueueStatus

theorem testBit_changeable (bit : ℕ) : (9222 : ℕ).testBit bit = decide (bit ∈ changeableBits) := by
  by_cases hbit : bit < 16
  · have hall : ∀ bit < 16, (9222 : ℕ).testBit bit = decide (bit ∈ changeableBits) := by decide
    exact hall bit hbit
  · have hpow : 9222 < 2 ^ bit :=
      Nat.lt_of_lt_of_le (by decide) (Nat.pow_le_pow_right (by decide) (Nat.le_of_not_lt hbit))
    rw [Nat.testBit_lt_two_pow hpow, eq_comm, decide_eq_false_iff_not]
    simp only [changeableBits, ipsSeenReplyBit, ipsAssuredBit, List.mem_cons, List.not_mem_nil, or_false]
    omega

theorem kernelReplace_lawful (bits : Bytes) (mask : Option Bytes) (ct : NfConn) : ∃ labels,
    (kernelReplace bits mask ct).2 = { ct with labels := labels } ∧ labels.isSome = ct.labels.isSome := by
  unfold kernelReplace
  obtain h | ⟨labels, h⟩ := Option.eq_none_or_eq_some ct.labels
  · rw [h]
    exact ⟨ct.labels, rfl, by rw [h]⟩
  · rw [h]
    exact ⟨_, rfl, rfl⟩

theorem kernelQueueEnv_lawful : kernelQueueEnv.Lawful where
  change :=
    { timeout := kernelEnv_lawful.change.timeout
      status := kernelEnv_lawful.change.status
      proto := kernelEnv_lawful.change.proto
      labels := kernelReplace_lawful }
  status := fun on off ct => by
    refine ⟨_, rfl, fun bit => ?_⟩
    rw [UInt32.toNat_or, UInt32.toNat_xor, UInt32.toNat_and, UInt32.toNat_and, UInt32.toNat_and, Nat.testBit_or,
      Nat.testBit_xor, Nat.testBit_and, Nat.testBit_and, Nat.testBit_and, show (9222 : UInt32).toNat = 9222 from rfl,
      testBit_changeable]
    show (ct.testStatus bit ^^ (ct.testStatus bit && _) || _) = _
    split
    · rename_i hbit
      rw [decide_eq_true hbit, Bool.and_true, Bool.and_true]
      cases ct.testStatus bit <;> cases on.toNat.testBit bit <;> cases off.toNat.testBit bit <;> rfl
    · rename_i hbit
      rw [decide_eq_false hbit, Bool.and_false, Bool.and_false, Bool.and_false, Bool.xor_false, Bool.or_false]

/-- A verdict that would confirm the conntrack and mark it, and the request that flushes. -/
def sampleVerdicts : List QueueStep :=
  [.verdict ⟨kernelQueueEnv, kernelQueueEnv_lawful⟩ 1
      (nestAttr .little 11 [nlaBe32 ctaStatus 0xffffffff, nlaBe32 ctaMark 7]),
    .request (connRequest 0 2)]

theorem queue_run_sample :
    (run QueueStep.step oneWorld sampleVerdicts).Sound (fun _ => 0) ∧
      ∀ p, (∀ pre, pre <+: sampleVerdicts → p ∈ (run QueueStep.step oneWorld pre).live) →
        oneWorld.Kept (run QueueStep.step oneWorld sampleVerdicts) p :=
  queue_run oneWorld_sound sampleVerdicts

end Runs

/-! ### What the listener is told -/

section Build

variable (env : NlEnv)

/-- `__ctnetlink_glue_build`; `expected` says whether `ct->master` is set. -/
def glueBuild (p : CtPtr) (ct : NfConn) (expected : Bool) : NlWriter := do
  ctnetlinkDumpIdentity env ct
  ctnetlinkDumpId env p
  ctnetlinkDumpStatus env ct
  ctnetlinkDumpTimeout env ct false
  ctnetlinkDumpProtoinfo env ct false 0
  ctnetlinkDumpAcct env ipctnlMsgCtGet
  ctnetlinkDumpTimestamp env ct
  ctnetlinkDumpHelpinfo env ct
  whenEvent (ct.secmark ≠ 0) (ctnetlinkDumpSecctx env ct)
  whenEvent expected (ctnetlinkDumpMaster env ct)
  whenEvent (ct.testStatus ipsSeqAdjustBit) (ctnetlinkDumpCtSeqAdj env ct)
  ctnetlinkDumpCtSynproxy env ct
  ctnetlinkDumpMark env ct true
  ctnetlinkDumpLabels env ct

/-- The two attributes of `ctnetlink_glue_build`. -/
def glueBody (p : CtPtr) (ct : NfConn) (expected : Bool) (ctinfo : UInt32) (ctAttr ctInfoAttr : UInt16) :
    NlWriter := do
  (do
    let nestParms ← nestStart (-1) env.endian ctAttr
    glueBuild env p ct expected
    nestEnd env.endian nestParms)
  putAttr (-1) env.endian (nlaBe32 ctInfoAttr ctinfo)

/-- `ctnetlink_glue_build`, into the packet's message: the result, the counters, the message. -/
def ctnetlinkGlueBuild (p : CtPtr) (ct : NfConn) (expected : Bool) (ctinfo : UInt32) (ctAttr ctInfoAttr : UInt16)
    (b : Buf) : ℤ × Option NfConnAcct × Buf :=
  match glueBody env p ct expected ctinfo ctAttr ctInfoAttr (ct.acct, b) with
  | (.ok _, acct, b') => (0, acct, b')
  | (.error _, acct, b') => (-enospc, acct, b')

/-- The attributes in front of the helper. -/
def glueFront (p : CtPtr) (ct : NfConn) : List Attr :=
  identityAttrs env ct ++ ([⟨ctaId, put32 env.endian (env.nfCtGetId p)⟩] ++ ([nlaBe32 ctaStatus ct.status] ++
    (timeoutAttrs env ct false ++ (protoinfoAttrs env ct false 0 ++ (acctAttrs env ct.acct ++
      timestampAttrs env ct)))))

/-- A part that is there or not. -/
def whenAttrs (b : Bool) (l : List Attr) : List Attr := if b then l else []

/-- The attributes behind it. -/
def glueBack (ct : NfConn) (expected : Bool) : List Attr :=
  whenAttrs (ct.secmark ≠ 0) (secctxAttrs env ct) ++ (whenAttrs expected (masterAttrs env ct) ++
    (whenAttrs (ct.testStatus ipsSeqAdjustBit) (ctSeqAdjAttrs env ct) ++ (ctSynproxyAttrs env ct ++
      (markAttrs ct true ++ labelsAttrs env ct))))

/-- The attributes of the conntrack. -/
def glueOut (p : CtPtr) (ct : NfConn) (expected : Bool) : Out :=
  seqOut (fixedOut (glueFront env p ct)) (seqOut (helpOut env ct) (fixedOut (glueBack env ct expected)))

theorem whenOut_fixed (b : Bool) (l : List Attr) : whenOut b (fixedOut l) = fixedOut (whenAttrs b l) := by
  cases b <;> rfl

/-- The counters are not taken. -/
theorem emitsFrom_dumpAcct_get (acct : Option NfConnAcct) :
    EmitsFrom env.endian (ctnetlinkDumpAcct env ipctnlMsgCtGet) acct (fixedOut (acctAttrs env acct)) acct
      fun _ => acct := by
  have hafter : ∀ dir, (takeCounter dir ipctnlMsgCtGet acct).2 = acct := by
    intro dir
    cases acct <;> rfl
  have horig : afterOrig ipctnlMsgCtGet acct = acct := hafter .original
  have hboth : afterBoth ipctnlMsgCtGet acct = acct := by
    unfold afterBoth
    rw [horig]
    exact hafter .reply
  have h := emitsFrom_dumpAcct env ipctnlMsgCtGet acct
  rw [horig, hboth] at h
  simpa only [ite_self] using h

/-- **What the listener is told of the conntrack.** -/
theorem emitsFrom_glueBuild (p : CtPtr) (ct : NfConn) (expected : Bool) :
    EmitsFrom env.endian (glueBuild env p ct expected) ct.acct (glueOut env p ct expected) ct.acct
      fun _ => ct.acct := by
  have hback := (Emits.whenEvent env (ct.secmark ≠ 0) (emits_dumpSecctx env ct)).bind
    ((Emits.whenEvent env expected (emits_dumpMaster env ct)).bind
    ((Emits.whenEvent env (ct.testStatus ipsSeqAdjustBit) (emits_dumpCtSeqAdj env ct)).bind
    ((emits_dumpCtSynproxy env ct).bind ((emits_dumpMark env ct true).bind (emits_dumpLabels env ct)))))
  simp only [whenOut_fixed, seqOut_fixed] at hback
  have hid : Emits env.endian (ctnetlinkDumpId env p) (fixedOut [⟨ctaId, put32 env.endian (env.nfCtGetId p)⟩]) :=
    Emits.putAttr (-1) _
  have hstatus : Emits env.endian (ctnetlinkDumpStatus env ct) (fixedOut [nlaBe32 ctaStatus ct.status]) :=
    Emits.putAttr (-1) _
  have hemits := (emits_dumpIdentity env ct ct.acct).bind ((hid _).bind ((hstatus _).bind
    ((emits_dumpTimeout env ct false _).bind ((emits_dumpProtoinfo env ct false 0 _).bind
    ((emitsFrom_dumpAcct_get env ct.acct).bind ((emits_dumpTimestamp env ct _).bind
    (((emits_dumpHelpinfo env ct).bind hback) _)))))))
  simp only [seqFail_const] at hemits
  have hout : seqOut (fixedOut (identityAttrs env ct)) (seqOut
      (fixedOut [⟨ctaId, put32 env.endian (env.nfCtGetId p)⟩]) (seqOut (fixedOut [nlaBe32 ctaStatus ct.status])
      (seqOut (fixedOut (timeoutAttrs env ct false)) (seqOut (fixedOut (protoinfoAttrs env ct false 0))
      (seqOut (fixedOut (acctAttrs env ct.acct)) (seqOut (fixedOut (timestampAttrs env ct))
      (seqOut (helpOut env ct) (fixedOut (glueBack env ct expected))))))))) = glueOut env p ct expected := by
    unfold glueOut glueFront
    simp only [← seqOut_fixed, seqOut_assoc]
  rw [← hout]
  exact hemits

variable {env} {p : CtPtr} {ct : NfConn} {expected : Bool} {ctinfo : UInt32} {ctAttr ctInfoAttr : UInt16} {b : Buf}

/-- What the call appends: the attribute about the conntrack, and the one about its direction. -/
theorem glueBuild_spec :
    (∀ l, nestOut env.endian ctAttr (glueOut env p ct expected) b.room = some l →
      attrsSize l + 8 ≤ b.room →
      ∃ b', ctnetlinkGlueBuild env p ct expected ctinfo ctAttr ctInfoAttr b = (0, ct.acct, b') ∧
        b.Appended (attrsBytes env.endian (l ++ [nlaBe32 ctInfoAttr ctinfo])) b') ∧
    ∀ acct b', ctnetlinkGlueBuild env p ct expected ctinfo ctAttr ctInfoAttr b = (0, acct, b') →
      acct = ct.acct ∧ ∃ kids, glueOut env p ct expected (b.room - attrHdrLen) = some kids ∧
        b.Appended (attrsBytes env.endian [nestAttr env.endian ctAttr kids, nlaBe32 ctInfoAttr ctinfo]) b' := by
  have hbody := (EmitsFrom.nest (-1) ctAttr (emitsFrom_glueBuild env p ct expected)).bind
    ((Emits.putAttr (-1) (nlaBe32 ctInfoAttr ctinfo)) _)
  have hb := hbody b
  set out := seqOut (nestOut env.endian ctAttr (glueOut env p ct expected)) (fixedOut [nlaBe32 ctInfoAttr ctinfo])
    with hout
  constructor
  · intro l hl hroom
    have hsome : out b.room = some (l ++ [nlaBe32 ctInfoAttr ctinfo]) := by
      rw [hout, seqOut, hl, Option.bind_some, fixedOut_of_le (by simp; omega)]
      rfl
    obtain ⟨b', hrun, happ⟩ := hb.1 _ hsome
    refine ⟨b', ?_, happ⟩
    unfold ctnetlinkGlueBuild
    rw [show glueBody env p ct expected ctinfo ctAttr ctInfoAttr (ct.acct, b) = _ from hrun]
  · intro acct b' hrun
    unfold ctnetlinkGlueBuild at hrun
    cases hl : out b.room with
    | none =>
      obtain ⟨x, b₂, hfail, -⟩ := hb.2 hl
      rw [show glueBody env p ct expected ctinfo ctAttr ctInfoAttr (ct.acct, b) = _ from hfail] at hrun
      have herr : -enospc = 0 := congrArg Prod.fst hrun
      exact absurd herr (by decide)
    | some l =>
      obtain ⟨b₂, hok, happ⟩ := hb.1 l hl
      rw [show glueBody env p ct expected ctinfo ctAttr ctInfoAttr (ct.acct, b) = _ from hok] at hrun
      cases hrun
      obtain ⟨l₁, l₂, h₁, h₂, rfl⟩ := of_seqOut hl
      obtain ⟨kids, hkids, rfl⟩ := of_nestOut h₁
      obtain rfl := eq_of_fixedOut h₂
      exact ⟨rfl, kids, hkids, happ⟩

/-! ### The room for it -/

variable (k : KernelSizes)

/-- `ctnetlink_glue_build_size`, in the order of the source. -/
def ctnetlinkGlueBuildSize (ct : NfConn) : ℕ :=
  3 * nlaTotalSize 0 + 3 * nlaTotalSize 0 + 3 * nlaTotalSize 0 + 3 * nlaTotalSize 1
    + nlaTotalSize 4 + nlaTotalSize 4 + nlaTotalSize 4
    + nlaTotalSize 0 + nlaTotalSize 0 + nlaTotalSize nfCtHelperNameLen
    + ctnetlinkSecctxSize k ct + ctnetlinkAcctSize ct + ctnetlinkTimestampSize ct
    + 2 * nlaTotalSize 0 + 6 * nlaTotalSize 4
    + nlaTotalSize 4 + nlaTotalSize 2
    + ctnetlinkProtoSize k ct

/-- The headers of the two attributes, and the second one's value, which are not counted. -/
def glueHeaders : ℕ := 12

/-- The labels and the SYN-proxy block are not counted either: a conntrack with a master has room for one of them,
if the master's protocol writes no more than its own. -/
def GlueFits (ct : NfConn) (expected : Bool) : Prop :=
  expected → ct.testStatus ipsExpectedBit →
    k.tupleSize ct.masterTuple.dst.protonum + (if ct.synproxy.isSome then 28 else 0) + ctnetlinkLabelSize ct ≤
      k.tupleSize (nfCtProtonum ct) + 44

/-- What the attributes in front of the helper take. -/
def glueFrontBudget (ct : NfConn) : ℕ :=
  (128 + 2 * k.tupleSize (nfCtProtonum ct)) + (8 + (8 + (8 + ((4 + k.nlattrSize (nfCtProtonum ct)) +
    (ctnetlinkAcctSize ct + ctnetlinkTimestampSize ct)))))

/-- What those behind it take. -/
def glueBackBudget (ct : NfConn) (expected : Bool) : ℕ :=
  (ctnetlinkSecctxSize k ct + 4) +
    ((if expected ∧ ct.testStatus ipsExpectedBit then 60 + k.tupleSize ct.masterTuple.dst.protonum else 0) +
      (56 + ((if ct.synproxy.isSome then 28 else 0) + (8 + ctnetlinkLabelSize ct))))

/-- Three address families are counted for both kinds of addresses, and three tuples of the protocol. -/
theorem ctnetlinkProtoSize_eq (ct : NfConn) : ctnetlinkProtoSize k ct =
    168 + k.nlattrSize (nfCtProtonum ct) + 3 * k.tupleSize (nfCtProtonum ct) := by
  have hip : nlaPolicyLen ctaIpNlaPolicy (ctaIpMax + 1) = 56 := by decide
  rw [ctnetlinkProtoSize, hip, KernelSizes.tupleSize]
  cases k.nlattrTupleSize (nfCtProtonum ct) with
  | none => rfl
  | some n =>
    show 56 * 3 + k.nlattrSize (nfCtProtonum ct) + n * 3 = _
    rw [Option.getD_some]
    omega

/-- **The size covers the attribute**, with what is counted for a second address family. -/
theorem glueBudget_le (hfits : GlueFits k ct expected) :
    glueFrontBudget k ct + (24 + glueBackBudget k ct expected) ≤ ctnetlinkGlueBuildSize k ct := by
  have h₀ : nlaTotalSize 0 = 4 := rfl
  have h₁ : nlaTotalSize 1 = 8 := rfl
  have h₂ : nlaTotalSize 2 = 8 := rfl
  have h₄ : nlaTotalSize 4 = 8 := rfl
  have hname : nlaTotalSize nfCtHelperNameLen = 20 := rfl
  have hlabel : ctnetlinkLabelSize ct ≤ 20 := by
    unfold ctnetlinkLabelSize
    cases ct.labels with
    | none => exact Nat.zero_le _
    | some labels => exact Nat.le_refl 20
  have hsyn : (if ct.synproxy.isSome then 28 else 0) ≤ 28 := by split <;> omega
  rw [ctnetlinkGlueBuildSize, h₀, h₁, h₂, h₄, hname, ctnetlinkProtoSize_eq, glueFrontBudget, glueBackBudget]
  by_cases hexp : expected ∧ ct.testStatus ipsExpectedBit
  · have hle := hfits hexp.1 hexp.2
    rw [if_pos hexp]
    omega
  · rw [if_neg hexp]
    omega

variable {k}

theorem attrsSize_whenAttrs_le {b : Bool} {l : List Attr} {n : ℕ} (h : attrsSize l ≤ n) :
    attrsSize (whenAttrs b l) ≤ n := by
  cases b with
  | false => exact Nat.zero_le n
  | true => exact h

theorem within_glueOut (hk : k.Bounds env) (hct : ct.Plain) (p : CtPtr) (expected : Bool) :
    (glueOut env p ct expected).Within (glueFrontBudget k ct + (24 + glueBackBudget k ct expected)) := by
  have hidentity := attrsSize_identityAttrs_le hk hct
  have htimeout := @attrsSize_timeoutAttrs_le env ct false
  have hproto := attrsSize_protoinfoAttrs_le hk ct false
  have hacct := @attrsSize_acctAttrs env ct
  have htstamp := @attrsSize_timestampAttrs_le env ct
  have hid : attrsSize [⟨ctaId, put32 env.endian (env.nfCtGetId p)⟩] ≤ 8 := by
    simp [Attr.len, attrHdrLen, align4]
  have hstatus : attrsSize [nlaBe32 ctaStatus ct.status] ≤ 8 := by simp
  have hsecctx := @attrsSize_whenAttrs_le (ct.secmark ≠ 0) _ _ (attrsSize_secctxAttrs_le hk ct)
  have hseq := @attrsSize_whenAttrs_le (ct.testStatus ipsSeqAdjustBit) _ _ (@attrsSize_ctSeqAdjAttrs_le env ct)
  have hsyn := @attrsSize_ctSynproxyAttrs env ct
  have hmark := attrsSize_markAttrs_le ct true
  have hlabels := @attrsSize_labelsAttrs_le env ct
  have hmaster : attrsSize (whenAttrs expected (masterAttrs env ct)) ≤
      if expected ∧ ct.testStatus ipsExpectedBit then 60 + k.tupleSize ct.masterTuple.dst.protonum else 0 := by
    cases expected with
    | false => exact Nat.zero_le _
    | true => simpa [whenAttrs] using attrsSize_masterAttrs_le hk ct
  refine (Out.Within.fixed ?_).seq ((within_helpOut hct).seq (Out.Within.fixed ?_))
  · unfold glueFront glueFrontBudget
    simp only [attrsSize_append]
    omega
  · unfold glueBack glueBackBudget
    simp only [attrsSize_append]
    omega

/-- **The room of the attribute.**  With what is counted for it and the headers, the call succeeds; and it never
takes more. -/
theorem glueBuild_fits (hk : k.Bounds env) (hct : ct.Plain) (hfits : GlueFits k ct expected) (p : CtPtr)
    (ctinfo : UInt32) (ctAttr ctInfoAttr : UInt16) (b : Buf) :
    (glueHeaders + ctnetlinkGlueBuildSize k ct ≤ b.room →
      (ctnetlinkGlueBuild env p ct expected ctinfo ctAttr ctInfoAttr b).1 = 0) ∧
    ∀ acct b', ctnetlinkGlueBuild env p ct expected ctinfo ctAttr ctInfoAttr b = (0, acct, b') →
      b'.data.length ≤ b.data.length + glueHeaders + ctnetlinkGlueBuildSize k ct := by
  have hbudget := glueBudget_le k hfits
  have hwithin := within_glueOut hk hct p expected
  constructor
  · intro hroom
    rw [glueHeaders] at hroom
    have hnest := Out.Within.nest (e := env.endian) ctAttr hwithin b.room
    obtain ⟨l, hl⟩ := Option.isSome_iff_exists.mp (hnest.1 (by rw [attrHdrLen]; omega))
    have hsize := hnest.2 l hl
    rw [attrHdrLen] at hsize
    obtain ⟨b', hrun, -⟩ := (@glueBuild_spec env p ct expected ctinfo ctAttr ctInfoAttr b).1 l hl (by omega)
    rw [hrun]
  · intro acct b' hrun
    obtain ⟨-, kids, hkids, happ⟩ := glueBuild_spec.2 acct b' hrun
    have hsize := (hwithin _).2 kids hkids
    rw [happ.1, List.length_append, length_attrsBytes]
    simp only [attrsSize_cons, attrsSize_nil, nestAttr_len, nlaBe32_len, attrHdrLen, glueHeaders]
    omega

/-- A helper, a sequence adjustment, a security context and a master of its own protocol, and no labels. -/
def unlabelledConn : NfConn := { crowdedConn ipprotoIpv6 with labels := none }

theorem unlabelledConn_plain : unlabelledConn.Plain where
  proto := (crowdedConn_plain ipprotoIpv6).proto
  helperName := (crowdedConn_plain ipprotoIpv6).helperName
  helperData := (crowdedConn_plain ipprotoIpv6).helperData

theorem glueBuild_fits_sample :
    (glueHeaders + ctnetlinkGlueBuildSize crowdedSizes unlabelledConn ≤ (Buf.empty 4096 page_lt).room →
      (ctnetlinkGlueBuild crowdedEnv 1 unlabelledConn true 2 11 12 (Buf.empty 4096 page_lt)).1 = 0) ∧
    ∀ acct b', ctnetlinkGlueBuild crowdedEnv 1 unlabelledConn true 2 11 12 (Buf.empty 4096 page_lt) =
        (0, acct, b') →
      b'.data.length ≤ (Buf.empty 4096 page_lt).data.length + glueHeaders +
        ctnetlinkGlueBuildSize crowdedSizes unlabelledConn :=
  glueBuild_fits crowdedSizes_bounds unlabelledConn_plain (fun _ _ => by decide +kernel) 1 2 11 12 _

end Build

/-! ### What the kernel makes of it -/

/-- A part of a message: its attributes are of the types `s`, and the kernel's parser lets them through. -/
def Piece (s : List UInt16) (l : List Attr) : Prop := ∀ a ∈ l, a.kind ∈ s ∧ ctNlaOk a = true

section Pieces

variable {s : List UInt16} {l : List Attr} {max t : UInt16} {pieces : List (List UInt16 × List Attr)}

theorem Piece.nil (s : List UInt16) : Piece s [] := fun _ ha => by cases ha

theorem Piece.cons {a : Attr} (ha : a.kind ∈ s ∧ ctNlaOk a = true) (hl : Piece s l) : Piece s (a :: l) := by
  intro x hx
  rcases List.mem_cons.mp hx with rfl | hx
  · exact ha
  · exact hl x hx

theorem Piece.whenAttrs (h : Piece s l) (b : Bool) : Piece s (whenAttrs b l) := by
  cases b with
  | false => exact Piece.nil s
  | true => exact h

/-- The types of a nested attribute that the parser takes as it is. -/
def FreeType (type : UInt16) : Prop :=
  (ctNlaPolicy type = .nested ∨ ctNlaPolicy type = .unspec) ∧ type ≠ ctaLabels ∧ type ≠ ctaLabelsMask

instance (type : UInt16) : Decidable (FreeType type) := inferInstanceAs (Decidable (_ ∧ _))

theorem ok_nest {e : Endian} {type : UInt16} {kids : List Attr}
    (htype : FreeType ((type ||| nestedFlag) &&& typeMask)) : ctNlaOk (nestAttr e type kids) = true := by
  obtain ⟨hpolicy, hlabels, hmask⟩ := htype
  have hlen : (nestAttr e type kids).payload.length = attrsSize kids := length_attrsBytes e kids
  have hsize : attrsSize kids = 0 ∨ attrHdrLen ≤ attrsSize kids := by
    cases kids with
    | nil => exact .inl rfl
    | cons a l =>
      refine .inr ?_
      rw [attrsSize_cons, Attr.len, align4, attrHdrLen]
      omega
  unfold ctNlaOk
  rw [nestAttr_kind, decide_eq_false hlabels, decide_eq_false hmask]
  rcases hpolicy with hpolicy | hpolicy
  · rw [hpolicy]
    rcases hsize with hsize | hsize <;> simp [NlaPolicy.ok, hlen, hsize]
  · rw [hpolicy]
    simp [NlaPolicy.ok]

theorem ok_be32 {x : UInt32} {t : UInt16} (ht : t &&& typeMask ∈ [ctaTimeout, ctaStatus, ctaMark]) :
    ctNlaOk (nlaBe32 t x) = true := by
  unfold ctNlaOk
  rw [nlaBe32_kind]
  simp only [List.mem_cons, List.not_mem_nil, or_false] at ht
  rcases ht with ht | ht | ht <;> rw [ht] <;> simp +decide [ctNlaPolicy, nlaU32Policy, NlaPolicy.ok, nlaBe32]

/-- A type without flags is its attributes' kind. -/
theorem kind_plain {type : UInt16} (h : type &&& typeMask = type) (payload : Bytes) :
    (⟨type, payload⟩ : Attr).kind = type := h

/-- **What the table holds** of a message is what it holds of the part that has the type. -/
theorem nlaTable_pieces (hpieces : ∀ x ∈ pieces, Piece x.1 x.2) (hnodup : (pieces.flatMap (·.1)).Nodup)
    (hmem : (s, l) ∈ pieces) (ht : t ∈ s) : nlaTable max (pieces.flatMap (·.2)) t = nlaTable max l t := by
  obtain ⟨before, after, rfl⟩ := List.append_of_mem hmem
  rw [List.flatMap_append, List.flatMap_cons] at hnodup ⊢
  have hbefore : t ∉ before.flatMap (·.1) := fun hin =>
    (List.nodup_append.mp hnodup).2.2 t hin t (List.mem_append_left _ ht) rfl
  have hafter : t ∉ after.flatMap (·.1) := fun hin =>
    (List.nodup_append.mp (List.nodup_append.mp hnodup).2.1).2.2 t ht t hin rfl
  have hnone : ∀ part : List (List UInt16 × List Attr), (∀ x ∈ part, Piece x.1 x.2) → t ∉ part.flatMap (·.1) →
      (part.flatMap (·.2)).filter (fun a => a.kind = t) = [] := by
    intro part hpart hnot
    refine List.filter_eq_nil_iff.mpr fun a ha heq => hnot ?_
    obtain ⟨x, hx, hax⟩ := List.mem_flatMap.mp ha
    exact List.mem_flatMap.mpr ⟨x, hx, of_decide_eq_true heq ▸ (hpart x hx a hax).1⟩
  have hfront := hnone before (fun x hx => hpieces x (List.mem_append_left _ hx)) hbefore
  have hback := hnone after (fun x hx => hpieces x (List.mem_append_right _ (List.mem_cons_of_mem _ hx))) hafter
  unfold nlaTable
  rw [List.filter_append, List.filter_append, hfront, hback, List.nil_append, List.append_nil]

theorem nlaTable_pieces_none (hpieces : ∀ x ∈ pieces, Piece x.1 x.2) (ht : t ∉ pieces.flatMap (·.1)) :
    nlaTable max (pieces.flatMap (·.2)) t = none := by
  refine nlaTable_none fun a ha heq => ht ?_
  obtain ⟨x, hx, hax⟩ := List.mem_flatMap.mp ha
  exact List.mem_flatMap.mpr ⟨x, hx, heq ▸ (hpieces x hx a hax).1⟩

theorem nlaTable_one {a : Attr} (ht : 0 < t ∧ t ≤ max) (ha : a.kind = t) : nlaTable max [a] t = some a :=
  nlaTable_of_mem ht ha (List.nodup_singleton _) (List.mem_singleton_self a)

end Pieces

section Told

variable (env : NlEnv) (p : CtPtr) (ct : NfConn) (expected : Bool)

/-- The parts of the message, where the helper's is `help`. -/
def gluePieces (help : List Attr) : List (List UInt16 × List Attr) :=
  [([ctaTupleOrig, ctaTupleReply, ctaZone], identityAttrs env ct),
    ([ctaId], [⟨ctaId, put32 env.endian (env.nfCtGetId p)⟩]), ([ctaStatus], [nlaBe32 ctaStatus ct.status]),
    ([ctaTimeout], timeoutAttrs env ct false), ([ctaProtoinfo], protoinfoAttrs env ct false 0),
    ([ctaCountersOrig, ctaCountersReply], acctAttrs env ct.acct), ([ctaTimestamp], timestampAttrs env ct),
    ([ctaHelp], help), ([ctaSecctx], whenAttrs (ct.secmark ≠ 0) (secctxAttrs env ct)),
    ([ctaTupleMaster], whenAttrs expected (masterAttrs env ct)),
    ([ctaSeqAdjOrig, ctaSeqAdjReply], whenAttrs (ct.testStatus ipsSeqAdjustBit) (ctSeqAdjAttrs env ct)),
    ([ctaSynproxy], ctSynproxyAttrs env ct), ([ctaMark], markAttrs ct true), ([ctaLabels], labelsAttrs env ct)]

theorem glueOut_pieces {room : ℕ} {l : List Attr} (h : glueOut env p ct expected room = some l) :
    ∃ help room', helpOut env ct room' = some help ∧ l = (gluePieces env p ct expected help).flatMap (·.2) := by
  obtain ⟨front, rest, hfront, hrest, rfl⟩ := of_seqOut h
  obtain ⟨help, back, hhelp, hback, rfl⟩ := of_seqOut hrest
  obtain rfl := eq_of_fixedOut hfront
  obtain rfl := eq_of_fixedOut hback
  refine ⟨help, _, hhelp, ?_⟩
  simp only [gluePieces, glueFront, glueBack, List.flatMap_cons, List.flatMap_nil, List.append_assoc,
    List.append_nil]

theorem piece_identity : Piece [ctaTupleOrig, ctaTupleReply, ctaZone] (identityAttrs env ct) := by
  have hzone : Piece [ctaTupleOrig, ctaTupleReply, ctaZone] (zoneAttrs ctaZone ct.zone nfCtDefaultZoneDir) := by
    unfold zoneAttrs
    split
    · exact Piece.nil _
    · refine Piece.cons ⟨by rw [nlaBe16_kind]; decide, ?_⟩ (Piece.nil _)
      unfold ctNlaOk
      rw [nlaBe16_kind]
      simp +decide [ctNlaPolicy, nlaU16Policy, NlaPolicy.ok, nlaBe16]
  exact Piece.cons ⟨by rw [nestAttr_kind]; decide, ok_nest (by decide)⟩
    (Piece.cons ⟨by rw [nestAttr_kind]; decide, ok_nest (by decide)⟩ hzone)

/-- A part of one nested attribute, or of none. -/
theorem piece_nest {e : Endian} {type : UInt16} {kids : List Attr}
    (htype : FreeType ((type ||| nestedFlag) &&& typeMask)) :
    Piece [(type ||| nestedFlag) &&& typeMask] [nestAttr e type kids] :=
  Piece.cons ⟨List.mem_singleton_self _, ok_nest htype⟩ (Piece.nil _)

/-- One of each direction. -/
theorem piece_pair {e : Endian} {orig reply : UInt16} {kids kids' : List Attr}
    (horig : FreeType ((orig ||| nestedFlag) &&& typeMask)) (hreply : FreeType ((reply ||| nestedFlag) &&& typeMask)) :
    Piece [(orig ||| nestedFlag) &&& typeMask, (reply ||| nestedFlag) &&& typeMask]
      [nestAttr e orig kids, nestAttr e reply kids'] :=
  Piece.cons ⟨List.mem_cons_self, ok_nest horig⟩
    (Piece.cons ⟨List.mem_cons_of_mem _ (List.mem_singleton_self _), ok_nest hreply⟩ (Piece.nil _))

theorem piece_protoinfo : Piece [ctaProtoinfo] (protoinfoAttrs env ct false 0) := by
  unfold protoinfoAttrs
  split
  · exact @piece_nest _ ctaProtoinfo _ (by decide)
  · split
    · exact Piece.nil _
    · exact @piece_nest _ ctaProtoinfo _ (by decide)

theorem piece_acct : Piece [ctaCountersOrig, ctaCountersReply] (acctAttrs env ct.acct) := by
  cases ct.acct with
  | none => exact Piece.nil _
  | some a =>
    exact @piece_pair _ ctaCountersOrig ctaCountersReply _ _ (by decide) (by decide)

theorem piece_timestamp : Piece [ctaTimestamp] (timestampAttrs env ct) := by
  unfold timestampAttrs
  split
  · exact Piece.nil _
  · exact @piece_nest _ ctaTimestamp _ (by decide)

theorem piece_secctx : Piece [ctaSecctx] (secctxAttrs env ct) := by
  unfold secctxAttrs
  split
  · exact Piece.nil _
  · exact @piece_nest _ ctaSecctx _ (by decide)

theorem piece_master : Piece [ctaTupleMaster] (masterAttrs env ct) := by
  unfold masterAttrs
  split
  · exact Piece.nil _
  · exact @piece_nest _ ctaTupleMaster _ (by decide)

theorem piece_seqAdj : Piece [ctaSeqAdjOrig, ctaSeqAdjReply] (ctSeqAdjAttrs env ct) := by
  unfold ctSeqAdjAttrs
  split
  · exact Piece.nil _
  · split
    · exact Piece.nil _
    · exact @piece_pair _ ctaSeqAdjOrig ctaSeqAdjReply _ _ (by decide) (by decide)

theorem piece_synproxy : Piece [ctaSynproxy] (ctSynproxyAttrs env ct) := by
  unfold ctSynproxyAttrs
  split
  · exact Piece.nil _
  · exact @piece_nest _ ctaSynproxy _ (by decide)

theorem piece_labels : Piece [ctaLabels] (labelsAttrs env ct) := by
  unfold labelsAttrs
  split
  · exact Piece.nil _
  · split
    · refine Piece.cons ⟨show ctaLabels &&& typeMask ∈ [ctaLabels] by decide, ?_⟩ (Piece.nil _)
      unfold ctNlaOk
      rw [kind_plain (by decide)]
      simp +decide [ctNlaPolicy, NlaPolicy.ok, nfCtLabelsMaxSize]
    · exact Piece.nil _

theorem piece_help {room : ℕ} {help : List Attr} (h : helpOut env ct room = some help) : Piece [ctaHelp] help := by
  unfold helpOut at h
  rcases hct : ct.help with _ | _ | helper
  · rw [hct] at h
    rw [eq_of_fixedOut h]
    exact Piece.nil _
  · rw [hct] at h
    rw [eq_of_fixedOut h]
    exact Piece.nil _
  · rw [hct] at h
    obtain ⟨kids, -, rfl⟩ := of_nestOut h
    exact @piece_nest _ ctaHelp _ (by decide)

/-- **The kernel's parser lets the message through.** -/
theorem gluePieces_ok {room : ℕ} {help : List Attr} (h : helpOut env ct room = some help) :
    ∀ x ∈ gluePieces env p ct expected help, Piece x.1 x.2 := by
  have hid : Piece [ctaId] [⟨ctaId, put32 env.endian (env.nfCtGetId p)⟩] := by
    refine Piece.cons ⟨show ctaId &&& typeMask ∈ [ctaId] by decide, ?_⟩ (Piece.nil _)
    unfold ctNlaOk
    rw [kind_plain (by decide)]
    simp +decide [ctNlaPolicy, nlaU32Policy, NlaPolicy.ok]
  have hbe32 : ∀ type x, type &&& typeMask ∈ [ctaTimeout, ctaStatus, ctaMark] →
      Piece [type &&& typeMask] [nlaBe32 type x] := fun type x htype =>
    Piece.cons ⟨by rw [nlaBe32_kind]; exact List.mem_singleton_self _, ok_be32 htype⟩ (Piece.nil _)
  have hmark : Piece [ctaMark] (markAttrs ct true) := by
    rw [markAttrs, if_neg (by simp)]
    exact hbe32 ctaMark _ (by decide)
  have htimeout : Piece [ctaTimeout] (timeoutAttrs env ct false) := by
    rw [timeoutAttrs, if_neg (by simp)]
    exact hbe32 ctaTimeout _ (by decide)
  intro x hx
  simp only [gluePieces, List.mem_cons, List.not_mem_nil, or_false] at hx
  rcases hx with rfl | rfl | rfl | rfl | rfl | rfl | rfl | rfl | rfl | rfl | rfl | rfl | rfl | rfl
  · exact piece_identity env ct
  · exact hid
  · exact hbe32 ctaStatus _ (by decide)
  · exact htimeout
  · exact piece_protoinfo env ct
  · exact piece_acct env ct
  · exact piece_timestamp env ct
  · exact piece_help env ct h
  · exact (piece_secctx env ct).whenAttrs _
  · exact (piece_master env ct).whenAttrs _
  · exact (piece_seqAdj env ct).whenAttrs _
  · exact piece_synproxy env ct
  · exact hmark
  · exact piece_labels env ct

end Told

/-! ### A listener that repeats it -/

/-- What is assumed of the kernel about the conntrack `ct`: its helper is registered under its name, which fits its
array, and is as it was when it has read nothing, or what it said; and labels that are given replace those there
are. -/
structure QueueEnv.Knows (env : QueueEnv) (ct : NfConn) : Prop where
  stock : ∀ helper, ct.help = some (some helper) → helper.Stock ∧ helper.name ≠ [] ∧
    helper.name.length < nfCtHelperNameLen
  find : ∀ helper, ct.help = some (some helper) →
    env.helperFind helper.name (nfCtL3num ct) (nfCtProtonum ct) = some helper
  read : ∀ helper, ct.help = some (some helper) → ∀ info, (∀ a, info = some a → a ∈ helper.toNlattr) →
    ∀ t, env.helperFromNlattr helper info { ct with timeout := t } = helper
  replace : ∀ labels ct, ct.labels.isSome →
    env.connlabelsReplace (put64 env.endian labels.bits0 ++ put64 env.endian labels.bits1) none ct =
      (0, { ct with labels := some labels })

section Repeat

variable {qenv : QueueEnv} {env : NlEnv} {p : CtPtr} {ct : NfConn} {expected : Bool}

/-- What the helper says, as far as it fits, is `CTA_HELP_INFO`. -/
theorem NfConntrackHelper.Stock.said {helper : NfConntrackHelper} (hstock : helper.Stock) {room : ℕ} {a : Attr}
    (ha : a ∈ fittingAttrs helper.toNlattr room) : a ∈ helper.toNlattr ∧ a.kind = ctaHelpInfo := by
  rcases hstock.2 with hdata | ⟨info, hdata⟩
  · rw [hdata] at ha
    cases ha
  · rw [hdata, fittingAttrs] at ha
    split at ha
    · obtain rfl := List.mem_singleton.mp ha
      rw [hdata]
      exact ⟨List.mem_singleton_self _, kind_plain (by decide) _⟩
    · cases ha

/-- The helper's name is read back, and what it said, where that did fit. -/
theorem parseHelp_told {e : Endian} {helper : NfConntrackHelper} (hstock : helper.Stock)
    (hlen : helper.name.length < nfCtHelperNameLen) {room : ℕ} {kids : List Attr}
    (hkids : seqOut (fixedOut [nlaString ctaHelpName helper.name]) (fittingOut helper.toNlattr) room = some kids)
    (hsize : attrsSize kids < 65536) :
    ∃ info, ctnetlinkParseHelp e (nestAttr e ctaHelp kids) = .ok (helper.name, info) ∧
      ∀ a, info = some a → a ∈ helper.toNlattr := by
  obtain ⟨first, info, hfirst, hinfo, rfl⟩ := of_seqOut hkids
  obtain rfl := eq_of_fixedOut hfirst
  obtain rfl := Option.some.inj hinfo
  have hzero := hstock.1
  have hkind : (nlaString ctaHelpName helper.name).kind = ctaHelpName := kind_plain (by decide) _
  have hother : ∀ room, ∀ a ∈ fittingAttrs helper.toNlattr room, a.kind ≠ ctaHelpName := by
    intro room a ha
    rw [(hstock.said ha).2]
    decide
  have hfilter : ∀ room, (fittingAttrs helper.toNlattr room).filter (fun a => a.kind = ctaHelpName) = [] :=
    fun room => List.filter_eq_nil_iff.mpr fun a ha heq => hother room a ha (of_decide_eq_true heq)
  have hnul : nlaNulStringError 15 (nlaString ctaHelpName helper.name) = none := by
    have htake : (helper.name ++ [0]).take 16 = helper.name ++ [0] := by
      refine List.take_of_length_le ?_
      rw [nfCtHelperNameLen] at hlen
      simp
      omega
    have hnot : ¬ 15 < helper.name.length := by
      rw [nfCtHelperNameLen] at hlen
      omega
    simp [nlaNulStringError, nlaString, htake, hnot]
  have hname : (helper.name ++ [0]).takeWhile (· ≠ 0) = helper.name := by
    have hpos : ∀ a ∈ helper.name, decide (a ≠ 0) = true := by
      intro a ha
      refine decide_eq_true fun h0 => hzero ?_
      rwa [← h0]
    rw [List.takeWhile_append_of_pos hpos]
    simp
  have hscan := scanAttrs_attrsBytes e _ (fits_of_attrsSize hsize)
  set rest := fittingAttrs helper.toNlattr (room - attrsSize [nlaString ctaHelpName helper.name])
  have htable : nlaTable ctaHelpMax (nlaString ctaHelpName helper.name :: rest) ctaHelpName =
      some (nlaString ctaHelpName helper.name) :=
    @nlaTable_last ctaHelpMax ctaHelpName [] rest _ (by decide) hkind (hother _)
  refine ⟨nlaTable ctaHelpMax (nlaString ctaHelpName helper.name :: rest) ctaHelpInfo, ?_, fun a ha => ?_⟩
  swap
  · obtain ⟨hmem, hinfo⟩ := mem_of_nlaTable ha
    rcases List.mem_cons.mp hmem with rfl | hmem
    · rw [hkind] at hinfo
      exact absurd hinfo (by decide)
    · exact (hstock.said hmem).1
  unfold ctnetlinkParseHelp
  rw [show (nestAttr e ctaHelp ([nlaString ctaHelpName helper.name] ++ rest)).payload =
    attrsBytes e ([nlaString ctaHelpName helper.name] ++ rest) from rfl, hscan]
  dsimp only
  rw [List.singleton_append, List.filter_cons, if_pos (decide_eq_true hkind), hfilter]
  rw [List.findSome?_singleton, hnul, htable]
  dsimp only
  rw [show (nlaString ctaHelpName helper.name).payload = helper.name ++ [0] from rfl, hname]

/-- Its own helper's name changes nothing. -/
theorem changeHelper_told (hknows : qenv.Knows ct) {helper : NfConntrackHelper} (hhelp : ct.help = some (some helper))
    {attr : Attr} {info : Option Attr} (hparse : ctnetlinkParseHelp qenv.endian attr = .ok (helper.name, info))
    (hinfo : ∀ a, info = some a → a ∈ helper.toNlattr) (t : UInt32) :
    ctnetlinkChangeHelper qenv.toChangeEnv expected attr { ct with timeout := t } =
      (0, { ct with timeout := t }) := by
  have hhas : { ct with timeout := t }.hasHelper helper.name = true := by
    unfold NfConn.hasHelper
    rw [hhelp]
    exact decide_eq_true rfl
  have hfind : qenv.helperFind helper.name (nfCtL3num { ct with timeout := t })
      (nfCtProtonum { ct with timeout := t }) = some helper := hknows.find helper hhelp
  unfold ctnetlinkChangeHelper
  rw [hparse]
  dsimp only
  cases expected with
  | true => rw [if_pos rfl, if_pos hhas]
  | false =>
    have hsome : ¬ ct.help.isNone = true := by
      rw [hhelp]
      exact Bool.false_ne_true
    rw [if_neg Bool.false_ne_true, if_neg (hknows.stock helper hhelp).2.1, hfind]
    dsimp only
    rw [if_neg hsome, if_pos hhas, hknows.read helper hhelp info hinfo, ← hhelp]

/-- The status the conntrack has changes nothing. -/
theorem updateStatus_told (hq : qenv.Lawful) (ct : NfConn) :
    ctnetlinkUpdateStatus qenv (nlaBe32 ctaStatus ct.status) ct = (0, ct) := by
  obtain ⟨status, heq, hbits⟩ := hq.status ct.status (~~~ct.status) ct
  have hsame : status = ct.status := by
    rw [← UInt32.toNat_inj]
    refine Nat.eq_of_testBit_eq fun bit => (hbits bit).trans ?_
    show (if bit ∈ changeableBits then ct.testStatus bit || (ct.testStatus bit && _) else ct.testStatus bit) =
      ct.testStatus bit
    split
    · cases ct.testStatus bit <;> rfl
    · rfl
  unfold ctnetlinkUpdateStatus
  rw [nlaGetBe32_nlaBe32]
  dsimp only
  rw [UInt32.xor_self, heq, hsame]
  simp

/-- The labels it has change nothing. -/
theorem attachLabels_told (hendian : qenv.endian = env.endian) (hknows : qenv.Knows ct) {cda : NlaTable}
    (hmask : cda ctaLabelsMask = none) (t : UInt32) :
    part (nlaTable ctaMax (labelsAttrs env ct) ctaLabels) (ctnetlinkAttachLabels qenv.toChangeEnv cda)
      { ct with timeout := t } = (0, { ct with timeout := t }) := by
  obtain hlabels | ⟨labels, hlabels⟩ := Option.eq_none_or_eq_some ct.labels
  · rw [labelsAttrs, hlabels]
    rfl
  · rw [labelsAttrs, hlabels]
    dsimp only
    split
    · rw [nlaTable_one (by decide) (kind_plain (by decide) _)]
      have hreplace := hknows.replace labels { ct with timeout := t } (by rw [hlabels]; rfl)
      rw [hendian, ← hlabels] at hreplace
      unfold part ctnetlinkAttachLabels
      dsimp only
      rw [if_neg (by simp), hmask, ← hlabels]
      exact hreplace
    · rfl

/-- The helper it has changes nothing. -/
theorem helpPart_told (hendian : qenv.endian = env.endian) (hknows : qenv.Knows ct) {room : ℕ} {help : List Attr}
    (hhelp : helpOut env ct room = some help) (hsize : attrsSize help < 65536) (t : UInt32) :
    part (nlaTable ctaMax help ctaHelp) (ctnetlinkChangeHelper qenv.toChangeEnv expected) { ct with timeout := t } =
      (0, { ct with timeout := t }) := by
  unfold helpOut at hhelp
  obtain hct | ⟨_ | helper, hct⟩ := Option.eq_none_or_eq_some ct.help
  · rw [hct] at hhelp
    rw [eq_of_fixedOut hhelp]
    rfl
  · rw [hct] at hhelp
    rw [eq_of_fixedOut hhelp]
    rfl
  · rw [hct] at hhelp
    obtain ⟨inner, hinner, rfl⟩ := of_nestOut hhelp
    have hinnerSize : attrsSize inner < 65536 := by
      rw [attrsSize_cons, nestAttr_len] at hsize
      omega
    obtain ⟨hstock, -, hname⟩ := hknows.stock helper hct
    obtain ⟨info, hread, hinfo⟩ := @parseHelp_told env.endian helper hstock hname _ inner hinner hinnerSize
    rw [nlaTable_one (by decide) (show (nestAttr env.endian ctaHelp inner).kind = ctaHelp by
      rw [nestAttr_kind]; decide)]
    have hread' : ctnetlinkParseHelp qenv.endian (nestAttr env.endian ctaHelp inner) = .ok (helper.name, info) := by
      rw [hendian]
      exact hread
    have hsame := @changeHelper_told qenv ct expected hknows helper hct _ info hread' hinfo t
    exact hsame

/-- The kernel's table of the message. -/
structure GlueTable (env : NlEnv) (ct : NfConn) (cda : NlaTable) (help : List Attr) : Prop where
  timeout : cda ctaTimeout = some (nlaBe32 ctaTimeout (UInt32.ofNat (ctTimeout env ct)))
  status : cda ctaStatus = some (nlaBe32 ctaStatus ct.status)
  help : cda ctaHelp = nlaTable ctaMax help ctaHelp
  labels : cda ctaLabels = nlaTable ctaMax (labelsAttrs env ct) ctaLabels
  mark : cda ctaMark = some (nlaBe32 ctaMark ct.mark)
  masks : cda ctaLabelsMask = none ∧ cda ctaMarkMask = none

theorem gluePieces_types (help : List Attr) : (gluePieces env p ct expected help).flatMap (·.1) =
    [ctaTupleOrig, ctaTupleReply, ctaZone, ctaId, ctaStatus, ctaTimeout, ctaProtoinfo, ctaCountersOrig,
      ctaCountersReply, ctaTimestamp, ctaHelp, ctaSecctx, ctaTupleMaster, ctaSeqAdjOrig, ctaSeqAdjReply,
      ctaSynproxy, ctaMark, ctaLabels] := rfl

theorem glueTable_pieces {room : ℕ} {help : List Attr} (hhelp : helpOut env ct room = some help) :
    GlueTable env ct (nlaTable ctaMax ((gluePieces env p ct expected help).flatMap (·.2))) help := by
  have hok := gluePieces_ok env p ct expected hhelp
  have hnodup : ((gluePieces env p ct expected help).flatMap (·.1)).Nodup := by
    rw [gluePieces_types]
    decide
  set cda : NlaTable := nlaTable ctaMax ((gluePieces env p ct expected help).flatMap (·.2))
  have hlookup : ∀ t l, ([t], l) ∈ gluePieces env p ct expected help → cda t = nlaTable ctaMax l t :=
    fun t l hmem => nlaTable_pieces hok hnodup hmem (List.mem_singleton_self t)
  have hnone : ∀ t, t ∈ [ctaLabelsMask, ctaMarkMask] → cda t = none := by
    intro t ht
    refine nlaTable_pieces_none hok ?_
    rw [gluePieces_types]
    simp only [List.mem_cons, List.not_mem_nil, or_false] at ht
    rcases ht with rfl | rfl <;> decide
  have hbe32 : ∀ (type : UInt16) (v : UInt32), 0 < type ∧ type ≤ ctaMax → type &&& typeMask = type →
      nlaTable ctaMax [nlaBe32 type v] type = some (nlaBe32 type v) := fun type v hmax hkind =>
    nlaTable_one hmax (by rw [nlaBe32_kind]; exact hkind)
  have htimeouts : timeoutAttrs env ct false = [nlaBe32 ctaTimeout (UInt32.ofNat (ctTimeout env ct))] :=
    if_neg (by simp)
  have hmarks : markAttrs ct true = [nlaBe32 ctaMark ct.mark] := if_neg (by simp)
  refine ⟨?_, ?_, hlookup _ _ (by simp [gluePieces]), hlookup _ _ (by simp [gluePieces]), ?_, hnone _ (by simp),
    hnone _ (by simp)⟩
  · rw [hlookup ctaTimeout (timeoutAttrs env ct false) (by simp [gluePieces]), htimeouts]
    exact hbe32 _ _ (by decide) (by decide)
  · rw [hlookup ctaStatus [nlaBe32 ctaStatus ct.status] (by simp [gluePieces])]
    exact hbe32 _ _ (by decide) (by decide)
  · rw [hlookup ctaMark (markAttrs ct true) (by simp [gluePieces]), hmarks]
    exact hbe32 _ _ (by decide) (by decide)

/-- Behind the timeout, there is nothing to change. -/
theorem glueRest_told (hendian : qenv.endian = env.endian) (hq : qenv.Lawful) (hknows : qenv.Knows ct)
    {cda : NlaTable} {room : ℕ} {help : List Attr} (htable : GlueTable env ct cda help)
    (hhelp : helpOut env ct room = some help) (hsize : attrsSize help < 65536) (t : UInt32) :
    untilError [part (cda ctaStatus) (ctnetlinkUpdateStatus qenv),
      part (cda ctaHelp) (ctnetlinkChangeHelper qenv.toChangeEnv expected),
      part (cda ctaLabels) (ctnetlinkAttachLabels qenv.toChangeEnv cda), markPart cda] { ct with timeout := t } =
        (0, { ct with timeout := t }) := by
  refine untilError_fix fun f hf => ?_
  simp only [List.mem_cons, List.not_mem_nil, or_false] at hf
  rcases hf with rfl | rfl | rfl | rfl
  · rw [htable.status]
    exact updateStatus_told hq { ct with timeout := t }
  · rw [htable.help]
    exact helpPart_told hendian hknows hhelp hsize t
  · rw [htable.labels]
    exact attachLabels_told hendian hknows htable.masks.1 t
  · unfold markPart ctnetlinkChangeMark
    rw [htable.mark, htable.masks.2]
    simp [part]

/-- **What the kernel makes of its own message.** -/
theorem glueParse_told (hendian : qenv.endian = env.endian) (hq : qenv.Lawful) (hknows : qenv.Knows ct)
    {room : ℕ} {kids : List Attr} (hkids : glueOut env p ct expected room = some kids)
    (hsize : attrsSize kids < 65536) (type : UInt16) :
    ∃ err t, qenv.changeTimeout ((UInt32.ofNat (ctTimeout env ct)).toNat * qenv.hz) ct =
        (err, { ct with timeout := t }) ∧
      ctnetlinkGlueParse qenv expected (nestAttr env.endian type kids) ct =
        (if err < 0 then err else 0, { ct with timeout := t }) := by
  obtain ⟨help, room', hhelp, rfl⟩ := glueOut_pieces env p ct expected hkids
  have htable := @glueTable_pieces env p ct expected room' help hhelp
  have hparse : nlaParseCt (scanAttrs qenv.endian (nestAttr env.endian type
      ((gluePieces env p ct expected help).flatMap (·.2))).payload) =
      .ok (nlaTable ctaMax ((gluePieces env p ct expected help).flatMap (·.2))) := by
    rw [hendian, show (nestAttr env.endian type _).payload = attrsBytes env.endian
      ((gluePieces env p ct expected help).flatMap (·.2)) from rfl, scanAttrs_attrsBytes _ _ (fits_of_attrsSize hsize),
      nlaParseCt, if_pos]
    refine List.all_eq_true.mpr fun a ha => ?_
    obtain ⟨x, hx, hax⟩ := List.mem_flatMap.mp ha
    exact (gluePieces_ok env p ct expected hhelp x hx a hax).2
  have hhelpSize : attrsSize help < 65536 := by
    simp only [gluePieces, List.flatMap_cons, List.flatMap_nil, attrsSize_append] at hsize
    omega
  set cda : NlaTable := nlaTable ctaMax ((gluePieces env p ct expected help).flatMap (·.2))
  obtain ⟨t, ht⟩ := hq.change.timeout ((UInt32.ofNat (ctTimeout env ct)).toNat * qenv.hz) ct
  refine ⟨_, t, Prod.ext rfl ht, ?_⟩
  have hfirst : part (cda ctaTimeout) (ctnetlinkChangeTimeout qenv.toChangeEnv) ct =
      qenv.changeTimeout ((UInt32.ofNat (ctTimeout env ct)).toNat * qenv.hz) ct := by
    rw [htable.timeout]
    unfold part ctnetlinkChangeTimeout
    dsimp only
    rw [nlaGetBe32_nlaBe32]
  have hrest := @glueRest_told qenv env ct expected hendian hq hknows cda room' help htable hhelp hhelpSize t
  unfold ctnetlinkGlueParse
  rw [hparse]
  dsimp only
  unfold ctnetlinkGlueParseCt
  by_cases herr : (qenv.changeTimeout ((UInt32.ofNat (ctTimeout env ct)).toNat * qenv.hz) ct).1 < 0
  · rw [untilError_error (by rw [hfirst]; exact herr), hfirst, if_pos herr]
    exact Prod.ext rfl ht
  · rw [untilError_goOn (by rw [hfirst]; exact herr), hfirst, ht, hrest, if_neg herr]

/-- **A listener that repeats what it was told** changes nothing but the timeout, which is cut to seconds; where
even that may not be changed, its verdict is refused. -/
theorem glueParse_glueBuild (hendian : qenv.endian = env.endian) (hq : qenv.Lawful) (hknows : qenv.Knows ct)
    {ctinfo : UInt32} {ctAttr ctInfoAttr : UInt16} {b b' : Buf} {acct : Option NfConnAcct}
    (hrun : ctnetlinkGlueBuild env p ct expected ctinfo ctAttr ctInfoAttr b = (0, acct, b')) :
    acct = ct.acct ∧ ∃ a : Attr, a.type = ctAttr ||| nestedFlag ∧
      b.Appended (attrsBytes env.endian [a, nlaBe32 ctInfoAttr ctinfo]) b' ∧
      ∃ err t, qenv.changeTimeout ((UInt32.ofNat (ctTimeout env ct)).toNat * qenv.hz) ct =
          (err, { ct with timeout := t }) ∧
        ctnetlinkGlueParse qenv expected a ct = (if err < 0 then err else 0, { ct with timeout := t }) := by
  obtain ⟨hacct, kids, hkids, happ⟩ := glueBuild_spec.2 acct b' hrun
  have hsize : attrsSize kids < 65536 := by
    have hle := happ.length_le
    have hcap := b.cap_lt
    rw [length_attrsBytes, attrsSize_cons, nestAttr_len] at hle
    unfold Buf.room at hle
    omega
  exact ⟨hacct, _, rfl, happ, glueParse_told hendian hq hknows hkids hsize ctAttr⟩

theorem kernelQueueEnv_knows (masterProto : UInt8) : kernelQueueEnv.Knows (crowdedConn masterProto) where
  stock := by
    intro helper hhelp
    obtain rfl := Option.some.inj (Option.some.inj hhelp)
    exact ⟨⟨by decide, .inl rfl⟩, by decide, by decide⟩
  find := by
    intro helper hhelp
    obtain rfl := Option.some.inj (Option.some.inj hhelp)
    rfl
  read := fun _ _ _ _ _ => rfl
  replace := by
    intro labels ct hsome
    obtain ⟨old, hold⟩ := Option.isSome_iff_exists.mp hsome
    obtain ⟨hfirst, hsecond⟩ := labelWord_bytes labels.bits0 labels.bits1
    show kernelReplace (put64 .little labels.bits0 ++ put64 .little labels.bits1) none ct = _
    unfold kernelReplace
    rw [hold]
    dsimp only
    rw [hfirst, hsecond, UInt64.zero_xor, UInt64.zero_xor]

/-- The crowded conntrack, back with all its extensions. -/
theorem glueParse_glueBuild_sample : ∃ acct b',
    acct = (crowdedConn ipprotoIpv6).acct ∧ ∃ a : Attr, a.type = 11 ||| nestedFlag ∧
      (Buf.empty 4096 page_lt).Appended (attrsBytes crowdedEnv.endian [a, nlaBe32 12 2]) b' ∧
      ∃ err t, kernelQueueEnv.changeTimeout
          ((UInt32.ofNat (ctTimeout crowdedEnv (crowdedConn ipprotoIpv6))).toNat * kernelQueueEnv.hz)
          (crowdedConn ipprotoIpv6) = (err, { crowdedConn ipprotoIpv6 with timeout := t }) ∧
        ctnetlinkGlueParse kernelQueueEnv true a (crowdedConn ipprotoIpv6) =
          (if err < 0 then err else 0, { crowdedConn ipprotoIpv6 with timeout := t }) := by
  have hzero : (ctnetlinkGlueBuild crowdedEnv 1 (crowdedConn ipprotoIpv6) true 2 11 12 (Buf.empty 4096 page_lt)).1 =
      0 := by decide +kernel
  have hrun : ∀ r : ℤ × Option NfConnAcct × Buf, r.1 = 0 → r = (0, r.2.1, r.2.2) := fun r h => Prod.ext h rfl
  exact ⟨_, _, glueParse_glueBuild rfl kernelQueueEnv_lawful (kernelQueueEnv_knows ipprotoIpv6) (hrun _ hzero)⟩

end Repeat

end VgwDriver
