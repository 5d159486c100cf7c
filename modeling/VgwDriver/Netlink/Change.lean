import VgwDriver.Base.Run
import VgwDriver.Netlink.SeqAdj

/-!
# Changing a conntrack

`ctnetlink_change_conntrack` changes the conntrack that a request names: one function for each attribute, in
a fixed order, until one of them returns an error.  What was changed until then stays changed.

* `ctnetlinkChangeConntrack` — the function, over one function a part;
* `NfConn.SameCore` — what a conntrack keeps: its tuples, its zone, its namespace, its references, the
  extensions it has, and the bits of its status that only the kernel may set;
* `change_sameCore` — **no request changes any of that**, refused or not.
-/

namespace VgwDriver

open Base

/-! ### The kernel -/

def ctaNatSrc : UInt16 := 6
def ctaNatDst : UInt16 := 13
def ctaHelpMax : UInt16 := 2
def ctaProtoinfoMax : UInt16 := 3
def ctaSynproxyMax : UInt16 := 3

/-- What a change calls.  The functions that change a conntrack return an error number with it. -/
structure ChangeEnv extends FilterEnv where
  /-- `HZ` -/
  hz : ℕ
  /-- `__nf_conntrack_helper_find`, of a name, a layer-3 and a layer-4 protocol -/
  helperFind : Bytes → UInt16 → UInt8 → Option NfConntrackHelper
  /-- the helper behind `helper->from_nlattr`, which sets its data for a conntrack -/
  helperFromNlattr : NfConntrackHelper → Option Attr → NfConn → NfConntrackHelper
  /-- `__nf_ct_change_timeout`, of a time in jiffies -/
  changeTimeout : ℕ → NfConn → ℤ × NfConn
  /-- `nf_ct_change_status_common` -/
  changeStatusCommon : UInt32 → NfConn → ℤ × NfConn
  /-- `l4proto->from_nlattr`, `none` where it is null -/
  fromNlattr : UInt8 → Option (NlaTable → NfConn → ℤ × NfConn)
  /-- `nf_connlabels_replace`, of the bits and the mask -/
  connlabelsReplace : Bytes → Option Bytes → NfConn → ℤ × NfConn

/-! ### The parts -/

/-- The check of an attribute of the policy `NLA_NUL_STRING` with `.len = len`. -/
def nlaNulStringError (len : ℕ) (a : Attr) : Option ℤ :=
  let s := if a.payload.getLast? = some 0 then a.payload.dropLast else a.payload
  if 0 ∉ a.payload.take (len + 1) then some (-einval)
  else if len < s.length then some (-erange)
  else none

/-- `ctnetlink_parse_help`: the name up to its zero, and the helper's own attribute. -/
def ctnetlinkParseHelp (e : Endian) (attr : Attr) : Except ℤ (Bytes × Option Attr) :=
  let l := scanAttrs e attr.payload
  match (l.filter fun a => a.kind = ctaHelpName).findSome? (nlaNulStringError 15) with
  | some err => .error err
  | none =>
    match nlaTable ctaHelpMax l ctaHelpName with
    | none => .error (-einval)
    | some name => .ok (name.payload.takeWhile (· ≠ 0), nlaTable ctaHelpMax l ctaHelpInfo)

section Parts

variable (env : ChangeEnv)

/-- The conntrack's helper has the name `name`, which is unique among the helpers for its protocols. -/
def NfConn.hasHelper (ct : NfConn) (name : Bytes) : Bool :=
  match ct.help with
  | some (some helper) => helper.name = name
  | _ => false

/-- `ctnetlink_change_helper`; `expected` says whether `ct->master` is set.  Where the helper is taken away,
`nf_ct_remove_expectations` changes no conntrack. -/
def ctnetlinkChangeHelper (expected : Bool) (attr : Attr) (ct : NfConn) : ℤ × NfConn :=
  match ctnetlinkParseHelp env.endian attr with
  | .error err => (err, ct)
  | .ok (helpname, helpinfo) =>
    if expected then
      -- the helper it has already is no error
      if ct.hasHelper helpname then (0, ct) else (-ebusy, ct)
    else if helpname = [] then (0, { ct with help := ct.help.map fun _ => none })
    else
      match env.helperFind helpname (nfCtL3num ct) (nfCtProtonum ct) with
      | none => (-eopnotsupp, ct)
      | some helper =>
        if ct.help.isNone then (-eopnotsupp, ct)
        else if ct.hasHelper helper.name then
          (0, { ct with help := some (some (env.helperFromNlattr helper helpinfo ct)) })
        else (-ebusy, ct)

/-- `ctnetlink_change_timeout`. -/
def ctnetlinkChangeTimeout (attr : Attr) (ct : NfConn) : ℤ × NfConn :=
  env.changeTimeout ((nlaGetBe32 attr).toNat * env.hz) ct

/-- `ctnetlink_change_status`. -/
def ctnetlinkChangeStatus (attr : Attr) (ct : NfConn) : ℤ × NfConn :=
  env.changeStatusCommon (nlaGetBe32 attr) ct

/-- `protoinfo_policy`. -/
def protoinfoPolicy (type : UInt16) : NlaPolicy :=
  if type ∈ [ctaProtoinfoTcp, ctaProtoinfoDccp, ctaProtoinfoSctp] then .nested else .unspec

/-- `ctnetlink_change_protoinfo`. -/
def ctnetlinkChangeProtoinfo (attr : Attr) (ct : NfConn) : ℤ × NfConn :=
  match nlaParseNestedDeprecated env.endian ctaProtoinfoMax protoinfoPolicy attr with
  | .error err => (err, ct)
  | .ok tb =>
    match env.fromNlattr (nfCtProtonum ct) with
    | none => (0, ct)
    | some fromNlattr => fromNlattr tb ct

/-- `ctnetlink_change_mark`: the mask says what of the old mark goes. -/
def ctnetlinkChangeMark (cda : NlaTable) (attr : Attr) (ct : NfConn) : NfConn :=
  let mask := match cda ctaMarkMask with
    | some mask => ~~~nlaGetBe32 mask
    | none => 0
  { ct with mark := (ct.mark &&& mask) ^^^ nlaGetBe32 attr }

/-- `synproxy_policy`. -/
def synproxyPolicy (type : UInt16) : NlaPolicy :=
  if type ∈ [ctaSynproxyIsn, ctaSynproxyIts, ctaSynproxyTsoff] then nlaU32Policy else .unspec

/-- `ctnetlink_change_synproxy`. -/
def ctnetlinkChangeSynproxy (attr : Attr) (ct : NfConn) : ℤ × NfConn :=
  match ct.synproxy with
  | none => (0, ct)
  | some _ =>
    match nlaParseNestedDeprecated env.endian ctaSynproxyMax synproxyPolicy attr with
    | .error err => (err, ct)
    | .ok tb =>
      match tb ctaSynproxyIsn, tb ctaSynproxyIts, tb ctaSynproxyTsoff with
      | some isn, some its, some tsoff =>
        (0, { ct with synproxy := some ⟨nlaGetBe32 isn, nlaGetBe32 its, nlaGetBe32 tsoff⟩ })
      | _, _, _ => (-einval, ct)

/-- `ctnetlink_attach_labels`. -/
def ctnetlinkAttachLabels (cda : NlaTable) (attr : Attr) (ct : NfConn) : ℤ × NfConn :=
  let len := attr.payload.length
  if len % 4 ≠ 0 then (-einval, ct)
  else
    match cda ctaLabelsMask with
    | none => env.connlabelsReplace attr.payload none ct
    | some mask =>
      if mask.payload.length = 0 ∨ mask.payload.length ≠ len then (-einval, ct)
      else env.connlabelsReplace attr.payload (some mask.payload) ct

/-- A part of a request that is there or not. -/
def part (attr : Option Attr) (f : Attr → NfConn → ℤ × NfConn) : NfConn → ℤ × NfConn :=
  match attr with
  | none => fun ct => (0, ct)
  | some a => f a

/-- The part about the mark, which does not fail. -/
def markPart (cda : NlaTable) : NfConn → ℤ × NfConn :=
  part (cda ctaMark) fun a ct => (0, ctnetlinkChangeMark cda a ct)

/-- The part about the sequence adjustment: without either attribute, nothing is changed. -/
def seqAdjPart (cda : NlaTable) : NfConn → ℤ × NfConn := fun ct => ctnetlinkChangeSeqAdj env.endian ct cda

/-- `ctnetlink_change_conntrack`. -/
def ctnetlinkChangeConntrack (expected : Bool) (cda : NlaTable) (ct : NfConn) : ℤ × NfConn :=
  if (cda ctaNatSrc).isSome ∨ (cda ctaNatDst).isSome ∨ (cda ctaTupleMaster).isSome then (-eopnotsupp, ct)
  else untilError
    [part (cda ctaHelp) (ctnetlinkChangeHelper env expected), part (cda ctaTimeout) (ctnetlinkChangeTimeout env),
      part (cda ctaStatus) (ctnetlinkChangeStatus env), part (cda ctaProtoinfo) (ctnetlinkChangeProtoinfo env),
      markPart cda, seqAdjPart env cda, part (cda ctaSynproxy) (ctnetlinkChangeSynproxy env),
      part (cda ctaLabels) (ctnetlinkAttachLabels env cda)] ct

end Parts

/-! ### What a conntrack keeps -/

def ipsSeenReplyBit : ℕ := 1
def ipsAssuredBit : ℕ := 2

/-- The bits of `IPS_UNCHANGEABLE_MASK`, without `IPS_SEQ_ADJUST`. -/
def fixedBits : List ℕ := [0, 3, 4, 5, 7, 8, 9, 11, 12, 14, 15]

/-- The bits that may be set and not cleared. -/
def stickyBits : List ℕ := [ipsSeenReplyBit, ipsAssuredBit, ipsSeqAdjustBit]

/-- What a conntrack keeps. -/
structure NfConn.SameCore (ct ct' : NfConn) : Prop where
  net : ct'.net = ct.net
  tupleOrig : ct'.tupleOrig = ct.tupleOrig
  tupleReply : ct'.tupleReply = ct.tupleReply
  zone : ct'.zone = ct.zone
  masterTuple : ct'.masterTuple = ct.masterTuple
  secmark : ct'.secmark = ct.secmark
  use : ct'.use = ct.use
  acct : ct'.acct = ct.acct
  tstamp : ct'.tstamp = ct.tstamp
  help : ct'.help.isSome = ct.help.isSome
  labels : ct'.labels.isSome = ct.labels.isSome
  seqadj : ct'.seqadj.isSome = ct.seqadj.isSome
  synproxy : ct'.synproxy.isSome = ct.synproxy.isSome
  fixed : ∀ bit ∈ fixedBits, ct'.testStatus bit = ct.testStatus bit
  sticky : ∀ bit ∈ stickyBits, ct.testStatus bit → ct'.testStatus bit

theorem NfConn.SameCore.refl (ct : NfConn) : ct.SameCore ct :=
  ⟨rfl, rfl, rfl, rfl, rfl, rfl, rfl, rfl, rfl, rfl, rfl, rfl, rfl, fun _ _ => rfl, fun _ _ h => h⟩

theorem NfConn.SameCore.trans {a b c : NfConn} (h₁ : a.SameCore b) (h₂ : b.SameCore c) : a.SameCore c where
  net := h₂.net.trans h₁.net
  tupleOrig := h₂.tupleOrig.trans h₁.tupleOrig
  tupleReply := h₂.tupleReply.trans h₁.tupleReply
  zone := h₂.zone.trans h₁.zone
  masterTuple := h₂.masterTuple.trans h₁.masterTuple
  secmark := h₂.secmark.trans h₁.secmark
  use := h₂.use.trans h₁.use
  acct := h₂.acct.trans h₁.acct
  tstamp := h₂.tstamp.trans h₁.tstamp
  help := h₂.help.trans h₁.help
  labels := h₂.labels.trans h₁.labels
  seqadj := h₂.seqadj.trans h₁.seqadj
  synproxy := h₂.synproxy.trans h₁.synproxy
  fixed := fun bit hbit => (h₂.fixed bit hbit).trans (h₁.fixed bit hbit)
  sticky := fun bit hbit h => h₂.sticky bit hbit (h₁.sticky bit hbit h)

/-- What the kernel's functions change: the timeout, the bits of the status that a request
may change, the protocol's state, the labels. -/
structure ChangeEnv.Lawful (env : ChangeEnv) : Prop where
  timeout : ∀ t ct, ∃ timeout, (env.changeTimeout t ct).2 = { ct with timeout := timeout }
  status : ∀ s ct, ∃ status, (env.changeStatusCommon s ct).2 = { ct with status := status } ∧
    (∀ bit ∈ fixedBits, status.toNat.testBit bit = ct.testStatus bit) ∧
    ∀ bit ∈ stickyBits, ct.testStatus bit → status.toNat.testBit bit
  proto : ∀ proto f, env.fromNlattr proto = some f → ∀ tb ct, ∃ tcp, (f tb ct).2 = { ct with tcp := tcp }
  labels : ∀ bits mask ct, ∃ labels, (env.connlabelsReplace bits mask ct).2 = { ct with labels := labels } ∧
    labels.isSome = ct.labels.isSome

/-! ### What the parts change -/

section SameCore

variable {env : ChangeEnv} {cda : NlaTable} {ct : NfConn}

theorem changeHelper_sameCore (expected : Bool) (attr : Attr) :
    ct.SameCore (ctnetlinkChangeHelper env expected attr ct).2 := by
  have hwith : ∀ help : Option (Option NfConntrackHelper), help.isSome = ct.help.isSome →
      ct.SameCore { ct with help := help } := fun help h => { NfConn.SameCore.refl ct with help := h }
  unfold ctnetlinkChangeHelper
  cases ctnetlinkParseHelp env.endian attr with
  | error err => exact .refl ct
  | ok r =>
    obtain ⟨helpname, helpinfo⟩ := r
    dsimp only
    by_cases hexp : expected
    · rw [if_pos hexp]
      split <;> exact .refl ct
    · rw [if_neg hexp]
      by_cases hempty : helpname = []
      · rw [if_pos hempty]
        exact hwith _ (Option.isSome_map)
      · rw [if_neg hempty]
        cases env.helperFind helpname (nfCtL3num ct) (nfCtProtonum ct) with
        | none => exact .refl ct
        | some helper =>
          dsimp only
          split
          · exact .refl ct
          · rename_i hhelp
            split
            · have hsome : ct.help.isSome := Option.isSome_iff_ne_none.mpr fun heq => hhelp (by rw [heq]; rfl)
              exact hwith _ hsome.symm
            · exact .refl ct

theorem changeTimeout_sameCore (henv : env.Lawful) (attr : Attr) :
    ct.SameCore (ctnetlinkChangeTimeout env attr ct).2 := by
  obtain ⟨timeout, heq⟩ := henv.timeout ((nlaGetBe32 attr).toNat * env.hz) ct
  rw [ctnetlinkChangeTimeout, heq]
  exact { NfConn.SameCore.refl ct with }

theorem changeStatus_sameCore (henv : env.Lawful) (attr : Attr) :
    ct.SameCore (ctnetlinkChangeStatus env attr ct).2 := by
  obtain ⟨status, heq, hfixed, hsticky⟩ := henv.status (nlaGetBe32 attr) ct
  rw [ctnetlinkChangeStatus, heq]
  exact { NfConn.SameCore.refl ct with fixed := hfixed, sticky := hsticky }

theorem changeProtoinfo_sameCore (henv : env.Lawful) (attr : Attr) :
    ct.SameCore (ctnetlinkChangeProtoinfo env attr ct).2 := by
  unfold ctnetlinkChangeProtoinfo
  cases nlaParseNestedDeprecated env.endian ctaProtoinfoMax protoinfoPolicy attr with
  | error err => exact .refl ct
  | ok tb =>
    dsimp only
    cases hf : env.fromNlattr (nfCtProtonum ct) with
    | none => exact .refl ct
    | some f =>
      obtain ⟨tcp, heq⟩ := henv.proto _ f hf tb ct
      dsimp only
      rw [heq]
      exact { NfConn.SameCore.refl ct with }

/-- The bits of a status with a flag set. -/
theorem NfConn.testStatus_or (ct : NfConn) (flag : UInt32) (bit : ℕ) :
    { ct with status := ct.status ||| flag }.testStatus bit = (ct.testStatus bit || flag.toNat.testBit bit) := by
  show (ct.status ||| flag).toNat.testBit bit = _
  rw [UInt32.toNat_or, Nat.testBit_or]
  rfl

theorem setSeqAdjust_sameCore (ct : NfConn) : ct.SameCore ct.setSeqAdjust := by
  have hbit : ∀ bit, ct.setSeqAdjust.testStatus bit = (ct.testStatus bit || Nat.testBit 64 bit) :=
    fun bit => ct.testStatus_or ipsSeqAdjust bit
  refine { NfConn.SameCore.refl ct with fixed := ?_, sticky := ?_ }
  · intro bit hmem
    have hclear : Nat.testBit 64 bit = false := by
      simp only [fixedBits, List.mem_cons, List.not_mem_nil, or_false] at hmem
      rcases hmem with rfl | rfl | rfl | rfl | rfl | rfl | rfl | rfl | rfl | rfl | rfl <;> decide
    rw [hbit, hclear, Bool.or_false]
  · intro bit hmem hset
    rw [hbit, hset, Bool.true_or]

theorem changeSeqAdjDir_sameCore (e : Endian) (dir : IpConntrackDir) (attr : Option Attr) :
    ct.SameCore (changeSeqAdjDir e dir ct attr).2 := by
  unfold changeSeqAdjDir
  cases hseq : ct.seqadj with
  | none => exact .refl ct
  | some seqs =>
    cases attr with
    | none => exact .refl ct
    | some attr =>
      have hwith : ∀ seqs', ct.SameCore { ct with seqadj := some seqs' } :=
        fun seqs' => { NfConn.SameCore.refl ct with seqadj := by rw [hseq]; rfl }
      dsimp only
      split
      · exact hwith _
      · exact (hwith _).trans (setSeqAdjust_sameCore _)

theorem changeSeqAdj_sameCore (e : Endian) (cda : NlaTable) :
    ct.SameCore (ctnetlinkChangeSeqAdj e ct cda).2 := by
  unfold ctnetlinkChangeSeqAdj
  cases ct.seqadj with
  | none => exact .refl ct
  | some seqs =>
    have horig := @changeSeqAdjDir_sameCore ct e .original (cda ctaSeqAdjOrig)
    dsimp only
    split
    · exact horig
    · exact horig.trans (changeSeqAdjDir_sameCore e .reply (cda ctaSeqAdjReply))

theorem changeSynproxy_sameCore (attr : Attr) : ct.SameCore (ctnetlinkChangeSynproxy env attr ct).2 := by
  unfold ctnetlinkChangeSynproxy
  cases hsyn : ct.synproxy with
  | none => exact .refl ct
  | some s =>
    dsimp only
    split
    · exact .refl ct
    · split
      · exact { NfConn.SameCore.refl ct with synproxy := by rw [hsyn]; rfl }
      · exact .refl ct

theorem attachLabels_sameCore (henv : env.Lawful) (cda : NlaTable) (attr : Attr) :
    ct.SameCore (ctnetlinkAttachLabels env cda attr ct).2 := by
  have hreplace : ∀ mask, ct.SameCore (env.connlabelsReplace attr.payload mask ct).2 := by
    intro mask
    obtain ⟨labels, heq, hsome⟩ := henv.labels attr.payload mask ct
    rw [heq]
    exact { NfConn.SameCore.refl ct with labels := hsome }
  unfold ctnetlinkAttachLabels
  dsimp only
  split
  · exact .refl ct
  · split
    · exact hreplace none
    · split
      · exact .refl ct
      · exact hreplace _

theorem part_sameCore {attr : Option Attr} {f : Attr → NfConn → ℤ × NfConn}
    (h : ∀ a ct, NfConn.SameCore ct (f a ct).2) (ct : NfConn) : ct.SameCore (part attr f ct).2 := by
  cases attr with
  | none => exact .refl ct
  | some a => exact h a ct

theorem markPart_sameCore (cda : NlaTable) (ct : NfConn) : ct.SameCore (markPart cda ct).2 :=
  part_sameCore (fun _ ct => { NfConn.SameCore.refl ct with }) ct

/-- **No request changes what a conntrack keeps**, whatever its attributes are, and whether it is refused or
not. -/
theorem change_sameCore (henv : env.Lawful) (expected : Bool) (cda : NlaTable) (ct : NfConn) :
    ct.SameCore (ctnetlinkChangeConntrack env expected cda ct).2 := by
  unfold ctnetlinkChangeConntrack
  split
  · exact .refl ct
  · refine untilError_rel NfConn.SameCore.refl NfConn.SameCore.trans ?_ ct
    intro f hf ct
    simp only [List.mem_cons, List.not_mem_nil, or_false] at hf
    rcases hf with rfl | rfl | rfl | rfl | rfl | rfl | rfl | rfl
    · exact part_sameCore (fun a ct => changeHelper_sameCore expected a) ct
    · exact part_sameCore (fun a ct => changeTimeout_sameCore henv a) ct
    · exact part_sameCore (fun a ct => changeStatus_sameCore henv a) ct
    · exact part_sameCore (fun a ct => changeProtoinfo_sameCore henv a) ct
    · exact markPart_sameCore cda ct
    · exact changeSeqAdj_sameCore env.endian cda
    · exact part_sameCore (fun a ct => changeSynproxy_sameCore a) ct
    · exact part_sameCore (fun a ct => attachLabels_sameCore henv cda a) ct

end SameCore

end VgwDriver
