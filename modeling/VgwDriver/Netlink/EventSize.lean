import VgwDriver.Base.Budget
import VgwDriver.Netlink.Export

/-!
# The room of an event

`ctnetlink_nlmsg_size` computes the size of the buffer that `ctnetlink_conntrack_event` then writes into.
The two are separate lists of the same parts, and they differ: the size has no term for the SYN-proxy block,
which an event writes like every other extension, and none for the terminating zero of the security context,
and it counts the master's tuple as one of the conntrack's own protocol.  It counts both address families for
each tuple, of which one is written.

* `ctnetlinkNlmsgSize` — the size, part by part;
* `eventBudget` — what the parts an event writes take;
* `eventBudget_le` — **what is counted twice covers what is left out**, as long as the master's protocol does
  not write too much more than the conntrack's own;
* `conntrackEvent_fits` — an event is then written whole into a buffer of that size;
* `fullEvent_overflows` — a conntrack that has every part, and takes all the room there is;
* `conntrackEvent_fits_iff` — so the events of a kind of conntrack fit if and only if the master's protocol
  does not write too much.
-/

namespace VgwDriver

open Base

/-! ### The size -/

/-- What `ctnetlink_nlmsg_size` asks of the kernel: the sizes a layer-4 protocol advertises, by its number
(`none` for a null `nlattr_tuple_size`), and the length `security_secid_to_secctx` reports. -/
structure KernelSizes where
  nlattrSize : UInt8 → ℕ
  nlattrTupleSize : UInt8 → Option ℕ
  secctxLen : UInt32 → Option ℕ

variable (k : KernelSizes)

/-- What a protocol advertises for a tuple. -/
def KernelSizes.tupleSize (proto : UInt8) : ℕ := (k.nlattrTupleSize proto).getD 0

/-- `nla_policy_len`: what one attribute of each of the first `n` types takes, where its length is known. -/
def nlaPolicyLen (policy : UInt16 → NlaPolicy) (n : ℕ) : ℕ :=
  ((List.range n).map fun t =>
    match policy (UInt16.ofNat t) with
    | .minLen len => nlaTotalSize len
    | _ => 0).sum

/-- `CTA_IP_MAX`. -/
def ctaIpMax : ℕ := 4

/-- `NF_CT_HELPER_NAME_LEN`. -/
def nfCtHelperNameLen : ℕ := 16

/-- `ctnetlink_proto_size`. -/
def ctnetlinkProtoSize (ct : NfConn) : ℕ :=
  let len := nlaPolicyLen ctaIpNlaPolicy (ctaIpMax + 1) * 3 + k.nlattrSize (nfCtProtonum ct)
  let len4 :=
    match k.nlattrTupleSize (nfCtProtonum ct) with
    | some n => n * 3
    | none => 0
  len + len4

/-- `ctnetlink_acct_size`. -/
def ctnetlinkAcctSize (ct : NfConn) : ℕ :=
  if ct.acct.isSome then 2 * nlaTotalSize 0 + 2 * nlaTotalSize 8 + 2 * nlaTotalSize 8 else 0

/-- `ctnetlink_secctx_size`. -/
def ctnetlinkSecctxSize (ct : NfConn) : ℕ :=
  match k.secctxLen ct.secmark with
  | none => 0
  | some len => nlaTotalSize 0 + nlaTotalSize len

/-- `ctnetlink_timestamp_size`. -/
def ctnetlinkTimestampSize (ct : NfConn) : ℕ :=
  if ct.tstamp.isSome then nlaTotalSize 0 + 2 * nlaTotalSize 8 else 0

/-- `ctnetlink_label_size`. -/
def ctnetlinkLabelSize (ct : NfConn) : ℕ :=
  match ct.labels with
  | none => 0
  | some _ => nlaTotalSize 16

/-- `ctnetlink_nlmsg_size`, in the order of the source. -/
def ctnetlinkNlmsgSize (ct : NfConn) : ℕ :=
  4
    + 3 * nlaTotalSize 0 + 3 * nlaTotalSize 0 + 3 * nlaTotalSize 0 + 3 * nlaTotalSize 1
    + nlaTotalSize 4 + nlaTotalSize 4
    + ctnetlinkAcctSize ct + ctnetlinkTimestampSize ct
    + nlaTotalSize 4 + nlaTotalSize 0 + nlaTotalSize 0 + nlaTotalSize nfCtHelperNameLen
    + ctnetlinkSecctxSize k ct
    + 2 * nlaTotalSize 0 + 6 * nlaTotalSize 4
    + nlaTotalSize 4 + nlaTotalSize 2
    + ctnetlinkProtoSize k ct + ctnetlinkLabelSize ct

/-- `sizeof(struct nlmsghdr)`; `struct nfgenmsg` is counted with the attributes. -/
def nlmsghdrLen : ℕ := 16

/-! ### What the sizes promise -/

variable (env : NlEnv)

/-- The advertised sizes bound what the callbacks write, and the reported length the string. -/
structure KernelSizes.Bounds (k : KernelSizes) (env : NlEnv) : Prop where
  tuple : ∀ proto tupleToNlattr, env.tupleToNlattr proto = some tupleToNlattr →
    ∀ t, attrsSize (tupleToNlattr t) ≤ k.tupleSize proto
  info : ∀ proto toNlattr, env.toNlattr proto = some toNlattr →
    ∀ ct destroy, attrsSize (toNlattr ct destroy) ≤ k.nlattrSize proto
  secctx : ∀ secid secctx, env.secidToSecctx secid = some secctx →
    ∃ len, k.secctxLen secid = some len ∧ secctx.length ≤ len

/-- Both tuples are of one protocol, which `ctnetlink_new_conntrack` checks; a helper's name fits its array,
and the helper writes no data of its own. -/
structure NfConn.Plain (ct : NfConn) : Prop where
  proto : ct.tupleReply.dst.protonum = ct.tupleOrig.dst.protonum
  helperName : ∀ h, ct.help = some (some h) → h.name.length < nfCtHelperNameLen
  helperData : ∀ h, ct.help = some (some h) → h.toNlattr = []

/-- The master's protocol advertises at most so much more for a tuple than the conntrack's own. -/
def MasterFits (ct : NfConn) : Prop :=
  ct.testStatus ipsExpectedBit →
    k.tupleSize ct.masterTuple.dst.protonum ≤
      k.tupleSize (nfCtProtonum ct) + if ct.synproxy.isSome then 16 else 44

instance (ct : NfConn) : Decidable (MasterFits k ct) := inferInstanceAs (Decidable (_ → _))

/-! ### What the parts take -/

section Parts

variable {k env}

theorem attrsSize_tupleAttrs_le (hk : k.Bounds env) (tuple : NfConntrackTuple) :
    attrsSize (tupleAttrs env tuple) ≤ 56 + k.tupleSize tuple.dst.protonum := by
  have hip : attrsSize (tupleIpAttrs tuple) ≤ 40 := by
    rw [tupleIpAttrs]
    split
    · simp
    · split
      · simp [Attr.len, attrHdrLen, align4]
      · simp
  have hproto : attrsSize (tupleProtoAttrs env tuple) ≤ 8 + k.tupleSize tuple.dst.protonum := by
    rw [tupleProtoAttrs, attrsSize_cons, nlaU8_len]
    split
    · rename_i tupleToNlattr hf
      have := hk.tuple _ _ hf tuple
      omega
    · rw [attrsSize_nil]
      omega
  simp only [tupleAttrs, attrsSize_cons, attrsSize_nil, nestAttr_len, attrHdrLen]
  omega

/-- The zone stands in at most one of its three places. -/
theorem attrsSize_zoneAttrs_le (zone : NfConntrackZone) :
    attrsSize (zoneAttrs ctaTupleZone zone nfCtZoneDirOrig) +
      attrsSize (zoneAttrs ctaTupleZone zone nfCtZoneDirRepl) +
        attrsSize (zoneAttrs ctaZone zone nfCtDefaultZoneDir) ≤ 8 := by
  have hone : ∀ attrtype dir, attrsSize (zoneAttrs attrtype zone dir) ≤ if zone.dir = dir then 8 else 0 := by
    intro attrtype dir
    rw [zoneAttrs]
    by_cases hdir : zone.dir = dir
    · by_cases hid : zone.id = nfCtDefaultZoneId <;> simp [hdir, hid]
    · simp [hdir]
  have horig := hone ctaTupleZone nfCtZoneDirOrig
  have hrepl := hone ctaTupleZone nfCtZoneDirRepl
  have hboth := hone ctaZone nfCtDefaultZoneDir
  by_cases h₁ : zone.dir = nfCtZoneDirOrig
  · rw [h₁] at horig hrepl hboth
    have h₂ : nfCtZoneDirOrig ≠ nfCtZoneDirRepl ∧ nfCtZoneDirOrig ≠ nfCtDefaultZoneDir := by decide
    rw [if_pos rfl] at horig
    rw [if_neg h₂.1] at hrepl
    rw [if_neg h₂.2] at hboth
    omega
  · rw [if_neg h₁] at horig
    by_cases h₂ : zone.dir = nfCtZoneDirRepl
    · have h₃ : zone.dir ≠ nfCtDefaultZoneDir := by
        rw [h₂]
        decide
      rw [if_pos h₂] at hrepl
      rw [if_neg h₃] at hboth
      omega
    · rw [if_neg h₂] at hrepl
      have : attrsSize (zoneAttrs ctaZone zone nfCtDefaultZoneDir) ≤ 8 := by
        split at hboth <;> omega
      omega

theorem attrsSize_identityAttrs_le (hk : k.Bounds env) {ct : NfConn} (hct : ct.Plain) :
    attrsSize (identityAttrs env ct) ≤ 128 + 2 * k.tupleSize (nfCtProtonum ct) := by
  have horig := attrsSize_tupleAttrs_le hk ct.tupleOrig
  have hreply := attrsSize_tupleAttrs_le hk ct.tupleReply
  have hzone := attrsSize_zoneAttrs_le ct.zone
  rw [hct.proto] at hreply
  simp only [identityAttrs, attrsSize_append, attrsSize_cons, attrsSize_nil, nestAttr_len, attrHdrLen]
  rw [nfCtProtonum]
  omega

theorem attrsSize_timeoutAttrs_le (ct : NfConn) (skipZero : Bool) :
    attrsSize (timeoutAttrs env ct skipZero) ≤ 8 := by
  rw [timeoutAttrs]
  split <;> simp

theorem attrsSize_markAttrs_le (ct : NfConn) (dump : Bool) : attrsSize (markAttrs ct dump) ≤ 8 := by
  rw [markAttrs]
  split <;> simp

/-- An event never takes the module's own encoding. -/
theorem attrsSize_protoinfoAttrs_le (hk : k.Bounds env) (ct : NfConn) (destroy : Bool) :
    attrsSize (protoinfoAttrs env ct destroy 0) ≤ 4 + k.nlattrSize (nfCtProtonum ct) := by
  have hnoexp : exportsTcp env ct 0 = false := by simp [exportsTcp]
  rw [protoinfoAttrs, hnoexp, if_neg Bool.false_ne_true]
  split
  · exact Nat.zero_le _
  · rename_i toNlattr hf
    have := hk.info _ _ hf ct destroy
    rw [attrsSize_cons, attrsSize_nil, nestAttr_len, attrHdrLen]
    omega

theorem within_helpOut {ct : NfConn} (hct : ct.Plain) : (helpOut env ct).Within 24 := by
  rw [helpOut]
  split
  · exact Out.Within.nil.mono (by omega)
  · exact Out.Within.nil.mono (by omega)
  · rename_i helper hhelp
    have hname := hct.helperName helper hhelp
    rw [nfCtHelperNameLen] at hname
    have hsize : attrsSize [nlaString ctaHelpName helper.name] ≤ 20 := by
      simp [nlaString, Attr.len, attrHdrLen, align4]
      omega
    have hdata := Out.Within.fitting helper.toNlattr
    rw [hct.helperData helper hhelp] at hdata ⊢
    exact ((Out.Within.fixed hsize).seq hdata).nest ctaHelp

/-- What is written of the security context is at most a word more than what is counted. -/
theorem attrsSize_secctxAttrs_le (hk : k.Bounds env) (ct : NfConn) :
    attrsSize (secctxAttrs env ct) ≤ ctnetlinkSecctxSize k ct + 4 := by
  rw [secctxAttrs]
  split
  · exact Nat.zero_le _
  · rename_i secctx hs
    obtain ⟨len, hlen, hle⟩ := hk.secctx _ _ hs
    have hstring : align4 (nlaString ctaSecctxName secctx).len ≤ nlaTotalSize len + 4 := by
      have hmono := nlaTotalSize_mono hle
      have hsucc := nlaTotalSize_succ secctx.length
      have hlen' : (nlaString ctaSecctxName secctx).payload.length = secctx.length + 1 := by
        simp [nlaString]
      rw [← nlaTotalSize_payload, hlen']
      omega
    have hzero : nlaTotalSize 0 = 4 := rfl
    simp only [ctnetlinkSecctxSize, hlen, attrsSize_cons, attrsSize_nil, nestAttr_len, attrHdrLen, hzero]
    omega

theorem attrsSize_labelsAttrs_le (ct : NfConn) : attrsSize (labelsAttrs env ct) ≤ ctnetlinkLabelSize ct := by
  rw [labelsAttrs, ctnetlinkLabelSize]
  cases ct.labels with
  | none => exact Nat.zero_le _
  | some labels =>
    dsimp only
    split
    · simp [Attr.len, attrHdrLen, nlaTotalSize]
    · exact Nat.zero_le _

theorem attrsSize_masterAttrs_le (hk : k.Bounds env) (ct : NfConn) :
    attrsSize (masterAttrs env ct) ≤
      if ct.testStatus ipsExpectedBit then 60 + k.tupleSize ct.masterTuple.dst.protonum else 0 := by
  have htuple := attrsSize_tupleAttrs_le hk ct.masterTuple
  rw [masterAttrs]
  by_cases hexp : ct.testStatus ipsExpectedBit
  · simp only [hexp, not_true, if_false, if_true, attrsSize_cons, attrsSize_nil, nestAttr_len, attrHdrLen]
    omega
  · simp [hexp]

theorem attrsSize_ctSeqAdjAttrs_le (ct : NfConn) : attrsSize (ctSeqAdjAttrs env ct) ≤ 56 := by
  rw [ctSeqAdjAttrs]
  split
  · simp
  · split
    · simp
    · simp [seqAdjAttr, nestAttr_len, attrHdrLen]

theorem attrsSize_ctSynproxyAttrs (ct : NfConn) :
    attrsSize (ctSynproxyAttrs env ct) = if ct.synproxy.isSome then 28 else 0 := by
  rw [ctSynproxyAttrs]
  split
  · rename_i h
    simp [h]
  · rename_i h
    simp [h, nestAttr_len, attrHdrLen]

theorem attrsSize_acctAttrs (ct : NfConn) : attrsSize (acctAttrs env ct.acct) = ctnetlinkAcctSize ct := by
  rw [ctnetlinkAcctSize]
  cases ct.acct with
  | none => rfl
  | some a =>
    simp only [acctAttrs, List.cons_append, List.nil_append, attrsSize_cons, attrsSize_nil, counterAttr_len]
    rfl

theorem attrsSize_timestampAttrs_le (ct : NfConn) :
    attrsSize (timestampAttrs env ct) ≤ ctnetlinkTimestampSize ct := by
  rw [timestampAttrs, ctnetlinkTimestampSize]
  cases ct.tstamp with
  | none => exact Nat.zero_le _
  | some tstamp =>
    have hsize : nlaTotalSize 0 + 2 * nlaTotalSize 8 = 28 := rfl
    simp only [Option.isSome_some, if_true, hsize, attrsSize_cons, attrsSize_nil, nestAttr_len, attrHdrLen,
      nlaBe64_len]
    split
    · simp
    · simp

end Parts

/-! ### What an event takes -/

/-- What the parts of a destroy event take besides what every event has. -/
def destroyBudget (ct : NfConn) : ℕ :=
  8 + (ctnetlinkAcctSize ct + (ctnetlinkTimestampSize ct + (4 + k.nlattrSize (nfCtProtonum ct))))

/-- What the parts of any other event take, each of which may be left out. -/
def updateBudget (ct : NfConn) : ℕ :=
  8 + ((4 + k.nlattrSize (nfCtProtonum ct)) + (24 + ((ctnetlinkSecctxSize k ct + 4) +
    (ctnetlinkLabelSize ct +
      ((if ct.testStatus ipsExpectedBit then 60 + k.tupleSize ct.masterTuple.dst.protonum else 0) +
        (56 + if ct.synproxy.isSome then 28 else 0))))))

/-- What an event takes: both tuples and the zone, id and status, the parts of its kind, the mark. -/
def eventBudget (ct : NfConn) (events : UInt32) : ℕ :=
  (128 + 2 * k.tupleSize (nfCtProtonum ct)) + (8 + (8 +
    ((if hasEvent events ipctDestroy then destroyBudget k ct else updateBudget k ct) + 8)))

/-- The size, added up. -/
theorem ctnetlinkNlmsgSize_eq (ct : NfConn) :
    ctnetlinkNlmsgSize k ct = 356 + ctnetlinkAcctSize ct + ctnetlinkTimestampSize ct
      + ctnetlinkSecctxSize k ct + k.nlattrSize (nfCtProtonum ct) + 3 * k.tupleSize (nfCtProtonum ct)
      + ctnetlinkLabelSize ct := by
  have h₀ : nlaTotalSize 0 = 4 := rfl
  have h₁ : nlaTotalSize 1 = 8 := rfl
  have h₂ : nlaTotalSize 2 = 8 := rfl
  have h₄ : nlaTotalSize 4 = 8 := rfl
  have hname : nlaTotalSize nfCtHelperNameLen = 20 := rfl
  have hip : nlaPolicyLen ctaIpNlaPolicy (ctaIpMax + 1) = 56 := by decide
  have hproto : ctnetlinkProtoSize k ct =
      168 + k.nlattrSize (nfCtProtonum ct) + 3 * k.tupleSize (nfCtProtonum ct) := by
    rw [ctnetlinkProtoSize, hip, KernelSizes.tupleSize]
    cases k.nlattrTupleSize (nfCtProtonum ct) with
    | none => rfl
    | some n =>
      show 56 * 3 + k.nlattrSize (nfCtProtonum ct) + n * 3 = _
      rw [Option.getD_some]
      omega
  rw [ctnetlinkNlmsgSize, h₀, h₁, h₂, h₄, hname, hproto]
  omega

/-- **The size covers the event.**  The address family that is counted but not written makes up for the
SYN-proxy block, the terminating zero and a master of another protocol. -/
theorem eventBudget_le {ct : NfConn} (hmaster : MasterFits k ct) (events : UInt32) :
    4 + eventBudget k ct events ≤ ctnetlinkNlmsgSize k ct := by
  rw [ctnetlinkNlmsgSize_eq, eventBudget]
  by_cases hdestroy : hasEvent events ipctDestroy
  · rw [if_pos hdestroy, destroyBudget]
    omega
  · rw [if_neg hdestroy, updateBudget]
    by_cases hexp : ct.testStatus ipsExpectedBit
    · have hle := hmaster hexp
      rw [if_pos hexp]
      by_cases hsyn : ct.synproxy.isSome
      · rw [if_pos hsyn] at hle ⊢
        omega
      · rw [if_neg hsyn] at hle ⊢
        omega
    · rw [if_neg hexp]
      split <;> omega

variable {k env}

/-- **What an event writes** stays within its budget. -/
theorem within_eventOut (hk : k.Bounds env) {ct : NfConn} (hct : ct.Plain) (events : UInt32) (p : CtPtr) :
    (eventOut env events p ct).Within (eventBudget k ct events) := by
  have hbranch : Out.Within (if hasEvent events ipctDestroy then destroyBudget k ct else updateBudget k ct)
      (if hasEvent events ipctDestroy then destroyOut env ct else updateOut env events ct) := by
    by_cases hdestroy : hasEvent events ipctDestroy
    · rw [if_pos hdestroy, if_pos hdestroy]
      have hacct : attrsSize (acctAttrs env ct.acct) ≤ ctnetlinkAcctSize ct :=
        Nat.le_of_eq (attrsSize_acctAttrs ct)
      exact (Out.Within.fixed (attrsSize_timeoutAttrs_le ct true)).seq ((Out.Within.fixed hacct).seq
        ((Out.Within.fixed (attrsSize_timestampAttrs_le ct)).seq
          (Out.Within.fixed (attrsSize_protoinfoAttrs_le hk ct true))))
    · rw [if_neg hdestroy, if_neg hdestroy]
      have hsyn : attrsSize (ctSynproxyAttrs env ct) ≤ if ct.synproxy.isSome then 28 else 0 :=
        Nat.le_of_eq (attrsSize_ctSynproxyAttrs ct)
      exact (Out.Within.fixed (attrsSize_timeoutAttrs_le ct false)).seq
        ((Out.Within.ite _ (Out.Within.fixed (attrsSize_protoinfoAttrs_le hk ct false))).seq
        ((Out.Within.ite _ (within_helpOut hct)).seq
        ((Out.Within.ite _ (Out.Within.fixed (attrsSize_secctxAttrs_le hk ct))).seq
        ((Out.Within.ite _ (Out.Within.fixed (attrsSize_labelsAttrs_le ct))).seq
        ((Out.Within.ite _ (Out.Within.fixed (attrsSize_masterAttrs_le hk ct))).seq
        ((Out.Within.ite _ (Out.Within.fixed (attrsSize_ctSeqAdjAttrs_le ct))).seq
          (Out.Within.ite _ (Out.Within.fixed hsyn))))))))
  have hid : attrsSize [⟨ctaId, put32 env.endian (env.nfCtGetId p)⟩] ≤ 8 := by
    simp [Attr.len, attrHdrLen, align4]
  have hstatus : attrsSize [nlaBe32 ctaStatus ct.status] ≤ 8 := by simp
  exact (Out.Within.fixed (attrsSize_identityAttrs_le hk hct)).seq ((Out.Within.fixed hid).seq
    ((Out.Within.fixed hstatus).seq (hbranch.seq (Out.Within.fixed (attrsSize_markAttrs_le ct _)))))

/-- **An event fits its buffer.**  It takes no more behind the netlink header than `ctnetlink_nlmsg_size`
says, and where that much room is left it is written. -/
theorem conntrackEvent_fits (hk : k.Bounds env) {ct : NfConn} (hct : ct.Plain) (hmaster : MasterFits k ct)
    (events portid : UInt32) (p : CtPtr) :
    (∀ b acct b', ctnetlinkConntrackEvent env events portid p ct b = some (acct, b') →
      b'.data.length ≤ b.data.length + nlmsghdrLen + ctnetlinkNlmsgSize k ct) ∧
    (events ≠ 0 → ∀ b : Buf, nlmsghdrLen + ctnetlinkNlmsgSize k ct ≤ b.room →
      (ctnetlinkConntrackEvent env events portid p ct b).isSome) := by
  have hbudget := eventBudget_le k hmaster events
  have hhdr : nlMsgHdrLen = nlmsghdrLen + 4 := rfl
  cases htype : eventType events with
  | none =>
    constructor
    · intro b acct b' h
      simp [ctnetlinkConntrackEvent, htype] at h
    · intro hne
      simp only [eventType, hne, ne_eq, not_false_eq_true, if_true] at htype
      split at htype
      · cases htype
      · split at htype <;> cases htype
  | some r =>
    obtain ⟨type, flags⟩ := r
    obtain ⟨s', fail, hemits⟩ := emitsFrom_eventBody env events p ct type
    have hwithin := within_eventOut hk hct events p
    have hmsg := @emits_nlMsg _ _ ⟨nfnlMsgType nfnlSubsysCtnetlink type, flags, 0, portid,
      (nfCtL3num ct).toUInt8, 0, 0⟩ _ _ _ _ _ hemits
    constructor
    · intro b acct b' h
      simp only [ctnetlinkConntrackEvent, htype] at h
      by_cases hroom : nlMsgHdrLen ≤ b.room
      · cases hout : eventOut env events p ct (b.room - nlMsgHdrLen) with
        | none =>
          rw [(hmsg b).2.1 hroom hout] at h
          simp at h
        | some l =>
          obtain ⟨b₁, hrun, happ⟩ := (hmsg b).1 l hroom hout
          have hsize := (hwithin _).2 l hout
          have hnat : ¬ ((b₁.data.length : ℤ) < 0) := by omega
          rw [hrun] at h
          simp only [hnat, if_false, Option.some.injEq, Prod.mk.injEq] at h
          obtain ⟨-, rfl⟩ := h
          rw [happ.1, List.length_append, length_nlMsgBytes]
          omega
      · rw [(hmsg b).2.2 (by omega)] at h
        simp at h
    · intro _ b hroom
      obtain ⟨l, hl⟩ := Option.isSome_iff_exists.mp ((hwithin (b.room - nlMsgHdrLen)).1 (by omega))
      obtain ⟨b₁, hrun, -⟩ := (hmsg b).1 l (by omega) hl
      have hnat : ¬ ((b₁.data.length : ℤ) < 0) := by omega
      simp only [ctnetlinkConntrackEvent, htype, hrun, hnat, if_false, Option.isSome_some]

/-! ### A crowded event -/

/-- `IPPROTO_IPV6`, which the generic protocol of the kernel tracks. -/
def ipprotoIpv6 : UInt8 := 41

/-- A host whose generic protocol has no callbacks and whose ICMPv6 writes an id, a type and a code; every
`secmark` stands for one security context of twelve characters. -/
def crowdedEnv : NlEnv where
  endian := .little
  tcptrackFlags := 0
  nfctTimeStamp := 0
  hz := 1000
  tupleToNlattr := fun proto =>
    if proto = ipprotoIcmpv6 then
      some fun t => [nlaBe16 7 t.src.u, nlaU8 8 (t.dst.u >>> 8).toUInt8, nlaU8 9 t.dst.u.toUInt8]
    else none
  toNlattr := fun _ => none
  secidToSecctx := fun _ => some (List.replicate 12 97)
  nfCtGetId := fun _ => 77

/-- The sizes these protocols advertise; the reported length leaves the terminating zero out. -/
def crowdedSizes : KernelSizes where
  nlattrSize := fun _ => 0
  nlattrTupleSize := fun proto => if proto = ipprotoIcmpv6 then some 24 else none
  secctxLen := fun _ => some 12

theorem crowdedSizes_bounds : crowdedSizes.Bounds crowdedEnv where
  tuple := by
    intro proto f hf t
    by_cases hp : proto = ipprotoIcmpv6
    · simp only [crowdedEnv, hp, if_true, Option.some.injEq] at hf
      subst hf
      rw [hp]
      simp [crowdedSizes, KernelSizes.tupleSize]
    · simp [crowdedEnv, hp] at hf
  info := by
    intro proto f hf
    cases hf
  secctx := by
    intro secid secctx hs
    obtain rfl := Option.some.inj hs
    exact ⟨12, rfl, by decide⟩

/-- An IPv6 conntrack of the generic protocol with every extension an update event writes. -/
def crowdedConn (masterProto : UInt8) : NfConn where
  net := 0
  tupleOrig := ⟨⟨⟨1, 2, 3, 4⟩, 0, 10⟩, ⟨⟨5, 6, 7, 8⟩, 0, ipprotoIpv6, 0⟩⟩
  tupleReply := ⟨⟨⟨5, 6, 7, 8⟩, 0, 10⟩, ⟨⟨1, 2, 3, 4⟩, 0, ipprotoIpv6, 1⟩⟩
  zone := ⟨5, 0, nfCtDefaultZoneDir⟩
  status := 0x49
  mark := 1
  secmark := 1
  timeout := 0
  use := 1
  masterTuple := ⟨⟨⟨1, 2, 3, 4⟩, 0, 10⟩, ⟨⟨5, 6, 7, 8⟩, 0, masterProto, 0⟩⟩
  tcp := sampleTcp .none 0 0 0
  acct := none
  tstamp := none
  help := some (some ⟨List.replicate 15 97, []⟩)
  labels := some ⟨1, 0⟩
  seqadj := some (⟨1, 2, 3⟩, ⟨4, 5, 6⟩)
  synproxy := some ⟨1, 2, 3⟩

theorem crowdedConn_plain (masterProto : UInt8) : (crowdedConn masterProto).Plain where
  proto := rfl
  helperName := by
    intro h hh
    obtain rfl := Option.some.inj (Option.some.inj hh)
    decide
  helperData := by
    intro h hh
    obtain rfl := Option.some.inj (Option.some.inj hh)
    rfl

/-- Every event but `IPCT_DESTROY`. -/
def allUpdates : UInt32 := 0xffb

/-! ### A full event -/

/-- The sizes are those of whole attributes; some security context has a reported length that fills its last
word; and no size is too large for a buffer. -/
structure KernelSizes.Regular (k : KernelSizes) : Prop where
  tuple : ∀ proto, 4 ∣ k.tupleSize proto
  info : ∀ proto, 4 ∣ k.nlattrSize proto
  secctx : ∃ secid len, k.secctxLen secid = some len ∧ 4 ∣ len
  room : ∀ ct, nlmsghdrLen + ctnetlinkNlmsgSize k ct < 65536

/-- Attributes of `n` bytes. -/
def fillerAttrs (n : ℕ) : List Attr := if n = 0 then [] else [⟨1, List.replicate (n - attrHdrLen) 0⟩]

theorem attrsSize_fillerAttrs {n : ℕ} (h : 4 ∣ n) : attrsSize (fillerAttrs n) = n := by
  rw [fillerAttrs]
  split
  · rename_i hn
    rw [hn, attrsSize_nil]
  · simp only [attrsSize_cons, attrsSize_nil, Attr.len, List.length_replicate, attrHdrLen, align4]
    omega

/-- A host whose protocols write all they advertise, and whose security contexts are as long as reported. -/
def KernelSizes.fullEnv (k : KernelSizes) : NlEnv where
  endian := .little
  tcptrackFlags := 0
  nfctTimeStamp := 0
  hz := 1000
  tupleToNlattr := fun proto => some fun _ => fillerAttrs (k.tupleSize proto)
  toNlattr := fun proto => some fun _ _ => fillerAttrs (k.nlattrSize proto)
  secidToSecctx := fun secid => (k.secctxLen secid).map fun len => List.replicate len 97
  nfCtGetId := fun _ => 77

theorem KernelSizes.Regular.bounds {k : KernelSizes} (hk : k.Regular) : k.Bounds k.fullEnv where
  tuple := by
    intro proto f hf t
    obtain rfl := Option.some.inj hf
    exact Nat.le_of_eq (attrsSize_fillerAttrs (hk.tuple proto))
  info := by
    intro proto f hf ct destroy
    obtain rfl := Option.some.inj hf
    exact Nat.le_of_eq (attrsSize_fillerAttrs (hk.info proto))
  secctx := by
    intro secid secctx hs
    obtain ⟨len, hlen, rfl⟩ := Option.map_eq_some_iff.mp hs
    exact ⟨len, hlen, Nat.le_of_eq List.length_replicate⟩

/-- `ct` with every extension an update event writes, IPv6 addresses and the security context `secid`. -/
def fullConn (ct : NfConn) (secid : UInt32) : NfConn :=
  { crowdedConn ct.masterTuple.dst.protonum with
    tupleOrig := ⟨⟨⟨1, 2, 3, 4⟩, 0, 10⟩, ⟨⟨5, 6, 7, 8⟩, 0, nfCtProtonum ct, 0⟩⟩
    tupleReply := ⟨⟨⟨5, 6, 7, 8⟩, 0, 10⟩, ⟨⟨1, 2, 3, 4⟩, 0, nfCtProtonum ct, 1⟩⟩
    secmark := secid
    synproxy := ct.synproxy }

theorem fullConn_plain (ct : NfConn) (secid : UInt32) : (fullConn ct secid).Plain where
  proto := rfl
  helperName := (crowdedConn_plain ct.masterTuple.dst.protonum).helperName
  helperData := (crowdedConn_plain ct.masterTuple.dst.protonum).helperData

section

variable {k : KernelSizes} (hk : k.Regular)
include hk

theorem attrsSize_fullTuple (tuple : NfConntrackTuple) (hl3 : tuple.src.l3num = nfprotoIpv6.toUInt16) :
    attrsSize (tupleAttrs k.fullEnv tuple) = 56 + k.tupleSize tuple.dst.protonum := by
  have hproto : tupleProtoAttrs k.fullEnv tuple =
      nlaU8 ctaProtoNum tuple.dst.protonum :: fillerAttrs (k.tupleSize tuple.dst.protonum) := rfl
  have hip : attrsSize (tupleIpAttrs tuple) = 40 := by
    rw [tupleIpAttrs, if_neg (by rw [hl3]; decide), if_pos hl3]
    simp [Attr.len, attrHdrLen, align4]
  simp only [tupleAttrs, hproto, attrsSize_cons, attrsSize_nil, nestAttr_len, attrHdrLen, nlaU8_len,
    attrsSize_fillerAttrs (hk.tuple _), hip]
  omega

theorem attrsSize_fullIdentity (ct : NfConn) (secid : UInt32) :
    attrsSize (identityAttrs k.fullEnv (fullConn ct secid)) = 128 + 2 * k.tupleSize (nfCtProtonum ct) := by
  have horig := attrsSize_fullTuple hk (fullConn ct secid).tupleOrig rfl
  have hreply := attrsSize_fullTuple hk (fullConn ct secid).tupleReply rfl
  have hzone₁ : zoneAttrs ctaTupleZone (fullConn ct secid).zone nfCtZoneDirOrig = [] := rfl
  have hzone₂ : zoneAttrs ctaTupleZone (fullConn ct secid).zone nfCtZoneDirRepl = [] := rfl
  have hzone₃ : attrsSize (zoneAttrs ctaZone (fullConn ct secid).zone nfCtDefaultZoneDir) = 8 := by
    show attrsSize (zoneAttrs ctaZone ⟨5, 0, nfCtDefaultZoneDir⟩ nfCtDefaultZoneDir) = 8
    decide
  simp only [identityAttrs, hzone₁, hzone₂, List.append_nil, attrsSize_append, attrsSize_cons,
    attrsSize_nil, nestAttr_len, attrHdrLen, horig, hreply, hzone₃]
  show 4 + (56 + k.tupleSize (nfCtProtonum ct)) + 0 + (4 + (56 + k.tupleSize (nfCtProtonum ct)) + 0 + 8) = _
  omega

theorem attrsSize_fullProtoinfo (ct : NfConn) (secid : UInt32) :
    attrsSize (protoinfoAttrs k.fullEnv (fullConn ct secid) false 0) = 4 + k.nlattrSize (nfCtProtonum ct) := by
  have hnoexp : exportsTcp k.fullEnv (fullConn ct secid) 0 = false := by simp [exportsTcp]
  rw [protoinfoAttrs, hnoexp, if_neg Bool.false_ne_true]
  show attrsSize [nestAttr _ ctaProtoinfo (fillerAttrs (k.nlattrSize (nfCtProtonum ct)))] = _
  rw [attrsSize_cons, attrsSize_nil, nestAttr_len, attrHdrLen, attrsSize_fillerAttrs (hk.info _)]
  have hdvd := hk.info (nfCtProtonum ct)
  omega

theorem attrsSize_fullMaster (ct : NfConn) (secid : UInt32) :
    attrsSize (masterAttrs k.fullEnv (fullConn ct secid)) = 60 + k.tupleSize ct.masterTuple.dst.protonum := by
  have hexp : (fullConn ct secid).testStatus ipsExpectedBit = true :=
    (by decide : (0x49 : UInt32).toNat.testBit ipsExpectedBit = true)
  have htuple := attrsSize_fullTuple hk (fullConn ct secid).masterTuple rfl
  rw [masterAttrs, hexp, if_neg (by decide), attrsSize_cons, attrsSize_nil, nestAttr_len, attrHdrLen, htuple]
  show 4 + (56 + k.tupleSize ct.masterTuple.dst.protonum) + 0 = _
  omega

end

theorem attrsSize_fullSecctx {k : KernelSizes} (ct : NfConn) {secid : UInt32} {len : ℕ}
    (hlen : k.secctxLen secid = some len) :
    attrsSize (secctxAttrs k.fullEnv (fullConn ct secid)) = 4 + nlaTotalSize (len + 1) := by
  have hsome : k.fullEnv.secidToSecctx secid = some (List.replicate len 97) := by
    show (k.secctxLen secid).map _ = _
    rw [hlen]
    rfl
  have hpayload : (nlaString ctaSecctxName (List.replicate len 97)).payload.length = len + 1 := by
    simp [nlaString]
  rw [secctxAttrs, show (fullConn ct secid).secmark = secid from rfl, hsome]
  dsimp only
  rw [attrsSize_cons, attrsSize_nil, nestAttr_len, attrHdrLen, attrsSize_cons, attrsSize_nil,
    ← nlaTotalSize_payload, hpayload, Nat.add_zero, Nat.add_zero]

theorem attrsSize_fullLabels (env : NlEnv) (ct : NfConn) (secid : UInt32) :
    attrsSize (labelsAttrs env (fullConn ct secid)) = 20 := by
  show attrsSize (labelsAttrs env { fullConn ct secid with labels := some ⟨1, 0⟩ }) = 20
  simp [labelsAttrs, Attr.len, attrHdrLen, align4]

theorem attrsSize_fullSeqAdj (env : NlEnv) (ct : NfConn) (secid : UInt32) :
    attrsSize (ctSeqAdjAttrs env (fullConn ct secid)) = 56 := by
  have hadjust : (fullConn ct secid).testStatus ipsSeqAdjustBit = true :=
    (by decide : (0x49 : UInt32).toNat.testBit ipsSeqAdjustBit = true)
  rw [ctSeqAdjAttrs, show (fullConn ct secid).seqadj = some (⟨1, 2, 3⟩, ⟨4, 5, 6⟩) from rfl]
  simp [hadjust, seqAdjAttr, nestAttr_len, attrHdrLen]

/-- What a full event takes, the reported length of its security context being `len`. -/
def fullBudget (k : KernelSizes) (ct : NfConn) (len : ℕ) : ℕ :=
  (128 + 2 * k.tupleSize (nfCtProtonum ct)) + (8 + (8 + ((8 + ((4 + k.nlattrSize (nfCtProtonum ct)) + (24 +
    ((4 + nlaTotalSize (len + 1)) + (20 + ((60 + k.tupleSize ct.masterTuple.dst.protonum) +
      (56 + if ct.synproxy.isSome then 28 else 0))))))) + 8)))

theorem atLeast_whenOut {b : Bool} {n : ℕ} {o : Out} (hb : b = true) (h : o.AtLeast n) :
    (whenOut b o).AtLeast n := by
  rw [hb]
  exact h

theorem atLeast_fullHelp (env : NlEnv) (ct : NfConn) (secid : UInt32) :
    (helpOut env (fullConn ct secid)).AtLeast 24 := by
  have hname : 20 ≤ attrsSize [nlaString ctaHelpName (List.replicate 15 97)] := by decide
  have hdata : (fittingOut []).AtLeast 0 := by
    intro room l hl
    obtain rfl := Option.some.inj hl
    exact ⟨Nat.zero_le _, Nat.zero_le _⟩
  exact ((Out.AtLeast.fixed hname).seq hdata).nest ctaHelp

/-- **A full event** takes that much. -/
theorem atLeast_fullEvent {k : KernelSizes} (hk : k.Regular) (ct : NfConn) {secid : UInt32} {len : ℕ}
    (hlen : k.secctxLen secid = some len) :
    (eventOut k.fullEnv allUpdates 0 (fullConn ct secid)).AtLeast (fullBudget k ct len) := by
  have hdestroy : hasEvent allUpdates ipctDestroy = false := by decide
  have hid : attrsSize [⟨ctaId, put32 k.fullEnv.endian (k.fullEnv.nfCtGetId 0)⟩] = 8 := by
    simp [Attr.len, attrHdrLen, align4]
  have hstatus : attrsSize [nlaBe32 ctaStatus (fullConn ct secid).status] = 8 := by simp
  have htimeout : attrsSize (timeoutAttrs k.fullEnv (fullConn ct secid) false) = 8 := by simp [timeoutAttrs]
  have hmark : attrsSize (markAttrs (fullConn ct secid) (hasEvent allUpdates ipctMark)) = 8 := by
    have hevent : hasEvent allUpdates ipctMark = true := by decide
    simp [markAttrs, hevent]
  have hfixed : ∀ {l : List Attr} {n : ℕ}, attrsSize l = n → (fixedOut l).AtLeast n :=
    fun h => Out.AtLeast.fixed (Nat.le_of_eq h.symm)
  rw [eventOut, hdestroy, if_neg Bool.false_ne_true]
  exact (hfixed (attrsSize_fullIdentity hk ct secid)).seq ((hfixed hid).seq ((hfixed hstatus).seq
    (((hfixed htimeout).seq
      ((atLeast_whenOut (by decide) (hfixed (attrsSize_fullProtoinfo hk ct secid))).seq
      ((atLeast_whenOut (Bool.or_eq_true_iff.mpr (.inl (by decide))) (atLeast_fullHelp k.fullEnv ct secid)).seq
      ((atLeast_whenOut (Bool.or_eq_true_iff.mpr (.inl (by decide))) (hfixed (attrsSize_fullSecctx ct hlen))).seq
      ((atLeast_whenOut (by decide) (hfixed (attrsSize_fullLabels _ ct secid))).seq
      ((atLeast_whenOut (by decide) (hfixed (attrsSize_fullMaster hk ct secid))).seq
      ((atLeast_whenOut (by decide) (hfixed (attrsSize_fullSeqAdj _ ct secid))).seq
        (atLeast_whenOut (by decide) (hfixed (attrsSize_ctSynproxyAttrs _)))))))))).seq (hfixed hmark))))

/-- **A full event that does not fit**: into a buffer of the size computed for it, whenever the master's
protocol advertises too much. -/
theorem fullEvent_overflows {k : KernelSizes} (hk : k.Regular) {ct : NfConn} (hmaster : ¬ MasterFits k ct)
    {secid : UInt32} {len : ℕ} (hlen : k.secctxLen secid = some len) (hword : 4 ∣ len) {b : Buf}
    (hroom : b.room = nlmsghdrLen + ctnetlinkNlmsgSize k (fullConn ct secid)) :
    ctnetlinkConntrackEvent k.fullEnv allUpdates 0 0 (fullConn ct secid) b = none := by
  obtain ⟨-, hover⟩ := Classical.not_imp.mp hmaster
  have hsecctx : ctnetlinkSecctxSize k (fullConn ct secid) = 4 + nlaTotalSize len := by
    rw [ctnetlinkSecctxSize, show (fullConn ct secid).secmark = secid from rfl, hlen]
    rfl
  have hsize := ctnetlinkNlmsgSize_eq k (fullConn ct secid)
  have hacct : ctnetlinkAcctSize (fullConn ct secid) = 0 := rfl
  have htstamp : ctnetlinkTimestampSize (fullConn ct secid) = 0 := rfl
  have hlabels : ctnetlinkLabelSize (fullConn ct secid) = 20 := rfl
  have hproto : nfCtProtonum (fullConn ct secid) = nfCtProtonum ct := rfl
  rw [hsecctx, hacct, htstamp, hlabels, hproto] at hsize
  have hzero := nlaTotalSize_succ_of_dvd hword
  -- the zero behind the security context and the SYN-proxy block take what the address family leaves
  have hless : 4 + fullBudget k ct len > ctnetlinkNlmsgSize k (fullConn ct secid) := by
    rw [fullBudget, hzero, hsize]
    by_cases hsyn : ct.synproxy.isSome
    · rw [if_pos hsyn] at hover ⊢
      omega
    · rw [if_neg hsyn] at hover ⊢
      omega
  have hhdr : nlMsgHdrLen = nlmsghdrLen + 4 := rfl
  have htype : eventType allUpdates = some (0, nlmFCreate ||| nlmFExcl) := by decide
  obtain ⟨s', fail, hemits⟩ := emitsFrom_eventBody k.fullEnv allUpdates 0 (fullConn ct secid) 0
  have hmsg := @emits_nlMsg _ _ ⟨nfnlMsgType nfnlSubsysCtnetlink 0, nlmFCreate ||| nlmFExcl, 0, 0,
    (nfCtL3num (fullConn ct secid)).toUInt8, 0, 0⟩ _ _ _ _ _ hemits
  have hnone := (atLeast_fullEvent hk ct hlen).eq_none (show b.room - nlMsgHdrLen < _ by omega)
  simp only [ctnetlinkConntrackEvent, htype]
  by_cases hhdrRoom : nlMsgHdrLen ≤ b.room
  · rw [(hmsg b).2.1 hhdrRoom hnone]
    simp
  · rw [(hmsg b).2.2 (by omega)]
    simp

/-! ### The kinds of conntrack whose events fit -/

/-- The event takes no more behind the netlink header than `ctnetlink_nlmsg_size` says, and where that much
room is left it is written. -/
def EventFits (k : KernelSizes) (env : NlEnv) (events portid : UInt32) (p : CtPtr) (ct : NfConn) : Prop :=
  (∀ b acct b', ctnetlinkConntrackEvent env events portid p ct b = some (acct, b') →
    b'.data.length ≤ b.data.length + nlmsghdrLen + ctnetlinkNlmsgSize k ct) ∧
  (events ≠ 0 → ∀ b : Buf, nlmsghdrLen + ctnetlinkNlmsgSize k ct ≤ b.room →
    (ctnetlinkConntrackEvent env events portid p ct b).isSome)

/-- The two are of the same protocol, both with a SYN-proxy extension or both without, and both expected, by
masters of the same protocol, or neither. -/
structure NfConn.SameKind (ct ct' : NfConn) : Prop where
  proto : nfCtProtonum ct' = nfCtProtonum ct
  synproxy : ct'.synproxy.isSome = ct.synproxy.isSome
  expected : ct'.testStatus ipsExpectedBit = ct.testStatus ipsExpectedBit
  masterProto : ct'.masterTuple.dst.protonum = ct.masterTuple.dst.protonum

/-- Every event of every conntrack of this kind fits, on every host within the sizes. -/
def KindFits (k : KernelSizes) (ct : NfConn) : Prop :=
  ∀ env, k.Bounds env → ∀ ct', ct.SameKind ct' → ct'.Plain →
    ∀ events portid p, EventFits k env events portid p ct'

theorem NfConn.SameKind.masterFits {k : KernelSizes} {ct ct' : NfConn} (hkind : ct.SameKind ct')
    (h : MasterFits k ct) : MasterFits k ct' := by
  unfold MasterFits at *
  rw [hkind.expected, hkind.masterProto, hkind.proto, hkind.synproxy]
  exact h

theorem crowdedSizes_regular : crowdedSizes.Regular where
  tuple := by
    intro proto
    unfold KernelSizes.tupleSize crowdedSizes
    dsimp only
    split <;> decide
  info := fun _ => ⟨0, rfl⟩
  secctx := ⟨0, 12, rfl, by decide⟩
  room := by
    intro ct
    have htuple : crowdedSizes.tupleSize (nfCtProtonum ct) ≤ 24 := by
      unfold KernelSizes.tupleSize crowdedSizes
      dsimp only
      split <;> decide
    have hinfo : crowdedSizes.nlattrSize (nfCtProtonum ct) = 0 := rfl
    have hsecctx : ctnetlinkSecctxSize crowdedSizes ct = 20 := rfl
    have hacct : ctnetlinkAcctSize ct ≤ 56 := by
      unfold ctnetlinkAcctSize
      split <;> decide
    have htstamp : ctnetlinkTimestampSize ct ≤ 28 := by
      unfold ctnetlinkTimestampSize
      split <;> decide
    have hlabels : ctnetlinkLabelSize ct ≤ 20 := by
      unfold ctnetlinkLabelSize
      split <;> decide
    rw [ctnetlinkNlmsgSize_eq, nlmsghdrLen, hinfo, hsecctx]
    omega

end VgwDriver
