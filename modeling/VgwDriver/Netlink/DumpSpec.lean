import VgwDriver.Netlink.Dump

/-!
# What the message of a conntrack contains

One `Emits` fact for each writer of `Netlink/Dump.lean`: the attributes it appends.  All of them are fixed
lists but the helper's, whose own callback may be cut off by the end of the buffer unnoticed.

* `fillInfoOut` — the attributes of a whole message;
* `ctnetlinkFillInfo_fits`, `ctnetlinkFillInfo_full` — **the message is written whole, or not at all**;
* `takenCounters` — the counters a failed message leaves behind.
-/

namespace VgwDriver

open Base

variable (env : NlEnv)

/-! ### Attribute lists -/

def tupleIpAttrs (tuple : NfConntrackTuple) : List Attr :=
  if tuple.src.l3num = nfprotoIpv4.toUInt16 then
    [nlaBe32 ctaIpV4Src tuple.src.u3.ip, nlaBe32 ctaIpV4Dst tuple.dst.u3.ip]
  else if tuple.src.l3num = nfprotoIpv6.toUInt16 then
    [⟨ctaIpV6Src, tuple.src.u3.in6⟩, ⟨ctaIpV6Dst, tuple.dst.u3.in6⟩]
  else []

def tupleProtoAttrs (tuple : NfConntrackTuple) : List Attr :=
  nlaU8 ctaProtoNum tuple.dst.protonum ::
    (match env.tupleToNlattr tuple.dst.protonum with
    | some tupleToNlattr => tupleToNlattr tuple
    | none => [])

def tupleAttrs (tuple : NfConntrackTuple) : List Attr :=
  [nestAttr env.endian ctaTupleIp (tupleIpAttrs tuple),
    nestAttr env.endian ctaTupleProto (tupleProtoAttrs env tuple)]

def zoneAttrs (attrtype : UInt16) (zone : NfConntrackZone) (dir : UInt8) : List Attr :=
  if zone.id = nfCtDefaultZoneId ∨ zone.dir ≠ dir then [] else [nlaBe16 attrtype zone.id]

def identityAttrs (ct : NfConn) : List Attr :=
  [nestAttr env.endian ctaTupleOrig
      (tupleAttrs env ct.tupleOrig ++ zoneAttrs ctaTupleZone ct.zone nfCtZoneDirOrig)] ++
    ([nestAttr env.endian ctaTupleReply
      (tupleAttrs env ct.tupleReply ++ zoneAttrs ctaTupleZone ct.zone nfCtZoneDirRepl)] ++
    zoneAttrs ctaZone ct.zone nfCtDefaultZoneDir)

def timeoutAttrs (ct : NfConn) (skipZero : Bool) : List Attr :=
  if skipZero ∧ ctTimeout env ct = 0 then []
  else [nlaBe32 ctaTimeout (UInt32.ofNat (ctTimeout env ct))]

/-- The children of `CTA_PROTOINFO_TCP` as the module writes them. -/
def tcpAttrs (ct : NfConn) (destroy : Bool) : List Attr :=
  nlaU8 ctaProtoinfoTcpState ct.tcp.state.code ::
    if destroy then []
    else
      [nlaU8 ctaProtoinfoTcpWscaleOriginal ct.tcp.seen0.tdScale,
        nlaU8 ctaProtoinfoTcpWscaleReply ct.tcp.seen1.tdScale,
        nlaTcpFlags ctaProtoinfoTcpFlagsOriginal ct.tcp.seen0.flags,
        nlaTcpFlags ctaProtoinfoTcpFlagsReply ct.tcp.seen1.flags,
        ⟨ctaProtoinfoTcpSeqTrack, ipCtTcpVgw env ct.tcp⟩]

def protoinfoAttrs (ct : NfConn) (destroy : Bool) (flags : UInt16) : List Attr :=
  if exportsTcp env ct flags then
    [nestAttr env.endian ctaProtoinfo
      [nestAttr env.endian ctaProtoinfoTcp (tcpAttrs env ct destroy)]]
  else
    match env.toNlattr (nfCtProtonum ct) with
    | none => []
    | some toNlattr => [nestAttr env.endian ctaProtoinfo (toNlattr ct destroy)]

def markAttrs (ct : NfConn) (dump : Bool) : List Attr :=
  if ct.mark = 0 ∧ ¬ dump then [] else [nlaBe32 ctaMark ct.mark]

def secctxAttrs (ct : NfConn) : List Attr :=
  match env.secidToSecctx ct.secmark with
  | none => []
  | some secctx => [nestAttr env.endian ctaSecctx [nlaString ctaSecctxName secctx]]

def masterAttrs (ct : NfConn) : List Attr :=
  if ¬ ct.testStatus ipsExpectedBit then []
  else [nestAttr env.endian ctaTupleMaster (tupleAttrs env ct.masterTuple)]

/-- The attributes in front of the timeout. -/
def headAttrs (p : CtPtr) (ct : NfConn) : List Attr :=
  [nlaBe32 ctaStatus ct.status] ++ (markAttrs ct true ++ (secctxAttrs env ct ++
    ([⟨ctaId, put32 env.endian (env.nfCtGetId p)⟩] ++ ([nlaBe32 ctaUse (UInt32.ofNat ct.use)] ++
      masterAttrs env ct))))

def infoAttrs (p : CtPtr) (ct : NfConn) (flags : UInt16) : List Attr :=
  headAttrs env p ct ++
    if ct.testStatus ipsOffloadBit then []
    else timeoutAttrs env ct false ++ protoinfoAttrs env ct false flags

def counterAttr (dir : IpConntrackDir) (c : NfConnCounter) : Attr :=
  nestAttr env.endian (ctaCounters dir)
    [nlaBe64 ctaCountersPackets c.packets, nlaBe64 ctaCountersBytes c.bytes]

def acctAttrs : Option NfConnAcct → List Attr
  | none => []
  | some a => [counterAttr env .original a.orig] ++ [counterAttr env .reply a.reply]

def timestampAttrs (ct : NfConn) : List Attr :=
  match ct.tstamp with
  | none => []
  | some tstamp =>
    [nestAttr env.endian ctaTimestamp
      (nlaBe64 ctaTimestampStart tstamp.start ::
        if tstamp.stop ≠ 0 then [nlaBe64 ctaTimestampStop tstamp.stop] else [])]

def helpOut (ct : NfConn) : Out :=
  match ct.help with
  | none => fixedOut []
  | some none => fixedOut []
  | some (some helper) =>
    nestOut env.endian ctaHelp
      (seqOut (fixedOut [nlaString ctaHelpName helper.name]) (fittingOut helper.toNlattr))

def labelsAttrs (ct : NfConn) : List Attr :=
  match ct.labels with
  | none => []
  | some labels =>
    if labels.bits0 ≠ 0 ∨ labels.bits1 ≠ 0 then
      [⟨ctaLabels, put64 env.endian labels.bits0 ++ put64 env.endian labels.bits1⟩]
    else []

def seqAdjAttr (seq : NfCtSeqadj) (type : UInt16) : Attr :=
  nestAttr env.endian type
    [nlaBe32 ctaSeqadjCorrectionPos seq.correctionPos,
      nlaBe32 ctaSeqadjOffsetBefore seq.offsetBefore,
      nlaBe32 ctaSeqadjOffsetAfter seq.offsetAfter]

def ctSeqAdjAttrs (ct : NfConn) : List Attr :=
  match ct.seqadj with
  | none => []
  | some (orig, reply) =>
    if ¬ ct.testStatus ipsSeqAdjustBit then []
    else [seqAdjAttr env orig ctaSeqAdjOrig] ++ [seqAdjAttr env reply ctaSeqAdjReply]

def ctSynproxyAttrs (ct : NfConn) : List Attr :=
  match ct.synproxy with
  | none => []
  | some synproxy =>
    [nestAttr env.endian ctaSynproxy
      [nlaBe32 ctaSynproxyIsn synproxy.isn, nlaBe32 ctaSynproxyIts synproxy.its,
        nlaBe32 ctaSynproxyTsoff synproxy.tsoff]]

/-! ### One fact a writer -/

theorem emits_dumpTuplesIp (tuple : NfConntrackTuple) :
    Emits env.endian (ctnetlinkDumpTuplesIp env tuple)
      (fixedOut [nestAttr env.endian ctaTupleIp (tupleIpAttrs tuple)]) := by
  have hbody : Emits env.endian
      (if tuple.src.l3num = nfprotoIpv4.toUInt16 then ipv4TupleToNlattr env tuple
      else if tuple.src.l3num = nfprotoIpv6.toUInt16 then ipv6TupleToNlattr env tuple
      else pure ()) (fixedOut (tupleIpAttrs tuple)) := by
    unfold tupleIpAttrs
    split
    · exact Emits.putAttrs _ _
    · split
      · exact Emits.putAttrs _ _
      · exact Emits.pure
  have h := Emits.nestRet (-1) ctaTupleIp hbody
  rw [nestOut_fixed] at h
  exact h

theorem emits_dumpTuplesProto (tuple : NfConntrackTuple) :
    Emits env.endian (ctnetlinkDumpTuplesProto env tuple)
      (fixedOut [nestAttr env.endian ctaTupleProto (tupleProtoAttrs env tuple)]) := by
  have h := Emits.nestSeq (-1) ctaTupleProto
    (Emits.putAttr (σ := Option NfConnAcct) (-1 : ℤ) (nlaU8 ctaProtoNum tuple.dst.protonum))
    (Emits.putAttrs (e := env.endian) (-1)
      (match env.tupleToNlattr tuple.dst.protonum with
      | some tupleToNlattr => tupleToNlattr tuple
      | none => []))
  rw [seqOut_fixed, nestOut_fixed] at h
  exact h

theorem emits_dumpTuples (tuple : NfConntrackTuple) :
    Emits env.endian (ctnetlinkDumpTuples env tuple) (fixedOut (tupleAttrs env tuple)) := by
  have h := (emits_dumpTuplesIp env tuple).bind (emits_dumpTuplesProto env tuple)
  rw [seqOut_fixed] at h
  exact h

theorem emits_dumpZoneId (attrtype : UInt16) (zone : NfConntrackZone) (dir : UInt8) :
    Emits env.endian (ctnetlinkDumpZoneId env attrtype zone dir)
      (fixedOut (zoneAttrs attrtype zone dir)) := by
  unfold ctnetlinkDumpZoneId zoneAttrs
  split
  · exact Emits.pure
  · exact Emits.putAttr _ _

theorem emits_dumpIdentity (ct : NfConn) :
    Emits env.endian (ctnetlinkDumpIdentity env ct) (fixedOut (identityAttrs env ct)) := by
  have hdir : ∀ (type : UInt16) (tuple : NfConntrackTuple) (dir : UInt8),
      Emits env.endian (do
        let nestParms ← nestStart (-1) env.endian type
        (do
          ctnetlinkDumpTuples env tuple
          ctnetlinkDumpZoneId env ctaTupleZone ct.zone dir)
        nestEnd env.endian nestParms)
        (fixedOut [nestAttr env.endian type
          (tupleAttrs env tuple ++ zoneAttrs ctaTupleZone ct.zone dir)]) := by
    intro type tuple dir
    have h := Emits.nest (-1) type
      ((emits_dumpTuples env tuple).bind (emits_dumpZoneId env ctaTupleZone ct.zone dir))
    rw [seqOut_fixed, nestOut_fixed] at h
    exact h
  have h := (hdir ctaTupleOrig ct.tupleOrig nfCtZoneDirOrig).bind
    ((hdir ctaTupleReply ct.tupleReply nfCtZoneDirRepl).bind
      (emits_dumpZoneId env ctaZone ct.zone nfCtDefaultZoneDir))
  rw [seqOut_fixed, seqOut_fixed] at h
  exact h

theorem emits_dumpTimeout (ct : NfConn) (skipZero : Bool) :
    Emits env.endian (ctnetlinkDumpTimeout env ct skipZero) (fixedOut (timeoutAttrs env ct skipZero)) := by
  unfold ctnetlinkDumpTimeout timeoutAttrs
  split
  · exact Emits.pure
  · exact Emits.putAttr _ _

theorem emits_vgwDumpTcpProtoinfo {ct : NfConn} (hproto : nfCtProtonum ct = ipprotoTcp)
    (destroy : Bool) :
    Emits env.endian (vgwDumpTcpProtoinfo env ct destroy)
      (fixedOut [nestAttr env.endian ctaProtoinfo
        [nestAttr env.endian ctaProtoinfoTcp (tcpAttrs env ct destroy)]]) := by
  have htcp : Emits env.endian (tcpToNlattr env ct destroy)
      (fixedOut [nestAttr env.endian ctaProtoinfoTcp (tcpAttrs env ct destroy)]) := by
    have h := Emits.nest (σ := Option NfConnAcct) (-1 : ℤ) ctaProtoinfoTcp
      (Emits.putAttrs (e := env.endian) (-1) (tcpAttrs env ct destroy))
    rw [nestOut_fixed] at h
    exact h
  unfold vgwDumpTcpProtoinfo
  rw [if_neg (not_not.mpr hproto)]
  have h := Emits.nestRet (-1) ctaProtoinfo htcp
  rw [nestOut_fixed] at h
  exact h

theorem emits_dumpProtoinfo (ct : NfConn) (destroy : Bool) (flags : UInt16) :
    Emits env.endian (ctnetlinkDumpProtoinfo env ct destroy flags)
      (fixedOut (protoinfoAttrs env ct destroy flags)) := by
  unfold ctnetlinkDumpProtoinfo protoinfoAttrs
  by_cases hexp : exportsTcp env ct flags
  · rw [if_pos hexp, if_pos hexp]
    have hproto : nfCtProtonum ct = ipprotoTcp := by
      unfold exportsTcp at hexp
      simpa using (Bool.and_eq_true_iff.mp hexp).2
    exact emits_vgwDumpTcpProtoinfo env hproto destroy
  · rw [if_neg hexp, if_neg hexp]
    cases env.toNlattr (nfCtProtonum ct) with
    | none => exact Emits.pure
    | some toNlattr =>
      have h := Emits.nestRet (σ := Option NfConnAcct) (-1 : ℤ) ctaProtoinfo
        (Emits.putAttrs (e := env.endian) (-1) (toNlattr ct destroy))
      rw [nestOut_fixed] at h
      exact h

theorem emits_dumpMark (ct : NfConn) (dump : Bool) :
    Emits env.endian (ctnetlinkDumpMark env ct dump) (fixedOut (markAttrs ct dump)) := by
  unfold ctnetlinkDumpMark markAttrs
  split
  · exact Emits.pure
  · exact Emits.putAttr _ _

theorem emits_dumpSecctx (ct : NfConn) :
    Emits env.endian (ctnetlinkDumpSecctx env ct) (fixedOut (secctxAttrs env ct)) := by
  unfold ctnetlinkDumpSecctx secctxAttrs
  cases env.secidToSecctx ct.secmark with
  | none => exact Emits.pure
  | some secctx =>
    have h := Emits.nest (σ := Option NfConnAcct) (-1 : ℤ) ctaSecctx
      (Emits.putAttr (e := env.endian) (-1) (nlaString ctaSecctxName secctx))
    rw [nestOut_fixed] at h
    exact h

theorem emits_dumpMaster (ct : NfConn) :
    Emits env.endian (ctnetlinkDumpMaster env ct) (fixedOut (masterAttrs env ct)) := by
  unfold ctnetlinkDumpMaster masterAttrs
  split
  · exact Emits.pure
  · have h := Emits.nest (-1) ctaTupleMaster (emits_dumpTuples env ct.masterTuple)
    rw [nestOut_fixed] at h
    exact h

theorem emits_dumpInfo (p : CtPtr) (ct : NfConn) (flags : UInt16) :
    Emits env.endian (ctnetlinkDumpInfo env p ct flags) (fixedOut (infoAttrs env p ct flags)) := by
  have htail : Emits env.endian
      (if ct.testStatus ipsOffloadBit then pure ()
      else do
        ctnetlinkDumpTimeout env ct false
        ctnetlinkDumpProtoinfo env ct false flags)
      (fixedOut (if ct.testStatus ipsOffloadBit then []
        else timeoutAttrs env ct false ++ protoinfoAttrs env ct false flags)) := by
    split
    · exact Emits.pure
    · have h := (emits_dumpTimeout env ct false).bind (emits_dumpProtoinfo env ct false flags)
      rw [seqOut_fixed] at h
      exact h
  have h := (Emits.putAttr (-1) (nlaBe32 ctaStatus ct.status)).bind
    ((emits_dumpMark env ct true).bind ((emits_dumpSecctx env ct).bind
      ((Emits.putAttr (-1) ⟨ctaId, put32 env.endian (env.nfCtGetId p)⟩).bind
        ((Emits.putAttr (-1) (nlaBe32 ctaUse (UInt32.ofNat ct.use))).bind
          ((emits_dumpMaster env ct).bind htail)))))
  simp only [seqOut_fixed] at h
  have hlist : infoAttrs env p ct flags = [nlaBe32 ctaStatus ct.status] ++ (markAttrs ct true ++
      (secctxAttrs env ct ++ ([⟨ctaId, put32 env.endian (env.nfCtGetId p)⟩] ++
        ([nlaBe32 ctaUse (UInt32.ofNat ct.use)] ++ (masterAttrs env ct ++
          if ct.testStatus ipsOffloadBit then []
          else timeoutAttrs env ct false ++ protoinfoAttrs env ct false flags))))) := by
    simp only [infoAttrs, headAttrs, List.append_assoc]
  rw [hlist]
  exact h

theorem emits_dumpTimestamp (ct : NfConn) :
    Emits env.endian (ctnetlinkDumpTimestamp env ct) (fixedOut (timestampAttrs env ct)) := by
  unfold ctnetlinkDumpTimestamp timestampAttrs
  cases ct.tstamp with
  | none => exact Emits.pure
  | some tstamp =>
    have h := Emits.nest (σ := Option NfConnAcct) (-1 : ℤ) ctaTimestamp
      (Emits.putAttrs (e := env.endian) (-1) (nlaBe64 ctaTimestampStart tstamp.start ::
        if tstamp.stop ≠ 0 then [nlaBe64 ctaTimestampStop tstamp.stop] else []))
    rw [nestOut_fixed] at h
    exact h

theorem emits_dumpHelpinfo (ct : NfConn) :
    Emits env.endian (ctnetlinkDumpHelpinfo env ct) (helpOut env ct) := by
  unfold ctnetlinkDumpHelpinfo helpOut
  rcases ct.help with _ | _ | helper
  · exact Emits.pure
  · exact Emits.pure
  · exact Emits.nest (-1) ctaHelp ((Emits.putAttr (-1) (nlaString ctaHelpName helper.name)).bind
      (Emits.putAttrsIgnored (-1) helper.toNlattr))

theorem emits_dumpLabels (ct : NfConn) :
    Emits env.endian (ctnetlinkDumpLabels env ct) (fixedOut (labelsAttrs env ct)) := by
  unfold ctnetlinkDumpLabels labelsAttrs
  cases ct.labels with
  | none => exact Emits.pure
  | some labels =>
    dsimp only
    split
    · exact Emits.putAttr _ _
    · exact Emits.pure

theorem emits_dumpCtSeqAdj (ct : NfConn) :
    Emits env.endian (ctnetlinkDumpCtSeqAdj env ct) (fixedOut (ctSeqAdjAttrs env ct)) := by
  have hone : ∀ (seq : NfCtSeqadj) (type : UInt16),
      Emits env.endian (dumpCtSeqAdj env seq type) (fixedOut [seqAdjAttr env seq type]) := by
    intro seq type
    have h := Emits.nest (σ := Option NfConnAcct) (-1 : ℤ) type
      (Emits.putAttrs (e := env.endian) (-1) [nlaBe32 ctaSeqadjCorrectionPos seq.correctionPos,
        nlaBe32 ctaSeqadjOffsetBefore seq.offsetBefore,
        nlaBe32 ctaSeqadjOffsetAfter seq.offsetAfter])
    rw [nestOut_fixed] at h
    exact h
  unfold ctnetlinkDumpCtSeqAdj ctSeqAdjAttrs
  rcases ct.seqadj with _ | ⟨orig, reply⟩
  · exact Emits.pure
  · dsimp only
    split
    · exact Emits.pure
    · have h := (hone orig ctaSeqAdjOrig).bind (hone reply ctaSeqAdjReply)
      rw [seqOut_fixed] at h
      exact h

theorem emits_dumpCtSynproxy (ct : NfConn) :
    Emits env.endian (ctnetlinkDumpCtSynproxy env ct) (fixedOut (ctSynproxyAttrs env ct)) := by
  unfold ctnetlinkDumpCtSynproxy ctSynproxyAttrs
  cases ct.synproxy with
  | none => exact Emits.pure
  | some synproxy =>
    have h := Emits.nest (σ := Option NfConnAcct) (-1 : ℤ) ctaSynproxy
      (Emits.putAttrs (e := env.endian) (-1) [nlaBe32 ctaSynproxyIsn synproxy.isn,
        nlaBe32 ctaSynproxyIts synproxy.its, nlaBe32 ctaSynproxyTsoff synproxy.tsoff])
    rw [nestOut_fixed] at h
    exact h

/-! ### The counters -/

/-- The counters once the original direction's have been taken, and once both have. -/
def afterOrig (type : UInt8) (acct : Option NfConnAcct) : Option NfConnAcct :=
  (takeCounter .original type acct).2

def afterBoth (type : UInt8) (acct : Option NfConnAcct) : Option NfConnAcct :=
  (takeCounter .reply type (afterOrig type acct)).2

/-- The bytes one direction's counters take. -/
def counterSize : ℕ := 28

@[simp] theorem counterAttr_len (dir : IpConntrackDir) (c : NfConnCounter) :
    align4 (counterAttr env dir c).len = counterSize := by
  simp [counterAttr, nestAttr_len, counterSize, attrHdrLen]

/-- Taking the original direction's counters leaves the other direction's. -/
theorem afterOrig_some (type : UInt8) (a : NfConnAcct) :
    ∃ a', afterOrig type (some a) = some a' ∧ a'.reply = a.reply := by
  unfold afterOrig takeCounter
  by_cases ht : type = ipctnlMsgCtGetCtrzero
  · exact ⟨_, rfl, by simp [ht, NfConnAcct.setCounter]⟩
  · exact ⟨a, by simp [ht], rfl⟩

theorem emitsFrom_dumpCounters (dir : IpConntrackDir) (type : UInt8) (a : NfConnAcct) :
    EmitsFrom env.endian (dumpCounters env dir type) (some a)
      (fixedOut [counterAttr env dir (a.counter dir)]) (takeCounter dir type (some a)).2
      fun _ => (takeCounter dir type (some a)).2 := by
  have h := Emits.nest (σ := Option NfConnAcct) (-1 : ℤ) (ctaCounters dir)
    (Emits.putAttrs (e := env.endian) (-1) [nlaBe64 ctaCountersPackets (a.counter dir).packets,
      nlaBe64 ctaCountersBytes (a.counter dir).bytes])
  rw [nestOut_fixed] at h
  exact EmitsFrom.exchange (h _)

theorem emitsFrom_dumpAcct (type : UInt8) (acct : Option NfConnAcct) :
    EmitsFrom env.endian (ctnetlinkDumpAcct env type) acct (fixedOut (acctAttrs env acct))
      (afterBoth type acct)
      fun room => if counterSize ≤ room then afterBoth type acct else afterOrig type acct := by
  cases acct with
  | none =>
    have hnone : (fun room => if counterSize ≤ room then afterBoth type none
        else afterOrig type none) = fun _ => (none : Option NfConnAcct) := by
      funext room
      split <;> rfl
    rw [hnone]
    exact EmitsFrom.exchange (k := fun acct : Option NfConnAcct => (acct, acct)) (Emits.pure _)
  | some a =>
    obtain ⟨a', ha', hreply⟩ := afterOrig_some type a
    have horig := emitsFrom_dumpCounters env .original type a
    have hrepl := emitsFrom_dumpCounters env .reply type a'
    rw [← ha'] at hrepl
    have h := horig.bind hrepl
    have hfail : seqFail (fixedOut [counterAttr env .original (a.counter .original)])
        (fun _ => (takeCounter .original type (some a)).2)
        (fun _ => (takeCounter .reply type (afterOrig type (some a))).2)
        = fun room => if counterSize ≤ room then afterBoth type (some a)
          else afterOrig type (some a) := by
      funext room
      unfold seqFail fixedOut
      by_cases hroom : counterSize ≤ room
      · simp [hroom, afterBoth]
      · simp [hroom, afterOrig]
    rw [seqOut_fixed, hfail] at h
    have hlist : acctAttrs env (some a) = [counterAttr env .original (a.counter .original)] ++
        [counterAttr env .reply (a'.counter .reply)] := by
      simp [acctAttrs, NfConnAcct.counter, hreply]
    rw [hlist]
    exact EmitsFrom.exchange (k := fun acct : Option NfConnAcct => (acct, acct)) h

/-! ### The whole message -/

/-- The extensions behind the counters. -/
def extOut (ct : NfConn) : Out :=
  seqOut (fixedOut (timestampAttrs env ct)) (seqOut (helpOut env ct)
    (seqOut (fixedOut (labelsAttrs env ct)) (seqOut (fixedOut (ctSeqAdjAttrs env ct))
      (fixedOut (ctSynproxyAttrs env ct)))))

/-- Everything in front of the counters. -/
def frontAttrs (p : CtPtr) (ct : NfConn) (flags : UInt16) : List Attr :=
  identityAttrs env ct ++ infoAttrs env p ct flags

/-- The attributes of a whole message. -/
def fillInfoOut (p : CtPtr) (ct : NfConn) (extinfo : Bool) (flags : UInt16) : Out :=
  seqOut (fixedOut (frontAttrs env p ct flags))
    (if extinfo then seqOut (fixedOut (acctAttrs env ct.acct)) (extOut env ct) else fixedOut [])

/-- The counters a message that does not fit leaves behind, with `room` bytes for its attributes. -/
def takenCounters (p : CtPtr) (ct : NfConn) (type : UInt8) (extinfo : Bool) (flags : UInt16)
    (room : ℕ) : Option NfConnAcct :=
  let front := attrsSize (frontAttrs env p ct flags)
  if ¬ extinfo ∨ room < front then ct.acct
  else if room < front + counterSize then afterOrig type ct.acct
  else afterBoth type ct.acct

theorem emits_dumpExt (ct : NfConn) :
    Emits env.endian (do
      ctnetlinkDumpTimestamp env ct
      ctnetlinkDumpHelpinfo env ct
      ctnetlinkDumpLabels env ct
      ctnetlinkDumpCtSeqAdj env ct
      ctnetlinkDumpCtSynproxy env ct) (extOut env ct) :=
  (emits_dumpTimestamp env ct).bind ((emits_dumpHelpinfo env ct).bind ((emits_dumpLabels env ct).bind
    ((emits_dumpCtSeqAdj env ct).bind (emits_dumpCtSynproxy env ct))))

/-- Where a sequence of a stateless writer of fixed output and another writer fails. -/
theorem seqFail_fixed {σ : Type} (l : List Attr) (s : σ) (fail : ℕ → σ) (room : ℕ) :
    seqFail (fixedOut l) (fun _ => s) fail room
      = if room < attrsSize l then s else fail (room - attrsSize l) := by
  unfold seqFail fixedOut
  by_cases h : attrsSize l ≤ room
  · simp [h, Nat.not_lt.mpr h]
  · simp [h, Nat.lt_of_not_le h]

theorem emitsFrom_dumpExtinfo (ct : NfConn) (type : UInt8) :
    EmitsFrom env.endian (ctnetlinkDumpExtinfo env ct type) ct.acct
      (seqOut (fixedOut (acctAttrs env ct.acct)) (extOut env ct)) (afterBoth type ct.acct)
      fun room => if room < counterSize then afterOrig type ct.acct else afterBoth type ct.acct := by
  have h := (emitsFrom_dumpAcct env type ct.acct).bind (emits_dumpExt env ct _)
  have hfail : seqFail (fixedOut (acctAttrs env ct.acct))
      (fun room => if counterSize ≤ room then afterBoth type ct.acct else afterOrig type ct.acct)
      (fun _ => afterBoth type ct.acct)
      = fun room => if room < counterSize then afterOrig type ct.acct
        else afterBoth type ct.acct := by
    funext room
    cases hacct : ct.acct with
    | none => simp [seqFail, fixedOut, acctAttrs, afterOrig, afterBoth, takeCounter]
    | some a =>
      have hsize : attrsSize (acctAttrs env (some a)) = 2 * counterSize := by
        simp [acctAttrs]
        omega
      unfold seqFail fixedOut
      rw [hsize]
      by_cases h₁ : counterSize ≤ room
      · by_cases h₂ : 2 * counterSize ≤ room <;> simp [h₁, h₂, Nat.not_lt.mpr h₁]
      · simp [h₁, show ¬ 2 * counterSize ≤ room by omega, Nat.lt_of_not_le h₁]
  rw [hfail] at h
  exact h

/-- **The attributes of a whole message**, and what becomes of the counters. -/
theorem emitsFrom_fillInfoBody (p : CtPtr) (ct : NfConn) (type : UInt8) (extinfo : Bool)
    (flags : UInt16) :
    EmitsFrom env.endian (fillInfoBody env p ct type extinfo flags) ct.acct
      (fillInfoOut env p ct extinfo flags)
      (if extinfo then afterBoth type ct.acct else ct.acct)
      (takenCounters env p ct type extinfo flags) := by
  have hext : EmitsFrom env.endian
      (if extinfo then ctnetlinkDumpExtinfo env ct type else pure ()) ct.acct
      (if extinfo then seqOut (fixedOut (acctAttrs env ct.acct)) (extOut env ct) else fixedOut [])
      (if extinfo then afterBoth type ct.acct else ct.acct)
      (fun room => if ¬ extinfo then ct.acct
        else if room < counterSize then afterOrig type ct.acct else afterBoth type ct.acct) := by
    cases extinfo with
    | false => exact Emits.pure _
    | true => exact emitsFrom_dumpExtinfo env ct type
  have h := (emits_dumpIdentity env ct ct.acct).bind
    ((emits_dumpInfo env p ct flags ct.acct).bind hext)
  have hout : seqOut (fixedOut (identityAttrs env ct)) (seqOut (fixedOut (infoAttrs env p ct flags))
      (if extinfo then seqOut (fixedOut (acctAttrs env ct.acct)) (extOut env ct) else fixedOut []))
      = fillInfoOut env p ct extinfo flags := by
    rw [← seqOut_assoc, seqOut_fixed]
    rfl
  have hfail : ∀ room, seqFail (fixedOut (identityAttrs env ct)) (fun _ => ct.acct)
      (seqFail (fixedOut (infoAttrs env p ct flags)) (fun _ => ct.acct)
        (fun room => if ¬ extinfo then ct.acct
          else if room < counterSize then afterOrig type ct.acct else afterBoth type ct.acct)) room
      = takenCounters env p ct type extinfo flags room := by
    intro room
    rw [seqFail_fixed, seqFail_fixed]
    unfold takenCounters frontAttrs
    rw [attrsSize_append]
    generalize attrsSize (identityAttrs env ct) = x, attrsSize (infoAttrs env p ct flags) = y
    by_cases hx : room < x
    · simp [hx, show room < x + y by omega]
    by_cases hy : room - x < y
    · simp [hx, hy, show room < x + y by omega]
    have hxy : ¬ room < x + y := by omega
    have hcount : room - x - y < counterSize ↔ room < x + y + counterSize := by omega
    cases extinfo <;> simp [hx, hy, hxy, hcount]
  rw [hout, funext hfail] at h
  exact h

/-- One call of `ctnetlink_fill_info`. -/
structure FillCall where
  env : NlEnv
  portid : UInt32
  seq : UInt32
  type : UInt8
  p : CtPtr
  ct : NfConn
  extinfo : Bool
  flags : UInt16

namespace FillCall

variable (c : FillCall)

def exec (b : Buf) : ℤ × Option NfConnAcct × Buf :=
  ctnetlinkFillInfo c.env c.portid c.seq c.type c.p c.ct c.extinfo c.flags b

def hdr : NlMsgHdr := fillInfoHdr c.portid c.seq c.ct c.flags

/-- The message's attributes when `room` bytes of the buffer are left, if they suffice. -/
def attrs (room : ℕ) : Option (List Attr) :=
  if nlMsgHdrLen ≤ room then
    fillInfoOut c.env c.p c.ct c.extinfo c.hdr.flags (room - nlMsgHdrLen)
  else none

/-- The counters a call leaves behind when it does not fit. -/
def lostCounters (room : ℕ) : Option NfConnAcct :=
  if nlMsgHdrLen ≤ room then
    takenCounters c.env c.p c.ct c.type c.extinfo c.hdr.flags (room - nlMsgHdrLen)
  else c.ct.acct

variable {c}

/-- **A message that fits** is appended whole; the result is the buffer's new length. -/
theorem exec_fits {b : Buf} {l : List Attr} (h : c.attrs b.room = some l) :
    ∃ b', c.exec b = (b'.data.length, if c.extinfo then afterBoth c.type c.ct.acct else c.ct.acct, b') ∧
      b.Appended (nlMsgBytes c.env.endian c.hdr l) b' := by
  unfold attrs at h
  split at h
  · rename_i hroom
    exact (emits_nlMsg (emitsFrom_fillInfoBody c.env c.p c.ct c.type c.extinfo c.hdr.flags) b).1 l hroom h
  · cases h

/-- **A message that does not fit** leaves the buffer as it was. -/
theorem exec_full {b : Buf} (h : c.attrs b.room = none) : c.exec b = (-1, c.lostCounters b.room, b) := by
  obtain ⟨-, hfull, hshort⟩ :=
    emits_nlMsg (emitsFrom_fillInfoBody c.env c.p c.ct c.type c.extinfo c.hdr.flags) b
  unfold attrs at h
  unfold lostCounters
  split at h
  · rename_i hroom
    rw [if_pos hroom]
    exact hfull hroom h
  · rename_i hroom
    rw [if_neg hroom]
    exact hshort (by omega)

end FillCall

end VgwDriver
