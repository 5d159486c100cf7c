import VgwDriver.Base.Forest
import VgwDriver.Netlink.Export

/-!
# Messages are whole

Every attribute list of `Netlink/DumpSpec.lean` is sound, provided the kernel's callbacks append whole
attributes; so what `ctnetlink_fill_info` appends is one message that a reader can take apart completely.

* `NlMessage` — the bytes of one message;
* `sound_frontAttrs`, `sound_extOut` — the attributes, one fact a writer;
* `fillInfo_whole_or_nothing` — **a call appends exactly one message, or leaves the buffer as it was**.
-/

namespace VgwDriver

open Base

/-- One netlink message with the header `hdr`: the length field states the length of the whole, and behind
the two headers stands a forest of attributes. -/
structure NlMessage (e : Endian) (hdr : NlMsgHdr) (msg : Bytes) : Prop where
  length_eq : (get32 e (msg.take 4)).toNat = msg.length
  hdr_eq : (msg.take nlMsgHdrLen).drop 4 = hdr.rest e
  attrs : Forest e (msg.drop nlMsgHdrLen)

/-- The kernel's callbacks append whole attributes: a nested one with all its children. -/
structure NlEnv.WholeCallbacks (env : NlEnv) (ct : NfConn) : Prop where
  tuple : ∀ proto tupleToNlattr, env.tupleToNlattr proto = some tupleToNlattr →
    ∀ t, ∀ a ∈ tupleToNlattr t, a.WellFormed env.endian
  info : ∀ proto toNlattr, env.toNlattr proto = some toNlattr →
    ∀ destroy, ∀ a ∈ toNlattr ct destroy, a.WellFormed env.endian
  helper : ∀ h, ct.help = some (some h) → ∀ a ∈ h.toNlattr, a.WellFormed env.endian

theorem nlMessage_bytes {e : Endian} (hdr : NlMsgHdr) {l : List Attr}
    (hsize : nlMsgHdrLen + attrsSize l < 65536) (h : Sound e l) : NlMessage e hdr (nlMsgBytes e hdr l) := by
  have hmsg : nlMsgBytes e hdr l = put32 e (UInt32.ofNat (nlMsgHdrLen + attrsSize l)) ++
      (hdr.rest e ++ attrsBytes e l) := by
    rw [nlMsgBytes, List.append_assoc]
  have hlen : (UInt32.ofNat (nlMsgHdrLen + attrsSize l)).toNat = nlMsgHdrLen + attrsSize l := by
    rw [UInt32.toNat_ofNat']
    omega
  constructor
  case length_eq =>
    rw [length_nlMsgBytes, hmsg, List.take_left' (length_put32 _ _), get32_put32, hlen]
  case hdr_eq =>
    rw [hmsg, List.drop_take, List.drop_left' (length_put32 _ _)]
    exact List.take_left' (NlMsgHdr.length_rest e hdr)
  case attrs =>
    rw [drop_nlMsgBytes]
    exact forest_attrsBytes (by omega) h

/-! ### The attribute lists -/

variable {env : NlEnv} {ct : NfConn}

theorem sound_tupleAttrs (hcb : env.WholeCallbacks ct) (tuple : NfConntrackTuple) :
    Sound env.endian (tupleAttrs env tuple) := by
  have hip : Sound env.endian (tupleIpAttrs tuple) := by
    rw [tupleIpAttrs]
    split
    · exact Sound.leaves [ctaIpV4Src, ctaIpV4Dst] rfl (by decide)
    · split
      · exact Sound.leaves [ctaIpV6Src, ctaIpV6Dst] rfl (by decide)
      · exact Sound.nil _
  have hproto : Sound env.endian (tupleProtoAttrs env tuple) := by
    refine Sound.cons (Attr.sound_leaf (show ctaProtoNum &&& nestedFlag = 0 by decide)) ?_
    split
    · rename_i tupleToNlattr hf
      intro a ha
      exact (hcb.tuple _ _ hf tuple a ha).sound
    · exact Sound.nil _
  exact Sound.cons (hip.nestAttr ctaTupleIp) (Sound.single (hproto.nestAttr ctaTupleProto))

theorem sound_zoneAttrs {attrtype : UInt16} (htype : attrtype &&& nestedFlag = 0) (e : Endian)
    (zone : NfConntrackZone) (dir : UInt8) : Sound e (zoneAttrs attrtype zone dir) := by
  rw [zoneAttrs]
  split
  · exact Sound.nil _
  · exact Sound.single (Attr.sound_leaf htype)

theorem sound_identityAttrs (hcb : env.WholeCallbacks ct) : Sound env.endian (identityAttrs env ct) := by
  have hdir : ∀ tuple dir, Sound env.endian (tupleAttrs env tuple ++ zoneAttrs ctaTupleZone ct.zone dir) :=
    fun tuple dir => (sound_tupleAttrs hcb tuple).append (sound_zoneAttrs (by decide) _ ct.zone dir)
  have horig := Sound.single ((hdir ct.tupleOrig nfCtZoneDirOrig).nestAttr ctaTupleOrig)
  have hreply := Sound.single ((hdir ct.tupleReply nfCtZoneDirRepl).nestAttr ctaTupleReply)
  exact horig.append (hreply.append (sound_zoneAttrs (by decide) _ _ _))

theorem sound_secctxAttrs : Sound env.endian (secctxAttrs env ct) := by
  rw [secctxAttrs]
  split
  · exact Sound.nil _
  · have hname : ∀ secctx, Sound env.endian [nlaString ctaSecctxName secctx] := fun _ =>
      Sound.leaves [ctaSecctxName] rfl (by decide)
    exact Sound.single ((hname _).nestAttr ctaSecctx)

theorem sound_masterAttrs (hcb : env.WholeCallbacks ct) : Sound env.endian (masterAttrs env ct) := by
  rw [masterAttrs]
  split
  · exact Sound.nil _
  · exact Sound.single ((sound_tupleAttrs hcb ct.masterTuple).nestAttr ctaTupleMaster)

theorem sound_timeoutAttrs (skipZero : Bool) : Sound env.endian (timeoutAttrs env ct skipZero) := by
  rw [timeoutAttrs]
  split
  · exact Sound.nil _
  · exact Sound.leaves [ctaTimeout] rfl (by decide)

theorem sound_markAttrs (e : Endian) (dump : Bool) : Sound e (markAttrs ct dump) := by
  rw [markAttrs]
  split
  · exact Sound.nil _
  · exact Sound.leaves [ctaMark] rfl (by decide)

theorem sound_headAttrs (hcb : env.WholeCallbacks ct) (p : CtPtr) :
    Sound env.endian (headAttrs env p ct) := by
  have hleaf : ∀ (type : UInt16) (payload : Bytes), type &&& nestedFlag = 0 →
      Sound env.endian [⟨type, payload⟩] := fun _ _ h => Sound.single (Attr.sound_leaf h)
  exact (hleaf ctaStatus _ (by decide)).append ((sound_markAttrs _ _).append (sound_secctxAttrs.append
    ((hleaf ctaId _ (by decide)).append ((hleaf ctaUse _ (by decide)).append (sound_masterAttrs hcb)))))

/-- The module's own protocol information, the sequence record included. -/
theorem sound_tcpAttrs (destroy : Bool) : Sound env.endian (tcpAttrs env ct destroy) := by
  cases destroy with
  | true => exact Sound.leaves [ctaProtoinfoTcpState] rfl (by decide)
  | false =>
    exact Sound.leaves [ctaProtoinfoTcpState, ctaProtoinfoTcpWscaleOriginal, ctaProtoinfoTcpWscaleReply,
      ctaProtoinfoTcpFlagsOriginal, ctaProtoinfoTcpFlagsReply, ctaProtoinfoTcpSeqTrack] rfl (by decide)

theorem sound_protoinfoAttrs (hcb : env.WholeCallbacks ct) (destroy : Bool) (flags : UInt16) :
    Sound env.endian (protoinfoAttrs env ct destroy flags) := by
  rw [protoinfoAttrs]
  split
  · exact Sound.single
      ((Sound.single ((sound_tcpAttrs destroy).nestAttr ctaProtoinfoTcp)).nestAttr ctaProtoinfo)
  · split
    · exact Sound.nil _
    · rename_i toNlattr hf
      have hinfo : Sound env.endian (toNlattr ct destroy) := fun a ha =>
        (hcb.info _ _ hf destroy a ha).sound
      exact Sound.single (hinfo.nestAttr ctaProtoinfo)

theorem sound_frontAttrs (hcb : env.WholeCallbacks ct) (p : CtPtr) (flags : UInt16) :
    Sound env.endian (frontAttrs env p ct flags) := by
  refine (sound_identityAttrs hcb).append ((sound_headAttrs hcb p).append ?_)
  split
  · exact Sound.nil _
  · exact (sound_timeoutAttrs false).append (sound_protoinfoAttrs hcb false flags)

/-! ### The extensions -/

theorem sound_acctAttrs (acct : Option NfConnAcct) : Sound env.endian (acctAttrs env acct) := by
  have hcounter : ∀ dir c, (counterAttr env dir c).Sound env.endian := fun dir c =>
    Sound.nestAttr (Sound.leaves [ctaCountersPackets, ctaCountersBytes] rfl (by decide)) _
  cases acct with
  | none => exact Sound.nil _
  | some a => exact Sound.cons (hcounter .original _) (Sound.single (hcounter .reply _))

theorem sound_timestampAttrs : Sound env.endian (timestampAttrs env ct) := by
  rw [timestampAttrs]
  split
  · exact Sound.nil _
  · refine Sound.single (Sound.nestAttr (Sound.cons (Attr.sound_leaf
      (show ctaTimestampStart &&& nestedFlag = 0 by decide)) ?_) _)
    split
    · exact Sound.leaves [ctaTimestampStop] rfl (by decide)
    · exact Sound.nil _

/-- A helper's attributes are sound even where the end of the buffer cuts their list short. -/
theorem sound_helpOut (hcb : env.WholeCallbacks ct) :
    Out.All (fun a => a.Sound env.endian) (helpOut env ct) := by
  rw [helpOut]
  split
  · exact Out.All.fixed (Sound.nil _)
  · exact Out.All.fixed (Sound.nil _)
  · rename_i helper hhelp
    have hname : Sound env.endian [nlaString ctaHelpName helper.name] :=
      Sound.leaves [ctaHelpName] rfl (by decide)
    have hkids := (Out.All.fixed hname).seq
      (Out.All.fitting fun a ha => (hcb.helper helper hhelp a ha).sound)
    exact hkids.nestOf fun kids h => Sound.nestAttr h ctaHelp

theorem sound_labelsAttrs : Sound env.endian (labelsAttrs env ct) := by
  rw [labelsAttrs]
  split
  · exact Sound.nil _
  · split
    · exact Sound.leaves [ctaLabels] rfl (by decide)
    · exact Sound.nil _

theorem sound_ctSeqAdjAttrs : Sound env.endian (ctSeqAdjAttrs env ct) := by
  have hone : ∀ seq type, (seqAdjAttr env seq type).Sound env.endian := fun seq type =>
    Sound.nestAttr (Sound.leaves [ctaSeqadjCorrectionPos, ctaSeqadjOffsetBefore, ctaSeqadjOffsetAfter] rfl
      (by decide)) _
  rw [ctSeqAdjAttrs]
  split
  · exact Sound.nil _
  · split
    · exact Sound.nil _
    · exact Sound.cons (hone _ _) (Sound.single (hone _ _))

theorem sound_ctSynproxyAttrs : Sound env.endian (ctSynproxyAttrs env ct) := by
  rw [ctSynproxyAttrs]
  split
  · exact Sound.nil _
  · exact Sound.single (Sound.nestAttr (Sound.leaves [ctaSynproxyIsn, ctaSynproxyIts, ctaSynproxyTsoff] rfl
      (by decide)) _)

theorem sound_extOut (hcb : env.WholeCallbacks ct) :
    Out.All (fun a => a.Sound env.endian) (extOut env ct) :=
  (Out.All.fixed sound_timestampAttrs).seq ((sound_helpOut hcb).seq
    ((Out.All.fixed sound_labelsAttrs).seq ((Out.All.fixed sound_ctSeqAdjAttrs).seq
      (Out.All.fixed sound_ctSynproxyAttrs))))

theorem sound_fillInfoOut (hcb : env.WholeCallbacks ct) (p : CtPtr) (extinfo : Bool) (flags : UInt16) :
    Out.All (fun a => a.Sound env.endian) (fillInfoOut env p ct extinfo flags) := by
  refine (Out.All.fixed (sound_frontAttrs hcb p flags)).seq ?_
  split
  · exact (Out.All.fixed (sound_acctAttrs ct.acct)).seq (sound_extOut hcb)
  · exact Out.All.fixed (Sound.nil _)

/-! ### The message -/

theorem FillCall.sound_attrs {c : FillCall} (hcb : c.env.WholeCallbacks c.ct) {room : ℕ} {l : List Attr}
    (h : c.attrs room = some l) : Sound c.env.endian l := by
  rw [FillCall.attrs] at h
  split at h
  · exact sound_fillInfoOut hcb c.p c.extinfo c.hdr.flags _ l h
  · cases h

/-- **All or nothing.**  A call of `ctnetlink_fill_info` returns a positive length and has appended exactly
one message, every nested attribute of which covers exactly its children, or it returns `-1` and the buffer
is what it was. -/
theorem fillInfo_whole_or_nothing (c : FillCall) (hcb : c.env.WholeCallbacks c.ct) (b : Buf) :
    (∃ acct b' msg, c.exec b = ((b'.data.length : ℤ), acct, b') ∧ 0 < b'.data.length ∧
      b.Appended msg b' ∧ NlMessage c.env.endian c.hdr msg) ∨
    ∃ acct, c.exec b = (-1, acct, b) := by
  cases h : c.attrs b.room with
  | none => exact .inr ⟨_, FillCall.exec_full h⟩
  | some l =>
    obtain ⟨b', hrun, happ⟩ := FillCall.exec_fits h
    have hlen := happ.length_le
    have hcap := b.cap_lt
    have hpos : 0 < b'.data.length := by
      rw [happ.1, List.length_append, length_nlMsgBytes, nlMsgHdrLen]
      omega
    have hroom : b.room ≤ b.cap := Nat.sub_le _ _
    rw [length_nlMsgBytes] at hlen
    exact .inl ⟨_, b', _, hrun, hpos, happ,
      nlMessage_bytes c.hdr (by omega) (FillCall.sound_attrs hcb h)⟩

theorem sampleNlEnv_whole {ct : NfConn} (hhelp : ct.help = none) : sampleNlEnv.WholeCallbacks ct where
  tuple := by
    intro proto f hf t a ha
    obtain rfl := Option.some.inj hf
    have hmem : a = nlaBe16 ctaProtoSrcPort t.src.u ∨ a = nlaBe16 ctaProtoDstPort t.dst.u := by
      simpa using ha
    rcases hmem with rfl | rfl
    · exact fun hflag => absurd (show ctaProtoSrcPort &&& nestedFlag = 0 by decide) hflag
    · exact fun hflag => absurd (show ctaProtoDstPort &&& nestedFlag = 0 by decide) hflag
  info := by
    intro proto f hf destroy a ha
    by_cases hp : proto = ipprotoTcp
    · simp only [sampleNlEnv, hp, if_true, Option.some.injEq] at hf
      subst hf
      rw [List.mem_singleton.mp ha]
      have hkids : Sound .little (nlaU8 ctaProtoinfoTcpState ct.tcp.state.code ::
          if destroy then [] else (tcpStockAttrs ct).drop 1) := by
        cases destroy with
        | true => exact Sound.leaves [ctaProtoinfoTcpState] rfl (by decide)
        | false =>
          exact Sound.leaves [ctaProtoinfoTcpState, ctaProtoinfoTcpWscaleOriginal, ctaProtoinfoTcpWscaleReply,
            ctaProtoinfoTcpFlagsOriginal, ctaProtoinfoTcpFlagsReply] rfl (by decide)
      refine hkids.nestAttr ctaProtoinfoTcp ?_
      show attrHdrLen + (attrsBytes .little _).length < 65536
      rw [length_attrsBytes]
      cases destroy <;> simp [tcpStockAttrs, nlaU8, nlaTcpFlags, Attr.len, attrHdrLen, align4]
    · have hnone : sampleNlEnv.toNlattr proto = none := if_neg hp
      rw [hnone] at hf
      cases hf
  helper := by
    intro h hh
    rw [hhelp] at hh
    cases hh

/-- A dump with a filter, and a buffer that holds another message's bytes already. -/
def sampleDump : FillCall :=
  (FillSource.dumpTable (some (zoneFilter 100))).call sampleNlEnv 1 1 ipctnlMsgCtGet 0
    (sampleConn (sampleTcp .established 1000 2000 1003))

def usedBuf : Buf := ⟨[1, 2, 3, 4], 300, by decide, by decide⟩

theorem fillInfo_whole_or_nothing_sample :
    (∃ acct b' msg, sampleDump.exec usedBuf = ((b'.data.length : ℤ), acct, b') ∧ 0 < b'.data.length ∧
      usedBuf.Appended msg b' ∧ NlMessage sampleDump.env.endian sampleDump.hdr msg) ∨
    ∃ acct, sampleDump.exec usedBuf = (-1, acct, usedBuf) :=
  fillInfo_whole_or_nothing sampleDump (sampleNlEnv_whole rfl) usedBuf

end VgwDriver
