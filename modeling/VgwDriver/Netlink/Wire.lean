import VgwDriver.Base.Sink
import VgwDriver.Conntrack

/-!
# The netlink wire format

The constants of the conntrack netlink protocol, the `nla_put_*` payloads, and the message header that
`nfnl_msg_put` writes.  The module is built for x86-64, where 64-bit attributes need no padding.

* `nlMsgOut` — a message of a given header and attribute output;
* `emits_nlMsg` — a message is written whole, or the buffer is what it was.
-/

namespace VgwDriver

open Base

/-! ### Constants -/

def ctaTupleOrig : UInt16 := 1
def ctaTupleReply : UInt16 := 2
def ctaStatus : UInt16 := 3
def ctaProtoinfo : UInt16 := 4
def ctaHelp : UInt16 := 5
def ctaTimeout : UInt16 := 7
def ctaMark : UInt16 := 8
def ctaCountersOrig : UInt16 := 9
def ctaCountersReply : UInt16 := 10
def ctaUse : UInt16 := 11
def ctaId : UInt16 := 12
def ctaTupleMaster : UInt16 := 14
def ctaSeqAdjOrig : UInt16 := 15
def ctaSeqAdjReply : UInt16 := 16
def ctaZone : UInt16 := 18
def ctaSecctx : UInt16 := 19
def ctaTimestamp : UInt16 := 20
def ctaMarkMask : UInt16 := 21
def ctaLabels : UInt16 := 22
def ctaSynproxy : UInt16 := 24
def ctaFilter : UInt16 := 25
def ctaStatusMask : UInt16 := 26
/-- `CTA_MAX`. -/
def ctaMax : UInt16 := 26

def ctaTupleIp : UInt16 := 1
def ctaTupleProto : UInt16 := 2
def ctaTupleZone : UInt16 := 3

def ctaIpV4Src : UInt16 := 1
def ctaIpV4Dst : UInt16 := 2
def ctaIpV6Src : UInt16 := 3
def ctaIpV6Dst : UInt16 := 4

def ctaProtoNum : UInt16 := 1

def ctaProtoinfoTcp : UInt16 := 1
def ctaProtoinfoTcpState : UInt16 := 1
def ctaProtoinfoTcpWscaleOriginal : UInt16 := 2
def ctaProtoinfoTcpWscaleReply : UInt16 := 3
def ctaProtoinfoTcpFlagsOriginal : UInt16 := 4
def ctaProtoinfoTcpFlagsReply : UInt16 := 5
/-- `__CTA_PROTOINFO_TCP_MAX`, one past the last type of the stock kernel. -/
def ctaProtoinfoTcpSeqTrack : UInt16 := 6

def ctaCountersPackets : UInt16 := 1
def ctaCountersBytes : UInt16 := 2
def ctaTimestampStart : UInt16 := 1
def ctaTimestampStop : UInt16 := 2
def ctaHelpName : UInt16 := 1
def ctaSecctxName : UInt16 := 1
def ctaSeqadjCorrectionPos : UInt16 := 1
def ctaSeqadjOffsetBefore : UInt16 := 2
def ctaSeqadjOffsetAfter : UInt16 := 3
def ctaSynproxyIsn : UInt16 := 1
def ctaSynproxyIts : UInt16 := 2
def ctaSynproxyTsoff : UInt16 := 3

def ipctnlMsgCtNew : UInt8 := 0
def ipctnlMsgCtGet : UInt8 := 1
def ipctnlMsgCtDelete : UInt8 := 2
def ipctnlMsgCtGetCtrzero : UInt8 := 3

def nlmFMulti : UInt16 := 0x0002
def nlmFDumpFiltered : UInt16 := 0x0020
def nlmFExcl : UInt16 := 0x0200
def nlmFCreate : UInt16 := 0x0400

/-! ### Payloads -/

def nlaU8 (type : UInt16) (x : UInt8) : Attr := ⟨type, [x]⟩
def nlaBe16 (type x : UInt16) : Attr := ⟨type, put16 .big x⟩
def nlaBe32 (type : UInt16) (x : UInt32) : Attr := ⟨type, put32 .big x⟩
def nlaBe64 (type : UInt16) (x : UInt64) : Attr := ⟨type, put64 .big x⟩
/-- `nla_put_string`, terminating zero included. -/
def nlaString (type : UInt16) (s : Bytes) : Attr := ⟨type, s ++ [0]⟩

@[simp] theorem nlaU8_len (type : UInt16) (x : UInt8) : align4 (nlaU8 type x).len = 8 := by
  simp [nlaU8, Attr.len, attrHdrLen, align4]
@[simp] theorem nlaBe16_len (type x : UInt16) : align4 (nlaBe16 type x).len = 8 := by
  simp [nlaBe16, Attr.len, attrHdrLen, align4]
@[simp] theorem nlaBe32_len (type : UInt16) (x : UInt32) : align4 (nlaBe32 type x).len = 8 := by
  simp [nlaBe32, Attr.len, attrHdrLen, align4]
@[simp] theorem nlaBe64_len (type : UInt16) (x : UInt64) : align4 (nlaBe64 type x).len = 12 := by
  simp [nlaBe64, Attr.len, attrHdrLen, align4]

/-! ### Messages -/

/-- The fields of `struct nlmsghdr` and `struct nfgenmsg` that `nfnl_msg_put` sets. -/
structure NlMsgHdr where
  type : UInt16
  flags : UInt16
  seq : UInt32
  portid : UInt32
  family : UInt8
  version : UInt8
  resId : UInt16
  deriving DecidableEq, Repr

/-- `NFNL_SUBSYS_CTNETLINK`, and `nfnl_msg_type`. -/
def nfnlSubsysCtnetlink : UInt8 := 1
def nfnlMsgType (subsys msg : UInt8) : UInt16 := subsys.toUInt16 <<< 8 ||| msg.toUInt16

/-- The part of the two headers behind the length field. -/
def NlMsgHdr.rest (e : Endian) (hdr : NlMsgHdr) : Bytes :=
  put16 e hdr.type ++ put16 e hdr.flags ++ put32 e hdr.seq ++ put32 e hdr.portid
    ++ [hdr.family, hdr.version] ++ put16 .big hdr.resId

/-- `sizeof(struct nlmsghdr) + sizeof(struct nfgenmsg)`. -/
def nlMsgHdrLen : ℕ := 20

@[simp] theorem NlMsgHdr.length_rest (e : Endian) (hdr : NlMsgHdr) : (hdr.rest e).length = 16 := by
  simp [NlMsgHdr.rest]

/-- A message with the attributes `l`. -/
def nlMsgBytes (e : Endian) (hdr : NlMsgHdr) (l : List Attr) : Bytes :=
  put32 e (UInt32.ofNat (nlMsgHdrLen + attrsSize l)) ++ hdr.rest e ++ attrsBytes e l

@[simp] theorem length_nlMsgBytes (e : Endian) (hdr : NlMsgHdr) (l : List Attr) :
    (nlMsgBytes e hdr l).length = nlMsgHdrLen + attrsSize l := by
  simp only [nlMsgBytes, List.length_append, length_put32, NlMsgHdr.length_rest, length_attrsBytes,
    nlMsgHdrLen]

/-- Write a message: `nfnl_msg_put`, the body, and `nlmsg_end`, or `nlmsg_cancel` on a failure.  The
result is the new length of the buffer, or `-1`. -/
def nlMsg {σ : Type} (e : Endian) (hdr : NlMsgHdr) (body : Writer ℤ σ Unit) (s : σ) (b : Buf) :
    ℤ × σ × Buf :=
  match putBytes (-1) (put32 e (UInt32.ofNat nlMsgHdrLen) ++ hdr.rest e) (s, b) with
  | (.error _, s, b) => (-1, s, b)
  | (.ok (), s, b₁) =>
    match body (s, b₁) with
    | (.error _, s, b₂) => (-1, s, b₂.trim b.data.length)
    | (.ok (), s, b₂) =>
      let b₃ := b₂.patch b.data.length (put32 e (UInt32.ofNat (b₂.data.length - b.data.length)))
      (b₃.data.length, s, b₃)

/-- **A message is written whole or not at all.** -/
theorem emits_nlMsg {σ : Type} {e : Endian} {hdr : NlMsgHdr} {body : Writer ℤ σ Unit} {s s' : σ}
    {out : Out} {fail : ℕ → σ} (hbody : EmitsFrom e body s out s' fail) (b : Buf) :
    (∀ l, nlMsgHdrLen ≤ b.room → out (b.room - nlMsgHdrLen) = some l →
      ∃ b', nlMsg e hdr body s b = (b'.data.length, s', b') ∧ b.Appended (nlMsgBytes e hdr l) b') ∧
    (nlMsgHdrLen ≤ b.room → out (b.room - nlMsgHdrLen) = none →
      nlMsg e hdr body s b = (-1, fail (b.room - nlMsgHdrLen), b)) ∧
    (b.room < nlMsgHdrLen → nlMsg e hdr body s b = (-1, s, b)) := by
  have hhdr : (put32 e (UInt32.ofNat nlMsgHdrLen) ++ hdr.rest e).length = nlMsgHdrLen := by
    simp [nlMsgHdrLen]
  by_cases hroom : nlMsgHdrLen ≤ b.room
  · have hle : (put32 e (UInt32.ofNat nlMsgHdrLen) ++ hdr.rest e).length ≤ b.room := by omega
    have happ₁ := b.appended_append _ hle
    have hput : putBytes (-1 : ℤ) (put32 e (UInt32.ofNat nlMsgHdrLen) ++ hdr.rest e) (s, b)
        = (.ok (), s, b.append _ hle) := by
      simp only [putBytes, hle, dite_true]
    have hb := hbody (b.append _ hle)
    rw [happ₁.room, hhdr] at hb
    refine ⟨fun l _ hl => ?_, fun _ hl => ?_, fun h => by omega⟩
    · obtain ⟨b₂, hrun, happ₂⟩ := hb.1 l hl
      have happ := happ₁.trans happ₂
      have hlen : b₂.data.length - b.data.length = nlMsgHdrLen + attrsSize l := by
        rw [happ.1]
        simp only [List.length_append, length_attrsBytes, length_put32, NlMsgHdr.length_rest,
          nlMsgHdrLen]
        omega
      have hpatch := Buf.Appended.patchLen (put32 e (UInt32.ofNat (nlMsgHdrLen + attrsSize l)))
        (by simp) happ
      refine ⟨_, ?_, hpatch⟩
      simp only [nlMsg, hput, hrun, hlen]
    · obtain ⟨x, b₂, hrun, hext⟩ := hb.2 hl
      simp only [nlMsg, hput, hrun, Buf.trim_of_extends (happ₁.extends.trans hext)]
  · refine ⟨fun l h => by omega, fun h => by omega, fun _ => ?_⟩
    have hnot : ¬ (put32 e (UInt32.ofNat nlMsgHdrLen) ++ hdr.rest e).length ≤ b.room := by omega
    simp only [nlMsg, putBytes, hnot, dite_false]

end VgwDriver
