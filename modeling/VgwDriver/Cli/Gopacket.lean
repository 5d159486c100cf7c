import Mathlib.Data.List.Basic
import VgwDriver.Base.InetSum
import VgwDriver.Base.Sink

/-!
# Building a packet

The layers of the vendored `gopacket` that `SendTcpReset` fills in: `Ethernet`, `IPv4` and `TCP`, with their
`SerializeTo`.  Options are left out, because the command sets none.  A layer is given what it wraps and
returns it with its header in front.

* `Ethernet.serializeTo`, `IPv4.serializeTo`, `TCP.serializeTo` — the layers as bytes, lengths and checksums
  included;
* `decodeEthernet`, `decodeIPv4`, `decodeTCP` — a frame as a host reads it, which drops what has a wrong
  length or a wrong checksum;
* `decodeEthernet_serializeTo`, `decodeIPv4_serializeTo`, `decodeTCP_serializeTo` — **a host reads back the
  fields** of every layer.
-/

namespace VgwDriver

open Base

/-! ### Checksums -/

/-- The loop over the words of the data: the sum is an `uint32`. -/
def addWords (csum : UInt32) : Bytes → UInt32
  | [] => csum
  | [a] => csum + a.toUInt32 <<< 8
  | a :: b :: data => addWords (csum + a.toUInt32 <<< 8 + b.toUInt32) data

/-- The loop that adds the carries, for as many rounds. -/
def addCarries : ℕ → UInt32 → UInt32
  | 0, csum => csum
  | rounds + 1, csum => if csum ≤ 65535 then csum else addCarries rounds ((csum >>> 16) + (csum &&& 0xffff))

/-- `tcpipChecksum`, and `checksum` of an IPv4 header with `csum` zero: two rounds add all carries. -/
def tcpipChecksum (data : Bytes) (csum : UInt32) : UInt16 := ~~~(addCarries 2 (addWords csum data)).toUInt16

theorem addWords_toNat {csum : UInt32} {data : Bytes} (h : csum.toNat + wordSum data < 2 ^ 32) :
    (addWords csum data).toNat = csum.toNat + wordSum data := by
  have hword : ∀ a : UInt8, (a.toUInt32 <<< 8).toNat = a.toNat * 256 := by
    intro a
    have ha := a.toNat_lt
    rw [UInt32.toNat_shiftLeft, UInt8.toNat_toUInt32, Nat.shiftLeft_eq]
    exact Nat.mod_eq_of_lt (by show a.toNat * 256 < 2 ^ 32; omega)
  fun_induction addWords csum data with
  | case1 csum => rfl
  | case2 csum a =>
    rw [wordSum] at h ⊢
    rw [UInt32.toNat_add, hword]
    exact Nat.mod_eq_of_lt h
  | case3 csum a b data ih =>
    rw [wordSum] at h ⊢
    have hcsum : (csum + a.toUInt32 <<< 8 + b.toUInt32).toNat = csum.toNat + a.toNat * 256 + b.toNat := by
      rw [UInt32.toNat_add, UInt32.toNat_add, hword, UInt8.toNat_toUInt32]
      omega
    rw [ih (by omega), hcsum]
    omega

/-- **Two rounds add all carries** of 32 bits. -/
theorem addCarries_toNat (csum : UInt32) : (addCarries 2 csum).toNat = onesFold csum.toNat := by
  have hround : ∀ x : UInt32, ((x >>> 16) + (x &&& 0xffff)).toNat = x.toNat / 65536 + x.toNat % 65536 := by
    intro x
    have hx := x.toNat_lt
    have hmask : (x &&& 0xffff).toNat = x.toNat % 65536 := by
      rw [UInt32.toNat_and]
      exact Nat.and_two_pow_sub_one_eq_mod x.toNat 16
    have hshift : (x >>> 16).toNat = x.toNat / 65536 := by
      rw [UInt32.toNat_shiftRight, Nat.shiftRight_eq_div_pow]
      rfl
    rw [UInt32.toNat_add, hmask, hshift]
    omega
  have hsmall : ∀ x : UInt32, x ≤ 65535 ↔ x.toNat ≤ 65535 := fun x => UInt32.le_iff_toNat_le
  have hcsum := csum.toNat_lt
  rw [addCarries]
  split
  · next h => rw [onesFold_of_le ((hsmall _).mp h)]
  · rw [addCarries, ← onesFold_carry csum.toNat]
    split
    · next h =>
      have hle := (hsmall _).mp h
      rw [hround] at hle ⊢
      rw [onesFold_of_le hle]
    · rw [addCarries, hround, hround, ← onesFold_carry (csum.toNat / 65536 + csum.toNat % 65536)]
      exact (onesFold_of_le (by omega)).symm

/-- **What the checksum is**: the complement of the folded sum. -/
theorem tcpipChecksum_toNat {data : Bytes} {csum : UInt32} (h : csum.toNat + wordSum data < 2 ^ 32) :
    (tcpipChecksum data csum).toNat = 65535 - onesFold (csum.toNat + wordSum data) := by
  have hle := onesFold_le (csum.toNat + wordSum data)
  have hfold : (addCarries 2 (addWords csum data)).toUInt16.toNat = onesFold (csum.toNat + wordSum data) := by
    rw [UInt32.toNat_toUInt16, addCarries_toNat, addWords_toNat h]
    exact Nat.mod_eq_of_lt (by omega)
  rw [tcpipChecksum, UInt16.toNat_not, hfold, UInt16.size]

/-! ### The layers -/

/-- `gopacket.SerializeOptions`. -/
structure SerializeOptions where
  fixLengths : Bool
  computeChecksums : Bool
  deriving DecidableEq, Repr

/-- Why a layer cannot be serialized. -/
inductive SerializeError where
  | invalidDstMAC (mac : Bytes)
  | invalidSrcMAC (mac : Bytes)
  | typeNotCompatible (ethernetType length : UInt16)
  | invalidEthernetLength (length : UInt16)
  | invalidSourceAddress (addr : Bytes)
  | invalidDestinationAddress (addr : Bytes)
  deriving DecidableEq, Repr

abbrev Serialize := Except SerializeError

def ethernetTypeLLC : UInt16 := 0
def ethernetTypeIPv4 : UInt16 := 0x0800
def ipProtocolTCP : UInt8 := 6

/-- `layers.Ethernet`. -/
structure Ethernet where
  srcMAC : Bytes
  dstMAC : Bytes
  ethernetType : UInt16
  length : UInt16 := 0
  deriving DecidableEq, Repr

/-- `Ethernet.SerializeTo`: the frame is padded to 60 bytes. -/
def Ethernet.serializeTo (eth : Ethernet) (payload : Bytes) (opts : SerializeOptions) : Serialize Bytes := do
  if eth.dstMAC.length ≠ 6 then throw (.invalidDstMAC eth.dstMAC)
  if eth.srcMAC.length ≠ 6 then throw (.invalidSrcMAC eth.srcMAC)
  let field ←
    if eth.length ≠ 0 ∨ eth.ethernetType = ethernetTypeLLC then
      let length := if opts.fixLengths then UInt16.ofNat payload.length else eth.length
      if eth.ethernetType ≠ ethernetTypeLLC then throw (.typeNotCompatible eth.ethernetType length)
      else if 0x0600 < length then throw (.invalidEthernetLength length)
      else pure length
    else pure eth.ethernetType
  let frame := eth.dstMAC ++ eth.srcMAC ++ put16 .big field ++ payload
  pure (frame ++ List.replicate (60 - frame.length) 0)

/-- `layers.IPv4`, without options. -/
structure IPv4 where
  version : UInt8 := 0
  ihl : UInt8 := 0
  tos : UInt8 := 0
  length : UInt16 := 0
  id : UInt16 := 0
  flags : UInt8 := 0
  fragOffset : UInt16 := 0
  ttl : UInt8 := 0
  protocol : UInt8 := 0
  checksum : UInt16 := 0
  srcIP : Bytes
  dstIP : Bytes
  deriving DecidableEq, Repr

def IPv4.flagsfrags (ip : IPv4) : UInt16 := ip.flags.toUInt16 <<< 13 ||| ip.fragOffset

/-- `net.IP.To4`. -/
def to4 (addr : Bytes) : Option Bytes :=
  if addr.length = 4 then some addr
  else if addr.length = 16 ∧ addr.take 12 = List.replicate 10 0 ++ [0xff, 0xff] then some (addr.drop 12)
  else none

/-- `IPv4.AddressTo4`. -/
def IPv4.addressTo4 (ip : IPv4) : Serialize IPv4 :=
  match to4 ip.srcIP, to4 ip.dstIP with
  | none, _ => throw (.invalidSourceAddress ip.srcIP)
  | _, none => throw (.invalidDestinationAddress ip.dstIP)
  | some src, some dst => pure { ip with srcIP := src, dstIP := dst }

/-- The twenty bytes of the header. -/
def IPv4.header (ip : IPv4) : Bytes :=
  [ip.version <<< 4 ||| ip.ihl, ip.tos] ++ put16 .big ip.length ++ put16 .big ip.id ++
    put16 .big ip.flagsfrags ++ [ip.ttl, ip.protocol] ++ put16 .big ip.checksum ++ (ip.srcIP ++ ip.dstIP)

/-- `IPv4.SerializeTo`. -/
def IPv4.serializeTo (ip : IPv4) (payload : Bytes) (opts : SerializeOptions) : Serialize Bytes := do
  let fixed :=
    if opts.fixLengths then { ip with ihl := 5, length := UInt16.ofNat (20 + payload.length) } else ip
  let ip ← fixed.addressTo4
  let csum := if opts.computeChecksums then tcpipChecksum { ip with checksum := 0 }.header 0 else ip.checksum
  pure ({ ip with checksum := csum }.header ++ payload)

/-- `layers.TCP`, without options. -/
structure TCP where
  srcPort : UInt16
  dstPort : UInt16
  seq : UInt32
  ack : UInt32
  dataOffset : UInt8 := 0
  FIN : Bool
  SYN : Bool
  RST : Bool
  PSH : Bool
  ACK : Bool
  URG : Bool
  ECE : Bool
  CWR : Bool
  NS : Bool
  window : UInt16 := 0
  checksum : UInt16 := 0
  urgent : UInt16
  deriving DecidableEq, Repr

/-- A flag's bit, if the flag is set. -/
def flagBit (flag : Bool) (bit : UInt16) : UInt16 := if flag then bit else 0

def TCP.flagsAndOffset (t : TCP) : UInt16 :=
  t.dataOffset.toUInt16 <<< 12 ||| flagBit t.FIN 0x0001 ||| flagBit t.SYN 0x0002 ||| flagBit t.RST 0x0004 |||
    flagBit t.PSH 0x0008 ||| flagBit t.ACK 0x0010 ||| flagBit t.URG 0x0020 ||| flagBit t.ECE 0x0040 |||
    flagBit t.CWR 0x0080 ||| flagBit t.NS 0x0100

/-- The twenty bytes of the header. -/
def TCP.header (t : TCP) : Bytes :=
  put16 .big t.srcPort ++ put16 .big t.dstPort ++ put32 .big t.seq ++ put32 .big t.ack ++
    put16 .big t.flagsAndOffset ++ put16 .big t.window ++ put16 .big t.checksum ++ put16 .big t.urgent

/-- `pseudoheaderChecksum`, of addresses of four bytes. -/
def IPv4.pseudoheaderChecksum (ip : IPv4) : UInt32 :=
  let src := fun i => (ip.srcIP.getD i 0).toUInt32
  let dst := fun i => (ip.dstIP.getD i 0).toUInt32
  ((src 0 + src 2) <<< 8) + (src 1 + src 3) + ((dst 0 + dst 2) <<< 8) + (dst 1 + dst 3)

/-- `computeChecksum`. -/
def IPv4.computeChecksum (ip : IPv4) (headerAndPayload : Bytes) (headerProtocol : UInt8) : UInt16 :=
  let length : UInt32 := UInt32.ofNat headerAndPayload.length
  tcpipChecksum headerAndPayload
    (ip.pseudoheaderChecksum + headerProtocol.toUInt32 + (length &&& (0xffff : UInt32)) + (length >>> 16))

/-- `TCP.SerializeTo`, where `ip` is the network layer for the checksum. -/
def TCP.serializeTo (t : TCP) (ip : IPv4) (payload : Bytes) (opts : SerializeOptions) : Serialize Bytes := do
  let t := if opts.fixLengths then { t with dataOffset := 5 } else t
  if opts.computeChecksums then
    let ip ← ip.addressTo4
    let csum := ip.computeChecksum ({ t with checksum := 0 }.header ++ payload) ipProtocolTCP
    pure ({ t with checksum := csum }.header ++ payload)
  else pure (t.header ++ payload)

/-! ### A host -/

/-- The fields of an Ethernet frame with an IPv4 packet: destination, source, and the rest. -/
def decodeEthernet (b : Bytes) : Option (Bytes × Bytes × Bytes) :=
  if 14 ≤ b.length ∧ get16 .big ((b.drop 12).take 2) = 0x0800 then
    some (b.take 6, (b.drop 6).take 6, b.drop 14)
  else none

/-- Source, destination and segment of an IPv4 packet with TCP, whole and with a right checksum. -/
def decodeIPv4 (b : Bytes) : Option (Bytes × Bytes × Bytes) :=
  let versionIhl := (b.getD 0 0).toNat
  let headerLen := 4 * (versionIhl % 16)
  let len := (get16 .big ((b.drop 2).take 2)).toNat
  if 20 ≤ b.length ∧ versionIhl / 16 = 4 ∧ 20 ≤ headerLen ∧ headerLen ≤ len ∧ len ≤ b.length ∧
      get16 .big ((b.drop 6).take 2) &&& 0x3fff = 0 ∧ b.getD 9 0 = 6 ∧ validSum 0 (b.take headerLen) then
    some ((b.drop 12).take 4, (b.drop 16).take 4, (b.take len).drop headerLen)
  else none

/-- The header of a TCP segment between two addresses, if its checksum is right. -/
def decodeTCP (src dst b : Bytes) : Option TCP :=
  let word := get16 .big ((b.drop 12).take 2)
  let headerLen := 4 * (word >>> 12).toNat
  if 20 ≤ b.length ∧ 20 ≤ headerLen ∧ headerLen ≤ b.length ∧
      validSum (wordSum (src ++ dst) + 6 + b.length) b then
    some
      { srcPort := get16 .big (b.take 2)
        dstPort := get16 .big ((b.drop 2).take 2)
        seq := get32 .big ((b.drop 4).take 4)
        ack := get32 .big ((b.drop 8).take 4)
        dataOffset := (word >>> 12).toUInt8
        FIN := word &&& 0x0001 ≠ 0
        SYN := word &&& 0x0002 ≠ 0
        RST := word &&& 0x0004 ≠ 0
        PSH := word &&& 0x0008 ≠ 0
        ACK := word &&& 0x0010 ≠ 0
        URG := word &&& 0x0020 ≠ 0
        ECE := word &&& 0x0040 ≠ 0
        CWR := word &&& 0x0080 ≠ 0
        NS := word &&& 0x0100 ≠ 0
        window := get16 .big ((b.drop 14).take 2)
        checksum := get16 .big ((b.drop 16).take 2)
        urgent := get16 .big ((b.drop 18).take 2) }
  else none

theorem IPv4.addressTo4_self {ip : IPv4} (hsrc : ip.srcIP.length = 4) (hdst : ip.dstIP.length = 4) :
    ip.addressTo4 = .ok ip := by
  rw [addressTo4, to4, to4, if_pos hsrc, if_pos hdst]
  rfl

/-- The pseudo header's sum. -/
theorem IPv4.pseudoheaderChecksum_toNat {ip : IPv4} (hsrc : ip.srcIP.length = 4) (hdst : ip.dstIP.length = 4) :
    ip.pseudoheaderChecksum.toNat = wordSum (ip.srcIP ++ ip.dstIP) := by
  obtain ⟨s₀, s₁, s₂, s₃, hs⟩ := List.length_eq_four.mp hsrc
  obtain ⟨d₀, d₁, d₂, d₃, hd⟩ := List.length_eq_four.mp hdst
  have hshift : ∀ a b : UInt8, ((a.toUInt32 + b.toUInt32) <<< 8).toNat = (a.toNat + b.toNat) * 256 := by
    intro a b
    have ha := a.toNat_lt
    have hb := b.toNat_lt
    rw [UInt32.toNat_shiftLeft, UInt32.toNat_add, UInt8.toNat_toUInt32, UInt8.toNat_toUInt32, Nat.shiftLeft_eq]
    show (a.toNat + b.toNat) % 2 ^ 32 * 2 ^ 8 % 2 ^ 32 = _
    omega
  have hadd : ∀ a b : UInt8, (a.toUInt32 + b.toUInt32).toNat = a.toNat + b.toNat := by
    intro a b
    have ha := a.toNat_lt
    have hb := b.toNat_lt
    rw [UInt32.toNat_add, UInt8.toNat_toUInt32, UInt8.toNat_toUInt32]
    omega
  have hlt : ∀ a : UInt8, a.toNat < 256 := fun a => a.toNat_lt
  have := hlt s₀; have := hlt s₁; have := hlt s₂; have := hlt s₃
  have := hlt d₀; have := hlt d₁; have := hlt d₂; have := hlt d₃
  rw [pseudoheaderChecksum, hs, hd]
  show ((s₀.toUInt32 + s₂.toUInt32) <<< 8 + (s₁.toUInt32 + s₃.toUInt32) + (d₀.toUInt32 + d₂.toUInt32) <<< 8
    + (d₁.toUInt32 + d₃.toUInt32)).toNat = wordSum [s₀, s₁, s₂, s₃, d₀, d₁, d₂, d₃]
  simp only [UInt32.toNat_add _ (_ + _), UInt32.toNat_add _ (_ <<< _), hshift, hadd, wordSum]
  omega

/-- **A host reads the flags back.** -/
theorem TCP.flagsAndOffset_decode {t : TCP} (h : t.dataOffset = 5) :
    t.flagsAndOffset >>> 12 = 5 ∧ decide (t.flagsAndOffset &&& 0x0001 ≠ 0) = t.FIN ∧
      decide (t.flagsAndOffset &&& 0x0002 ≠ 0) = t.SYN ∧ decide (t.flagsAndOffset &&& 0x0004 ≠ 0) = t.RST ∧
      decide (t.flagsAndOffset &&& 0x0008 ≠ 0) = t.PSH ∧ decide (t.flagsAndOffset &&& 0x0010 ≠ 0) = t.ACK ∧
      decide (t.flagsAndOffset &&& 0x0020 ≠ 0) = t.URG ∧ decide (t.flagsAndOffset &&& 0x0040 ≠ 0) = t.ECE ∧
      decide (t.flagsAndOffset &&& 0x0080 ≠ 0) = t.CWR ∧ decide (t.flagsAndOffset &&& 0x0100 ≠ 0) = t.NS := by
  have hall : ∀ FIN SYN RST PSH ACK URG ECE CWR NS : Bool,
      let word := (5 : UInt8).toUInt16 <<< 12 ||| flagBit FIN 0x0001 ||| flagBit SYN 0x0002 |||
        flagBit RST 0x0004 ||| flagBit PSH 0x0008 ||| flagBit ACK 0x0010 ||| flagBit URG 0x0020 |||
        flagBit ECE 0x0040 ||| flagBit CWR 0x0080 ||| flagBit NS 0x0100
      word >>> 12 = 5 ∧ decide (word &&& 0x0001 ≠ 0) = FIN ∧ decide (word &&& 0x0002 ≠ 0) = SYN ∧
        decide (word &&& 0x0004 ≠ 0) = RST ∧ decide (word &&& 0x0008 ≠ 0) = PSH ∧
        decide (word &&& 0x0010 ≠ 0) = ACK ∧ decide (word &&& 0x0020 ≠ 0) = URG ∧
        decide (word &&& 0x0040 ≠ 0) = ECE ∧ decide (word &&& 0x0080 ≠ 0) = CWR ∧
        decide (word &&& 0x0100 ≠ 0) = NS := by decide +kernel
  rw [flagsAndOffset, h]
  exact hall ..

/-- The checksum of a segment that is not too long for a packet. -/
theorem IPv4.computeChecksum_toNat {ip : IPv4} (hsrc : ip.srcIP.length = 4) (hdst : ip.dstIP.length = 4)
    {b : Bytes} (hlen : b.length < 65536) :
    (ip.computeChecksum b ipProtocolTCP).toNat =
      65535 - onesFold (wordSum (ip.srcIP ++ ip.dstIP) + 6 + b.length + wordSum b) := by
  have haddrs := wordSum_le (ip.srcIP ++ ip.dstIP)
  rw [List.length_append, hsrc, hdst] at haddrs
  have hwords := wordSum_le b
  have hsize : (UInt32.ofNat b.length).toNat = b.length := by
    rw [UInt32.toNat_ofNat']
    omega
  have hlow : (UInt32.ofNat b.length &&& (0xffff : UInt32)).toNat = b.length := by
    rw [UInt32.toNat_and, hsize]
    exact (Nat.and_two_pow_sub_one_eq_mod b.length 16).trans (Nat.mod_eq_of_lt hlen)
  have hhigh : (UInt32.ofNat b.length >>> 16).toNat = 0 := by
    rw [UInt32.toNat_shiftRight, hsize, Nat.shiftRight_eq_div_pow]
    exact Nat.div_eq_of_lt hlen
  have hcsum : (ip.pseudoheaderChecksum + ipProtocolTCP.toUInt32 + (UInt32.ofNat b.length &&& (0xffff : UInt32)) +
      UInt32.ofNat b.length >>> 16).toNat = wordSum (ip.srcIP ++ ip.dstIP) + 6 + b.length := by
    rw [UInt32.toNat_add, UInt32.toNat_add, UInt32.toNat_add, hlow, hhigh,
      pseudoheaderChecksum_toNat hsrc hdst]
    show ((_ + 6) % _ + _) % _ % _ = _
    omega
  rw [computeChecksum, tcpipChecksum_toNat (by rw [hcsum]; omega), hcsum]

/-- The command's options. -/
def fixAll : SerializeOptions := ⟨true, true⟩

/-- **A host reads back a segment**: the header is as the fields say. -/
theorem decodeTCP_serializeTo (t : TCP) {ip : IPv4} (hsrc : ip.srcIP.length = 4) (hdst : ip.dstIP.length = 4)
    {payload : Bytes} (hlen : payload.length < 65516) :
    ∃ b checksum, t.serializeTo ip payload fixAll = .ok b ∧ b.length = 20 + payload.length ∧
      decodeTCP ip.srcIP ip.dstIP b = some { t with dataOffset := 5, checksum := checksum } := by
  let sent : UInt16 → TCP := fun checksum => { t with dataOffset := 5, checksum := checksum }
  let csum := ip.computeChecksum ((sent 0).header ++ payload) ipProtocolTCP
  have hb : t.serializeTo ip payload fixAll = .ok ((sent csum).header ++ payload) := by
    show (ip.addressTo4 >>= fun ip => _) = _
    rw [IPv4.addressTo4_self hsrc hdst]
    rfl
  have hsentLen : ∀ x, ((sent x).header ++ payload).length = 20 + payload.length := by
    intro x
    rw [List.length_append]
    rfl
  let front := put16 .big t.srcPort ++ put16 .big t.dstPort ++ put32 .big t.seq ++ put32 .big t.ack ++
    put16 .big (sent 0).flagsAndOffset ++ put16 .big t.window
  have hfront : front.length % 2 = 0 := by simp [front]
  have hsplit : ∀ x, (sent x).header ++ payload = front ++ put16 .big x ++ (put16 .big t.urgent ++ payload) :=
    fun x => List.append_assoc _ _ _
  -- the checksum was made with zero in its own place
  have hvalid : validSum (wordSum (ip.srcIP ++ ip.dstIP) + 6 + ((sent csum).header ++ payload).length)
      ((sent csum).header ++ payload) = true := by
    have hlen₀ := hsentLen 0
    have hx := IPv4.computeChecksum_toNat hsrc hdst (b := (sent 0).header ++ payload) (by omega)
    rw [hsplit, ← hsplit 0, hsplit] at hx
    rw [hsentLen, hsplit, ← hsentLen 0]
    exact validSum_complement hfront _ _ hx
  have hwords : get16 .big (((sent csum).header ++ payload).take 2) = t.srcPort ∧
      get16 .big ((((sent csum).header ++ payload).drop 2).take 2) = t.dstPort ∧
      get16 .big ((((sent csum).header ++ payload).drop 12).take 2) = (sent csum).flagsAndOffset ∧
      get16 .big ((((sent csum).header ++ payload).drop 14).take 2) = t.window ∧
      get16 .big ((((sent csum).header ++ payload).drop 16).take 2) = csum ∧
      get16 .big ((((sent csum).header ++ payload).drop 18).take 2) = t.urgent :=
    ⟨get16_put16 _ _, get16_put16 _ _, get16_put16 _ _, get16_put16 _ _, get16_put16 _ _, get16_put16 _ _⟩
  have hnums : get32 .big ((((sent csum).header ++ payload).drop 4).take 4) = t.seq ∧
      get32 .big ((((sent csum).header ++ payload).drop 8).take 4) = t.ack :=
    ⟨get32_put32 _ _, get32_put32 _ _⟩
  obtain ⟨hsport, hdport, hword, hwindow, hchecksum, hurgent⟩ := hwords
  obtain ⟨hoffset, hFIN, hSYN, hRST, hPSH, hACK, hURG, hECE, hCWR, hNS⟩ :=
    TCP.flagsAndOffset_decode (t := sent csum) rfl
  have hlong : 4 * (5 : UInt16).toNat ≤ ((sent csum).header ++ payload).length := by
    rw [hsentLen]
    exact Nat.le_add_right 20 _
  refine ⟨_, csum, hb, hsentLen csum, ?_⟩
  rw [decodeTCP, hword, hoffset, if_pos ⟨hlong, by decide, hlong, hvalid⟩, hFIN, hSYN, hRST, hPSH, hACK, hURG,
    hECE, hCWR, hNS, hsport, hdport, hnums.1, hnums.2, hwindow, hchecksum, hurgent]
  rfl

/-- **A host reads back a packet**, whatever follows it. -/
theorem decodeIPv4_serializeTo {ip : IPv4} (hsrc : ip.srcIP.length = 4) (hdst : ip.dstIP.length = 4)
    (hversion : ip.version = 4) (hprotocol : ip.protocol = ipProtocolTCP)
    (hwhole : ip.flagsfrags &&& 0x3fff = 0) {payload : Bytes} (hlen : payload.length < 65516) :
    ∃ b, ip.serializeTo payload fixAll = .ok b ∧
      ∀ trailer, decodeIPv4 (b ++ trailer) = some (ip.srcIP, ip.dstIP, payload) := by
  let sent : UInt16 → IPv4 := fun checksum =>
    { ip with ihl := 5, length := UInt16.ofNat (20 + payload.length), checksum := checksum }
  let csum := tcpipChecksum (sent 0).header 0
  have hb : ip.serializeTo payload fixAll = .ok ((sent csum).header ++ payload) := by
    show ((sent ip.checksum).addressTo4 >>= fun ip => _) = _
    rw [@IPv4.addressTo4_self (sent ip.checksum) hsrc hdst]
    rfl
  let front := [ip.version <<< 4 ||| 5, ip.tos] ++ put16 .big (sent 0).length ++ put16 .big ip.id ++
    put16 .big ip.flagsfrags ++ [ip.ttl, ip.protocol]
  have hfront : front.length % 2 = 0 := by simp [front]
  have hsplit : ∀ x, (sent x).header = front ++ put16 .big x ++ (ip.srcIP ++ ip.dstIP) := fun _ => rfl
  have hheaderLen : ∀ x, (sent x).header.length = 20 := by
    intro x
    simp [hsplit, front, hsrc, hdst]
  have hlength : (sent csum).length.toNat = 20 + payload.length := by
    show (UInt16.ofNat _).toNat = _
    rw [UInt16.toNat_ofNat']
    exact Nat.mod_eq_of_lt (by omega)
  -- the checksum was made with zero in its own place
  have hvalid : validSum 0 (sent csum).header = true := by
    have hwords := wordSum_le (sent 0).header
    rw [hheaderLen] at hwords
    have hx : csum.toNat = 65535 - onesFold (0 + wordSum (sent 0).header) :=
      tcpipChecksum_toNat (by show 0 + _ < _; omega)
    rw [hsplit] at hx ⊢
    exact validSum_complement hfront _ 0 hx
  refine ⟨_, hb, fun trailer => ?_⟩
  let b := (sent csum).header ++ payload ++ trailer
  have hblen : b.length = 20 + payload.length + trailer.length := by
    rw [List.length_append, List.length_append, hheaderLen]
  have hfirst : (b.getD 0 0).toNat = 0x45 := by
    show (ip.version <<< 4 ||| 5).toNat = 0x45
    rw [hversion]
    rfl
  have hlen₁ : get16 .big ((b.drop 2).take 2) = (sent csum).length := get16_put16 _ _
  have hfrag : get16 .big ((b.drop 6).take 2) = ip.flagsfrags := get16_put16 _ _
  have hproto : b.getD 9 0 = 6 := hprotocol
  have hheader : b.take 20 = (sent csum).header := by
    rw [show b = (sent csum).header ++ (payload ++ trailer) from List.append_assoc _ _ _]
    exact List.take_left' (hheaderLen csum)
  have hsegment : (b.take (20 + payload.length)).drop 20 = payload := by
    have htake : b.take (20 + payload.length) = (sent csum).header ++ payload :=
      List.take_left' (by rw [List.length_append, hheaderLen])
    rw [htake]
    exact List.drop_left' (hheaderLen csum)
  have haddrs : b = (front ++ put16 .big csum) ++ (ip.srcIP ++ (ip.dstIP ++ (payload ++ trailer))) := by
    simp [b, hsplit]
  have hprefix : (front ++ put16 .big csum).length = 12 := by simp [front]
  have hsource : (b.drop 12).take 4 = ip.srcIP := by
    rw [haddrs, List.drop_left' hprefix]
    exact List.take_left' hsrc
  have hdest : (b.drop 16).take 4 = ip.dstIP := by
    rw [haddrs, ← List.append_assoc, List.drop_left' (by rw [List.length_append, hprefix, hsrc])]
    exact List.take_left' hdst
  show decodeIPv4 b = _
  rw [decodeIPv4, hfirst, hlen₁, hlength, hfrag, hproto, hsource, hdest]
  have hsum : validSum 0 (b.take (4 * (0x45 % 16))) = true := by
    show validSum 0 (b.take 20) = true
    rw [hheader, hvalid]
  rw [if_pos ⟨by omega, by decide, by decide, by omega, by omega, hwhole, rfl, hsum⟩]
  show some (_, _, (b.take (20 + payload.length)).drop 20) = _
  rw [hsegment]

/-- **A host reads back a frame**, with its padding. -/
theorem decodeEthernet_serializeTo {eth : Ethernet} (hsrc : eth.srcMAC.length = 6) (hdst : eth.dstMAC.length = 6)
    (htype : eth.ethernetType = ethernetTypeIPv4) (hlength : eth.length = 0) (payload : Bytes) :
    ∃ b trailer, eth.serializeTo payload fixAll = .ok b ∧
      decodeEthernet b = some (eth.dstMAC, eth.srcMAC, payload ++ trailer) := by
  let frame := eth.dstMAC ++ eth.srcMAC ++ put16 .big eth.ethernetType ++ payload
  let trailer : Bytes := List.replicate (60 - frame.length) 0
  have hb : eth.serializeTo payload fixAll = .ok (frame ++ trailer) := by
    have hfield : ¬ (eth.length ≠ 0 ∨ eth.ethernetType = ethernetTypeLLC) := by
      rw [hlength, htype]
      decide
    rw [Ethernet.serializeTo, if_neg (not_not.mpr hdst), if_neg (not_not.mpr hsrc), if_neg hfield]
    rfl
  have hmacs : (eth.dstMAC ++ eth.srcMAC).length = 12 := by rw [List.length_append, hdst, hsrc]
  have hheader : (eth.dstMAC ++ eth.srcMAC ++ put16 .big eth.ethernetType).length = 14 := by
    rw [List.length_append, hmacs, length_put16]
  have hframe : frame ++ trailer = eth.dstMAC ++ eth.srcMAC ++ put16 .big eth.ethernetType ++ (payload ++ trailer) :=
    List.append_assoc _ _ _
  refine ⟨_, trailer, hb, ?_⟩
  have htypeField : get16 .big (((frame ++ trailer).drop 12).take 2) = 0x0800 := by
    rw [hframe, List.append_assoc, List.drop_left' hmacs, List.take_left' (length_put16 _ _), get16_put16, htype]
    rfl
  have hdstField : (frame ++ trailer).take 6 = eth.dstMAC := by
    rw [hframe, List.append_assoc, List.append_assoc]
    exact List.take_left' hdst
  have hsrcField : ((frame ++ trailer).drop 6).take 6 = eth.srcMAC := by
    rw [hframe, List.append_assoc, List.append_assoc, List.drop_left' hdst]
    exact List.take_left' hsrc
  have hrest : (frame ++ trailer).drop 14 = payload ++ trailer := by
    rw [hframe]
    exact List.drop_left' hheader
  have hlong : 14 ≤ (frame ++ trailer).length := by
    rw [hframe, List.length_append, hheader]
    exact Nat.le_add_right 14 _
  rw [decodeEthernet, if_pos ⟨hlong, htypeField⟩, hdstField, hsrcField, hrest]

end VgwDriver
