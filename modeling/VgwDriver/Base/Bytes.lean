import Mathlib.Algebra.Order.BigOperators.Ring.Finset

/-!
# Fixed-width words as byte strings

The two byte orders a machine word can be laid out in, and the round trip between a word and its
bytes.  Everything is stated on `ℕ` first (`leBytes`, `leNat`) and then instantiated at the widths a
wire format uses.

* `leNat_leBytes` — reading back `k` little-endian bytes gives the value modulo `256 ^ k`;
* `Endian.nat_bytes`, `Endian.bytes_nat` — the same in either byte order, and its inverse;
* `get16_put16`, `get32_put32`, `get64_put64` — the word codecs are exact inverses.
-/

namespace VgwDriver.Base

/-- A byte string. -/
abbrev Bytes := List UInt8

/-- What holds of the 256 values holds of every byte. -/
theorem forall_byte {P : UInt8 → Prop} (h : ∀ n : Fin 256, P (UInt8.ofFin n)) (x : UInt8) : P x := h x.toFin

/-- A flag that has been set is set. -/
theorem or_and_flag (x flag : UInt16) : (x ||| flag) &&& flag = flag := by
  apply UInt16.toBitVec_inj.mp
  ext i
  simp only [UInt16.toBitVec_and, UInt16.toBitVec_or, BitVec.getElem_and, BitVec.getElem_or]
  cases flag.toBitVec[i] <;> simp

/-- The `k` low-order bytes of `v`, least significant byte first. -/
def leBytes : ℕ → ℕ → Bytes
  | 0, _ => []
  | k + 1, v => UInt8.ofNat v :: leBytes k (v / 256)

/-- The number a little-endian byte string denotes. -/
def leNat : Bytes → ℕ
  | [] => 0
  | b :: bs => b.toNat + 256 * leNat bs

@[simp] theorem length_leBytes (k v : ℕ) : (leBytes k v).length = k := by
  induction k generalizing v with
  | zero => rfl
  | succ k ih => simp [leBytes, ih]

/-- **Little-endian round trip.** -/
theorem leNat_leBytes (k v : ℕ) : leNat (leBytes k v) = v % 256 ^ k := by
  induction k generalizing v with
  | zero => simp [leBytes, leNat, Nat.mod_one]
  | succ k ih =>
    rw [leBytes, leNat, ih, Nat.pow_succ', Nat.mod_mul]
    rw [show (UInt8.ofNat v).toNat = v % 256 from UInt8.toNat_ofNat']

/-- **The other way round**: a byte string is the bytes of the number it denotes. -/
theorem leBytes_leNat (bs : Bytes) : leBytes bs.length (leNat bs) = bs := by
  induction bs with
  | nil => rfl
  | cons b bs ih =>
    have hb : b.toNat < 256 := b.toNat_lt
    have hdiv : (b.toNat + 256 * leNat bs) / 256 = leNat bs := by omega
    have hlow : UInt8.ofNat (b.toNat + 256 * leNat bs) = b := by
      rw [← UInt8.toNat_inj, UInt8.toNat_ofNat']
      omega
    rw [List.length_cons, leNat, leBytes, hdiv, hlow, ih]

theorem leNat_lt (bs : Bytes) : leNat bs < 256 ^ bs.length := by
  induction bs with
  | nil => exact Nat.one_pos
  | cons b bs ih =>
    have hb : b.toNat < 256 := b.toNat_lt
    rw [List.length_cons, leNat, Nat.pow_succ']
    omega

/-- The byte order of a word. -/
inductive Endian where
  | little
  | big
  deriving DecidableEq, Repr

/-- `v` as `k` bytes in byte order `e`. -/
def Endian.bytes (e : Endian) (k v : ℕ) : Bytes :=
  match e with
  | .little => leBytes k v
  | .big => (leBytes k v).reverse

/-- The number a byte string denotes in byte order `e`. -/
def Endian.nat (e : Endian) (bs : Bytes) : ℕ :=
  match e with
  | .little => leNat bs
  | .big => leNat bs.reverse

@[simp] theorem Endian.length_bytes (e : Endian) (k v : ℕ) : (e.bytes k v).length = k := by
  cases e <;> simp [Endian.bytes]

/-- **Round trip in either byte order.** -/
theorem Endian.nat_bytes (e : Endian) (k v : ℕ) : e.nat (e.bytes k v) = v % 256 ^ k := by
  cases e <;> simp [Endian.nat, Endian.bytes, leNat_leBytes]

theorem Endian.bytes_nat (e : Endian) (bs : Bytes) : e.bytes bs.length (e.nat bs) = bs := by
  cases e with
  | little => exact leBytes_leNat bs
  | big =>
    have h := leBytes_leNat bs.reverse
    rw [List.length_reverse] at h
    rw [Endian.bytes, Endian.nat, h, List.reverse_reverse]

theorem Endian.nat_lt (e : Endian) (bs : Bytes) : e.nat bs < 256 ^ bs.length := by
  cases e with
  | little => exact leNat_lt bs
  | big =>
    have h := leNat_lt bs.reverse
    rwa [List.length_reverse] at h

/-! ### The word codecs -/

def put16 (e : Endian) (x : UInt16) : Bytes := e.bytes 2 x.toNat
def put32 (e : Endian) (x : UInt32) : Bytes := e.bytes 4 x.toNat
def put64 (e : Endian) (x : UInt64) : Bytes := e.bytes 8 x.toNat

def get16 (e : Endian) (bs : Bytes) : UInt16 := UInt16.ofNat (e.nat bs)
def get32 (e : Endian) (bs : Bytes) : UInt32 := UInt32.ofNat (e.nat bs)
def get64 (e : Endian) (bs : Bytes) : UInt64 := UInt64.ofNat (e.nat bs)

@[simp] theorem length_put16 (e : Endian) (x : UInt16) : (put16 e x).length = 2 := by simp [put16]
@[simp] theorem length_put32 (e : Endian) (x : UInt32) : (put32 e x).length = 4 := by simp [put32]
@[simp] theorem length_put64 (e : Endian) (x : UInt64) : (put64 e x).length = 8 := by simp [put64]

@[simp] theorem get16_put16 (e : Endian) (x : UInt16) : get16 e (put16 e x) = x := by
  have hlt : x.toNat < 256 ^ 2 := x.toNat_lt
  rw [get16, put16, Endian.nat_bytes, Nat.mod_eq_of_lt hlt, UInt16.ofNat_toNat]

@[simp] theorem get32_put32 (e : Endian) (x : UInt32) : get32 e (put32 e x) = x := by
  have hlt : x.toNat < 256 ^ 4 := x.toNat_lt
  rw [get32, put32, Endian.nat_bytes, Nat.mod_eq_of_lt hlt, UInt32.ofNat_toNat]

@[simp] theorem get64_put64 (e : Endian) (x : UInt64) : get64 e (put64 e x) = x := by
  have hlt : x.toNat < 256 ^ 8 := x.toNat_lt
  rw [get64, put64, Endian.nat_bytes, Nat.mod_eq_of_lt hlt, UInt64.ofNat_toNat]

/-- Four bytes are the bytes of the word they denote. -/
theorem put32_get32 (e : Endian) {bs : Bytes} (h : bs.length = 4) : put32 e (get32 e bs) = bs := by
  have hlt := e.nat_lt bs
  rw [h] at hlt
  have hnat : (get32 e bs).toNat = e.nat bs := by
    rw [get32, UInt32.toNat_ofNat']
    exact Nat.mod_eq_of_lt hlt
  have hbytes := e.bytes_nat bs
  rwa [h, ← hnat] at hbytes

/-- Two bytes are the bytes of the word they denote. -/
theorem put16_get16 (e : Endian) {bs : Bytes} (h : bs.length = 2) : put16 e (get16 e bs) = bs := by
  have hlt := e.nat_lt bs
  rw [h] at hlt
  have hnat : (get16 e bs).toNat = e.nat bs := by
    rw [get16, UInt16.toNat_ofNat']
    exact Nat.mod_eq_of_lt hlt
  have hbytes := e.bytes_nat bs
  rwa [h, ← hnat] at hbytes

/-- Four bytes are the same if they denote the same word, in whichever byte order. -/
theorem get32_inj (e : Endian) {as bs : Bytes} (ha : as.length = 4) (hb : bs.length = 4) :
    get32 e as = get32 e bs ↔ as = bs := by
  constructor
  · intro h
    rw [← put32_get32 e ha, h, put32_get32 e hb]
  · exact congrArg (get32 e)

end VgwDriver.Base
