import VgwDriver.Base.Bytes

/-!
# The ones' complement sum of a byte string

The checksum of the internet protocols: the 16-bit words of the data are added, carries are folded back in,
and the complement is stored in a word that was zero in the sum.  A receiver adds all words up, and takes the
data if the folded sum has all bits set.

* `wordSum` — the sum of the words, and `onesFold`, its value with the carries folded in;
* `onesFold_carry` — folding carries once does not change that value;
* `validSum_complement` — **a stored complement is taken by every receiver**.
-/

namespace VgwDriver.Base

/-- The sum of the 16-bit words of a byte string; a last byte on its own is a word with a zero byte. -/
def wordSum : Bytes → ℕ
  | [] => 0
  | [a] => a.toNat * 256
  | a :: b :: bs => a.toNat * 256 + b.toNat + wordSum bs

theorem wordSum_append {as : Bytes} (h : as.length % 2 = 0) (bs : Bytes) :
    wordSum (as ++ bs) = wordSum as + wordSum bs := by
  fun_induction wordSum as with
  | case1 => simp
  | case2 a => simp at h
  | case3 a b as ih =>
    have hlen : as.length % 2 = 0 := by
      simp only [List.length_cons] at h
      omega
    rw [List.cons_append, List.cons_append, wordSum, ih hlen, ← Nat.add_assoc]

theorem wordSum_le (bs : Bytes) : wordSum bs ≤ 65535 * ((bs.length + 1) / 2) := by
  fun_induction wordSum bs with
  | case1 => simp
  | case2 a =>
    have ha := a.toNat_lt
    rw [List.length_singleton]
    omega
  | case3 a b bs ih =>
    have ha := a.toNat_lt
    have hb := b.toNat_lt
    simp only [List.length_cons]
    omega

theorem wordSum_put16 (x : UInt16) : wordSum (put16 .big x) = x.toNat := by
  have hx := x.toNat_lt
  have hlow : (UInt8.ofNat x.toNat).toNat = x.toNat % 256 := UInt8.toNat_ofNat'
  have hhigh : (UInt8.ofNat (x.toNat / 256)).toNat = x.toNat / 256 % 256 := UInt8.toNat_ofNat'
  show wordSum [UInt8.ofNat (x.toNat / 256), UInt8.ofNat x.toNat] = x.toNat
  rw [wordSum, wordSum, hlow, hhigh]
  omega

/-- **Storing a word** adds it to the sum, if its two bytes were zero. -/
theorem wordSum_store {as : Bytes} (h : as.length % 2 = 0) (x : UInt16) (bs : Bytes) :
    wordSum (as ++ put16 .big x ++ bs) = wordSum (as ++ [0, 0] ++ bs) + x.toNat := by
  have hlen : ∀ y : Bytes, y.length = 2 → (as ++ y).length % 2 = 0 := by
    intro y hy
    rw [List.length_append, hy]
    omega
  rw [wordSum_append (hlen _ (length_put16 .big x)), wordSum_append (hlen [0, 0] rfl), wordSum_append h,
    wordSum_append h, wordSum_put16]
  show _ = wordSum as + 0 + _ + _
  omega

/-- A sum with all its carries folded in: the 16-bit number it is congruent to, zero only if the sum is. -/
def onesFold (n : ℕ) : ℕ := if n = 0 then 0 else (n - 1) % 65535 + 1

theorem onesFold_le (n : ℕ) : onesFold n ≤ 65535 := by
  rw [onesFold]
  split <;> omega

theorem onesFold_of_le {n : ℕ} (h : n ≤ 65535) : onesFold n = n := by
  rw [onesFold]
  split <;> omega

/-- **Folding the carries in once** keeps the value. -/
theorem onesFold_carry (n : ℕ) : onesFold (n / 65536 + n % 65536) = onesFold n := by
  rw [onesFold, onesFold]
  split <;> split <;> omega

/-- The sum of data and stored complement folds to all ones. -/
theorem onesFold_complement (n : ℕ) : onesFold (n + (65535 - onesFold n)) = 65535 := by
  have hle := onesFold_le n
  have hfold : onesFold n = if n = 0 then 0 else (n - 1) % 65535 + 1 := rfl
  rw [onesFold]
  split at hfold <;> split <;> omega

/-- What a receiver checks, with the sum `csum` of what is not part of the data. -/
def validSum (csum : ℕ) (data : Bytes) : Bool := onesFold (csum + wordSum data) = 65535

/-- **A stored complement is taken**: the sum was made with zero in its place. -/
theorem validSum_complement {as : Bytes} (h : as.length % 2 = 0) (bs : Bytes) (csum : ℕ) {x : UInt16}
    (hx : x.toNat = 65535 - onesFold (csum + wordSum (as ++ [0, 0] ++ bs))) :
    validSum csum (as ++ put16 .big x ++ bs) = true := by
  rw [validSum, decide_eq_true_eq, wordSum_store h, ← Nat.add_assoc, hx]
  exact onesFold_complement _

end VgwDriver.Base
