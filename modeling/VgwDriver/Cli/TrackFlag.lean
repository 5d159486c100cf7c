import VgwDriver.Cli.AttributeDecoder
import VgwDriver.Tracker

/-!
# Changing the tracker's flags

`vgwctl ct track-flag` reads the module parameter `tcptrack_flags`, changes the bits that its options name, and
writes the result back.  `readVal` answers 0 when it cannot read the parameter, or makes no number of it.

* `runCmdCtTrackFlag` — the command, on the outcome of reading the parameter;
* `readVal_paramGetUint` — a parameter that can be read is read as it is;
* `setFlags_testBit` — **what the options do to every bit**, and `switches_setFlags` to the module's switches;
* `trackFlagsKept_iff` — the command keeps every bit nobody named exactly if it could read the parameter, or
  has nothing to change.
-/

namespace VgwDriver

open Base

/-! ### Numbers as text -/

/-- `unicode.IsSpace`. -/
def goIsSpace (c : Char) : Bool :=
  c.toNat ∈ [9, 10, 11, 12, 13, 32, 0x85, 0xa0, 0x1680, 0x2028, 0x2029, 0x202f, 0x205f, 0x3000] ||
    (0x2000 ≤ c.toNat && c.toNat ≤ 0x200a)

/-- `strings.TrimSpace`. -/
def goTrimSpace (s : List Char) : List Char :=
  ((s.dropWhile goIsSpace).reverse.dropWhile goIsSpace).reverse

/-- The sign of a number, and its digits. -/
def goSign (s : List Char) : Bool × List Char :=
  match s with
  | '-' :: digits => (true, digits)
  | '+' :: digits => (false, digits)
  | digits => (false, digits)

/-- `strconv.Atoi`, where `int` has 64 bits; `none` is a syntax or a range error. -/
def goAtoi (s : List Char) : Option ℤ :=
  let (neg, digits) := goSign s
  if digits.isEmpty || !digits.all Char.isDigit then none
  else
    let n := Nat.ofDigitChars 10 digits 0
    if neg then if n ≤ 2 ^ 63 then some (-n) else none
    else if n < 2 ^ 63 then some n else none

/-- `param_get_uint`: what the kernel answers when the parameter's file is read. -/
def paramGetUint (v : UInt32) : List Char := Nat.toDigits 10 v.toNat ++ ['\n']

/-! ### The command -/

/-- What `ioutil.ReadFile` returns: the text of the file, or an error. -/
abbrev SysfsText := Except ℤ (List Char)

/-- `readVal`. -/
def readVal (text : SysfsText) : UInt32 :=
  match text with
  | .error _ => 0
  | .ok v =>
    match goAtoi (goTrimSpace v) with
    | none => 0
    | some v1 => goUint32 v1

def enableTcpTrack : UInt32 := 0x01
def enableZoneFilter : UInt32 := 0x02
def enableExportTcpTrack : UInt32 := 0x04
def enableDumpPkt : UInt32 := 0x08

/-- `setFlag`. -/
def setFlag (dest : UInt32) (val : ℤ) (mask : UInt32) : UInt32 :=
  if val = 1 then dest ||| mask else if val = 0 then dest &&& ~~~mask else dest

/-- The options `tcp-track`, `zone-filter`, `export-tcp-track` and `dump-pkt`. -/
structure TrackFlagOptions where
  tcpTrack : ℤ
  zoneFilter : ℤ
  exportTcpTrack : ℤ
  dumpPkt : ℤ
  deriving DecidableEq, Repr

/-- No option is given, and the command shows the flags. -/
def TrackFlagOptions.show (o : TrackFlagOptions) : Bool :=
  o.tcpTrack = -1 && o.zoneFilter = -1 && o.exportTcpTrack = -1 && o.dumpPkt = -1

/-- The value with the options' bits changed. -/
def TrackFlagOptions.setFlags (o : TrackFlagOptions) (val : UInt32) : UInt32 :=
  setFlag (setFlag (setFlag (setFlag val o.tcpTrack enableTcpTrack) o.zoneFilter enableZoneFilter)
    o.exportTcpTrack enableExportTcpTrack) o.dumpPkt enableDumpPkt

/-- `runCmdCtTrackFlag` up to its write, on what reading the parameter gave: the value it hands to `writeVal`,
or nothing where it shows the flags. -/
def runCmdCtTrackFlag (text : SysfsText) (o : TrackFlagOptions) : Option UInt32 :=
  if o.show then none else some (o.setFlags (readVal text))

/-- What reading the parameter can give while its value is `flags`: its value, an error, or a text that is no
number. -/
inductive SysfsRead (flags : UInt32) : SysfsText → Prop
  | success : SysfsRead flags (.ok (paramGetUint flags))
  | ioError (err : ℤ) : SysfsRead flags (.error err)
  | unparsable (text : List Char) (h : goAtoi (goTrimSpace text) = none) : SysfsRead flags (.ok text)

/-- What an option asks for. -/
def requestedFlag (val : ℤ) : Option Bool :=
  if val = 1 then some true else if val = 0 then some false else none

/-- What the options ask of the bit `i`. -/
def TrackFlagOptions.requested (o : TrackFlagOptions) (i : ℕ) : Option Bool :=
  match i with
  | 0 => requestedFlag o.tcpTrack
  | 1 => requestedFlag o.zoneFilter
  | 2 => requestedFlag o.exportTcpTrack
  | 3 => requestedFlag o.dumpPkt
  | _ => none

/-- If anything is written, the value could be read, and every bit of what is written is as an option asks,
or as it was. -/
def TrackFlagsKept (flags : UInt32) (text : SysfsText) (o : TrackFlagOptions) : Prop :=
  ∀ val, runCmdCtTrackFlag text o = some val →
    text = .ok (paramGetUint flags) ∧
      ∀ i, val.toNat.testBit i = (o.requested i).getD (flags.toNat.testBit i)

/-! ### Reading -/

theorem goTrimSpace_newline {s : List Char} (h : ∀ c ∈ s, goIsSpace c = false) :
    goTrimSpace (s ++ ['\n']) = s := by
  have hend : goIsSpace '\n' = true := by decide
  cases s with
  | nil => decide
  | cons c s =>
    have hfirst : ((c :: s) ++ ['\n']).dropWhile goIsSpace = (c :: s) ++ ['\n'] :=
      List.dropWhile_cons_of_neg (by rw [h c List.mem_cons_self]; exact Bool.false_ne_true)
    have hlast : (c :: s).reverse.dropWhile goIsSpace = (c :: s).reverse := by
      cases hrev : (c :: s).reverse with
      | nil => rfl
      | cons d l =>
        have hd : d ∈ c :: s := List.mem_reverse.mp (by rw [hrev]; exact List.mem_cons_self)
        exact List.dropWhile_cons_of_neg (by rw [h d hd]; exact Bool.false_ne_true)
    rw [goTrimSpace, hfirst, List.reverse_append, List.reverse_singleton, List.singleton_append,
      List.dropWhile_cons_of_pos hend, hlast, List.reverse_reverse]

theorem goIsSpace_digit {c : Char} (h : c.isDigit = true) : goIsSpace c = false := by
  have hrange : 48 ≤ c.toNat ∧ c.toNat ≤ 57 := by
    simpa [Char.isDigit, UInt32.le_iff_toNat_le] using h
  simp only [goIsSpace, List.mem_cons, List.not_mem_nil, or_false, Bool.or_eq_false_iff,
    decide_eq_false_iff_not, Bool.and_eq_false_iff]
  omega

theorem goSign_digit {c : Char} (h : c.isDigit = true) (s : List Char) : goSign (c :: s) = (false, c :: s) := by
  rw [goSign]
  · intro digits heq
    obtain ⟨rfl, -⟩ := List.cons.inj heq
    exact absurd h (by decide)
  · intro digits heq
    obtain ⟨rfl, -⟩ := List.cons.inj heq
    exact absurd h (by decide)

theorem goAtoi_toDigits {n : ℕ} (hn : n < 2 ^ 63) : goAtoi (Nat.toDigits 10 n) = some (n : ℤ) := by
  have hall : ∀ c ∈ Nat.toDigits 10 n, c.isDigit = true := fun c hc =>
    Nat.isDigit_of_mem_toDigits (by decide) (by decide) hc
  have hsign : goSign (Nat.toDigits 10 n) = (false, Nat.toDigits 10 n) := by
    cases hdigits : Nat.toDigits 10 n with
    | nil => exact absurd hdigits Nat.toDigits_ne_nil
    | cons c s => exact goSign_digit (hall c (by rw [hdigits]; exact List.mem_cons_self)) s
  have hempty : (Nat.toDigits 10 n).isEmpty = false := by
    rw [List.isEmpty_eq_false_iff]
    exact Nat.toDigits_ne_nil
  have hdigits : (Nat.toDigits 10 n).all Char.isDigit = true := List.all_eq_true.mpr hall
  rw [goAtoi, hsign]
  simp only [hempty, hdigits, Nat.ofDigitChars_ten_toDigits, if_pos hn, Bool.not_true, Bool.or_self,
    Bool.false_eq_true, if_false]

/-- **A parameter that can be read is read as it is.** -/
theorem readVal_paramGetUint (v : UInt32) : readVal (.ok (paramGetUint v)) = v := by
  have hdigits : ∀ c ∈ Nat.toDigits 10 v.toNat, goIsSpace c = false := fun c hc =>
    goIsSpace_digit (Nat.isDigit_of_mem_toDigits (by decide) (by decide) hc)
  have hlt := v.toNat_lt
  have hval : goUint32 v.toNat = v := by
    have hmod : ((v.toNat : ℤ) % 4294967296).toNat = v.toNat := by omega
    rw [goUint32, hmod, UInt32.ofNat_toNat]
  simp only [readVal, paramGetUint, goTrimSpace_newline hdigits,
    goAtoi_toDigits (show v.toNat < 2 ^ 63 by omega), hval]

/-! ### The bits -/

/-- `setFlag` changes the bits of its mask, as it is asked. -/
theorem setFlag_testBit (dest mask : UInt32) (val : ℤ) (i : ℕ) :
    (setFlag dest val mask).toNat.testBit i =
      if mask.toNat.testBit i then (requestedFlag val).getD (dest.toNat.testBit i) else dest.toNat.testBit i := by
  rw [setFlag, requestedFlag]
  split
  · rw [UInt32.toNat_or, Nat.testBit_or]
    cases mask.toNat.testBit i <;> simp
  · split
    · have hnot : (~~~mask).toNat.testBit i = (decide (i < 32) && !mask.toNat.testBit i) := by
        have hsize : (~~~mask).toNat = 2 ^ 32 - (mask.toNat + 1) := by
          rw [UInt32.toNat_not, UInt32.size]
          omega
        rw [hsize]
        exact Nat.testBit_two_pow_sub_succ mask.toNat_lt i
      rw [UInt32.toNat_and, Nat.testBit_and, hnot]
      by_cases hi : i < 32
      · cases mask.toNat.testBit i <;> simp [hi]
      · have hhigh : ∀ x : UInt32, x.toNat.testBit i = false := fun x =>
          Nat.testBit_lt_two_pow (Nat.lt_of_lt_of_le x.toNat_lt (Nat.pow_le_pow_right (by decide) (by omega)))
        simp [hhigh]
    · simp

/-- **What the options do to every bit**: those that ask for 0 or 1 set theirs, and no other bit changes. -/
theorem setFlags_testBit (o : TrackFlagOptions) (val : UInt32) (i : ℕ) :
    (o.setFlags val).toNat.testBit i = (o.requested i).getD (val.toNat.testBit i) := by
  have hbit : ∀ (k : ℕ), (2 ^ k).testBit i = decide (k = i) := fun k => Nat.testBit_two_pow ..
  have hmasks : enableTcpTrack.toNat = 2 ^ 0 ∧ enableZoneFilter.toNat = 2 ^ 1 ∧
      enableExportTcpTrack.toNat = 2 ^ 2 ∧ enableDumpPkt.toNat = 2 ^ 3 := by decide
  obtain ⟨h₀, h₁, h₂, h₃⟩ := hmasks
  rw [TrackFlagOptions.setFlags, setFlag_testBit, setFlag_testBit, setFlag_testBit, setFlag_testBit, h₀, h₁, h₂,
    h₃, hbit, hbit, hbit, hbit]
  match i with
  | 0 => rfl
  | 1 => rfl
  | 2 => rfl
  | 3 => rfl
  | i + 4 => simp [TrackFlagOptions.requested]

/-- **The command keeps what nobody named** exactly if it could read the parameter, or has nothing to
change. -/
theorem trackFlagsKept_iff {flags : UInt32} {text : SysfsText} (h : SysfsRead flags text)
    (o : TrackFlagOptions) :
    TrackFlagsKept flags text o ↔ text = .ok (paramGetUint flags) ∨ o.show = true := by
  constructor
  · intro hkept
    cases hshow : o.show with
    | true => exact Or.inr rfl
    | false =>
      have hrun : runCmdCtTrackFlag text o = some (o.setFlags (readVal text)) := by
        rw [runCmdCtTrackFlag, hshow]
        rfl
      exact Or.inl (hkept _ hrun).1
  · rintro (rfl | hshow)
    · intro val hval
      refine ⟨rfl, fun i => ?_⟩
      rw [runCmdCtTrackFlag] at hval
      split at hval
      · cases hval
      · rw [← Option.some.inj hval, readVal_paramGetUint, setFlags_testBit]
    · intro val hval
      rw [runCmdCtTrackFlag, if_pos hshow] at hval
      cases hval

/-- A switch of the module is a bit of its flags. -/
theorem and_mask_ne_zero {flags mask : UInt32} {k : ℕ} (h : mask.toNat = 2 ^ k) :
    decide (flags &&& mask ≠ 0) = flags.toNat.testBit k := by
  have hzero : flags &&& mask = 0 ↔ flags.toNat.testBit k = false := by
    rw [← UInt32.toNat_inj, UInt32.toNat_and, h]
    constructor
    · intro hand
      have hbit := congrArg (Nat.testBit · k) hand
      simpa [Nat.testBit_two_pow_self] using hbit
    · intro hbit
      apply Nat.eq_of_testBit_eq
      intro i
      by_cases hi : k = i
      · simp [← hi, hbit]
      · simp [hi]
  cases hbit : flags.toNat.testBit k with
  | false => simpa using hzero.mpr hbit
  | true =>
    refine decide_eq_true fun heq => ?_
    rw [hzero.mp heq] at hbit
    cases hbit

/-- **The module's switches** stay as they were unless their options are given as 0 or 1. -/
theorem switches_setFlags (o : TrackFlagOptions) (flags : UInt32) :
    isEnableTcpTrack (o.setFlags flags) = (requestedFlag o.tcpTrack).getD (isEnableTcpTrack flags) ∧
      isEnableZoneFilter (o.setFlags flags) = (requestedFlag o.zoneFilter).getD (isEnableZoneFilter flags) ∧
      isEnableExportTcpTrack (o.setFlags flags) =
        (requestedFlag o.exportTcpTrack).getD (isEnableExportTcpTrack flags) := by
  have htrack : ∀ x, isEnableTcpTrack x = x.toNat.testBit 0 := fun _ => and_mask_ne_zero rfl
  have hzone : ∀ x, isEnableZoneFilter x = x.toNat.testBit 1 := fun _ => and_mask_ne_zero rfl
  have hexport : ∀ x, isEnableExportTcpTrack x = x.toNat.testBit 2 := fun _ => and_mask_ne_zero rfl
  simp only [htrack, hzone, hexport, setFlags_testBit]
  exact ⟨rfl, rfl, rfl⟩

/-- The zone filter is on, and `tcp-track` is asked for. -/
def enableTracking : TrackFlagOptions := ⟨1, -1, -1, -1⟩

theorem trackFlagsKept_tracking : TrackFlagsKept 2 (.ok (paramGetUint 2)) enableTracking :=
  (trackFlagsKept_iff .success enableTracking).mpr (Or.inl rfl)

/-- If the parameter cannot be read, the command writes 1, and switches the zone filter off. -/
theorem unreadFlags_lost : SysfsRead 2 (.error 13) ∧
    runCmdCtTrackFlag (.error 13) enableTracking = some 1 ∧
    ¬ TrackFlagsKept 2 (.error 13) enableTracking := by
  refine ⟨.ioError 13, rfl, fun hkept => ?_⟩
  obtain ⟨-, hbits⟩ := hkept 1 rfl
  -- the bit of the zone filter, which nobody named
  exact absurd (hbits 1) (by decide)

end VgwDriver
