import VgwDriver.Netlink.Create
import VgwDriver.Netlink.ExpectId

/-!
# Creating expectations

A new request names a tuple, a mask and the conntrack that the expectation is of.  Where there is no expectation
of the tuple it is created, and where there is one its timer is started anew.

* `ctnetlinkNewExpect` — the request;
* `ExpHash.Exact` — **the references of an expectation**: the table's, the timer's, and those of its holders;
* `newExpect_cases` — **what a new request leaves of the table**;
* `expect_run` — whatever requests come, and timers run off, the counts are exact, and no conntrack has changed.
-/

namespace VgwDriver

open Base

/-! ### The request -/

def etime : ℤ := 62

/-- `NF_CT_EXPECT_USERSPACE` -/
def nfCtExpectUserspace : UInt32 := 4

/-- A helper: where it is, and `expect_class_max`. -/
structure ExpHelper where
  ptr : UInt64
  expectClassMax : UInt32

/-- What a new request for an expectation calls besides the parsers. -/
structure NewExpEnv extends FilterEnv where
  jiffies : UInt64
  /-- `HZ` -/
  hz : UInt32
  /-- `__nf_ct_expect_find` -/
  findExpect : NfExpectFind
  /-- `nf_conntrack_find_get`, without the reference it takes -/
  findMaster : CtHeap → NetPtr → NfConntrackZone → NfConntrackTuple → Option CtPtr
  /-- `__nf_conntrack_helper_find` -/
  helperFind : Bytes → UInt8 → UInt8 → Option ExpHelper
  /-- `request_module` failed -/
  requestFailed : Bytes → Bool
  /-- `__nf_conntrack_helper_find` behind it -/
  helperFindLoaded : Bytes → UInt8 → UInt8 → Option ExpHelper
  /-- `nf_ct_helper_expectfn_find_by_name` -/
  expectfnFind : Bytes → Option UInt64
  /-- `kmem_cache_alloc`, of a free expectation -/
  alloc : ExpHash → Option ExpPtr
  /-- `__nf_ct_expect_check`: what it returns, and the expectations it removes -/
  expectCheck : ExpHash → ExpPtr → ℤ × List ExpPtr
  /-- when the timer that `nf_ct_expect_insert` starts runs off -/
  expires : ExpHash → ExpPtr → UInt64

namespace ExpHash

/-- `nf_ct_expect_alloc`: the conntrack it is of, and one reference. -/
def alloc (t : ExpHash) (p : ExpPtr) (master : CtPtr) : ExpHash :=
  { t with exps := fun q => if q = p then { t.exps p with master := master, use := 1 } else t.exps q }

/-- The record is filled, but for the count. -/
def fill (t : ExpHash) (p : ExpPtr) (exp : NfConntrackExpect) : ExpHash :=
  { t with exps := fun q => if q = p then { exp with use := (t.exps p).use } else t.exps q }

/-- `nf_ct_expect_insert`: into the table, with a timer, and a reference for each. -/
def insert (t : ExpHash) (p : ExpPtr) (expires : UInt64) : ExpHash where
  listed := p :: t.listed
  pending := fun q => if q = p then true else t.pending q
  exps := fun q =>
    if q = p then { t.exps p with timeoutExpires := expires, use := (t.exps p).use + 2 } else t.exps q
  heap := t.heap

/-- A reference to the conntrack at `p`, and its end. -/
def getMaster (t : ExpHash) (p : CtPtr) : ExpHash :=
  { t with heap := fun q => if q = p then { t.heap p with use := (t.heap p).use + 1 } else t.heap q }
def putMaster (t : ExpHash) (p : CtPtr) : ExpHash :=
  { t with heap := fun q => if q = p then { t.heap p with use := (t.heap p).use - 1 } else t.heap q }

end ExpHash

section Request

variable (env : NewExpEnv) (info : NfnlInfo) (cda : NlaTable)

def expectNatNlaPolicy (t : UInt16) : NlaPolicy :=
  if t = ctaExpectNatDir then nlaU32Policy
  else if t = ctaExpectNatTuple then .nested
  else .unspec

/-- `ctnetlink_parse_expect_nat`. -/
def ctnetlinkParseExpectNat (attr : Attr) (exp : NfConntrackExpect) (u3 : UInt8) :
    Except ℤ NfConntrackExpect := do
  let tb ← nlaParseNestedDeprecated env.endian 2 expectNatNlaPolicy attr
  match tb ctaExpectNatDir, tb ctaExpectNatTuple with
  | some dir, some a => do
    let natTuple ← ctnetlinkParseTupleNoZone env.toFilterEnv a ctaExpectNatTuple u3
    pure { exp with savedAddr := natTuple.src.u3, savedProto := natTuple.src.u, dir := nlaGetBe32 dir }
  | _, _ => throw (-einval)

/-- The class that `ctnetlink_alloc_expect` gives an expectation. -/
def expectClass (helper : Option ExpHelper) : Except ℤ UInt32 :=
  match cda ctaExpectClass, helper with
  | some a, some helper =>
    if helper.expectClassMax < nlaGetBe32 a then throw (-einval) else pure (nlaGetBe32 a)
  | _, _ => pure 0

/-- The function that the request names for the expected conntrack, null where it names none. -/
def expectFn : Except ℤ UInt64 :=
  match cda ctaExpectFn with
  | none => pure 0
  | some a =>
    match env.expectfnFind (a.payload.takeWhile (· ≠ 0)) with
    | none => throw (-einval)
    | some expectfn => pure expectfn

/-- What `ctnetlink_alloc_expect` writes into the new record, but for the part about NAT. -/
def expectFields (cls : UInt32) (helper : Option ExpHelper) (tuple mask : NfConntrackTuple) (master : CtPtr)
    (expectfn : UInt64) (exp : NfConntrackExpect) : NfConntrackExpect :=
  { exp with
    flags := ((cda ctaExpectFlags).map fun a => nlaGetBe32 a &&& ~~~nfCtExpectUserspace).getD 0
    expectfn := expectfn
    cls := cls
    master := master
    helper := (helper.map (·.ptr)).getD 0
    tuple := tuple
    mask := ⟨mask.src.u3, mask.src.u⟩ }

/-- What it fills the record with, of a conntrack of the layer-3 protocol `u3`. -/
def expectRecord (cls : UInt32) (helper : Option ExpHelper) (tuple mask : NfConntrackTuple) (master : CtPtr)
    (u3 : UInt8) (exp : NfConntrackExpect) : Except ℤ NfConntrackExpect := do
  let expectfn ← expectFn env cda
  match cda ctaExpectNat with
  | none => pure (expectFields cda cls helper tuple mask master expectfn exp)
  | some a => ctnetlinkParseExpectNat env a (expectFields cda cls helper tuple mask master expectfn exp) u3

/-- `ctnetlink_alloc_expect`: the new expectation, with one reference. -/
def ctnetlinkAllocExpect (ct : CtPtr) (helper : Option ExpHelper) (tuple mask : NfConntrackTuple) (t : ExpHash) :
    Except ℤ ExpPtr × ExpHash :=
  if (t.heap ct).help.isNone then (.error (-eopnotsupp), t)
  else
    match expectClass cda helper with
    | .error err => (.error err, t)
    | .ok cls =>
      match env.alloc t with
      | none => (.error (-enomem), t)
      | some p =>
        match expectRecord env cda cls helper tuple mask ct (nfCtL3num (t.heap ct)).toUInt8
            ((t.alloc p ct).exps p) with
        | .error err => (.error err, (t.alloc p ct).put p)
        | .ok exp => (.ok p, (t.alloc p ct).fill p exp)

/-- `nf_ct_expect_related_report`. -/
def nfCtExpectRelatedReport (t : ExpHash) (p : ExpPtr) : ℤ × ExpHash :=
  let (err, gone) := env.expectCheck t p
  let t := gone.foldl ExpHash.remove t
  if err < 0 then (err, t) else (0, t.insert p (env.expires t p))

/-- The helper that `ctnetlink_create_expect` finds for a conntrack of the layer-4 protocol `protonum`.  A helper
that is there only when its module is loaded is an error too. -/
def expectHelper (u3 protonum : UInt8) : Except ℤ (Option ExpHelper) :=
  match cda ctaExpectHelpName with
  | none => pure none
  | some a =>
    let helpname := a.payload.takeWhile (· ≠ 0)
    match env.helperFind helpname u3 protonum with
    | some helper => pure (some helper)
    | none =>
      if env.requestFailed helpname then throw (-eopnotsupp)
      else if (env.helperFindLoaded helpname u3 protonum).isSome then throw (-eagain)
      else throw (-eopnotsupp)

/-- The part of `ctnetlink_create_expect` that holds the conntrack at `ct`. -/
def createExpectOf (u3 : UInt8) (ct : CtPtr) (tuple mask : NfConntrackTuple) (t : ExpHash) : ℤ × ExpHash :=
  match expectHelper env cda u3 (nfCtProtonum (t.heap ct)) with
  | .error err => (err, t)
  | .ok helper =>
    match ctnetlinkAllocExpect env cda ct helper tuple mask t with
    | (.error err, t) => (err, t)
    | (.ok p, t) =>
      let (err, t) := nfCtExpectRelatedReport env t p
      (err, t.put p)

/-- The three tuples of a request. -/
def expectTuples (tuple mask master : Attr) (u3 : UInt8) :
    Except ℤ (NfConntrackTuple × NfConntrackTuple × NfConntrackTuple) := do
  let tuple ← ctnetlinkParseTupleNoZone env.toFilterEnv tuple ctaExpectTuple u3
  let mask ← ctnetlinkParseTupleNoZone env.toFilterEnv mask ctaExpectMask u3
  let master ← ctnetlinkParseTupleNoZone env.toFilterEnv master ctaExpectMaster u3
  pure (tuple, mask, master)

/-- `ctnetlink_create_expect`. -/
def ctnetlinkCreateExpect (tuple mask master : Attr) (zone : NfConntrackZone) (t : ExpHash) : ℤ × ExpHash :=
  match expectTuples env tuple mask master info.family with
  | .error err => (err, t)
  | .ok (tuple, mask, masterTuple) =>
    match env.findMaster t.heap info.net zone masterTuple with
    | none => (-enoent, t)
    | some ct =>
      if (t.heap ct).use = 0 then (-enoent, t)
      else
        let (err, t) := createExpectOf env cda info.family ct tuple mask (t.getMaster ct)
        (err, t.putMaster ct)

/-- `ctnetlink_change_expect`; the seconds are multiplied in 32 bits. -/
def ctnetlinkChangeExpect (p : ExpPtr) (t : ExpHash) : ℤ × ExpHash :=
  match cda ctaExpectTimeout with
  | none => (0, t)
  | some a =>
    if t.pending p then
      (0, t.fill p { t.exps p with timeoutExpires := env.jiffies + (nlaGetBe32 a * env.hz).toUInt64 })
    else (-etime, t)

/-- `ctnetlink_new_expect`. -/
def ctnetlinkNewExpect (flags : UInt16) (t : ExpHash) : ℤ × ExpHash :=
  match cda ctaExpectTuple, cda ctaExpectMask, cda ctaExpectMaster with
  | some a, some mask, some master =>
    match ctnetlinkParseTupleNoZone env.toFilterEnv a ctaExpectTuple info.family with
    | .error err => (err, t)
    | .ok tuple =>
      match env.findExpect t info.net (ctnetlinkParseZone (cda ctaExpectZone)) tuple with
      | none =>
        if flags &&& nlmFCreate ≠ 0 then
          ctnetlinkCreateExpect env info cda a mask master (ctnetlinkParseZone (cda ctaExpectZone)) t
        else (-enoent, t)
      | some p => if flags &&& nlmFExcl ≠ 0 then (-eexist, t) else ctnetlinkChangeExpect env cda p t
  | _, _, _ => (-einval, t)

end Request

/-! ### The references -/

/-- One more reference to `p`. -/
def addRef (held : ExpPtr → ℕ) (p : ExpPtr) : ExpPtr → ℕ := fun q => if q = p then held q + 1 else held q

/-- Every expectation is in the table once, as long as its timer runs; the table and the timer have a reference
to it, and the others are `held`. -/
structure ExpHash.Exact (t : ExpHash) (held : ExpPtr → ℕ) : Prop where
  nodup : t.listed.Nodup
  pending : ∀ p, t.pending p = true ↔ p ∈ t.listed
  use : ∀ p, (t.exps p).use = (if p ∈ t.listed then 2 else 0) + held p

/-- An expectation that is allocated was free. -/
def NewExpEnv.Lawful (env : NewExpEnv) : Prop := ∀ t p, env.alloc t = some p → (t.exps p).use = 0

namespace ExpHash

variable {t : ExpHash} {held : ExpPtr → ℕ} {p q : ExpPtr}

theorem Exact.get (h : t.Exact held) (p : ExpPtr) : (t.get p).Exact (addRef held p) where
  nodup := h.nodup
  pending := h.pending
  use := by
    intro q
    show ((t.get p).exps q).use = (if q ∈ t.listed then 2 else 0) + addRef held p q
    by_cases hqp : q = p
    · rw [hqp, get_exps, addRef, if_pos rfl, ← Nat.add_assoc, ← h.use p]
    · rw [get_exps_ne t hqp, addRef, if_neg hqp, h.use q]

theorem Exact.put (h : t.Exact (addRef held p)) : (t.put p).Exact held where
  nodup := h.nodup
  pending := h.pending
  use := by
    intro q
    show ((t.put p).exps q).use = (if q ∈ t.listed then 2 else 0) + held q
    have huse := h.use q
    by_cases hqp : q = p
    · rw [hqp, addRef, if_pos rfl] at huse
      have hput : ((t.put p).exps p).use = (t.exps p).use - 1 := by simp [ExpHash.put, ExpHeap.modifyUse]
      rw [hqp, hput, huse, ← Nat.add_assoc, Nat.add_sub_cancel]
    · rw [addRef, if_neg hqp] at huse
      rw [put_exps t hqp, huse]

/-- **Removing** gives back the references of the table and of the timer. -/
theorem Exact.remove (h : t.Exact held) (p : ExpPtr) : (t.remove p).Exact held := by
  rw [ExpHash.remove]
  split
  · rename_i hpending
    have hp : p ∈ t.listed := (h.pending p).mp hpending
    have hlisted : ∀ q, q ∈ t.listed.filter (· ≠ p) ↔ q ∈ t.listed ∧ q ≠ p := fun q => by simp
    refine ⟨h.nodup.filter _, fun q => ?_, fun q => ?_⟩
    · show (if q = p then false else t.pending q) = true ↔ q ∈ t.listed.filter (· ≠ p)
      rw [hlisted]
      split
      · simp_all
      · rename_i hqp
        rw [h.pending q, and_iff_left hqp]
    · show ((((t.delTimer p).unlink p).put p).exps q).use =
        (if q ∈ t.listed.filter (· ≠ p) then 2 else 0) + held q
      have huse := h.use q
      by_cases hqp : q = p
      · rw [hqp, if_pos hp] at huse
        have hput : ((((t.delTimer p).unlink p).put p).exps p).use = (t.exps p).use - 1 - 1 := by
          simp [ExpHash.put, ExpHash.unlink, ExpHash.delTimer, ExpHeap.modifyUse]
        rw [hqp, hput, huse, if_neg (by simp)]
        omega
      · rw [put_exps _ hqp, unlink, put_exps _ hqp]
        simp only [hlisted, hqp, ne_eq, not_false_eq_true, and_true]
        exact huse
  · exact h

theorem listed_remove (t : ExpHash) (p : ExpPtr) : (t.remove p).listed ⊆ t.listed := by
  intro q hq
  rw [ExpHash.remove] at hq
  split at hq
  · exact ((mem_unlink (t.delTimer p)).mp hq).1
  · exact hq

theorem heap_remove (t : ExpHash) (p : ExpPtr) : (t.remove p).heap = t.heap := by
  rw [ExpHash.remove]
  split <;> rfl

theorem Exact.alloc (h : t.Exact held) (hfree : (t.exps p).use = 0) (master : CtPtr) :
    p ∉ t.listed ∧ (t.alloc p master).Exact (addRef held p) := by
  have hp : p ∉ t.listed := by
    intro hp
    have huse := h.use p
    rw [hfree, if_pos hp] at huse
    omega
  refine ⟨hp, h.nodup, h.pending, fun q => ?_⟩
  show (if q = p then { t.exps p with master := master, use := 1 } else t.exps q).use =
    (if q ∈ t.listed then 2 else 0) + addRef held p q
  have huse := h.use q
  by_cases hqp : q = p
  · rw [hqp, hfree, if_neg hp] at huse
    rw [if_pos hqp, hqp, if_neg hp, addRef, if_pos rfl]
    show 1 = 0 + (held p + 1)
    omega
  · rw [if_neg hqp, addRef, if_neg hqp, huse]

theorem Exact.fill (h : t.Exact held) (p : ExpPtr) (exp : NfConntrackExpect) : (t.fill p exp).Exact held where
  nodup := h.nodup
  pending := h.pending
  use := by
    intro q
    have huse := h.use q
    show (if q = p then { exp with use := (t.exps p).use } else t.exps q).use = _
    split
    · rename_i hqp
      rw [hqp] at huse ⊢
      exact huse
    · exact huse

theorem Exact.insert (h : t.Exact held) (hp : p ∉ t.listed) (expires : UInt64) :
    (t.insert p expires).Exact held where
  nodup := List.nodup_cons.mpr ⟨hp, h.nodup⟩
  pending := by
    intro q
    show (if q = p then true else t.pending q) = true ↔ q ∈ p :: t.listed
    rw [List.mem_cons, ← h.pending q]
    split
    · simp [*]
    · simp [*]
  use := by
    intro q
    have huse := h.use q
    show (if q = p then { t.exps p with timeoutExpires := expires, use := (t.exps p).use + 2 } else t.exps q).use =
      (if q ∈ p :: t.listed then 2 else 0) + held q
    by_cases hqp : q = p
    · rw [hqp, if_neg hp] at huse
      rw [if_pos hqp, hqp, if_pos List.mem_cons_self]
      show (t.exps p).use + 2 = 2 + held p
      omega
    · rw [if_neg hqp, huse]
      simp [hqp]

theorem heap_master (t t' : ExpHash) (ct : CtPtr) (h : t'.heap = (t.getMaster ct).heap) :
    (t'.putMaster ct).heap = t.heap := by
  funext q
  have hget : ∀ q, t'.heap q = if q = ct then { t.heap ct with use := (t.heap ct).use + 1 } else t.heap q :=
    fun q => congrFun h q
  show (if q = ct then { t'.heap ct with use := (t'.heap ct).use - 1 } else t'.heap q) = t.heap q
  split
  · rename_i hq
    rw [hget ct, if_pos rfl, hq]
    simp
  · rename_i hq
    rw [hget q, if_neg hq]

end ExpHash

/-! ### What a new request leaves -/

namespace ExpHash

/-- What is still in the table is as it was. -/
structure Shrunk (t t' : ExpHash) : Prop where
  listed : t'.listed ⊆ t.listed
  exps : ∀ q ∈ t'.listed, t'.exps q = t.exps q

/-- The expectation at `p` is new, and what is still in the table besides is as it was. -/
structure Added (t t' : ExpHash) (p : ExpPtr) : Prop where
  fresh : p ∉ t.listed
  mem : p ∈ t'.listed
  listed : ∀ q ∈ t'.listed, q ≠ p → q ∈ t.listed ∧ t'.exps q = t.exps q

variable {t t' t'' : ExpHash} {held : ExpPtr → ℕ} {p : ExpPtr}

theorem Shrunk.refl (t : ExpHash) : t.Shrunk t := ⟨List.Subset.refl _, fun _ _ => rfl⟩

theorem Shrunk.trans (h : t.Shrunk t') (h' : t'.Shrunk t'') : t.Shrunk t'' where
  listed := List.Subset.trans h'.listed h.listed
  exps := fun q hq => (h'.exps q hq).trans (h.exps q (h'.listed hq))

/-- A change of a record that is not in the table. -/
theorem Shrunk.off (hp : p ∉ t.listed) (hlisted : t'.listed = t.listed) (h : ∀ q, q ≠ p → t'.exps q = t.exps q) :
    t.Shrunk t' where
  listed := hlisted ▸ List.Subset.refl _
  exps := fun q hq => h q fun heq => hp (heq ▸ hlisted ▸ hq)

theorem Exact.ok (h : t.Exact held) : t.Ok where
  pending := fun p hp => (h.pending p).mpr hp
  use := by
    intro p hp
    rw [h.use p, if_pos hp]
    exact Nat.le_add_right 2 _

theorem Exact.shrunk_remove (h : t.Exact held) (p : ExpPtr) : t.Shrunk (t.remove p) where
  listed := listed_remove t p
  exps := fun _ hq => remove_exps t ((mem_remove h.ok).mp hq).2

/-- **Removals**, one after the other: what stays in the table is as it was. -/
theorem Exact.removes (h : t.Exact held) (l : List ExpPtr) :
    (l.foldl ExpHash.remove t).Exact held ∧ t.Shrunk (l.foldl ExpHash.remove t) ∧
      (l.foldl ExpHash.remove t).heap = t.heap :=
  @run_invariant ExpHash ExpPtr _ (fun s => s.Exact held ∧ t.Shrunk s ∧ s.heap = t.heap) t ⟨h, .refl t, rfl⟩
    (fun s q hs => ⟨hs.1.remove q, hs.2.1.trans (hs.1.shrunk_remove q), (heap_remove s q).trans hs.2.2⟩) l

/-- And so is what is not in it. -/
theorem Exact.removes_off (h : t.Exact held) (hp : p ∉ t.listed) (l : List ExpPtr) :
    (l.foldl ExpHash.remove t).exps p = t.exps p := by
  refine (@run_invariant ExpHash ExpPtr _ (fun s => s.Exact held ∧ p ∉ s.listed ∧ s.exps p = t.exps p) t
    ⟨h, hp, rfl⟩ (fun s q hs => ?_) l).2.2
  obtain ⟨hexact, hoff, hexp⟩ := hs
  refine ⟨hexact.remove q, fun hin => hoff (listed_remove s q hin), Eq.trans ?_ hexp⟩
  by_cases hpq : p = q
  · have hpending : ¬ s.pending q = true := fun hon => hoff (hpq ▸ (hexact.pending q).mp hon)
    rw [ExpHash.remove, if_neg hpending]
  · exact remove_exps s hpq

end ExpHash

section Created

variable {env : NewExpEnv} {info : NfnlInfo} {cda : NlaTable} {t : ExpHash} {held : ExpPtr → ℕ} {p : ExpPtr}

/-- The record is the one that was asked for. -/
structure NfConntrackExpect.Asked (exp : NfConntrackExpect) (master : CtPtr) (tuple mask : NfConntrackTuple) :
    Prop where
  master : exp.master = master
  tuple : exp.tuple = tuple
  mask : exp.mask = ⟨mask.src.u3, mask.src.u⟩
  kernel : exp.flags &&& nfCtExpectUserspace = 0

theorem parseExpectNat_asked {attr : Attr} {exp exp' : NfConntrackExpect} {u3 : UInt8} {master : CtPtr}
    {tuple mask : NfConntrackTuple} (h : ctnetlinkParseExpectNat env attr exp u3 = .ok exp')
    (hexp : exp.Asked master tuple mask) : exp'.Asked master tuple mask := by
  unfold ctnetlinkParseExpectNat at h
  cases htb : nlaParseNestedDeprecated env.endian 2 expectNatNlaPolicy attr with
  | error err =>
    rw [htb] at h
    cases h
  | ok tb =>
    rw [htb, ok_bind] at h
    split at h
    · rename_i dir a _ _
      cases hnat : ctnetlinkParseTupleNoZone env.toFilterEnv a ctaExpectNatTuple u3 with
      | error err =>
        rw [hnat] at h
        cases h
      | ok natTuple =>
        rw [hnat, ok_bind] at h
        cases h
        exact ⟨hexp.master, hexp.tuple, hexp.mask, hexp.kernel⟩
    · cases h

theorem expectFields_asked (cls : UInt32) (helper : Option ExpHelper) (tuple mask : NfConntrackTuple)
    (master : CtPtr) (expectfn : UInt64) (exp : NfConntrackExpect) :
    (expectFields cda cls helper tuple mask master expectfn exp).Asked master tuple mask := by
  refine ⟨rfl, rfl, rfl, ?_⟩
  show ((cda ctaExpectFlags).map fun a => nlaGetBe32 a &&& ~~~nfCtExpectUserspace).getD 0 &&&
    nfCtExpectUserspace = 0
  cases cda ctaExpectFlags with
  | none => rfl
  | some a =>
    show nlaGetBe32 a &&& ~~~nfCtExpectUserspace &&& nfCtExpectUserspace = 0
    rw [UInt32.and_assoc, show ~~~nfCtExpectUserspace &&& nfCtExpectUserspace = 0 from rfl, UInt32.and_zero]

theorem expectRecord_asked {cls : UInt32} {helper : Option ExpHelper} {tuple mask : NfConntrackTuple}
    {master : CtPtr} {u3 : UInt8} {exp exp' : NfConntrackExpect}
    (h : expectRecord env cda cls helper tuple mask master u3 exp = .ok exp') :
    exp'.Asked master tuple mask := by
  unfold expectRecord at h
  cases hfn : expectFn env cda with
  | error err =>
    rw [hfn] at h
    cases h
  | ok expectfn =>
    rw [hfn, ok_bind] at h
    have hfields := @expectFields_asked cda cls helper tuple mask master expectfn exp
    cases hnat : cda ctaExpectNat with
    | none =>
      rw [hnat] at h
      cases h
      exact hfields
    | some a =>
      rw [hnat] at h
      exact parseExpectNat_asked h hfields

end Created

/-! ### The requests, in whatever order -/

section Steps

variable {env : NewExpEnv} {info : NfnlInfo} {cda : NlaTable} {t : ExpHash} {held : ExpPtr → ℕ} {p : ExpPtr}

theorem related_exact (h : t.Exact held) (hp : p ∉ t.listed) :
    (nfCtExpectRelatedReport env t p).2.Exact held ∧ (nfCtExpectRelatedReport env t p).2.heap = t.heap := by
  obtain ⟨hexact, hshrunk, hheap⟩ := h.removes (env.expectCheck t p).2
  unfold nfCtExpectRelatedReport
  dsimp only
  split
  · exact ⟨hexact, hheap⟩
  · exact ⟨hexact.insert (fun hin => hp (hshrunk.listed hin)) _, hheap⟩

/-- **What an allocation leaves**: nothing, or an expectation that is not in the table yet, with its reference, as it
was asked for. -/
theorem allocExpect_cases (h : t.Exact held) (henv : env.Lawful) (ct : CtPtr) (helper : Option ExpHelper)
    (tuple mask : NfConntrackTuple) :
    (∃ err t', ctnetlinkAllocExpect env cda ct helper tuple mask t = (.error err, t') ∧ t'.Exact held ∧
      t'.heap = t.heap ∧ t.Shrunk t') ∨
    ∃ p t', ctnetlinkAllocExpect env cda ct helper tuple mask t = (.ok p, t') ∧ t'.Exact (addRef held p) ∧
      t'.heap = t.heap ∧ t.Shrunk t' ∧ p ∉ t.listed ∧ (t'.exps p).Asked ct tuple mask := by
  unfold ctnetlinkAllocExpect
  split
  · exact .inl ⟨_, _, rfl, h, rfl, .refl t⟩
  · cases expectClass cda helper with
    | error err => exact .inl ⟨_, _, rfl, h, rfl, .refl t⟩
    | ok cls =>
      cases halloc : env.alloc t with
      | none => exact .inl ⟨_, _, rfl, h, rfl, .refl t⟩
      | some p =>
        obtain ⟨hp, hexact⟩ := h.alloc (henv t p halloc) ct
        have hoff : ∀ q, q ≠ p → (t.alloc p ct).exps q = t.exps q := fun q hq => if_neg hq
        dsimp only
        split
        · exact .inl ⟨_, _, rfl, hexact.put, rfl, .off hp rfl fun q hq => (ExpHash.put_exps _ hq).trans (hoff q hq)⟩
        · rename_i exp hrecord
          have hself : ((t.alloc p ct).fill p exp).exps p = { exp with use := ((t.alloc p ct).exps p).use } :=
            if_pos rfl
          have hasked := expectRecord_asked hrecord
          refine .inr ⟨p, _, rfl, hexact.fill p exp, rfl, .off hp rfl fun q hq => (if_neg hq).trans (hoff q hq), hp, ?_⟩
          rw [hself]
          exact ⟨hasked.master, hasked.tuple, hasked.mask, hasked.kernel⟩

theorem createOf_exact (h : t.Exact held) (henv : env.Lawful) (u3 : UInt8) (ct : CtPtr)
    (tuple mask : NfConntrackTuple) :
    (createExpectOf env cda u3 ct tuple mask t).2.Exact held ∧
      (createExpectOf env cda u3 ct tuple mask t).2.heap = t.heap := by
  unfold createExpectOf
  split
  · exact ⟨h, rfl⟩
  · rename_i helper _
    rcases @allocExpect_cases env cda t held h henv ct helper tuple mask with
      ⟨err, t', halloc, hexact, hheap, -⟩ | ⟨p, t', halloc, hexact, hheap, hshrunk, hp, -⟩
    · rw [halloc]
      exact ⟨hexact, hheap⟩
    · rw [halloc]
      obtain ⟨hrelated, hheap'⟩ := @related_exact env t' _ p hexact fun hin => hp (hshrunk.listed hin)
      exact ⟨hrelated.put, hheap'.trans hheap⟩

/-- **What a creation leaves**: nothing more in the table, or one expectation more, as it was asked for. -/
theorem createOf_cases (h : t.Exact held) (henv : env.Lawful) (u3 : UInt8) (ct : CtPtr)
    (tuple mask : NfConntrackTuple) :
    t.Shrunk (createExpectOf env cda u3 ct tuple mask t).2 ∨
    (createExpectOf env cda u3 ct tuple mask t).1 = 0 ∧ ∃ p, t.Added (createExpectOf env cda u3 ct tuple mask t).2 p ∧
      ((createExpectOf env cda u3 ct tuple mask t).2.exps p).Asked ct tuple mask := by
  unfold createExpectOf
  split
  · exact .inl (.refl t)
  · rename_i helper _
    rcases @allocExpect_cases env cda t held h henv ct helper tuple mask with
      ⟨err, t', halloc, -, -, hshrunk⟩ | ⟨p, t', halloc, hexact, -, hshrunk, hp, hasked⟩
    · rw [halloc]
      exact .inl hshrunk
    · rw [halloc]
      have hp' : p ∉ t'.listed := fun hin => hp (hshrunk.listed hin)
      obtain ⟨-, hgone, -⟩ := hexact.removes (env.expectCheck t' p).2
      have hkept := hexact.removes_off hp' (env.expectCheck t' p).2
      unfold nfCtExpectRelatedReport
      dsimp only
      set gone := (env.expectCheck t' p).2.foldl ExpHash.remove t'
      have hgp : p ∉ gone.listed := fun hin => hp' (hgone.listed hin)
      split
      · exact .inl (hshrunk.trans (hgone.trans (.off hgp rfl fun q hq => ExpHash.put_exps _ hq)))
      · refine .inr ⟨rfl, p, ⟨hp, List.mem_cons_self, fun q hq hne => ?_⟩, ?_⟩
        · have hin : q ∈ gone.listed := (List.mem_cons.mp hq).resolve_left hne
          have hexp : ((gone.insert p (env.expires gone p)).put p).exps q = gone.exps q :=
            (ExpHash.put_exps _ hne).trans (if_neg hne)
          exact ⟨hshrunk.listed (hgone.listed hin), hexp.trans ((hshrunk.trans hgone).exps q hin)⟩
        · have hput : ((gone.insert p (env.expires gone p)).put p).exps p =
              { gone.exps p with timeoutExpires := env.expires gone p, use := (gone.exps p).use + 2 - 1 } := by
            simp [ExpHash.put, ExpHash.insert, ExpHeap.modifyUse]
          rw [hput, hkept]
          exact ⟨hasked.master, hasked.tuple, hasked.mask, hasked.kernel⟩

theorem newExpect_exact (h : t.Exact held) (henv : env.Lawful) (flags : UInt16) :
    (ctnetlinkNewExpect env info cda flags t).2.Exact held ∧
      (ctnetlinkNewExpect env info cda flags t).2.heap = t.heap := by
  unfold ctnetlinkNewExpect
  split
  · rename_i a mask master _ _ _
    split
    · exact ⟨h, rfl⟩
    · split
      · split
        · unfold ctnetlinkCreateExpect
          split
          · exact ⟨h, rfl⟩
          · split
            · exact ⟨h, rfl⟩
            · rename_i ct _
              split
              · exact ⟨h, rfl⟩
              · have hget : (t.getMaster ct).Exact held := ⟨h.nodup, h.pending, h.use⟩
                obtain ⟨hexact, hheap⟩ := @createOf_exact env cda _ held hget henv info.family ct _ _
                exact ⟨⟨hexact.nodup, hexact.pending, hexact.use⟩, ExpHash.heap_master t _ ct hheap⟩
        · exact ⟨h, rfl⟩
      · split
        · exact ⟨h, rfl⟩
        · unfold ctnetlinkChangeExpect
          split
          · exact ⟨h, rfl⟩
          · split
            · exact ⟨h.fill _ _, rfl⟩
            · exact ⟨h, rfl⟩
  · exact ⟨h, rfl⟩

/-- The request has the three attributes, they name `tuple`, `mask` and the conntrack at `ct`, which is there. -/
def NewExpEnv.Names (env : NewExpEnv) (info : NfnlInfo) (cda : NlaTable) (t : ExpHash)
    (tuple mask : NfConntrackTuple) (ct : CtPtr) : Prop :=
  ∃ a m master masterTuple, cda ctaExpectTuple = some a ∧ cda ctaExpectMask = some m ∧
    cda ctaExpectMaster = some master ∧ expectTuples env a m master info.family = .ok (tuple, mask, masterTuple) ∧
    env.findMaster t.heap info.net (ctnetlinkParseZone (cda ctaExpectZone)) masterTuple = some ct ∧
    (t.heap ct).use ≠ 0

/-- **What a new request leaves of the table**: no more than there was, and that as it was; or all of it, with the
timer of one expectation started anew, if the request is not exclusive; or one expectation more, for the
conntrack, the tuple and the mask of the request and without the flag that is not for it to set, if it may
create one. -/
theorem newExpect_cases (h : t.Exact held) (henv : env.Lawful) (flags : UInt16) :
    t.Shrunk (ctnetlinkNewExpect env info cda flags t).2 ∨
    ((ctnetlinkNewExpect env info cda flags t).1 = 0 ∧ flags &&& nlmFExcl = 0 ∧ ∃ p expires, p ∈ t.listed ∧
      (ctnetlinkNewExpect env info cda flags t).2 = t.fill p { t.exps p with timeoutExpires := expires }) ∨
    ((ctnetlinkNewExpect env info cda flags t).1 = 0 ∧ flags &&& nlmFCreate ≠ 0 ∧ ∃ p tuple mask ct,
      env.Names info cda t tuple mask ct ∧ t.Added (ctnetlinkNewExpect env info cda flags t).2 p ∧
        ((ctnetlinkNewExpect env info cda flags t).2.exps p).Asked ct tuple mask) := by
  unfold ctnetlinkNewExpect
  split
  · rename_i a m master ha hm hmaster
    split
    · exact .inl (.refl t)
    · split
      · split
        · rename_i hcreate
          unfold ctnetlinkCreateExpect
          split
          · exact .inl (.refl t)
          · rename_i tuple mask masterTuple htuples
            split
            · exact .inl (.refl t)
            · rename_i ct hct
              split
              · exact .inl (.refl t)
              · rename_i huse
                have hget : (t.getMaster ct).Exact held := ⟨h.nodup, h.pending, h.use⟩
                rcases @createOf_cases env cda _ held hget henv info.family ct tuple mask with
                  hshrunk | ⟨hzero, p, hadded, hasked⟩
                · exact .inl ⟨hshrunk.listed, hshrunk.exps⟩
                · exact .inr (.inr ⟨hzero, hcreate, p, tuple, mask, ct,
                    ⟨a, m, master, masterTuple, ha, hm, hmaster, htuples, hct, huse⟩,
                    ⟨hadded.fresh, hadded.mem, hadded.listed⟩, hasked⟩)
        · exact .inl (.refl t)
      · rename_i p _
        split
        · exact .inl (.refl t)
        · rename_i hexcl
          unfold ctnetlinkChangeExpect
          split
          · exact .inl (.refl t)
          · split
            · rename_i hpending
              exact .inr (.inl ⟨rfl, not_not.mp hexcl, p, _, (h.pending p).mp hpending, rfl⟩)
            · exact .inl (.refl t)
  · exact .inl (.refl t)

/-- No expectations, and a conntrack that may have some. -/
def emptyExpHash : ExpHash where
  listed := []
  pending := fun _ => false
  exps := fun _ => { ExpSystem.sampleExpect with use := 0 }
  heap := fun _ => { liveConn with help := some none }

theorem emptyExpHash_exact : emptyExpHash.Exact fun _ => 0 where
  nodup := List.nodup_nil
  pending := fun _ => iff_of_false Bool.false_ne_true List.not_mem_nil
  use := fun _ => rfl

/-- A kernel with room for one expectation, which finds the conntrack at 1. -/
def kernelExpEnv : NewExpEnv where
  toFilterEnv := kernelFilterEnv
  jiffies := 1000
  hz := 250
  findExpect := sampleExpFind
  findMaster := fun _ _ _ _ => some 1
  helperFind := fun _ _ _ => none
  requestFailed := fun _ => true
  helperFindLoaded := fun _ _ _ => none
  expectfnFind := fun _ => none
  alloc := fun t => if (t.exps 0x1000).use = 0 then some 0x1000 else none
  expectCheck := fun _ _ => (0, [])
  expires := fun _ _ => 76000

theorem kernelExpEnv_lawful : kernelExpEnv.Lawful := by
  intro t p hp
  have halloc : (if (t.exps 0x1000).use = 0 then some 0x1000 else none) = some p := hp
  split at halloc
  · rename_i hfree
    cases halloc
    exact hfree
  · cases halloc

/-- An attribute about the connection from `10.0.0.2:20`. -/
def newExpAttr (type : UInt16) : Attr :=
  nestAttr .little type
    [nestAttr .little ctaTupleIp [nlaBe32 ctaIpV4Src 0x0a000002, nlaBe32 ctaIpV4Dst 0x0a000001],
      nestAttr .little ctaTupleProto
        [nlaU8 ctaProtoNum ipprotoTcp, nlaBe16 ctaProtoSrcPort 20, nlaBe16 ctaProtoDstPort 5000]]

def newExpKeys : NlaTable := nlaTable ctaExpectMax
  [newExpAttr ctaExpectTuple, newExpAttr ctaExpectMask, newExpAttr ctaExpectMaster, nlaBe16 ctaExpectZone 100,
    nlaBe32 ctaExpectTimeout 60]

theorem newExpect_cases_sample :
    emptyExpHash.Shrunk (ctnetlinkNewExpect kernelExpEnv sampleExpInfo newExpKeys nlmFCreate emptyExpHash).2 ∨
    ((ctnetlinkNewExpect kernelExpEnv sampleExpInfo newExpKeys nlmFCreate emptyExpHash).1 = 0 ∧
      nlmFCreate &&& nlmFExcl = 0 ∧ ∃ p expires, p ∈ emptyExpHash.listed ∧
      (ctnetlinkNewExpect kernelExpEnv sampleExpInfo newExpKeys nlmFCreate emptyExpHash).2 =
        emptyExpHash.fill p { emptyExpHash.exps p with timeoutExpires := expires }) ∨
    ((ctnetlinkNewExpect kernelExpEnv sampleExpInfo newExpKeys nlmFCreate emptyExpHash).1 = 0 ∧
      nlmFCreate &&& nlmFCreate ≠ 0 ∧ ∃ p tuple mask ct,
      kernelExpEnv.Names sampleExpInfo newExpKeys emptyExpHash tuple mask ct ∧
        emptyExpHash.Added (ctnetlinkNewExpect kernelExpEnv sampleExpInfo newExpKeys nlmFCreate emptyExpHash).2 p ∧
        ((ctnetlinkNewExpect kernelExpEnv sampleExpInfo newExpKeys nlmFCreate emptyExpHash).2.exps p).Asked
          ct tuple mask) :=
  newExpect_cases emptyExpHash_exact kernelExpEnv_lawful nlmFCreate

/-- The reference of a lookup. -/
theorem findGet_eq {find : NfExpectFind} {tuple : NfConntrackTuple} {t' : ExpHash}
    (h : nfCtExpectFindGet find info cda t tuple = some (p, t')) : t' = t.get p := by
  rw [nfCtExpectFindGet] at h
  split at h
  · cases h
  · split at h
    · cases h
    · obtain ⟨rfl, rfl⟩ := Prod.mk.inj (Option.some.inj h)
      rfl

theorem iterate_exact (h : t.Exact held) (net : NetPtr) (iter : NfConntrackExpect → Bool) :
    (nfCtExpectIterateNet net iter t).Exact held ∧ (nfCtExpectIterateNet net iter t).heap = t.heap := by
  refine @run_invariant ExpHash ExpPtr _ (fun s => s.Exact held ∧ s.heap = t.heap) t ⟨h, rfl⟩ (fun s q hs => ?_)
    t.listed
  split
  · exact ⟨hs.1.remove q, (s.heap_remove q).trans hs.2⟩
  · exact hs

theorem delExpect_exact (h : t.Exact held) (fenv : FilterEnv) (find : NfExpectFind) :
    (ctnetlinkDelExpect fenv find info cda t).2.Exact held ∧
      (ctnetlinkDelExpect fenv find info cda t).2.heap = t.heap := by
  unfold ctnetlinkDelExpect
  split
  · split
    · exact ⟨h, rfl⟩
    · rename_i tuple _
      cases hfound : nfCtExpectFindGet find info cda t tuple with
      | none => exact ⟨h, rfl⟩
      | some found =>
        obtain ⟨p, t'⟩ := found
        obtain rfl := findGet_eq hfound
        dsimp only
        split
        · rw [ExpHash.get_put]
          exact ⟨h, rfl⟩
        · exact ⟨((h.get p).remove p).put, (t.get p).heap_remove p⟩
  · split
    · exact iterate_exact h info.net _
    · exact iterate_exact h info.net fun _ => true

theorem getExpect_exact (h : t.Exact held) (env : ExpEnv) (fenv : FilterEnv) (find : NfExpectFind)
    (skb2 : Option Buf) : (ctnetlinkGetExpect env fenv find info cda skb2 t).hash.Exact held ∧
      (ctnetlinkGetExpect env fenv find info cda skb2 t).hash.heap = t.heap := by
  unfold ctnetlinkGetExpect
  split
  · exact ⟨h, rfl⟩
  · rename_i tuple _
    cases hfound : nfCtExpectFindGet find info cda t tuple with
    | none => exact ⟨h, rfl⟩
    | some found =>
      obtain ⟨p, t'⟩ := found
      obtain rfl := findGet_eq hfound
      dsimp only
      split
      · rw [ExpHash.get_put]
        exact ⟨h, rfl⟩
      · rw [ExpHash.get_put]
        exact ⟨h, rfl⟩

end Steps

/-- What happens to expectations. -/
inductive ExpStep where
  | new (env : {env : NewExpEnv // env.Lawful}) (info : NfnlInfo) (cda : NlaTable) (flags : UInt16)
  | get (env : ExpEnv) (fenv : FilterEnv) (find : NfExpectFind) (info : NfnlInfo) (cda : NlaTable)
      (skb2 : Option Buf)
  | del (fenv : FilterEnv) (find : NfExpectFind) (info : NfnlInfo) (cda : NlaTable)
  /-- `nf_ct_expectation_timed_out`, if the timer has not been stopped -/
  | timedOut (p : ExpPtr)

def ExpStep.step (t : ExpHash) : ExpStep → ExpHash
  | new env info cda flags => (ctnetlinkNewExpect env.1 info cda flags t).2
  | get env fenv find info cda skb2 => (ctnetlinkGetExpect env fenv find info cda skb2 t).hash
  | del fenv find info cda => (ctnetlinkDelExpect fenv find info cda t).2
  | timedOut p => t.remove p

section Runs

variable {t : ExpHash} {held : ExpPtr → ℕ}

theorem expect_step (h : t.Exact held) (x : ExpStep) :
    (ExpStep.step t x).Exact held ∧ (ExpStep.step t x).heap = t.heap := by
  cases x with
  | new env info cda flags => exact newExpect_exact h env.2 flags
  | get env fenv find info cda skb2 => exact getExpect_exact h env fenv find skb2
  | del fenv find info cda => exact delExpect_exact h fenv find
  | timedOut p => exact ⟨h.remove p, t.heap_remove p⟩

/-- **Requests for expectations and timers, in whatever order**: every expectation in the table has its timer,
and exactly the references of the table, of the timer and of its holders, so none is freed too early or not at
all; and the conntracks, with their references, are as they were. -/
theorem expect_run (h : t.Exact held) (l : List ExpStep) :
    (run ExpStep.step t l).Exact held ∧ (run ExpStep.step t l).heap = t.heap :=
  @run_invariant ExpHash ExpStep _ (fun s => s.Exact held ∧ s.heap = t.heap) t ⟨h, rfl⟩
    (fun _ x hs => ⟨(expect_step hs.1 x).1, (expect_step hs.1 x).2.trans hs.2⟩) l

/-- A creation, the same once more, and a deletion. -/
def sampleExpSteps : List ExpStep :=
  [.new ⟨kernelExpEnv, kernelExpEnv_lawful⟩ sampleExpInfo newExpKeys nlmFCreate,
    .new ⟨kernelExpEnv, kernelExpEnv_lawful⟩ sampleExpInfo newExpKeys nlmFCreate,
    .del kernelFilterEnv sampleExpFind sampleExpInfo sampleExpKeys]

theorem expect_run_sample :
    (run ExpStep.step emptyExpHash sampleExpSteps).Exact (fun _ => 0) ∧
      (run ExpStep.step emptyExpHash sampleExpSteps).heap = emptyExpHash.heap :=
  expect_run emptyExpHash_exact sampleExpSteps

end Runs


end VgwDriver
