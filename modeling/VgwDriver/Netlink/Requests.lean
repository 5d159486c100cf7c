import VgwDriver.Netlink.FilterSpec
import VgwDriver.Netlink.Flush
import VgwDriver.Netlink.Session

/-!
# Which requests are let through

Dump requests, and delete requests without tuples, are about the whole table.  `ctnetlink_needs_filter`
decides whether a request gets a filter at all, and only then do the parsers see it.

* `ctnetlinkStart` — the start of a dump;
* `dump_fills_match` — a dump tells about the conntracks its filter matches only;
* `request_guarded_iff` — **what the parsers reject is not executed, and what they accept is restricted**:
  exactly when.
-/

namespace VgwDriver

open Base

/-- `ctnetlink_start`: what it leaves in `cb->data`, or the error the request is answered with. -/
def ctnetlinkStart (env : FilterEnv) (cda : NlaTable) (family : UInt8) :
    Except ℤ (Option CtnetlinkFilter) :=
  if ctnetlinkNeedsFilter family cda then
    match ctnetlinkAllocFilter env cda family with
    | .error err => .error err
    | .ok filter => .ok (some filter)
  else .ok none

/-- A dump request, or a delete request. -/
inductive TableRequest where
  | dump (family : UInt8)
  | delete (family version : UInt8)
  deriving DecidableEq, Repr

/-- The family the request is for. -/
def TableRequest.family : TableRequest → UInt8
  | .dump family => family
  | .delete family version => if version ≠ 0 then family else 0

/-- A delete request is about the whole table if it has no tuples. -/
def TableRequest.WholeTable (cda : NlaTable) : TableRequest → Prop
  | .dump _ => True
  | .delete _ _ => cda ctaTupleOrig = none ∧ cda ctaTupleReply = none

/-- An attribute of the request is about a filter. -/
def NamesFilter (cda : NlaTable) : Prop :=
  ∃ t ∈ [ctaMark, ctaMarkMask, ctaStatus, ctaStatusMask, ctaZone, ctaFilter], (cda t).isSome

/-- A dump request is guarded: what the parsers reject is answered with an error; what they accept tells
about matching conntracks only, in any call of the dump; and one with a filter attribute is not executed
without a filter. -/
structure DumpGuarded (env : FilterEnv) (cda : NlaTable) (family : UInt8) : Prop where
  rejected : ∀ err, ctnetlinkAllocFilter env cda family = .error err →
    ∃ err', ctnetlinkStart env cda family = .error err'
  restricted : ∀ filter, ctnetlinkAllocFilter env cda family = .ok filter →
    ∀ data, ctnetlinkStart env cda family = .ok data →
      ∀ (nlEnv : NlEnv) (req : DumpRequest) (t : NfConntrackHash) (args0 : ℕ) (args1 : Option CtPtr)
        (skb : Buf), req.filter = data →
        ∀ f ∈ (ctnetlinkDumpTable nlEnv req t args0 args1 skb).2.fills,
          ctnetlinkFilterMatch f.1.ct (some filter) = true
  named : NamesFilter cda → ctnetlinkStart env cda family ≠ .ok none

/-- A delete request is guarded: what the parsers reject is answered with an error and deletes nothing; what
they accept deletes matching conntracks only; and one with a filter attribute is answered with an error and
deletes nothing, or is executed with the parsed filter. -/
structure DeleteGuarded (env : DelEnv) (net : NetPtr) (cda : NlaTable) (family version : UInt8) : Prop where
  rejected : ∀ err, ctnetlinkAllocFilter env.toFilterEnv cda (TableRequest.delete family version).family
      = .error err →
    ∀ table, ∃ err', err' ≠ 0 ∧ ctnetlinkDelConntrack env net cda family version table = (err', table)
  restricted : ∀ filter, ctnetlinkAllocFilter env.toFilterEnv cda
      (TableRequest.delete family version).family = .ok filter →
    ∀ table, ∀ entry ∈ table, entry ∉ (ctnetlinkDelConntrack env net cda family version table).2 →
      ctnetlinkFilterMatch entry.2 (some filter) = true
  named : NamesFilter cda → ∀ table,
    (∃ err, err ≠ 0 ∧ ctnetlinkDelConntrack env net cda family version table = (err, table)) ∨
      ∃ filter, ctnetlinkAllocFilter env.toFilterEnv cda (TableRequest.delete family version).family
          = .ok filter ∧
        ctnetlinkDelConntrack env net cda family version table
          = (0, nfCtIterateCleanupNet net (fun ct => ctnetlinkFlushIterate ct (some filter)) table)

def TableRequest.Guarded (env : DelEnv) (net : NetPtr) (cda : NlaTable) : TableRequest → Prop
  | .dump family => DumpGuarded env.toFilterEnv cda family
  | .delete family version => DeleteGuarded env net cda family version

/-- Nothing asks for a filter but a mask without its value. -/
def MaskOnly (cda : NlaTable) (family : UInt8) : Prop :=
  ctnetlinkNeedsFilter family cda = false ∧ ((cda ctaMarkMask).isSome ∨ (cda ctaStatusMask).isSome)

/-! ### Requests without a filter -/

section NoFilter

variable {env : FilterEnv} {cda : NlaTable} {family : UInt8}

theorem needsFilter_eq_false (h : ctnetlinkNeedsFilter family cda = false) :
    family = 0 ∧ cda ctaMark = none ∧ cda ctaFilter = none ∧ cda ctaStatus = none ∧ cda ctaZone = none := by
  unfold ctnetlinkNeedsFilter at h
  simpa [and_assoc] using h

theorem parseMark_error {mark : CtnetlinkFilterU32} {err : ℤ}
    (h : ctnetlinkFilterParseMark mark cda = .error err) : err = -einval := by
  unfold ctnetlinkFilterParseMark at h
  split at h <;> cases h
  rfl

theorem parseStatus_error {status : CtnetlinkFilterU32} {err : ℤ}
    (h : ctnetlinkFilterParseStatus status cda = .error err) : err = -einval := by
  unfold ctnetlinkFilterParseStatus at h
  split at h
  · dsimp only at h
    repeat' split at h
    all_goals cases h
    all_goals rfl
  · cases h
    rfl
  · cases h

/-- Without `CTA_FILTER` a request is accepted exactly as its mark and status are. -/
theorem allocFilter_flat (hfilter : cda ctaFilter = none) :
    ctnetlinkAllocFilter env cda family =
      (ctnetlinkFilterParseMark ⟨0, 0⟩ cda >>= fun mark =>
        ctnetlinkFilterParseStatus ⟨0, 0⟩ cda >>= fun status =>
          pure { CtnetlinkFilter.zero with
            family := family
            mark := mark
            status := status
            zone := ctnetlinkParseZone (cda ctaZone) }) := by
  unfold ctnetlinkAllocFilter
  rw [hfilter]
  rfl

theorem allocFilter_error (hfilter : cda ctaFilter = none) {err : ℤ}
    (h : ctnetlinkAllocFilter env cda family = .error err) : err = -einval := by
  rw [allocFilter_flat hfilter] at h
  cases hmark : ctnetlinkFilterParseMark ⟨0, 0⟩ cda with
  | error err' =>
    rw [hmark] at h
    cases h
    exact parseMark_error hmark
  | ok mark =>
    rw [hmark] at h
    cases hstatus : ctnetlinkFilterParseStatus ⟨0, 0⟩ cda with
    | error err' =>
      rw [hstatus] at h
      cases h
      exact parseStatus_error hstatus
    | ok status =>
      rw [hstatus] at h
      cases h

/-- A mask without its value is rejected. -/
theorem allocFilter_maskOnly (h : MaskOnly cda family) :
    ctnetlinkAllocFilter env cda family = .error (-einval) := by
  obtain ⟨hno, hmask⟩ := h
  obtain ⟨-, hmark, hfilter, hstatus, -⟩ := needsFilter_eq_false hno
  rw [allocFilter_flat hfilter]
  unfold ctnetlinkFilterParseMark ctnetlinkFilterParseStatus
  rw [hmark, hstatus]
  cases hmarkMask : cda ctaMarkMask with
  | some a => rfl
  | none =>
    rw [hmarkMask] at hmask
    obtain ⟨a, ha⟩ := Option.isSome_iff_exists.mp (hmask.resolve_left (by simp))
    rw [ha]
    rfl

theorem masks_none (h : ctnetlinkNeedsFilter family cda = false) (hmask : ¬ MaskOnly cda family) :
    cda ctaMarkMask = none ∧ cda ctaStatusMask = none := by
  unfold MaskOnly at hmask
  simpa [h] using hmask

/-- A request with no attribute of a filter is accepted, and matches everything. -/
theorem allocFilter_nothing (h : ctnetlinkNeedsFilter family cda = false) (hmask : ¬ MaskOnly cda family) :
    ∃ filter, ctnetlinkAllocFilter env cda family = .ok filter ∧
      ∀ ct, ctnetlinkFilterMatch ct (some filter) = true := by
  obtain ⟨hfamily, hmark, hfilter, hstatus, hzone⟩ := needsFilter_eq_false h
  have hmasks := masks_none h hmask
  rw [allocFilter_flat hfilter]
  unfold ctnetlinkFilterParseMark ctnetlinkFilterParseStatus
  rw [hmark, hstatus, hmasks.1, hmasks.2, hfamily, hzone]
  refine ⟨_, rfl, fun ct => ?_⟩
  simp [ctnetlinkFilterMatch, CtnetlinkFilter.zero, ctnetlinkParseZone]

theorem not_namesFilter (h : ctnetlinkNeedsFilter family cda = false) (hmask : ¬ MaskOnly cda family) :
    ¬ NamesFilter cda := by
  obtain ⟨-, hmark, hfilter, hstatus, hzone⟩ := needsFilter_eq_false h
  have hmasks := masks_none h hmask
  unfold NamesFilter
  simp [hmark, hfilter, hstatus, hzone, hmasks]

end NoFilter

/-! ### Dumps -/

/-- **A dump tells about the conntracks its filter matches only**, in every call. -/
theorem dump_fills_match (env : NlEnv) (req : DumpRequest) (t : NfConntrackHash) (args0 : ℕ)
    (args1 : Option CtPtr) (skb : Buf) :
    ∀ f ∈ (ctnetlinkDumpTable env req t args0 args1 skb).2.fills,
      ctnetlinkFilterMatch f.1.ct req.filter = true := by
  intro f hf
  rw [(dumpTable_spec env req t args0 args1 skb).fills] at hf
  obtain ⟨x, hx, rfl⟩ := List.mem_map.mp hf
  exact (mem_eligible.mp (pending_subset_eligible (mem_of_mem_attempts hx))).1

theorem dump_guarded_iff (env : FilterEnv) (cda : NlaTable) (family : UInt8) :
    DumpGuarded env cda family ↔ ¬ MaskOnly cda family := by
  cases hneeds : ctnetlinkNeedsFilter family cda with
  | true =>
    have hstart : ctnetlinkStart env cda family =
        match ctnetlinkAllocFilter env cda family with
        | .error err => .error err
        | .ok filter => .ok (some filter) := by
      unfold ctnetlinkStart
      rw [if_pos hneeds]
    have hguarded : DumpGuarded env cda family := by
      refine ⟨fun err herr => ?_, fun filter hfilter data hdata => ?_, fun _ hnone => ?_⟩
      · rw [hstart, herr]
        exact ⟨err, rfl⟩
      · rw [hstart, hfilter] at hdata
        intro nlEnv req t args0 args1 skb hreq f hf
        rw [Except.ok.inj hdata, ← hreq]
        exact dump_fills_match nlEnv req t args0 args1 skb f hf
      · rw [hstart] at hnone
        split at hnone <;> cases hnone
    have hno : ¬ MaskOnly cda family := by
      intro hmask
      rw [hmask.1] at hneeds
      cases hneeds
    exact iff_of_true hguarded hno
  | false =>
    have hstart : ctnetlinkStart env cda family = .ok none := by
      unfold ctnetlinkStart
      rw [if_neg (by rw [hneeds]; decide)]
    constructor
    · intro hguarded hmask
      obtain ⟨err, herr⟩ := hguarded.rejected _ (allocFilter_maskOnly hmask)
      rw [hstart] at herr
      cases herr
    · intro hmask
      obtain ⟨filter, hfilter, hall⟩ := @allocFilter_nothing env cda family hneeds hmask
      refine ⟨fun err herr => ?_, fun filter' hfilter' data _ nlEnv req t args0 args1 skb _ f _ => ?_,
        fun hnames => absurd hnames (not_namesFilter hneeds hmask)⟩
      · rw [hfilter] at herr
        cases herr
      · rw [hfilter] at hfilter'
        rw [← Except.ok.inj hfilter']
        exact hall f.1.ct

/-! ### Deletes -/

/-- What is removed is what the callback is true of. -/
theorem of_not_mem_cleanup {net : NetPtr} {iter : NfConn → Bool} {table : CtTable} {entry : CtPtr × NfConn}
    (hmem : entry ∈ table) (hgone : entry ∉ nfCtIterateCleanupNet net iter table) :
    iter entry.2 = true := by
  unfold nfCtIterateCleanupNet at hgone
  by_contra hno
  apply hgone
  rw [List.mem_filter]
  exact ⟨hmem, by simp [hno]⟩

theorem flush_removes_matched {net : NetPtr} {filter : Option CtnetlinkFilter} {table : CtTable}
    {entry : CtPtr × NfConn} (hmem : entry ∈ table)
    (hgone : entry ∉ nfCtIterateCleanupNet net (fun ct => ctnetlinkFlushIterate ct filter) table) :
    ctnetlinkFilterMatch entry.2 filter = true := by
  have hiter := of_not_mem_cleanup hmem hgone
  unfold ctnetlinkFlushIterate at hiter
  split at hiter
  · cases hiter
  · exact hiter

section Delete

variable {env : DelEnv} {net : NetPtr} {cda : NlaTable} {family version : UInt8}

/-- A delete request for which a filter is built. -/
theorem deleteGuarded_of_needsFilter (horig : cda ctaTupleOrig = none) (hreply : cda ctaTupleReply = none)
    (hneeds : ctnetlinkNeedsFilter (TableRequest.delete family version).family cda = true) :
    DeleteGuarded env net cda family version := by
  have hdel : ∀ table, ctnetlinkDelConntrack env net cda family version table = ctnetlinkFlushConntrack
      env.toFilterEnv net cda (TableRequest.delete family version).family table :=
    delConntrack_eq_flush horig hreply env net family version
  have heinval : -einval ≠ 0 := by decide
  have heopnotsupp : -eopnotsupp ≠ 0 := by decide
  cases hattr : cda ctaFilter with
  | some a =>
    have hflush : ∀ table, ctnetlinkDelConntrack env net cda family version table
        = (-eopnotsupp, table) := by
      intro table
      rw [hdel]
      exact flushConntrack_byFilter hneeds (by rw [hattr]; rfl) net table
    refine ⟨fun err _ table => ⟨_, heopnotsupp, hflush table⟩, fun filter _ table entry hmem hgone => ?_,
      fun _ table => .inl ⟨_, heopnotsupp, hflush table⟩⟩
    rw [hflush] at hgone
    exact absurd hmem hgone
  | none =>
    have hflush := fun table => (hdel table).trans (flushConntrack_filtered hneeds hattr net table)
    have herror : ∀ err, ctnetlinkAllocFilter env.toFilterEnv cda (TableRequest.delete family version).family
        = .error err →
        ∀ table, ∃ err', err' ≠ 0 ∧ ctnetlinkDelConntrack env net cda family version table = (err', table) := by
      intro err herr table
      rw [hflush, herr]
      exact ⟨err, by rw [allocFilter_error hattr herr]; exact heinval, rfl⟩
    refine ⟨herror, fun filter hfilter table entry hmem hgone => ?_, fun _ table => ?_⟩
    · rw [hflush, hfilter] at hgone
      exact flush_removes_matched hmem hgone
    · cases hfilter : ctnetlinkAllocFilter env.toFilterEnv cda
        (TableRequest.delete family version).family with
      | error err => exact .inl (herror err hfilter table)
      | ok filter =>
        refine .inr ⟨filter, rfl, ?_⟩
        rw [hflush, hfilter]

/-- A delete request for which none is built. -/
theorem deleteGuarded_unfiltered_iff (horig : cda ctaTupleOrig = none) (hreply : cda ctaTupleReply = none)
    (hneeds : ctnetlinkNeedsFilter (TableRequest.delete family version).family cda = false) :
    DeleteGuarded env net cda family version ↔
      ¬ MaskOnly cda (TableRequest.delete family version).family := by
  have hflush : ∀ table, ctnetlinkDelConntrack env net cda family version table
      = (0, nfCtIterateCleanupNet net (fun ct => ctnetlinkFlushIterate ct none) table) :=
    fun table => (delConntrack_eq_flush horig hreply env net family version table).trans
      (flushConntrack_unfiltered hneeds net table)
  constructor
  · intro hguarded hmask
    obtain ⟨err, hne, heq⟩ := hguarded.rejected _ (allocFilter_maskOnly hmask) []
    rw [hflush] at heq
    exact hne (Prod.mk.inj heq).1.symm
  · intro hmask
    obtain ⟨filter, hfilter, hall⟩ := @allocFilter_nothing env.toFilterEnv cda _ hneeds hmask
    refine ⟨fun err herr => ?_, fun filter' hfilter' _ entry _ _ => ?_,
      fun hnames => absurd hnames (not_namesFilter hneeds hmask)⟩
    · rw [hfilter] at herr
      cases herr
    · rw [hfilter] at hfilter'
      rw [← Except.ok.inj hfilter']
      exact hall entry.2

theorem delete_guarded_iff (horig : cda ctaTupleOrig = none) (hreply : cda ctaTupleReply = none) :
    DeleteGuarded env net cda family version ↔
      ¬ MaskOnly cda (TableRequest.delete family version).family := by
  cases hneeds : ctnetlinkNeedsFilter (TableRequest.delete family version).family cda with
  | true =>
    refine iff_of_true (deleteGuarded_of_needsFilter horig hreply hneeds) fun hmask => ?_
    rw [hmask.1] at hneeds
    cases hneeds
  | false => exact deleteGuarded_unfiltered_iff horig hreply hneeds

end Delete

/-- **The requests that are let through.**  A request about the whole table is guarded by the parsers, if and
only if it is not one with a mask and without its value for which nothing else asks for a filter. -/
theorem request_guarded_iff (env : DelEnv) (net : NetPtr) {cda : NlaTable} {r : TableRequest}
    (hwhole : r.WholeTable cda) : r.Guarded env net cda ↔ ¬ MaskOnly cda r.family := by
  cases r with
  | dump family => exact dump_guarded_iff env.toFilterEnv cda family
  | delete family version => exact delete_guarded_iff hwhole.1 hwhole.2

def sampleDelEnv : DelEnv := ⟨kernelFilterEnv, fun _ _ _ => none, fun _ => 0⟩

/-- A delete request with a mark and its mask. -/
theorem request_guarded_sample :
    (TableRequest.delete 0 0).Guarded sampleDelEnv 0
      (nlaTable ctaMax [nlaBe32 ctaMark 1, nlaBe32 ctaMarkMask 1]) :=
  have hwhole : (TableRequest.delete 0 0).WholeTable
      (nlaTable ctaMax [nlaBe32 ctaMark 1, nlaBe32 ctaMarkMask 1]) := ⟨by decide, by decide⟩
  (request_guarded_iff sampleDelEnv 0 hwhole).mpr fun hmask => absurd hmask.1 (by decide)

/-- A delete request with a mark mask only: the parsers reject it, and it flushes the table. -/
theorem request_guarded_fails :
    ¬ ∀ (env : DelEnv) (net : NetPtr) (cda : NlaTable) (r : TableRequest),
      r.WholeTable cda → r.Guarded env net cda := by
  intro hall
  have hguarded : DeleteGuarded sampleDelEnv 0 (nlaTable ctaMax [nlaBe32 ctaMarkMask 1]) 0 0 :=
    hall sampleDelEnv 0 (nlaTable ctaMax [nlaBe32 ctaMarkMask 1]) (.delete 0 0) ⟨by decide, by decide⟩
  obtain ⟨err, -, heq⟩ := hguarded.rejected (-einval) (by decide)
    [(0, sampleConn (sampleTcp .established 0 0 0))]
  have htable := (Prod.mk.inj heq).2
  revert htable
  decide

end VgwDriver
