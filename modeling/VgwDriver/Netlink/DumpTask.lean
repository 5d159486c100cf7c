import VgwDriver.Base.Refs
import VgwDriver.Base.Run
import VgwDriver.Netlink.TableSpec

/-!
# A dump, lock by lock

`ctnetlink_dump_table` holds a bucket lock only while it walks one chain.  Before and behind that the table
can change in any way.  Here the function is cut at the points where it holds no lock, so that changes can be
put between the parts, and it keeps account of the references it takes and drops.

* `dumpChainRefs` — a walk with the account; `dumpChainRefs_value` erases it;
* `DumpTask.go` — the part from one point to the next; `DumpTask.step` — that, a change of the table, a
  call, or `ctnetlink_done`;
* `call_goes` — **the parts in a row, with no change between, are `ctnetlinkDumpTable`.**
-/

namespace VgwDriver

open Base

/-! ### The account -/

/-- The references a session holds: those of `nf_conntrack_get`, for the saved conntrack, and those of
`refcount_inc_not_zero`, for the evictions put off. -/
structure DumpRefs where
  saved : Refs CtPtr
  evict : Refs CtPtr

section

variable (env : NlEnv) (req : DumpRequest) (last : Option CtPtr)

/-- `dumpEntry`, with the account. -/
def dumpEntryRefs (s : DumpState) (refs : DumpRefs) (h : TupleHash) : Bool × DumpState × DumpRefs :=
  let ct := s.table.heap h.ct
  if nfCtIsExpired env ct then
    if s.evict.length < nfCtEvictSize ∧ ct.use ≠ 0 then
      (false, { s with
        table := s.table.withHeap (s.table.heap.get h.ct)
        evict := h.ct :: s.evict }, { refs with evict := refs.evict.get h.ct })
    else (false, s, refs)
  else if ct.net ≠ req.net then (false, s, refs)
  else if h.dir ≠ .original then (false, s, refs)
  else if s.args1.isSome ∧ some h.ct ≠ last then (false, s, refs)
  else
    let s := { s with args1 := none }
    if !ctnetlinkFilterMatch ct req.filter then (false, s, refs)
    else
      let c := req.fillCall env h.ct ct
      match c.exec s.skb with
      | (res, acct, skb) =>
        let s := { s with
          table := s.table.withHeap (s.table.heap.modify h.ct fun ct => { ct with acct := acct })
          skb := skb
          fills := s.fills ++ [(c, s.skb.room)] }
        if res < 0 then
          (true, { s with
            table := s.table.withHeap (s.table.heap.get h.ct)
            args1 := some h.ct }, { refs with saved := refs.saved.get h.ct })
        else (false, s, refs)

/-- `dumpChain`, with the account. -/
def dumpChainRefs (s : DumpState) (refs : DumpRefs) : List TupleHash → Bool × DumpState × DumpRefs
  | [] => (false, s, refs)
  | h :: l =>
    match dumpEntryRefs env req last s refs h with
    | (true, s, refs) => (true, s, refs)
    | (false, s, refs) => dumpChainRefs s refs l

end

/-- `ctnetlink_done`: the reference to the saved conntrack is dropped. -/
def ctnetlinkDone (t : NfConntrackHash) (args1 : Option CtPtr) : NfConntrackHash :=
  match args1 with
  | none => t
  | some p => t.withHeap (t.heap.put p)

/-! ### The task -/

/-- Where the task stands that runs a dump: between two calls, at the test of the `for` loop, at the label
`restart`, at the label `out`, at the last loop, or behind `ctnetlink_done`. -/
inductive DumpPc where
  | idle
  | loop
  | restart
  | out
  | release
  | closed
  deriving DecidableEq, Repr

/-- A session and the task that runs it. -/
structure DumpTask where
  pc : DumpPc
  last : Option CtPtr
  s : DumpState
  refs : DumpRefs

/-- A session that `ctnetlink_start` has prepared: nothing is saved, and no reference is held. -/
def DumpTask.start (t : NfConntrackHash) (skb : Buf) : DumpTask :=
  ⟨.idle, none, ⟨t, 0, none, [], skb, []⟩, ⟨Refs.none, Refs.none⟩⟩

/-- One round of `while (i) { i--; … }`. -/
def DumpTask.evictOne (env : NlEnv) (w : DumpTask) (p : CtPtr) (l : List CtPtr) : DumpTask :=
  let t := if nfCtShouldGc env (w.s.table.heap p) then nfCtKill w.s.table p else w.s.table
  { w with
    s := { w.s with table := t.withHeap (t.heap.put p), evict := l }
    refs := { w.refs with evict := w.refs.evict.put p } }

/-- The task goes on to the next point where it holds no bucket lock.  `env` is the time, and all else it
reads, on the way. -/
def DumpTask.go (env : NlEnv) (req : DumpRequest) (w : DumpTask) : DumpTask :=
  match w.pc with
  | .idle => w
  | .closed => w
  | .loop => { w with pc := if w.s.args0 < w.s.table.size then .restart else .out }
  | .restart =>
    match w.s.evict with
    | p :: l => w.evictOne env p l
    | [] =>
      if w.s.table.size ≤ w.s.args0 then { w with pc := .out }
      else
        match dumpChainRefs env req w.last w.s w.refs (w.s.table.chain w.s.args0) with
        | (true, s, refs) => { w with pc := .out, s := s, refs := refs }
        | (false, s, refs) =>
          if s.args1.isSome then { w with s := { s with args1 := none }, refs := refs }
          else { w with pc := .loop, s := { s with args0 := s.args0 + 1 }, refs := refs }
  | .out =>
    match w.last with
    | none => { w with pc := .release }
    | some p => { w with
        pc := .release
        s := { w.s with
          args1 := if w.s.args1 = some p then none else w.s.args1
          table := w.s.table.withHeap (w.s.table.heap.put p) }
        refs := { w.refs with saved := w.refs.saved.put p } }
  | .release =>
    match w.s.evict with
    | p :: l => w.evictOne env p l
    | [] => { w with pc := .idle }

/-- What can happen: the task goes on, the table changes, `ctnetlink_dump_table` is called with a buffer, or
`ctnetlink_done` is called. -/
inductive DumpEvent where
  | go (env : NlEnv)
  | change (t : NfConntrackHash)
  | call (skb : Buf)
  | done

/-- One event.  The session is called only between two calls, and not behind `ctnetlink_done`. -/
def DumpTask.step (req : DumpRequest) (w : DumpTask) : DumpEvent → DumpTask
  | .go env => w.go env req
  | .change t => { w with s := { w.s with table := t } }
  | .call skb =>
    if w.pc = .idle then
      { w with pc := .loop, last := w.s.args1, s := { w.s with evict := [], skb := skb, fills := [] } }
    else w
  | .done =>
    if w.pc = .idle then
      { w with
        pc := .closed
        s := { w.s with table := ctnetlinkDone w.s.table w.s.args1 }
        refs := match w.s.args1 with
          | none => w.refs
          | some p => { w.refs with saved := w.refs.saved.put p } }
    else w

/-! ### Erasing the account -/

theorem dumpEntryRefs_value (env : NlEnv) (req : DumpRequest) (last : Option CtPtr) (s : DumpState)
    (refs : DumpRefs) (h : TupleHash) :
    ∃ refs', dumpEntryRefs env req last s refs h
      = ((dumpEntry env req last s h).1, (dumpEntry env req last s h).2, refs') := by
  unfold dumpEntryRefs dumpEntry
  dsimp only
  repeat' split
  all_goals exact ⟨_, rfl⟩

theorem dumpChainRefs_value (env : NlEnv) (req : DumpRequest) (last : Option CtPtr) (l : List TupleHash)
    (s : DumpState) (refs : DumpRefs) :
    ∃ refs', dumpChainRefs env req last s refs l
      = ((dumpChain env req last s l).1, (dumpChain env req last s l).2, refs') := by
  induction l generalizing s refs with
  | nil => exact ⟨refs, rfl⟩
  | cons h l ih =>
    obtain ⟨refs', hentry⟩ := dumpEntryRefs_value env req last s refs h
    unfold dumpChainRefs dumpChain
    rw [hentry]
    obtain ⟨stop, s'⟩ := dumpEntry env req last s h
    cases stop with
    | true => exact ⟨refs', rfl⟩
    | false => exact ih s' refs'

/-! ### The parts in a row -/

theorem size_nfCtKill (t : NfConntrackHash) (p : CtPtr) : (nfCtKill t p).size = t.size := by
  unfold nfCtKill
  split
  · rfl
  · show (t.unlink p).chains.length = t.chains.length
    exact List.length_map _

@[simp] theorem size_dumpEvict (env : NlEnv) (l : List CtPtr) (t : NfConntrackHash) :
    (dumpEvict env t l).size = t.size := by
  induction l generalizing t with
  | nil => rfl
  | cons p l ih =>
    refine (ih _).trans ?_
    show (if nfCtShouldGc env (t.heap p) then nfCtKill t p else t).size = t.size
    split
    · exact size_nfCtKill t p
    · rfl

theorem dumpEntry_size (env : NlEnv) (req : DumpRequest) (last : Option CtPtr) (s : DumpState)
    (h : TupleHash) : (dumpEntry env req last s h).2.table.size = s.table.size := by
  unfold dumpEntry
  dsimp only
  repeat' split
  all_goals rfl

theorem dumpChain_size (env : NlEnv) (req : DumpRequest) (last : Option CtPtr) (l : List TupleHash)
    (s : DumpState) : (dumpChain env req last s l).2.table.size = s.table.size := by
  induction l generalizing s with
  | nil => rfl
  | cons h l ih =>
    have hentry := dumpEntry_size env req last s h
    unfold dumpChain
    revert hentry
    obtain ⟨stop, s'⟩ := dumpEntry env req last s h
    intro hentry
    cases stop with
    | true => exact hentry
    | false => exact (ih s').trans hentry

/-- What is saved behind one entry the walk goes on from. -/
theorem dumpEntry_saved (env : NlEnv) (req : DumpRequest) (last : Option CtPtr) (s : DumpState)
    (h : TupleHash) :
    (dumpEntry env req last s h).1 = false →
      (dumpEntry env req last s h).2.args1 = none ∨ (dumpEntry env req last s h).2.args1 = s.args1 := by
  unfold dumpEntry
  dsimp only
  repeat' split
  all_goals simp

/-- A walk that goes on leaves saved what was, or nothing. -/
theorem dumpChain_saved (env : NlEnv) (req : DumpRequest) (last : Option CtPtr) (l : List TupleHash)
    (s : DumpState) (hgo : (dumpChain env req last s l).1 = false) :
    (dumpChain env req last s l).2.args1 = none ∨ (dumpChain env req last s l).2.args1 = s.args1 := by
  induction l generalizing s with
  | nil => exact Or.inr rfl
  | cons h l ih =>
    have hentry := dumpEntry_saved env req last s h
    unfold dumpChain at hgo ⊢
    revert hentry hgo
    obtain ⟨stop, s'⟩ := dumpEntry env req last s h
    intro hentry hgo
    cases stop with
    | true => cases hgo
    | false =>
      have hrest := ih s' hgo
      rcases hentry rfl with hnone | hsame
      · rw [hnone] at hrest
        exact Or.inl (hrest.elim id id)
      · rw [hsame] at hrest
        exact hrest

namespace DumpTask

variable {env : NlEnv} {req : DumpRequest} {w w' w'' : DumpTask} {last : Option CtPtr} {s : DumpState}

/-! ### What each part does -/

theorem go_resting (hpc : w.pc = .idle ∨ w.pc = .closed) : w.go env req = w := by
  rw [go]
  rcases hpc with hpc | hpc
  · rw [hpc]
  · rw [hpc]

theorem go_loop (hpc : w.pc = .loop) :
    w.go env req = { w with pc := if w.s.args0 < w.s.table.size then .restart else .out } := by
  rw [go, hpc]

theorem go_evict (hpc : w.pc = .restart ∨ w.pc = .release) {p : CtPtr} {l : List CtPtr}
    (hevict : w.s.evict = p :: l) : w.go env req = w.evictOne env p l := by
  rw [go]
  rcases hpc with hpc | hpc
  · rw [hpc, hevict]
  · rw [hpc, hevict]

theorem go_over (hpc : w.pc = .restart) (hevict : w.s.evict = []) (hle : w.s.table.size ≤ w.s.args0) :
    w.go env req = { w with pc := .out } := by
  rw [go, hpc, hevict]
  exact if_pos hle

theorem go_walk (hpc : w.pc = .restart) (hevict : w.s.evict = []) (hlt : w.s.args0 < w.s.table.size) :
    w.go env req =
      match dumpChainRefs env req w.last w.s w.refs (w.s.table.chain w.s.args0) with
      | (true, s, refs) => { w with pc := .out, s := s, refs := refs }
      | (false, s, refs) =>
        if s.args1.isSome then { w with s := { s with args1 := none }, refs := refs }
        else { w with pc := .loop, s := { s with args0 := s.args0 + 1 }, refs := refs } := by
  rw [go, hpc, hevict]
  exact if_neg (Nat.not_le.mpr hlt)

theorem go_released (hpc : w.pc = .release) (hevict : w.s.evict = []) :
    w.go env req = { w with pc := .idle } := by
  rw [go, hpc, hevict]

/-! ### Going on by itself -/

/-- The task gets from `w` to `w'` by itself, while the table is left alone and the time stands still. -/
def Goes (env : NlEnv) (req : DumpRequest) (w w' : DumpTask) : Prop :=
  ∃ n, run (step req) w (List.replicate n (.go env)) = w'

theorem Goes.refl (w : DumpTask) : Goes env req w w := ⟨0, rfl⟩

theorem Goes.trans (h : Goes env req w w') (h' : Goes env req w' w'') : Goes env req w w'' := by
  obtain ⟨n, rfl⟩ := h
  obtain ⟨m, rfl⟩ := h'
  refine ⟨n + m, ?_⟩
  rw [List.replicate_add, run_append]

theorem Goes.one (w : DumpTask) : Goes env req w (w.go env req) := ⟨1, rfl⟩

/-- `while (i) { i--; … }`, at either of its two places. -/
theorem goes_evict {pc : DumpPc} (hpc : pc = .restart ∨ pc = .release) (l : List CtPtr) (s : DumpState)
    (refs : DumpRefs) (hl : s.evict = l) :
    ∃ refs', Goes env req ⟨pc, last, s, refs⟩
      ⟨pc, last, { s with table := dumpEvict env s.table l, evict := [] }, refs'⟩ := by
  induction l generalizing s refs with
  | nil =>
    obtain ⟨table, args0, args1, evict, skb, fills⟩ := s
    cases hl
    exact ⟨refs, Goes.refl _⟩
  | cons p l ih =>
    obtain ⟨refs', hrest⟩ := ih ((⟨pc, last, s, refs⟩ : DumpTask).evictOne env p l).s
      ((⟨pc, last, s, refs⟩ : DumpTask).evictOne env p l).refs rfl
    refine ⟨refs', Goes.trans ?_ hrest⟩
    have hgoes : Goes env req ⟨pc, last, s, refs⟩ ((⟨pc, last, s, refs⟩ : DumpTask).go env req) := Goes.one _
    rw [go_evict hpc hl] at hgoes
    exact hgoes

/-- One walk. -/
theorem goes_walk (hevict : s.evict = []) (hlt : s.args0 < s.table.size) (refs : DumpRefs) :
    ∃ refs', Goes env req ⟨.restart, last, s, refs⟩
      (match dumpChain env req last s (s.table.chain s.args0) with
        | (true, s') => ⟨.out, last, s', refs'⟩
        | (false, s') =>
          if s'.args1.isSome then ⟨.restart, last, { s' with args1 := none }, refs'⟩
          else ⟨.loop, last, { s' with args0 := s'.args0 + 1 }, refs'⟩) := by
  obtain ⟨refs', hvalue⟩ := dumpChainRefs_value env req last (s.table.chain s.args0) s refs
  have hgoes : Goes env req ⟨.restart, last, s, refs⟩ ((⟨.restart, last, s, refs⟩ : DumpTask).go env req) :=
    Goes.one _
  refine ⟨refs', ?_⟩
  rw [go_walk rfl hevict hlt, hvalue] at hgoes
  revert hgoes
  obtain ⟨stop, s'⟩ := dumpChain env req last s (s.table.chain s.args0)
  cases stop with
  | true => exact id
  | false => exact id

/-- One bucket. -/
theorem goes_bucket (hlt : s.args0 < s.table.size) (refs : DumpRefs) :
    ∃ refs', Goes env req ⟨.restart, last, s, refs⟩
      (match dumpBucket env req last s with
        | (true, s') => ⟨.out, last, s', refs'⟩
        | (false, s') => ⟨.loop, last, { s' with args0 := s'.args0 + 1 }, refs'⟩) := by
  obtain ⟨refs₁, hdrop₁⟩ := @goes_evict env req last .restart (Or.inl rfl) s.evict s refs rfl
  obtain ⟨s₁, hs₁⟩ : ∃ s₁ : DumpState, s₁ = { s with table := dumpEvict env s.table s.evict, evict := [] } :=
    ⟨_, rfl⟩
  rw [← hs₁] at hdrop₁
  have hlt₁ : s₁.args0 < s₁.table.size := by
    rw [hs₁]
    show s.args0 < (dumpEvict env s.table s.evict).size
    rw [size_dumpEvict]
    exact hlt
  obtain ⟨refs₂, hwalk₁⟩ := @goes_walk env req last s₁ (by rw [hs₁]) hlt₁ refs₁
  have hargs0 := dumpChain_args0 env req last (s₁.table.chain s₁.args0) s₁
  have hsize := dumpChain_size env req last (s₁.table.chain s₁.args0) s₁
  unfold dumpBucket
  rw [← hs₁]
  dsimp only
  revert hwalk₁ hargs0 hsize
  obtain ⟨stop, s₂⟩ := dumpChain env req last s₁ (s₁.table.chain s₁.args0)
  intro hwalk₁ hargs0 hsize
  cases stop with
  | true => exact ⟨refs₂, hdrop₁.trans hwalk₁⟩
  | false =>
    dsimp only at hwalk₁ hargs0 hsize ⊢
    by_cases hmissed : s₂.args1.isSome
    · rw [if_pos hmissed] at hwalk₁ ⊢
      obtain ⟨refs₃, hdrop₂⟩ := @goes_evict env req last .restart (Or.inl rfl) s₂.evict
        { s₂ with args1 := none } refs₂ rfl
      obtain ⟨s₃, hs₃⟩ : ∃ s₃ : DumpState, s₃
        = { s₂ with table := dumpEvict env s₂.table s₂.evict, evict := [], args1 := none } := ⟨_, rfl⟩
      have hlt₃ : s₃.args0 < s₃.table.size := by
        rw [hs₃]
        show s₂.args0 < (dumpEvict env s₂.table s₂.evict).size
        rw [size_dumpEvict, hargs0, hsize]
        exact hlt₁
      obtain ⟨refs₄, hwalk₂⟩ := @goes_walk env req last s₃ (by rw [hs₃]) hlt₃ refs₃
      have hsaved := dumpChain_saved env req last (s₃.table.chain s₃.args0) s₃
      have hchain : (dumpEvict env s₂.table s₂.evict).chain s₂.args0 = s₃.table.chain s₃.args0 := by rw [hs₃]
      rw [← hs₃] at hdrop₂ ⊢
      rw [hchain]
      have hreach := hdrop₁.trans (hwalk₁.trans (hdrop₂.trans hwalk₂))
      refine ⟨refs₄, ?_⟩
      revert hreach hsaved
      obtain ⟨stop, s₄⟩ := dumpChain env req last s₃ (s₃.table.chain s₃.args0)
      intro hsaved hreach
      cases stop with
      | true => exact hreach
      | false =>
        -- nothing was saved when the second walk began
        have hnone : s₄.args1 = none := by
          have hs₃none : s₃.args1 = none := by rw [hs₃]
          rw [hs₃none] at hsaved
          exact (hsaved rfl).elim id id
        dsimp only at hreach
        rw [if_neg (by rw [hnone]; exact Bool.false_ne_true)] at hreach
        exact hreach
    · rw [if_neg hmissed] at hwalk₁ ⊢
      exact ⟨refs₂, hdrop₁.trans hwalk₁⟩

theorem dumpBucket_size (env : NlEnv) (req : DumpRequest) (last : Option CtPtr) (s : DumpState) :
    (dumpBucket env req last s).2.table.size = s.table.size := by
  have hsize := dumpChain_size env req last ((dumpEvict env s.table s.evict).chain s.args0)
    { s with table := dumpEvict env s.table s.evict, evict := [] }
  dsimp only at hsize
  rw [size_dumpEvict] at hsize
  unfold dumpBucket
  dsimp only
  revert hsize
  obtain ⟨stop, s'⟩ := dumpChain env req last { s with table := dumpEvict env s.table s.evict, evict := [] }
    ((dumpEvict env s.table s.evict).chain s.args0)
  intro hsize
  cases stop with
  | true => exact hsize
  | false =>
    dsimp only at hsize ⊢
    split
    · rw [dumpChain_size]
      dsimp only
      rw [size_dumpEvict]
      exact hsize
    · exact hsize

/-- The loop over the buckets. -/
theorem goes_buckets (n : ℕ) (s : DumpState) (refs : DumpRefs) (hn : n = s.table.size - s.args0) :
    ∃ refs', Goes env req ⟨.loop, last, s, refs⟩ ⟨.out, last, dumpBuckets env req last n s, refs'⟩ := by
  induction n generalizing s refs with
  | zero =>
    have htest : Goes env req ⟨.loop, last, s, refs⟩
      ⟨if s.args0 < s.table.size then .restart else .out, last, s, refs⟩ := Goes.one _
    rw [if_neg (by omega)] at htest
    exact ⟨refs, htest⟩
  | succ n ih =>
    have htest : Goes env req ⟨.loop, last, s, refs⟩
      ⟨if s.args0 < s.table.size then .restart else .out, last, s, refs⟩ := Goes.one _
    have hlt : s.args0 < s.table.size := by omega
    rw [if_pos hlt] at htest
    obtain ⟨refs₁, hbucket⟩ := @goes_bucket env req last s hlt refs
    have hargs0 := dumpBucket_args0 env req last s
    have hsize := dumpBucket_size env req last s
    unfold dumpBuckets
    revert hbucket hargs0 hsize
    obtain ⟨stop, s'⟩ := dumpBucket env req last s
    intro hbucket hargs0 hsize
    cases stop with
    | true => exact ⟨refs₁, htest.trans hbucket⟩
    | false =>
      dsimp only at hbucket hargs0 hsize ⊢
      obtain ⟨refs₂, hrest⟩ := ih { s' with args0 := s'.args0 + 1 } refs₁ (by dsimp only; omega)
      exact ⟨refs₂, htest.trans (hbucket.trans hrest)⟩

/-- **One call.**  When nothing changes the table in between, the task does what `ctnetlinkDumpTable` says. -/
theorem call_goes (hidle : w.pc = .idle) (skb : Buf) :
    ∃ refs', Goes env req (w.step req (.call skb))
      ⟨.idle, w.s.args1, (ctnetlinkDumpTable env req w.s.table w.s.args0 w.s.args1 skb).2, refs'⟩ := by
  have hcall : w.step req (.call skb)
      = ⟨.loop, w.s.args1, ⟨w.s.table, w.s.args0, w.s.args1, [], skb, []⟩, w.refs⟩ := if_pos hidle
  rw [hcall]
  obtain ⟨refs₁, hbuckets⟩ := @goes_buckets env req w.s.args1 (w.s.table.size - w.s.args0)
    ⟨w.s.table, w.s.args0, w.s.args1, [], skb, []⟩ w.refs rfl
  unfold ctnetlinkDumpTable
  dsimp only
  revert hbuckets
  generalize dumpBuckets env req w.s.args1 (w.s.table.size - w.s.args0)
    ⟨w.s.table, w.s.args0, w.s.args1, [], skb, []⟩ = s
  intro hbuckets
  have hput : Goes env req ⟨.out, w.s.args1, s, refs₁⟩
    ((⟨.out, w.s.args1, s, refs₁⟩ : DumpTask).go env req) := Goes.one _
  have hend : ∀ (s' : DumpState) (refs' : DumpRefs), s'.evict = [] →
      Goes env req ⟨.release, w.s.args1, s', refs'⟩ ⟨.idle, w.s.args1, s', refs'⟩ := by
    intro s' refs' hevict
    have hgoes : Goes env req ⟨.release, w.s.args1, s', refs'⟩
      ((⟨.release, w.s.args1, s', refs'⟩ : DumpTask).go env req) := Goes.one _
    rw [go_released rfl hevict] at hgoes
    exact hgoes
  rw [go] at hput
  cases hlast : w.s.args1 with
  | none =>
    rw [hlast] at hput hbuckets hend
    obtain ⟨refs₂, hdrop⟩ := @goes_evict env req none .release (Or.inr rfl) s.evict s refs₁ rfl
    exact ⟨refs₂, hbuckets.trans (hput.trans (hdrop.trans (hend _ _ rfl)))⟩
  | some p =>
    rw [hlast] at hput hbuckets hend
    obtain ⟨refs₂, hdrop⟩ := @goes_evict env req (some p) .release (Or.inr rfl) s.evict
      { s with args1 := if s.args1 = some p then none else s.args1
               table := s.table.withHeap (s.table.heap.put p) }
      { refs₁ with saved := refs₁.saved.put p } rfl
    exact ⟨refs₂, hbuckets.trans (hput.trans (hdrop.trans (hend _ _ rfl)))⟩

end DumpTask

end VgwDriver
