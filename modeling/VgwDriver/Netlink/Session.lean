import VgwDriver.Netlink.TableSpec
import Mathlib.Algebra.Order.BigOperators.Group.Finset

/-!
# Dump sessions

A session is a sequence of calls of `ctnetlink_dump_table`, each into a buffer of its own, on the bucket and
the conntrack that the call before saved.  Between two calls the table may change.

* `DumpSession` — the calls, with the table each one finds; `TableChange` — a change of the table between two
  calls, without a resize;
* `pending_sublist`, `mem_todo_succ` — **what the next call has before it** when nothing was inserted, and
  that an entry which stays is not passed over;
* `dumpSession_spec` — the session ends once nothing is inserted any more; over a table that does not change
  it reports exactly `eligible`; an entry that is there all the time is reported.
-/

namespace VgwDriver

open Base

/-! ### Sessions -/

/-- For every call of a session: the environment, the table the call finds, and the size of its buffer. -/
structure DumpSession where
  req : DumpRequest
  env : ℕ → NlEnv
  table : ℕ → NfConntrackHash
  cap : ℕ → ℕ
  cap_lt : ∀ k, cap k < 65536

namespace DumpSession

variable (s : DumpSession)

/-- The buffer of the `k`-th call. -/
def skb (k : ℕ) : Buf := Buf.empty (s.cap k) (s.cap_lt k)

/-- The saved arguments `cb->args[0]` and `cb->args[1]` in front of the `k`-th call. -/
def cursor : ℕ → ℕ × Option CtPtr
  | 0 => (0, none)
  | k + 1 =>
    let out := (ctnetlinkDumpTable (s.env k) s.req (s.table k) (cursor k).1 (cursor k).2 (s.skb k)).2
    (out.args0, out.args1)

/-- The `k`-th call. -/
def call (k : ℕ) : ℕ × DumpState :=
  ctnetlinkDumpTable (s.env k) s.req (s.table k) (s.cursor k).1 (s.cursor k).2 (s.skb k)

/-- The table behind the `k`-th call. -/
def after (k : ℕ) : NfConntrackHash := (s.call k).2.table

/-- The messages the `k`-th call completes. -/
def completed (k : ℕ) : List (FillCall × ℕ) :=
  (s.call k).2.fills.filter fun f => (f.1.attrs f.2).isSome

/-- The conntracks they are about. -/
def reported (k : ℕ) : List CtPtr := (s.completed k).map fun f => f.1.p

/-- The session ends with the `k`-th call, which is the first to add nothing to its buffer. -/
def EndsAt (k : ℕ) : Prop := (s.call k).1 = 0 ∧ ∀ j < k, (s.call j).1 ≠ 0

/-- The buffer of the `k`-th call can hold at least one message, whichever comes first. -/
def Roomy (k : ℕ) : Prop :=
  ∀ p ∈ eligible (s.env k) s.req (s.table k),
    (dumpNeed (s.env k) s.req (s.table k) p (s.cap k)).isSome

/-- What the `k`-th call has before it. -/
def todo (k : ℕ) : List CtPtr := pending (s.env k) s.req (s.table k) (s.cursor k).1 (s.cursor k).2

/-- The part of it that does not fit. -/
def left (k : ℕ) : List CtPtr := leftOver (dumpNeed (s.env k) s.req (s.table k)) (s.cap k) (s.todo k)

theorem outcome (k : ℕ) :
    DumpOutcome (s.env k) s.req (s.table k) (s.cursor k).1 (s.cursor k).2 (s.skb k) (s.call k).2 :=
  dumpTable_spec _ _ _ _ _ _

@[simp] theorem cursor_succ (k : ℕ) :
    s.cursor (k + 1) = ((s.call k).2.args0, (s.call k).2.args1) := rfl

end DumpSession

/-- A change of the table `t` into `t'` between two calls, while the session holds a reference to `held`:
some nodes stay, in their buckets and in their order, the others are deleted, and new ones are inserted.
The memory of a conntrack that is held is not used for a new one. -/
structure TableChange (held : Option CtPtr) (t t' : NfConntrackHash) where
  kept : ℕ → List TupleHash
  kept_old : ∀ i, (kept i).Sublist (t.chain i)
  kept_new : ∀ i, (kept i).Sublist (t'.chain i)
  inserted : ∀ i, ∀ h ∈ t'.chain i, h ∉ kept i → held ≠ some h.ct
  size : t'.size = t.size

/-! ### What is placed and what is left -/

section Lists

variable {env : NlEnv} {req : DumpRequest} {t : NfConntrackHash}

/-- The nodes a list of conntracks comes from. -/
theorem dumpable_nodes (l : List TupleHash) :
    (dumpable env req t l).map (fun p => (⟨p, .original⟩ : TupleHash))
      = l.filter (dumpableNode env req t) := by
  rw [dumpable, List.map_map]
  have hid : ∀ h ∈ l.filter (dumpableNode env req t),
      ((fun p => (⟨p, .original⟩ : TupleHash)) ∘ TupleHash.ct) h = h := by
    intro h hh
    obtain ⟨-, -, hdir⟩ := dumpableNode_iff.mp (List.mem_filter.mp hh).2
    show (⟨h.ct, .original⟩ : TupleHash) = h
    rw [← hdir]
  rw [List.map_congr_left hid, List.map_id']

theorem nodup_dumpable {l : List TupleHash} (hl : l.Nodup) : (dumpable env req t l).Nodup := by
  apply List.Nodup.of_map fun p => (⟨p, .original⟩ : TupleHash)
  rw [dumpable_nodes]
  exact hl.filter _

/-- The order of two conntracks that can be reported is that of their nodes. -/
theorem nodes_sublist {x y : CtPtr} {l : List TupleHash} (h : [x, y].Sublist (dumpable env req t l)) :
    [(⟨x, .original⟩ : TupleHash), ⟨y, .original⟩].Sublist l := by
  have hmap := h.map fun p => (⟨p, .original⟩ : TupleHash)
  rw [dumpable_nodes] at hmap
  exact hmap.trans List.filter_sublist

theorem sublist_of_nodes {x y : CtPtr} {l : List TupleHash}
    (h : [(⟨x, .original⟩ : TupleHash), ⟨y, .original⟩].Sublist l)
    (hx : x ∈ dumpable env req t l) (hy : y ∈ dumpable env req t l) :
    [x, y].Sublist (dumpable env req t l) := by
  have hfilter := (h.filter (dumpableNode env req t)).map TupleHash.ct
  rw [List.filter_cons_of_pos (mem_dumpable_iff.mp hx).2,
    List.filter_cons_of_pos (mem_dumpable_iff.mp hy).2] at hfilter
  exact hfilter

theorem mem_pendingFrom {n i : ℕ} {saved : Option CtPtr} {p : CtPtr} :
    p ∈ pendingFrom env req t n i saved ↔ wanted req t p = true ∧
      (n ≠ 0 ∧ p ∈ resume saved (dumpable env req t (t.chain i)) ∨
        ∃ j, i < j ∧ j < i + n ∧ p ∈ dumpable env req t (t.chain j)) := by
  induction n generalizing i saved with
  | zero =>
    refine iff_of_false (fun h => by cases h) ?_
    rintro ⟨-, ⟨h, -⟩ | ⟨j, h₁, h₂, -⟩⟩
    · exact h rfl
    · omega
  | succ n ih =>
    rw [pendingFrom_succ, List.mem_append, List.mem_filter, ih, resume_none]
    constructor
    · rintro (⟨hp, hw⟩ | ⟨hw, ⟨hn, hp⟩ | ⟨j, h₁, h₂, hp⟩⟩)
      · exact ⟨hw, Or.inl ⟨Nat.succ_ne_zero n, hp⟩⟩
      · exact ⟨hw, Or.inr ⟨i + 1, by omega, by omega, hp⟩⟩
      · exact ⟨hw, Or.inr ⟨j, by omega, by omega, hp⟩⟩
    · rintro ⟨hw, ⟨-, hp⟩ | ⟨j, h₁, h₂, hp⟩⟩
      · exact Or.inl ⟨hp, hw⟩
      · refine Or.inr ⟨hw, ?_⟩
        by_cases hj : j = i + 1
        · subst hj
          exact Or.inl ⟨by omega, hp⟩
        · exact Or.inr ⟨j, by omega, by omega, hp⟩

/-- A session begins with everything before it. -/
theorem pending_zero : pending env req t 0 none = eligible env req t := by
  have hfrom : ∀ n i, i + n = t.size → pendingFrom env req t n i none
      = (t.chains.drop i).flatMap fun chain => (dumpable env req t chain).filter (wanted req t) := by
    intro n
    induction n with
    | zero =>
      intro i hi
      rw [List.drop_eq_nil_of_le (by unfold NfConntrackHash.size at hi; omega)]
      rfl
    | succ n ih =>
      intro i hi
      have hlt : i < t.size := by omega
      rw [List.drop_eq_getElem_cons hlt, List.flatMap_cons, ← ih (i + 1) (by omega), ← t.chain_of_lt hlt,
        pendingFrom_succ, resume_none]
  exact hfrom t.size 0 (Nat.zero_add _)

theorem mem_eligible {p : CtPtr} :
    p ∈ eligible env req t ↔
      wanted req t p = true ∧ ∃ i < t.size, p ∈ dumpable env req t (t.chain i) := by
  rw [← pending_zero, pending, mem_pendingFrom, resume_none]
  constructor
  · rintro ⟨hw, ⟨hn, hp⟩ | ⟨j, -, h₂, hp⟩⟩
    · exact ⟨hw, 0, by omega, hp⟩
    · exact ⟨hw, j, by omega, hp⟩
  · rintro ⟨hw, i, hi, hp⟩
    refine ⟨hw, ?_⟩
    by_cases h : i = 0
    · subst h
      exact Or.inl ⟨by omega, hp⟩
    · exact Or.inr ⟨i, by omega, by omega, hp⟩

theorem pending_subset_eligible {args0 : ℕ} {args1 : Option CtPtr} {p : CtPtr}
    (hp : p ∈ pending env req t args0 args1) : p ∈ eligible env req t := by
  obtain ⟨hw, ⟨hn, hp⟩ | ⟨j, h₁, h₂, hp⟩⟩ := mem_pendingFrom.mp hp
  · exact mem_eligible.mpr ⟨hw, args0, by omega, (resume_suffix _ _).subset hp⟩
  · exact mem_eligible.mpr ⟨hw, j, by omega, hp⟩

/-- What is left over is what a call on the saved place has before it, if the table stays as it is. -/
theorem StopsAt.pending_eq {left : List CtPtr} {args0 : ℕ} {x : CtPtr}
    (h : StopsAt env req t left args0 x) : left = pending env req t args0 (some x) := by
  obtain ⟨hlt, -, front, back, hsplit, hleft⟩ := h
  have hfront : x ∉ front := by
    have hnodup : (dumpable env req t (t.chain args0)).Nodup := nodup_dumpable (t.nodup_chain args0)
    rw [hsplit] at hnodup
    intro hx
    exact (List.nodup_append.mp hnodup).2.2 x hx x List.mem_cons_self rfl
  have hn : t.size - args0 = t.size - (args0 + 1) + 1 := by omega
  rw [pending, hn, hleft, pendingFrom_succ, hsplit, resume_of_split hfront]

theorem filter_sublist_filter {α : Type*} {p q : α → Bool} {l : List α}
    (h : ∀ x ∈ l, p x = true → q x = true) : (l.filter p).Sublist (l.filter q) := by
  have heq : l.filter p = (l.filter q).filter p := by
    rw [List.filter_filter]
    apply List.filter_congr
    intro x hx
    cases hp : p x with
    | false => rfl
    | true => rw [h x hx hp]; rfl
  rw [heq]
  exact List.filter_sublist

/-- **The same conntracks, and no more of them wanted.** -/
theorem pending_sublist {env' : NlEnv} {t' : NfConntrackHash} (hsize : t'.size = t.size)
    (hdump : ∀ i, dumpable env' req t' (t'.chain i) = dumpable env req t (t.chain i))
    (hwanted : ∀ i, ∀ p ∈ dumpable env req t (t.chain i), wanted req t' p = true → wanted req t p = true)
    (args0 : ℕ) (args1 : Option CtPtr) :
    (pending env' req t' args0 args1).Sublist (pending env req t args0 args1) := by
  unfold pending
  rw [hsize]
  generalize t.size - args0 = n
  induction n generalizing args0 args1 with
  | zero => exact List.Sublist.slnil
  | succ n ih =>
    rw [pendingFrom_succ, pendingFrom_succ, hdump]
    refine List.Sublist.append ?_ (ih (args0 + 1) none)
    apply filter_sublist_filter
    intro p hp
    exact hwanted args0 p ((resume_suffix _ _).subset hp)

/-- A call that goes on at a conntrack it has before it leaves out what stands in front of it. -/
theorem pendingFrom_suffix {n i j : ℕ} {saved : Option CtPtr} {x : CtPtr}
    (hx : x ∈ pendingFrom env req t n i saved) (hj : x ∈ dumpable env req t (t.chain j)) :
    pendingFrom env req t (i + n - j) j (some x) <:+ pendingFrom env req t n i saved := by
  induction n generalizing i saved with
  | zero => cases hx
  | succ n ih =>
    have hbucket : ∀ i', x ∈ dumpable env req t (t.chain i') → i' = j := fun i' hi' =>
      t.chain_disjoint (mem_dumpable_iff.mp hi').1 (mem_dumpable_iff.mp hj).1
    rw [pendingFrom_succ] at hx ⊢
    by_cases hij : i = j
    · subst hij
      rcases List.mem_append.mp hx with hx | hx
      · obtain ⟨front, hfront⟩ := (resume_suffix_of_mem (nodup_dumpable (t.nodup_chain i))
          (List.mem_of_mem_filter hx)).filter (wanted req t)
        rw [show i + (n + 1) - i = n + 1 by omega, pendingFrom_succ, ← hfront, List.append_assoc]
        exact List.suffix_append _ _
      · obtain ⟨-, ⟨-, hx⟩ | ⟨i', hlt, -, hx⟩⟩ := mem_pendingFrom.mp hx
        · rw [resume_none] at hx
          have := hbucket _ hx
          omega
        · have := hbucket _ hx
          omega
    · rcases List.mem_append.mp hx with hx | hx
      · exact absurd (hbucket i ((resume_suffix _ _).subset (List.mem_of_mem_filter hx))) hij
      · have hsuffix := ih hx
        rw [show i + 1 + n = i + (n + 1) by omega] at hsuffix
        exact hsuffix.trans (List.suffix_append _ _)

theorem pending_suffix {args0 args0' : ℕ} {args1 : Option CtPtr} {x : CtPtr}
    (hx : x ∈ pending env req t args0 args1) (hx' : x ∈ dumpable env req t (t.chain args0')) :
    pending env req t args0' (some x) <:+ pending env req t args0 args1 := by
  have hsuffix := pendingFrom_suffix hx hx'
  have hlt : args0 < t.size := by
    by_contra hge
    rw [pending, Nat.sub_eq_zero_of_le (by omega)] at hx
    cases hx
  rw [show args0 + (t.size - args0) = t.size by omega] at hsuffix
  exact hsuffix

/-- The request without its filter. -/
def DumpRequest.unfiltered (req : DumpRequest) : DumpRequest := { req with filter := none }

/-- What a call has before it is what the filter matches of all it comes to. -/
theorem pending_unfiltered (args0 : ℕ) (args1 : Option CtPtr) :
    pending env req t args0 args1 = (pending env req.unfiltered t args0 args1).filter (wanted req t) := by
  unfold pending
  generalize t.size - args0 = n
  induction n generalizing args0 args1 with
  | zero => rfl
  | succ n ih =>
    have hall : (resume args1 (dumpable env req.unfiltered t (t.chain args0))).filter
        (wanted req.unfiltered t) = resume args1 (dumpable env req t (t.chain args0)) :=
      List.filter_eq_self.mpr fun _ _ => rfl
    rw [pendingFrom_succ, pendingFrom_succ, List.filter_append, hall, ih]

theorem nodup_pendingFrom (n i : ℕ) (saved : Option CtPtr) :
    (pendingFrom env req t n i saved).Nodup := by
  induction n generalizing i saved with
  | zero => exact List.nodup_nil
  | succ n ih =>
    rw [pendingFrom_succ, List.nodup_append]
    have hsub : (resume saved (dumpable env req t (t.chain i))).Sublist (dumpable env req t (t.chain i)) :=
      (resume_suffix _ _).sublist
    refine ⟨(hsub.nodup (nodup_dumpable (t.nodup_chain i))).filter _, ih (i + 1) none, ?_⟩
    rintro p hp q hq rfl
    have hi := mem_dumpable_iff.mp (hsub.subset (List.mem_of_mem_filter hp))
    obtain ⟨-, ⟨-, hq⟩ | ⟨j, h₁, -, hq⟩⟩ := mem_pendingFrom.mp hq
    · rw [resume_none] at hq
      have heq := t.chain_disjoint hi.1 (mem_dumpable_iff.mp hq).1
      omega
    · have heq := t.chain_disjoint hi.1 (mem_dumpable_iff.mp hq).1
      omega

end Lists

/-! ### One call of a session -/

namespace DumpSession

variable {s : DumpSession}

theorem reported_eq (k : ℕ) :
    s.reported k = placed (dumpNeed (s.env k) s.req (s.table k)) (s.cap k) (s.todo k) := by
  have hfills : (s.call k).2.fills
      = (attempts (dumpNeed (s.env k) s.req (s.table k)) (s.cap k) (s.todo k)).map
        fun x => (dumpCall (s.env k) s.req (s.table k) x.1, x.2) := (s.outcome k).fills
  rw [reported, completed, hfills]
  exact FillCall.completed_attempts (dumpCall (s.env k) s.req (s.table k)) (fun _ => rfl) _ _

theorem reported_append_left (k : ℕ) : s.reported k ++ s.left k = s.todo k := by
  rw [reported_eq]
  exact placed_append_leftOver _ _

/-- **The buffer of a call** holds the messages it completes, and nothing else. -/
theorem buffer_eq (k : ℕ) :
    (s.call k).2.skb.data = (s.completed k).flatMap fun f => f.1.bytes f.2 := by
  have hbuf := (s.outcome k).buf.1
  have hfills := (s.outcome k).fills
  rw [completed, ← FillCall.flatMap_bytes, hbuf, hfills, List.flatMap_map]
  rfl

/-- A call with nothing before it writes nothing. -/
theorem call_of_todo_nil {k : ℕ} (h : s.todo k = []) : (s.call k).1 = 0 := by
  have hcompleted : s.completed k = [] := by
    have hreported := s.reported_eq k
    rw [h] at hreported
    exact List.map_eq_nil_iff.mp hreported
  show (s.call k).2.skb.data.length = 0
  rw [buffer_eq, hcompleted]
  rfl

/-- A call into a buffer with room for one message writes one if it has one before it. -/
theorem todo_of_call {k : ℕ} (hroomy : s.Roomy k) (h : (s.call k).1 = 0) : s.todo k = [] := by
  cases htodo : s.todo k with
  | nil => rfl
  | cons p rest =>
    have hmem : p ∈ eligible (s.env k) s.req (s.table k) :=
      pending_subset_eligible (show p ∈ s.todo k by rw [htodo]; exact List.mem_cons_self)
    obtain ⟨rest', hplaced⟩ := placed_cons (l := rest) (hroomy p hmem)
    rw [← htodo, ← reported_eq] at hplaced
    have hdata : (s.call k).2.skb.data = [] := List.length_eq_zero_iff.mp h
    rw [buffer_eq] at hdata
    have hnil : s.completed k = [] := FillCall.completed_eq_nil (fun f hf => (List.mem_filter.mp hf).2) hdata
    rw [reported, hnil] at hplaced
    cases hplaced

theorem length_left_lt {k : ℕ} (hroomy : s.Roomy k) (h : s.todo k ≠ []) :
    (s.left k).length < (s.todo k).length := by
  have hreported : s.reported k ≠ [] := by
    intro hnil
    obtain ⟨p, rest, htodo⟩ := List.exists_cons_of_ne_nil h
    have hmem : p ∈ eligible (s.env k) s.req (s.table k) :=
      pending_subset_eligible (show p ∈ s.todo k by rw [htodo]; exact List.mem_cons_self)
    obtain ⟨rest', hplaced⟩ := placed_cons (l := rest) (hroomy p hmem)
    rw [← htodo, ← reported_eq, hnil] at hplaced
    cases hplaced
  have hlen := congrArg List.length (s.reported_append_left k)
  rw [List.length_append] at hlen
  have hpos := List.length_pos_iff.mpr hreported
  omega

/-! ### Two calls in a row -/

/-- The conntracks the `k`-th call can report from the bucket `i`. -/
def walked (s : DumpSession) (k i : ℕ) : List CtPtr :=
  dumpable (s.env k) s.req (s.table k) ((s.table k).chain i)

/-- Between the `k`-th call and the next one nothing is inserted, and no conntrack becomes unexpired. -/
structure Quiet (s : DumpSession) (k : ℕ) : Prop where
  size : (s.table (k + 1)).size = (s.after k).size
  chains : ∀ i, ((s.table (k + 1)).chain i).Sublist ((s.after k).chain i)
  expired : ∀ p, nfCtIsExpired (s.env k) ((s.after k).heap p) = true →
    nfCtIsExpired (s.env (k + 1)) ((s.table (k + 1)).heap p) = true
  net : ∀ p, ((s.table (k + 1)).heap p).net = ((s.after k).heap p).net

/-- Between the `k`-th call and the next one the table does not change, but for counters and reference
counts, and nothing expires. -/
structure Unchanged (s : DumpSession) (k : ℕ) : Prop where
  chains : (s.table (k + 1)).chains = (s.after k).chains
  records : ∀ p, SameButCounters ((s.after k).heap p) ((s.table (k + 1)).heap p)
  expired : ∀ p, nfCtIsExpired (s.env (k + 1)) ((s.table (k + 1)).heap p)
    = nfCtIsExpired (s.env k) ((s.after k).heap p)

theorem Unchanged.net {k : ℕ} (h : s.Unchanged k) (p : CtPtr) :
    ((s.table (k + 1)).heap p).net = ((s.after k).heap p).net := by rw [h.records p]

theorem Unchanged.wanted {k : ℕ} (h : s.Unchanged k) (p : CtPtr) :
    wanted s.req (s.table (k + 1)) p = wanted s.req (s.after k) p := by
  unfold VgwDriver.wanted
  rw [h.records p]
  rfl

theorem Unchanged.chain {k : ℕ} (h : s.Unchanged k) (i : ℕ) :
    (s.table (k + 1)).chain i = (s.after k).chain i := by
  unfold NfConntrackHash.chain
  rw [h.chains]

theorem Unchanged.quiet {k : ℕ} (h : s.Unchanged k) : s.Quiet k where
  size := by rw [NfConntrackHash.size, h.chains, NfConntrackHash.size]
  chains := fun i => by rw [h.chain]
  expired := fun p hp => by rw [h.expired, hp]
  net := h.net

theorem frame (k : ℕ) : DumpFrame (s.env k) (s.table k) (s.after k) := (s.outcome k).frame

theorem walked_after (k i : ℕ) :
    dumpable (s.env k) s.req (s.after k) ((s.after k).chain i) = s.walked k i :=
  (s.frame k).dumpable_eq s.req i

theorem live_of_mem_walked {k i : ℕ} {p : CtPtr} (h : p ∈ s.walked k i) :
    nfCtIsExpired (s.env k) ((s.table k).heap p) = false :=
  (dumpableNode_iff.mp (mem_dumpable_iff.mp h).2).1

theorem Quiet.walked_sublist {k : ℕ} (h : s.Quiet k) (i : ℕ) :
    (s.walked (k + 1) i).Sublist (s.walked k i) := by
  rw [← walked_after k i]
  unfold walked dumpable
  apply List.Sublist.map
  refine List.Sublist.trans ?_ ((h.chains i).filter _)
  apply filter_sublist_filter
  intro n _ hn
  obtain ⟨hlive, hnet, hdir⟩ := dumpableNode_iff.mp hn
  refine dumpableNode_iff.mpr ⟨?_, ?_, hdir⟩
  · by_contra hexp
    have hnext := h.expired n.ct (by simpa using hexp)
    rw [hlive] at hnext
    cases hnext
  · rw [← h.net]
    exact hnet

theorem Quiet.size_eq {k : ℕ} (h : s.Quiet k) : (s.table (k + 1)).size = (s.table k).size := by
  rw [h.size, (s.frame k).size_eq]

/-- A call does not stop where it began, because the first message fits. -/
theorem cursor_ne {k : ℕ} (hquiet : ∀ j, k = j + 1 → s.Quiet j) (hroomy : s.Roomy k) {x : CtPtr}
    {rest : List CtPtr} (hleft : s.left k = x :: rest) : (s.cursor k).2 ≠ some x := by
  intro hcursor
  cases k with
  | zero => cases hcursor
  | succ k =>
    obtain ⟨hstop, -⟩ := (s.outcome (k + 1)).stops x rest hleft
    -- the call before stopped at `x` too
    have hbefore : ∃ rest', s.left k = x :: rest' := by
      cases hl : s.left k with
      | nil =>
        have hend := (s.outcome k).finishes hl
        have htodo : s.todo (k + 1) = [] := by
          show pendingFrom _ _ _ ((s.table (k + 1)).size - (s.call k).2.args0) _ _ = []
          rw [(hquiet k rfl).size_eq, Nat.sub_eq_zero_of_le hend]
          rfl
        rw [left, htodo] at hleft
        cases hleft
      | cons y rest' =>
        obtain ⟨-, hargs1⟩ := (s.outcome k).stops y rest' hl
        have hsaved : (s.call k).2.args1 = some x := hcursor
        rw [hargs1] at hsaved
        split at hsaved
        · cases hsaved
        · rw [Option.some.inj hsaved]
          exact ⟨rest', rfl⟩
    obtain ⟨rest', hl⟩ := hbefore
    obtain ⟨hstop', -⟩ := (s.outcome k).stops x rest' hl
    obtain ⟨front, back, hsplit, -⟩ := hstop.split
    obtain ⟨front', back', hsplit', -⟩ := hstop'.split
    have hmem : x ∈ s.walked (k + 1) (s.call (k + 1)).2.args0 := by
      show x ∈ dumpable _ _ _ _
      rw [hsplit]
      simp
    have hmem' : x ∈ s.walked k (s.call k).2.args0 := by
      show x ∈ dumpable _ _ _ _
      rw [hsplit']
      simp
    have hbucket : (s.call (k + 1)).2.args0 = (s.call k).2.args0 :=
      (s.table k).chain_disjoint
        (mem_dumpable_iff.mp (((hquiet k rfl).walked_sublist _).subset hmem)).1
        (mem_dumpable_iff.mp hmem').1
    -- so it is the first one before this call, and it fits
    have htodo : s.todo (k + 1) = x :: rest := by
      have hpending := hstop.pending_eq
      rw [hbucket, ← hcursor] at hpending
      exact hpending.symm
    have hlt := length_left_lt hroomy (by rw [htodo]; exact List.cons_ne_nil x rest)
    rw [hleft, htodo] at hlt
    omega

/-- **What the next call has before it**, if nothing is inserted and nothing goes. -/
theorem todo_succ_sublist {k : ℕ} (hquiet : ∀ j, k = j + 1 → s.Quiet j) (hroomy : s.Roomy k)
    (hsize : (s.table (k + 1)).size = (s.table k).size)
    (hwalked : ∀ i, s.walked (k + 1) i = s.walked k i)
    (hwanted : ∀ i, ∀ p ∈ s.walked k i, wanted s.req (s.table (k + 1)) p = true →
      wanted s.req (s.table k) p = true) : (s.todo (k + 1)).Sublist (s.left k) := by
  cases hl : s.left k with
  | nil =>
    have hend := (s.outcome k).finishes hl
    have htodo : s.todo (k + 1) = [] := by
      show pendingFrom _ _ _ ((s.table (k + 1)).size - (s.call k).2.args0) _ _ = []
      rw [hsize, Nat.sub_eq_zero_of_le hend]
      rfl
    rw [htodo]
  | cons x rest =>
    obtain ⟨hstop, hargs1⟩ := (s.outcome k).stops x rest hl
    rw [if_neg (cursor_ne hquiet hroomy hl)] at hargs1
    rw [hstop.pending_eq]
    show (pending _ _ _ (s.call k).2.args0 (s.call k).2.args1).Sublist _
    rw [hargs1]
    exact pending_sublist hsize hwalked hwanted _ _

/-! ### The session ends -/

/-- The conntracks the `k`-th call finds, in all buckets. -/
def weight (s : DumpSession) (k : ℕ) : ℕ :=
  ∑ i ∈ Finset.range (s.table k).size, (s.walked k i).length

theorem walked_of_le {k i : ℕ} (hi : (s.table k).size ≤ i) : s.walked k i = [] := by
  unfold walked
  rw [(s.table k).chain_of_le hi]
  rfl

theorem Quiet.weight_le {k : ℕ} (h : s.Quiet k) : s.weight (k + 1) ≤ s.weight k := by
  unfold weight
  rw [h.size_eq]
  exact Finset.sum_le_sum fun i _ => (h.walked_sublist i).length_le

/-- When no conntrack goes, every bucket keeps its list. -/
theorem Quiet.walked_eq {k : ℕ} (h : s.Quiet k) (hweight : s.weight (k + 1) = s.weight k) (i : ℕ) :
    s.walked (k + 1) i = s.walked k i := by
  by_cases hi : i < (s.table k).size
  · have hle : ∀ i ∈ Finset.range (s.table k).size, (s.walked (k + 1) i).length ≤ (s.walked k i).length :=
      fun i _ => (h.walked_sublist i).length_le
    unfold weight at hweight
    rw [h.size_eq] at hweight
    have hlen := (Finset.sum_eq_sum_iff_of_le hle).mp hweight i (Finset.mem_range.mpr hi)
    exact (h.walked_sublist i).eq_of_length hlen
  · rw [walked_of_le (by rw [h.size_eq]; omega), walked_of_le (by omega)]

/-- All the conntracks the `k`-th call can come to, whether the filter matches them or not. -/
def ahead (s : DumpSession) (k : ℕ) : List CtPtr :=
  pending (s.env k) s.req.unfiltered (s.table k) (s.cursor k).1 (s.cursor k).2

theorem todo_eq_filter (k : ℕ) : s.todo k = (s.ahead k).filter (VgwDriver.wanted s.req (s.table k)) :=
  pending_unfiltered _ _

/-- **A call goes on**: if every bucket keeps its list, what the next call can come to is less, also when other
conntracks match the filter by then. -/
theorem length_ahead_lt {k : ℕ} (hquiet : ∀ j, k = j + 1 → s.Quiet j) (hroomy : s.Roomy k)
    (hsize : (s.table (k + 1)).size = (s.table k).size)
    (hwalked : ∀ i, s.walked (k + 1) i = s.walked k i) (htodo : s.todo k ≠ []) :
    (s.ahead (k + 1)).length < (s.ahead k).length := by
  cases hl : s.left k with
  | nil =>
    have hend := (s.outcome k).finishes hl
    have hnext : s.ahead (k + 1) = [] := by
      show pendingFrom _ _ _ ((s.table (k + 1)).size - (s.call k).2.args0) _ _ = []
      rw [hsize, Nat.sub_eq_zero_of_le hend]
      rfl
    rw [hnext]
    refine List.length_pos_iff.mpr fun hnil => htodo ?_
    rw [todo_eq_filter, hnil]
    rfl
  | cons x rest =>
    obtain ⟨hstop, hargs1⟩ := (s.outcome k).stops x rest hl
    rw [if_neg (cursor_ne hquiet hroomy hl)] at hargs1
    obtain ⟨front, back, hsplit, -⟩ := hstop.split
    have hbucket : x ∈ s.walked k (s.call k).2.args0 := by
      show x ∈ dumpable _ _ _ _
      rw [hsplit]
      simp
    have hnext : s.ahead (k + 1)
        = pending (s.env k) s.req.unfiltered (s.table k) (s.call k).2.args0 (some x) := by
      show pending _ _ _ (s.call k).2.args0 (s.call k).2.args1 = _
      rw [hargs1]
      have hle := @pending_sublist _ s.req.unfiltered _ _ _ hsize hwalked (fun _ _ _ _ => rfl)
        (s.call k).2.args0 (some x)
      have hge := @pending_sublist _ s.req.unfiltered _ _ _ hsize.symm (fun i => (hwalked i).symm)
        (fun _ _ _ _ => rfl) (s.call k).2.args0 (some x)
      exact hle.antisymm hge
    have hx : x ∈ s.ahead k := by
      have hmem : x ∈ s.reported k ++ s.left k := by
        rw [hl]
        exact List.mem_append_right _ List.mem_cons_self
      rw [reported_append_left, todo_eq_filter] at hmem
      exact List.mem_of_mem_filter hmem
    have hsuffix : s.ahead (k + 1) <:+ s.ahead k := by
      rw [hnext]
      exact pending_suffix hx hbucket
    refine Nat.lt_of_le_of_ne hsuffix.length_le fun hlen => ?_
    -- a call that has as much ahead as the one before leaves all of it, and the first message fits
    have hall : s.left k = s.todo k := by
      have hpending := @pending_unfiltered (s.env k) s.req (s.table k) (s.call k).2.args0 (some x)
      rw [← hnext, hsuffix.eq_of_length hlen, ← todo_eq_filter, ← hstop.pending_eq, ← hl] at hpending
      exact hpending
    have hlt := length_left_lt hroomy htodo
    rw [hall] at hlt
    exact Nat.lt_irrefl _ hlt

/-- **From a call on behind which nothing is inserted the session comes to an end**: a call with something
before it either finds fewer conntracks than the one before, or comes closer to the end of the table. -/
theorem exists_end {k₀ : ℕ} (hroomy : ∀ k, s.Roomy k) (hquiet : ∀ k, k₀ ≤ k → s.Quiet k) :
    ∃ k, (s.call k).1 = 0 := by
  have key : ∀ w n k, k₀ + 1 ≤ k → s.weight k = w → (s.ahead k).length = n →
      ∃ k, (s.call k).1 = 0 := by
    intro w
    induction w using Nat.strongRecOn with
    | ind w ihw =>
      intro n
      induction n using Nat.strongRecOn with
      | ind n ihn =>
        intro k hk hw hn
        by_cases htodo : s.todo k = []
        · exact ⟨k, call_of_todo_nil htodo⟩
        have hq : s.Quiet k := hquiet k (by omega)
        have hle := hq.weight_le
        by_cases hweight : s.weight (k + 1) = s.weight k
        · have hlt := length_ahead_lt (fun j hj => hquiet j (by omega)) (hroomy k) hq.size_eq
            (hq.walked_eq hweight) htodo
          exact ihn (s.ahead (k + 1)).length (by omega) (k + 1) (by omega) (hweight.trans hw) rfl
        · exact ihw (s.weight (k + 1)) (by omega) (s.ahead (k + 1)).length (k + 1) (by omega) rfl rfl
  exact key _ _ (k₀ + 1) (Nat.le_refl _) rfl rfl

theorem exists_endsAt (h : ∃ k, (s.call k).1 = 0) : ∃ k, s.EndsAt k := by
  classical
  exact ⟨Nat.find h, Nat.find_spec h, fun j hj => Nat.find_min h hj⟩

/-! ### A table that does not change -/

theorem Unchanged.walked_eq {k : ℕ} (h : s.Unchanged k) (i : ℕ) : s.walked (k + 1) i = s.walked k i := by
  rw [← walked_after k i]
  unfold walked dumpable
  rw [h.chain]
  congr 1
  apply List.filter_congr
  intro n _
  unfold dumpableNode
  rw [h.expired, h.net]

theorem Unchanged.todo_succ {k : ℕ} (h : s.Unchanged k) (hquiet : ∀ j, k = j + 1 → s.Quiet j)
    (hroomy : s.Roomy k) : s.todo (k + 1) = s.left k := by
  have hwanted : ∀ i, ∀ p ∈ s.walked k i,
      VgwDriver.wanted s.req (s.table (k + 1)) p = VgwDriver.wanted s.req (s.table k) p := by
    intro i p hp
    rw [h.wanted]
    exact (s.frame k).wanted_eq s.req (live_of_mem_walked hp)
  have hsize : (s.table (k + 1)).size = (s.table k).size := h.quiet.size_eq
  refine (todo_succ_sublist hquiet hroomy hsize h.walked_eq
    fun i p hp hw => by rw [← hwanted i p hp, hw]).antisymm ?_
  cases hl : s.left k with
  | nil => exact List.nil_sublist _
  | cons x rest =>
    obtain ⟨hstop, hargs1⟩ := (s.outcome k).stops x rest hl
    rw [if_neg (cursor_ne hquiet hroomy hl)] at hargs1
    rw [hstop.pending_eq]
    show List.Sublist _ (pending _ _ _ (s.call k).2.args0 (s.call k).2.args1)
    rw [hargs1]
    exact pending_sublist hsize.symm (fun i => (h.walked_eq i).symm)
      (fun i p hp hw => by
        have hp' : p ∈ s.walked (k + 1) i := hp
        rw [h.walked_eq i] at hp'
        rw [hwanted i p hp', hw]) _ _

/-- **Over a table that does not change** the calls report what is eligible, in order. -/
theorem reports_append_todo {n : ℕ} (hroomy : ∀ k < n, s.Roomy k) (hunchanged : ∀ k < n, s.Unchanged k) :
    (List.range n).flatMap s.reported ++ s.todo n = eligible (s.env 0) s.req (s.table 0) := by
  induction n with
  | zero => exact pending_zero
  | succ n ih =>
    have hquiet : ∀ j, n = j + 1 → s.Quiet j := fun j hj => (hunchanged j (by omega)).quiet
    have hnext := (hunchanged n (Nat.lt_succ_self n)).todo_succ hquiet (hroomy n (Nat.lt_succ_self n))
    rw [List.range_succ, List.flatMap_append, List.flatMap_singleton, List.append_assoc, hnext,
      reported_append_left]
    exact ih (fun k hk => hroomy k (by omega)) fun k hk => hunchanged k (by omega)

/-! ### A table that changes -/

/-- The node of `y` is reportable in the `k`-th call, and in the bucket `b`. -/
def Present (s : DumpSession) (y : CtPtr) (b k : ℕ) : Prop :=
  y ∈ s.walked k b ∧ VgwDriver.wanted s.req (s.table k) y = true

theorem lt_size_of_mem_walked {k i : ℕ} {p : CtPtr} (h : p ∈ s.walked k i) : i < (s.table k).size := by
  by_contra hge
  rw [walked_of_le (by omega)] at h
  cases h

/-- **An entry that stays is not passed over.**  What the call did not get to is still before the next one,
also when the conntrack it stopped at has gone. -/
theorem mem_todo_succ {k b : ℕ} {y : CtPtr}
    (change : TableChange (s.cursor (k + 1)).2 (s.after k) (s.table (k + 1)))
    (hkept : ⟨y, .original⟩ ∈ change.kept b) (hbefore : s.Present y b k)
    (hafter : s.Present y b (k + 1)) (hy : y ∈ s.left k) : y ∈ s.todo (k + 1) := by
  cases hl : s.left k with
  | nil =>
    rw [hl] at hy
    cases hy
  | cons x rest =>
    rw [hl] at hy
    obtain ⟨hstop, hargs1⟩ := (s.outcome k).stops x rest hl
    have hlt := hstop.lt
    have hsize : (s.table (k + 1)).size = (s.table k).size := by rw [change.size, (s.frame k).size_eq]
    have hb : b < (s.table (k + 1)).size := lt_size_of_mem_walked hafter.1
    obtain ⟨front, back, hsplit, -⟩ := hstop.split
    have hxmem : x ∈ s.walked k (s.call k).2.args0 := by
      show x ∈ dumpable _ _ _ _
      rw [hsplit]
      simp
    -- where the entry is, seen from the place the call stopped at
    rw [hstop.pending_eq] at hy
    have hplace := (mem_pendingFrom.mp hy).2
    have hbucket : ∀ i, y ∈ s.walked k i → i = b := fun i hi =>
      (s.table k).chain_disjoint (mem_dumpable_iff.mp hi).1 (mem_dumpable_iff.mp hbefore.1).1
    refine mem_pendingFrom.mpr ⟨hafter.2, ?_⟩
    show (s.table (k + 1)).size - (s.call k).2.args0 ≠ 0 ∧ _ ∨ _
    rcases hplace with ⟨-, hy⟩ | ⟨j, hj, -, hy⟩
    · -- the same bucket
      have heq := hbucket _ ((resume_suffix _ _).subset hy)
      refine Or.inl ⟨by omega, ?_⟩
      show y ∈ resume (s.call k).2.args1 (s.walked (k + 1) (s.call k).2.args0)
      rw [heq] at hxmem hsplit ⊢
      rw [hargs1]
      split
      · rw [resume_none]
        exact hafter.1
      · rename_i hne
        refine mem_resume hafter.1 fun hx => ?_
        -- the saved conntrack is there, so it was kept, and it keeps its place in front of `y`
        have hheld : (s.cursor (k + 1)).2 = some x := by
          rw [cursor_succ, hargs1, if_neg hne]
        have hxkept : ⟨x, .original⟩ ∈ change.kept b := by
          by_contra hnot
          exact change.inserted b _ (mem_dumpable_iff.mp hx).1 hnot hheld
        have hfront : x ∉ front := by
          have hnodup : (s.walked k b).Nodup := nodup_dumpable ((s.table k).nodup_chain b)
          rw [walked, hsplit] at hnodup
          intro hmem
          exact (List.nodup_append.mp hnodup).2.2 x hmem x List.mem_cons_self rfl
        rw [heq, hsplit, resume_of_split hfront] at hy
        rcases List.mem_cons.mp hy with hyx | hback
        · exact Or.inl hyx.symm
        · right
          have hold : [x, y].Sublist (s.walked k b) := by
            show [x, y].Sublist (dumpable _ _ _ _)
            rw [hsplit]
            exact ((List.singleton_sublist.mpr hback).cons_cons x).trans (List.sublist_append_right _ _)
          rw [← walked_after] at hold
          have hkeptorder := order_of_sublist ((s.after k).nodup_chain b) (change.kept_old b) hxkept hkept
            (nodes_sublist hold)
          exact sublist_of_nodes (hkeptorder.trans (change.kept_new b)) hx hafter.1
    · have heq := hbucket j hy
      refine Or.inr ⟨b, ?_, ?_, hafter.1⟩
      · show (s.call k).2.args0 < b
        omega
      · show b < (s.call k).2.args0 + ((s.table (k + 1)).size - (s.call k).2.args0)
        omega

/-- **An entry that is there all the time** is reported, or is still before the call. -/
theorem reported_or_mem_todo {n b : ℕ} {y : CtPtr}
    (change : ∀ k < n, TableChange (s.cursor (k + 1)).2 (s.after k) (s.table (k + 1)))
    (hkept : ∀ k (hk : k < n), ⟨y, .original⟩ ∈ (change k hk).kept b)
    (hpresent : ∀ k ≤ n, s.Present y b k) : (∃ k < n, y ∈ s.reported k) ∨ y ∈ s.todo n := by
  induction n with
  | zero =>
    right
    have hp := hpresent 0 (Nat.le_refl 0)
    have hmem : y ∈ eligible (s.env 0) s.req (s.table 0) :=
      mem_eligible.mpr ⟨hp.2, b, lt_size_of_mem_walked hp.1, hp.1⟩
    rw [← pending_zero] at hmem
    exact hmem
  | succ n ih =>
    rcases ih (fun k hk => change k (by omega)) (fun k hk => hkept k (by omega))
      (fun k hk => hpresent k (by omega)) with ⟨k, hk, hy⟩ | hy
    · exact Or.inl ⟨k, by omega, hy⟩
    · rw [← reported_append_left] at hy
      rcases List.mem_append.mp hy with hy | hy
      · exact Or.inl ⟨n, by omega, hy⟩
      · exact Or.inr (mem_todo_succ (change n (by omega)) (hkept n (by omega)) (hpresent n (by omega))
          (hpresent (n + 1) (Nat.le_refl _)) hy)

end DumpSession

/-! ### The session as a whole -/

theorem nodup_eligible (env : NlEnv) (req : DumpRequest) (t : NfConntrackHash) :
    (eligible env req t).Nodup := by
  rw [← pending_zero]
  exact nodup_pendingFrom _ _ _

/-- **A dump session** into buffers that each hold at least one message:

* ends, if behind some call nothing is inserted into the table any more and no expired conntrack comes back;
* reports, if the table does not change and nothing expires, every unexpired original-direction entry of the
  namespace that matches, once and in bucket and chain order, and nothing else;
* reports, whatever is inserted, deleted or expires between its calls, every entry that is present,
  unexpired and matching in all of them;
* and every buffer holds the messages of the conntracks reported, and nothing else. -/
theorem dumpSession_spec (s : DumpSession) :
    (∀ k₀, (∀ k, s.Roomy k) → (∀ k, k₀ ≤ k → s.Quiet k) → ∃ n, s.EndsAt n) ∧
    (∀ n, s.EndsAt n → (∀ k ≤ n, s.Roomy k) → (∀ k < n, s.Unchanged k) →
      (List.range (n + 1)).flatMap s.reported = eligible (s.env 0) s.req (s.table 0) ∧
        (eligible (s.env 0) s.req (s.table 0)).Nodup) ∧
    (∀ n, s.EndsAt n → (∀ k ≤ n, s.Roomy k) →
      ∀ change : ∀ k < n, TableChange (s.cursor (k + 1)).2 (s.after k) (s.table (k + 1)),
      ∀ y b, (∀ k ≤ n, s.Present y b k) → (∀ k (hk : k < n), ⟨y, .original⟩ ∈ (change k hk).kept b) →
        ∃ k ≤ n, y ∈ s.reported k) ∧
    ∀ k, (s.call k).2.skb.data = (s.completed k).flatMap fun f => f.1.bytes f.2 := by
  refine ⟨fun k₀ hroomy hquiet => ?_, fun n hend hroomy hunchanged => ?_,
    fun n hend hroomy change y b hpresent hkept => ?_, DumpSession.buffer_eq⟩
  · exact DumpSession.exists_endsAt (DumpSession.exists_end hroomy hquiet)
  · refine ⟨?_, nodup_eligible _ _ _⟩
    have htodo := DumpSession.todo_of_call (hroomy n (Nat.le_refl n)) hend.1
    have hall := DumpSession.reports_append_todo (n := n) (fun k hk => hroomy k (by omega)) hunchanged
    have hlast : s.reported n = [] :=
      (List.append_eq_nil_iff.mp ((DumpSession.reported_append_left n).trans htodo)).1
    rw [htodo, List.append_nil] at hall
    rw [List.range_succ, List.flatMap_append, List.flatMap_singleton, hlast, List.append_nil, hall]
  · have htodo := DumpSession.todo_of_call (hroomy n (Nat.le_refl n)) hend.1
    rcases DumpSession.reported_or_mem_todo change hkept hpresent with ⟨k, hk, hy⟩ | hy
    · exact ⟨k, by omega, hy⟩
    · rw [htodo] at hy
      cases hy

/-! ### Two sessions -/

/-- A dump of zone 100 of the first namespace. -/
def sampleRequest : DumpRequest := ⟨0, 1, 1, ipctnlMsgCtGet, some (zoneFilter 100)⟩

/-- A connection of zone 100 that is not expired. -/
def liveConn : NfConn := { sampleConn (sampleTcp .established 1000 2000 1003) with timeout := 100 }

theorem one_ne_two_ptr : (1 : CtPtr) ≠ 2 := by decide

/-- A table of one chain. -/
def pairTable (p q : CtPtr) (h : p ≠ q) : NfConntrackHash where
  chains := [[⟨p, .original⟩, ⟨q, .original⟩]]
  heap := fun _ => liveConn
  nodup := by simp [h]

section Pair

variable {p q : CtPtr} (h : p ≠ q)

theorem pairTable_dumpable : dumpable sampleNlEnv sampleRequest (pairTable p q h)
    ((pairTable p q h).chain 0) = [p, q] := by
  have hnode : ∀ x : CtPtr,
      dumpableNode sampleNlEnv sampleRequest (pairTable p q h) ⟨x, .original⟩ = true := by
    intro x
    show (!nfCtIsExpired sampleNlEnv liveConn && decide (liveConn.net = sampleRequest.net) && true) = true
    decide
  show (List.filter _ [_, _]).map _ = _
  rw [List.filter_cons_of_pos (hnode p), List.filter_cons_of_pos (hnode q)]
  rfl

theorem pairTable_wanted (x : CtPtr) : wanted sampleRequest (pairTable p q h) x = true := by
  show ctnetlinkFilterMatch liveConn sampleRequest.filter = true
  decide

/-- A buffer of 300 bytes holds one of its messages, and not another one. -/
theorem pairTable_need (x : CtPtr) :
    dumpNeed sampleNlEnv sampleRequest (pairTable p q h) x 300 = some 288 ∧
      dumpNeed sampleNlEnv sampleRequest (pairTable p q h) x 12 = none := by
  have hzero : (sampleRequest.fillCall sampleNlEnv 0 liveConn).need 300 = some 288 ∧
      (sampleRequest.fillCall sampleNlEnv 0 liveConn).need 12 = none := by decide +kernel
  exact hzero

theorem pairTable_eligible :
    eligible sampleNlEnv sampleRequest (pairTable p q h) = [p, q] := by
  show (dumpable sampleNlEnv sampleRequest (pairTable p q h) ((pairTable p q h).chain 0)).filter _ ++ [] = _
  rw [pairTable_dumpable, List.filter_eq_self.mpr fun x _ => pairTable_wanted h x]
  rfl

end Pair

/-- The table is the same in front of every call. -/
def steadySession : DumpSession where
  req := sampleRequest
  env := fun _ => sampleNlEnv
  table := fun _ => pairTable 1 2 one_ne_two_ptr
  cap := fun _ => 300
  cap_lt := narrows_lt

theorem steadySession_unchanged (k : ℕ) : steadySession.Unchanged k := by
  have hframe := steadySession.frame k
  have hlive : ∀ p, nfCtIsExpired (steadySession.env k) ((steadySession.table k).heap p) = false := by
    intro p
    show nfCtIsExpired sampleNlEnv liveConn = false
    decide
  obtain ⟨keep, hkeep, hchains⟩ := hframe.chains
  have hall : ∀ p, keep p = true := by
    intro p
    by_contra hne
    have hexp := hkeep p (by simpa using hne)
    rw [hlive p] at hexp
    cases hexp
  refine ⟨?_, fun p => (hframe.live p (hlive p)).symm, fun p => (hframe.expired_eq p).symm⟩
  rw [hchains]
  simp only [hall, List.filter_true, List.map_id']
  rfl

/-- Two connections are dumped in two messages, one a call. -/
theorem steadySession_reports : ∃ n, steadySession.EndsAt n ∧
    (List.range (n + 1)).flatMap steadySession.reported = [1, 2] := by
  have hroomy : ∀ k, steadySession.Roomy k := by
    intro k p _
    show (dumpNeed sampleNlEnv sampleRequest (pairTable 1 2 (by decide)) p 300).isSome
    rw [(pairTable_need _ p).1]
    rfl
  obtain ⟨hends, hreports, -, -⟩ := dumpSession_spec steadySession
  obtain ⟨n, hn⟩ := hends 0 hroomy fun k _ => (steadySession_unchanged k).quiet
  refine ⟨n, hn, ?_⟩
  rw [(hreports n hn (fun k _ => hroomy k) fun k _ => steadySession_unchanged k).1]
  exact pairTable_eligible (by decide)

/-- Its two connections are those of no other `k`. -/
def kthTable (k : ℕ) : NfConntrackHash :=
  pairTable (2 * k) (2 * k + 1) (Nat.ne_of_lt (Nat.lt_succ_self (2 * k)))

/-- In front of every call the two connections are deleted and two others inserted. -/
def restlessSession : DumpSession where
  req := sampleRequest
  env := fun _ => sampleNlEnv
  table := kthTable
  cap := fun _ => 300
  cap_lt := narrows_lt

theorem restlessSession_todo {k : ℕ} (hplace : (restlessSession.cursor k).1 = 0)
    (hsaved : ∀ x : ℕ, (restlessSession.cursor k).2 = some x → x < 2 * k) :
    restlessSession.todo k = [2 * k, 2 * k + 1] := by
  unfold DumpSession.todo
  rw [hplace]
  show (resume (restlessSession.cursor k).2 (dumpable sampleNlEnv sampleRequest (kthTable k)
    ((kthTable k).chain 0))).filter _ ++ [] = _
  have hwanted : ∀ x, wanted restlessSession.req (restlessSession.table k) x = true :=
    pairTable_wanted (Nat.ne_of_lt (Nat.lt_succ_self (2 * k)))
  rw [kthTable, pairTable_dumpable, List.filter_eq_self.mpr fun x _ => hwanted x, List.append_nil]
  cases hx : (restlessSession.cursor k).2 with
  | none => rw [resume_none]
  | some x =>
    have hlt := hsaved x hx
    rw [resume_some, if_neg]
    rintro hmem
    rcases List.mem_cons.mp hmem with rfl | hmem
    · exact Nat.lt_irrefl _ hlt
    · rw [List.mem_singleton.mp hmem] at hlt
      exact Nat.lt_irrefl _ (Nat.lt_of_succ_lt hlt)

/-- Every call stops at the second connection, which is gone when the next call comes. -/
theorem restlessSession_cursor (k : ℕ) : (restlessSession.cursor k).1 = 0 ∧
    ∀ x : ℕ, (restlessSession.cursor k).2 = some x → x < 2 * k := by
  induction k with
  | zero => exact ⟨rfl, fun x hx => by cases hx⟩
  | succ k ih =>
    have htodo := restlessSession_todo ih.1 ih.2
    have hleft : restlessSession.left k = [2 * k + 1] := by
      have hfits : dumpNeed sampleNlEnv sampleRequest (kthTable k) (2 * k) 300 = some 288 :=
        (pairTable_need _ _).1
      have hstops : dumpNeed sampleNlEnv sampleRequest (kthTable k) (2 * k + 1) (300 - 288) = none :=
        (pairTable_need _ _).2
      unfold DumpSession.left
      rw [htodo]
      exact ((fill_fits hfits _).2.2.1).trans (fill_stops hstops []).2.2.1
    obtain ⟨hstop, hargs1⟩ := (restlessSession.outcome k).stops _ _ hleft
    have hlt : (restlessSession.call k).2.args0 < 1 := hstop.lt
    refine ⟨?_, fun x hx => ?_⟩
    · show (restlessSession.call k).2.args0 = 0
      omega
    · replace hx : (restlessSession.call k).2.args1 = some x := hx
      rw [hargs1] at hx
      split at hx
      · cases hx
      · have hxk : 2 * k + 1 = x := Option.some.inj hx
        omega

/-- **A session need not end** while other conntracks take the place of the one each call stops at. -/
theorem restlessSession_endless :
    ¬ ∀ s : DumpSession, (∀ k, s.Roomy k) →
      (∀ k, Nonempty (TableChange (s.cursor (k + 1)).2 (s.after k) (s.table (k + 1)))) →
      ∃ n, s.EndsAt n := by
  intro hall
  have hroomy : ∀ k, restlessSession.Roomy k := by
    intro k p _
    show (dumpNeed sampleNlEnv sampleRequest (kthTable k) p 300).isSome
    rw [kthTable, (pairTable_need _ p).1]
    rfl
  have hchange : ∀ k, Nonempty (TableChange (restlessSession.cursor (k + 1)).2 (restlessSession.after k)
      (restlessSession.table (k + 1))) := by
    intro k
    refine ⟨⟨fun _ => [], fun _ => List.nil_sublist _, fun _ => List.nil_sublist _, ?_, ?_⟩⟩
    · intro i h hh _ hheld
      have hlt := (restlessSession_cursor (k + 1)).2 h.ct hheld
      have hi : i = 0 := by
        by_contra hne
        rw [NfConntrackHash.chain_of_le _ (show 1 ≤ i by omega)] at hh
        cases hh
      subst hi
      rcases List.mem_cons.mp hh with rfl | hh
      · exact Nat.lt_irrefl _ hlt
      · rw [List.mem_singleton.mp hh] at hlt
        exact Nat.lt_irrefl _ (Nat.lt_of_succ_lt hlt)
    · rw [(restlessSession.frame k).size_eq]
      rfl
  obtain ⟨n, hn⟩ := hall restlessSession hroomy hchange
  have htodo := DumpSession.todo_of_call (hroomy n) hn.1
  rw [restlessSession_todo (restlessSession_cursor n).1 (restlessSession_cursor n).2] at htodo
  cases htodo

end VgwDriver
