import VgwDriver.Netlink.DumpTask
import VgwDriver.Netlink.Session

/-!
# The references of a dump

Between two calls a session should hold one reference, to the conntrack saved in `args[1]` if there is one,
and behind `ctnetlink_done` none.  A walk that comes to the conntrack saved when the call began, and finds no
room for it either, takes a second reference to it.  The end of the call takes the equal `args[1]` for a
leftover, clears it and drops one reference only.

* `DumpTask.SavesAgain` — the walk that does this, told from the state before it;
* `Account` — **the invariant**: what the session holds, and what has leaked;
* `references_balanced_iff` — the account balances exactly if no walk so far was of that kind.
-/

namespace VgwDriver

open Base

/-! ### One walk -/

/-- What a walk from `s` with the account `refs` does to the account; `r` is what it ends with. -/
structure WalkAccount (s : DumpState) (refs : DumpRefs) (r : Bool × DumpState × DumpRefs) : Prop where
  evict : refs.evict.Holds s.evict → r.2.2.evict.Holds r.2.1.evict
  stops : r.1 = true → ∃ x, r.2.1.args1 = some x ∧ r.2.2.saved = refs.saved.get x
  goesOn : r.1 = false → r.2.2.saved = refs.saved ∧ (r.2.1.args1 = none ∨ r.2.1.args1 = s.args1)

theorem dumpEntryRefs_account (env : NlEnv) (req : DumpRequest) (last : Option CtPtr) (s : DumpState)
    (refs : DumpRefs) (h : TupleHash) :
    WalkAccount s refs (dumpEntryRefs env req last s refs h) := by
  have hskip : ∀ s' : DumpState, s'.evict = s.evict → s'.args1 = none ∨ s'.args1 = s.args1 →
      WalkAccount s refs (false, s', refs) := by
    intro s' hevict hargs1
    refine ⟨fun hr => ?_, fun hstop => (by cases hstop), fun _ => ⟨rfl, hargs1⟩⟩
    show refs.evict.Holds s'.evict
    rw [hevict]
    exact hr
  unfold dumpEntryRefs
  dsimp only
  split
  · split
    · exact ⟨fun hr => hr.get h.ct, fun hstop => (by cases hstop), fun _ => ⟨rfl, Or.inr rfl⟩⟩
    · exact hskip s rfl (Or.inr rfl)
  split
  · exact hskip s rfl (Or.inr rfl)
  split
  · exact hskip s rfl (Or.inr rfl)
  split
  · exact hskip s rfl (Or.inr rfl)
  split
  · exact hskip _ rfl (Or.inl rfl)
  split
  · exact ⟨id, fun _ => ⟨h.ct, rfl, rfl⟩, fun hgo => (by cases hgo)⟩
  · exact hskip _ rfl (Or.inl rfl)

/-- **The account of a walk.**  It stops with one more reference, to the conntrack it saves. -/
theorem dumpChainRefs_account (env : NlEnv) (req : DumpRequest) (last : Option CtPtr) (l : List TupleHash)
    (s : DumpState) (refs : DumpRefs) :
    WalkAccount s refs (dumpChainRefs env req last s refs l) := by
  induction l generalizing s refs with
  | nil => exact ⟨id, fun hstop => (by cases hstop), fun _ => ⟨rfl, Or.inr rfl⟩⟩
  | cons h l ih =>
    have hentry := dumpEntryRefs_account env req last s refs h
    unfold dumpChainRefs
    revert hentry
    obtain ⟨stop, s', refs'⟩ := dumpEntryRefs env req last s refs h
    intro hentry
    cases stop with
    | true => exact hentry
    | false =>
      obtain ⟨hsaved, hargs1⟩ := hentry.goesOn rfl
      have hrest := ih s' refs'
      refine ⟨fun hr => hrest.evict (hentry.evict hr), fun hstop => ?_, fun hgo => ?_⟩
      · obtain ⟨x, hx, hget⟩ := hrest.stops hstop
        exact ⟨x, hx, hget.trans (congrArg (fun r => Refs.get r x) hsaved)⟩
      · obtain ⟨hsaved', hargs1'⟩ := hrest.goesOn hgo
        refine ⟨hsaved'.trans hsaved, ?_⟩
        rcases hargs1' with hnone | hsame
        · exact Or.inl hnone
        · exact hargs1.imp hsame.trans hsame.trans

/-! ### The walk that saves again -/

/-- The log plays no part in a walk. -/
theorem dumpEntry_fills (env : NlEnv) (req : DumpRequest) (last : Option CtPtr) (s : DumpState)
    (h : TupleHash) (fills : List (FillCall × ℕ)) :
    ∃ fills', dumpEntry env req last { s with fills := fills } h = ((dumpEntry env req last s h).1,
      { (dumpEntry env req last s h).2 with fills := fills' }) := by
  unfold dumpEntry
  dsimp only
  repeat' split
  all_goals exact ⟨_, rfl⟩

theorem dumpChain_fills (env : NlEnv) (req : DumpRequest) (last : Option CtPtr) (l : List TupleHash)
    (s : DumpState) (fills : List (FillCall × ℕ)) :
    ∃ fills', dumpChain env req last { s with fills := fills } l = ((dumpChain env req last s l).1,
      { (dumpChain env req last s l).2 with fills := fills' }) := by
  induction l generalizing s fills with
  | nil => exact ⟨fills, rfl⟩
  | cons h l ih =>
    obtain ⟨fills', hentry⟩ := dumpEntry_fills env req last s h fills
    unfold dumpChain
    rw [hentry]
    obtain ⟨stop, s'⟩ := dumpEntry env req last s h
    cases stop with
    | true => exact ⟨fills', rfl⟩
    | false => exact ih s' fills'

/-- **Where a walk stops**: at the first conntrack before it whose message does not fit. -/
theorem dumpChain_stops_iff {env : NlEnv} {req : DumpRequest} {last : Option CtPtr} {s : DumpState}
    (hevict : s.evict = []) (hsaved : s.args1 = none ∨ s.args1 = last) (p : CtPtr) :
    ((dumpChain env req last s (s.table.chain s.args0)).1 = true ∧
      (dumpChain env req last s (s.table.chain s.args0)).2.args1 = some p) ↔
    ∃ room, (p, room) ∈ attempts (dumpNeed env req s.table) s.skb.room
        ((onward s.args1 (dumpable env req s.table (s.table.chain s.args0))).filter (wanted req s.table)) ∧
      dumpNeed env req s.table p room = none := by
  obtain ⟨fills', hfills⟩ := dumpChain_fills env req last (s.table.chain s.args0) s []
  have hinv : DumpInv env s.table { s with fills := [] } :=
    ⟨DumpFrame.refl env _, fun _ _ _ => rfl, fun f hf => (by cases hf), fun q hq => (by
      rw [show ({ s with fills := [] } : DumpState).evict = [] from hevict] at hq
      cases hq)⟩
  obtain ⟨-, hstop, hargs1⟩ := @DumpInv.walk env req s.table last _ hinv hsaved s.args0
    fun _ _ _ f hf => (by cases hf)
  rw [← head_leftOver_iff]
  rw [show ({ s with fills := [] } : DumpState).table = s.table from rfl, hfills] at hstop hargs1
  dsimp only at hstop hargs1
  rw [hstop, hargs1]
  cases leftOver (dumpNeed env req s.table) s.skb.room
    ((onward s.args1 (dumpable env req s.table (s.table.chain s.args0))).filter (wanted req s.table)) with
  | nil => simp
  | cons x rest => simp [savedAfter]

namespace DumpTask

/-- The task is about to walk a chain, and the walk will come to the conntrack saved when the call began and
not have the room for its message. -/
def SavesAgain (env : NlEnv) (req : DumpRequest) (w : DumpTask) : Prop :=
  w.pc = .restart ∧ w.s.evict = [] ∧ w.s.args0 < w.s.table.size ∧
    ∃ p room, w.last = some p ∧
      (p, room) ∈ attempts (dumpNeed env req w.s.table) w.s.skb.room
        ((onward w.s.args1 (dumpable env req w.s.table (w.s.table.chain w.s.args0))).filter
          (wanted req w.s.table)) ∧
      dumpNeed env req w.s.table p room = none

/-- The event leaks a reference: it is such a walk. -/
def Leaks (req : DumpRequest) (w : DumpTask) : DumpEvent → Prop
  | .go env => w.SavesAgain env req
  | .change _ | .call _ | .done => False

/-! ### The invariant -/

/-- The task is between two calls, or behind `ctnetlink_done`. -/
def Resting (w : DumpTask) : Prop := w.pc = .idle ∨ w.pc = .closed

/-- **The account balances**: the session holds one reference to the saved conntrack if there is one, and
none behind `ctnetlink_done`; no eviction is put off. -/
def Balanced (w : DumpTask) : Prop :=
  w.refs.saved.Holds (if w.pc = .closed then [] else w.s.args1.toList) ∧ w.refs.evict.Holds []

/-- The references a task should hold for saved conntracks.  Within a call there is the one of the call
before, and the one it has taken itself if it has saved another conntrack. -/
def owed (w : DumpTask) : List CtPtr :=
  match w.pc with
  | .idle | .release => w.s.args1.toList
  | .loop | .restart | .out => w.last.toList ++ if w.s.args1 = w.last then [] else w.s.args1.toList
  | .closed => []

theorem owed_idle {w : DumpTask} (hpc : w.pc = .idle) : w.owed = w.s.args1.toList := by
  rw [owed, hpc]

theorem owed_release {w : DumpTask} (hpc : w.pc = .release) : w.owed = w.s.args1.toList := by
  rw [owed, hpc]

theorem owed_call {w : DumpTask} (hpc : w.pc = .loop ∨ w.pc = .restart ∨ w.pc = .out) :
    w.owed = w.last.toList ++ if w.s.args1 = w.last then [] else w.s.args1.toList := by
  rw [owed]
  rcases hpc with hpc | hpc | hpc
  · rw [hpc]
  · rw [hpc]
  · rw [hpc]

/-- **The invariant of a session** that has leaked the references `leaks`. -/
structure Account (leaks : List CtPtr) (w : DumpTask) : Prop where
  saved : w.refs.saved.Holds (w.owed ++ leaks)
  evict : w.refs.evict.Holds w.s.evict
  resting : w.Resting → w.s.evict = []
  /-- Until a walk stops, what is saved is what was when the call began, or nothing. -/
  searching : w.pc = .loop ∨ w.pc = .restart → w.s.args1 = none ∨ w.s.args1 = w.last

variable {env : NlEnv} {req : DumpRequest} {w : DumpTask} {leaks : List CtPtr}

theorem start_account (t : NfConntrackHash) (skb : Buf) : Account [] (start t skb) where
  saved := Refs.none_holds
  evict := Refs.none_holds
  resting := fun _ => rfl
  searching := fun h => (by rcases h with h | h <;> cases h)

theorem Account.balanced_iff (h : Account leaks w) (hrest : w.Resting) : w.Balanced ↔ leaks = [] := by
  have hevict := h.evict
  rw [h.resting hrest] at hevict
  have howed : w.owed = if w.pc = .closed then [] else w.s.args1.toList := by
    rcases hrest with hpc | hpc
    · rw [owed_idle hpc, hpc]
      rfl
    · rw [owed, hpc]
      rfl
  unfold Balanced
  rw [and_iff_left hevict, ← howed]
  exact h.saved.left_iff

/-! ### One step -/

/-- A round of the eviction loop gives back the reference it took. -/
theorem Account.evictOne (h : Account leaks w) {p : CtPtr} {l : List CtPtr} (hl : w.s.evict = p :: l)
    (env : NlEnv) : Account leaks (w.evictOne env p l) where
  saved := h.saved
  evict := by
    have hevict := h.evict
    rw [hl] at hevict
    exact hevict.put
  resting := by
    intro hrest
    have hnil := h.resting hrest
    rw [hl] at hnil
    cases hnil
  searching := h.searching

/-- The invariant inside a call. -/
theorem Account.ofCall (hpc : w.pc = .loop ∨ w.pc = .restart ∨ w.pc = .out)
    (hsaved : w.refs.saved.Holds
      ((w.last.toList ++ if w.s.args1 = w.last then [] else w.s.args1.toList) ++ leaks))
    (hevict : w.refs.evict.Holds w.s.evict) (hsearch : w.pc = .out ∨ w.s.args1 = none ∨ w.s.args1 = w.last) :
    Account leaks w where
  saved := by
    rw [owed_call hpc]
    exact hsaved
  evict := hevict
  resting := by
    intro hrest
    rcases hrest with hrest | hrest
    all_goals
      rw [hrest] at hpc
      simp at hpc
  searching := by
    intro hloop
    refine hsearch.resolve_left fun hout => ?_
    rw [hout] at hloop
    simp at hloop

/-- The invariant at the end of a call, and between two calls. -/
theorem Account.ofEnd (hpc : w.pc = .release ∨ w.pc = .idle ∨ w.pc = .closed)
    (hsaved : w.refs.saved.Holds (w.owed ++ leaks)) (hevict : w.refs.evict.Holds w.s.evict)
    (hdropped : w.pc = .release ∨ w.s.evict = []) : Account leaks w where
  saved := hsaved
  evict := hevict
  resting := by
    intro hrest
    refine hdropped.resolve_left fun hrelease => ?_
    rcases hrest with hrest | hrest
    all_goals
      rw [hrest] at hrelease
      cases hrelease
  searching := by
    intro hloop
    rcases hloop with hloop | hloop
    all_goals
      rw [hloop] at hpc
      simp at hpc

/-- Before the walk the saved references are those of the conntrack the call came with, and what has leaked. -/
theorem Account.holds_last (h : Account leaks w) (hpc : w.pc = .restart) :
    w.refs.saved.Holds (w.last.toList ++ leaks) := by
  have hsaved := h.saved
  rw [owed_call (Or.inr (Or.inl hpc))] at hsaved
  rcases h.searching (Or.inr hpc) with hnone | hsame
  · rw [hnone] at hsaved
    simpa using hsaved
  · rw [if_pos hsame, List.append_nil] at hsaved
    exact hsaved

/-- A walk saves again what was saved if it stops there. -/
theorem savesAgain_iff (hpc : w.pc = .restart) (hevict : w.s.evict = []) (hlt : w.s.args0 < w.s.table.size)
    (hsearch : w.s.args1 = none ∨ w.s.args1 = w.last) :
    w.SavesAgain env req ↔ ∃ p, w.last = some p ∧
      (dumpChain env req w.last w.s (w.s.table.chain w.s.args0)).1 = true ∧
      (dumpChain env req w.last w.s (w.s.table.chain w.s.args0)).2.args1 = some p := by
  have hstops := fun p => @dumpChain_stops_iff env req w.last w.s hevict hsearch p
  constructor
  · rintro ⟨-, -, -, p, room, hlast, htried⟩
    exact ⟨p, hlast, (hstops p).mpr ⟨room, htried⟩⟩
  · rintro ⟨p, hlast, hstop⟩
    obtain ⟨room, htried⟩ := (hstops p).mp hstop
    exact ⟨hpc, hevict, hlt, p, room, hlast, htried⟩

/-- **The walk of a call.**  It leaks a reference if it saves again what was saved when the call began. -/
theorem Account.walk (h : Account leaks w) (hpc : w.pc = .restart) (hevict : w.s.evict = [])
    (hlt : w.s.args0 < w.s.table.size) :
    ∃ leaks', Account leaks' (w.go env req) ∧ (leaks' = [] ↔ leaks = [] ∧ ¬ w.SavesAgain env req) := by
  have hsearch := h.searching (Or.inr hpc)
  have hholds := h.holds_last hpc
  have haccount := dumpChainRefs_account env req w.last (w.s.table.chain w.s.args0) w.s w.refs
  obtain ⟨refs', hvalue⟩ := dumpChainRefs_value env req w.last (w.s.table.chain w.s.args0) w.s w.refs
  rw [savesAgain_iff hpc hevict hlt hsearch, go_walk hpc hevict hlt, hvalue]
  rw [hvalue] at haccount
  revert haccount
  obtain ⟨stop, s'⟩ := dumpChain env req w.last w.s (w.s.table.chain w.s.args0)
  intro haccount
  have hevict' : refs'.evict.Holds s'.evict := haccount.evict h.evict
  cases stop with
  | true =>
    obtain ⟨x, hx, hget⟩ := haccount.stops rfl
    dsimp only at hx hget ⊢
    have htook : refs'.saved.Holds (x :: (w.last.toList ++ leaks)) := by
      rw [hget]
      exact hholds.get x
    by_cases hlast : w.last = some x
    · -- the reference of the call before is left over
      refine ⟨x :: leaks, Account.ofCall (Or.inr (Or.inr rfl)) ?_ hevict' (Or.inl rfl), ?_⟩
      · show refs'.saved.Holds
          ((w.last.toList ++ if s'.args1 = w.last then [] else s'.args1.toList) ++ x :: leaks)
        rw [hx, hlast, if_pos rfl, List.append_nil]
        rw [hlast] at htook
        exact htook
      · exact iff_of_false (List.cons_ne_nil x leaks) fun hno => hno.2 ⟨x, hlast, rfl, hx⟩
    · refine ⟨leaks, Account.ofCall (Or.inr (Or.inr rfl)) ?_ hevict' (Or.inl rfl), (and_iff_left ?_).symm⟩
      · show refs'.saved.Holds ((w.last.toList ++ if s'.args1 = w.last then [] else s'.args1.toList) ++ leaks)
        rw [hx, if_neg (Ne.symm hlast), List.append_assoc]
        exact htook.perm List.perm_middle.symm
      · rintro ⟨p, hp, -, hsaved⟩
        rw [hx] at hsaved
        exact hlast (hp.trans hsaved.symm)
  | false =>
    obtain ⟨hsaved, -⟩ := haccount.goesOn rfl
    dsimp only at hsaved ⊢
    have hholds' : refs'.saved.Holds
        ((w.last.toList ++ if (none : Option CtPtr) = w.last then [] else Option.toList none) ++ leaks) := by
      rw [hsaved]
      simpa using hholds
    refine ⟨leaks, ?_, (and_iff_left ?_).symm⟩
    · by_cases hsome : s'.args1.isSome
      · rw [if_pos hsome]
        exact Account.ofCall (Or.inr (Or.inl hpc)) hholds' hevict' (Or.inr (Or.inl rfl))
      · rw [if_neg hsome]
        have hnone : s'.args1 = none := by simpa using hsome
        refine Account.ofCall (Or.inl rfl) ?_ hevict' (Or.inr (Or.inl hnone))
        show refs'.saved.Holds ((w.last.toList ++ if s'.args1 = w.last then [] else s'.args1.toList) ++ leaks)
        rw [hnone]
        exact hholds'
    · rintro ⟨p, -, hstop, -⟩
      cases hstop

theorem not_savesAgain (hpc : w.pc ≠ .restart) : ¬ w.SavesAgain env req := fun hagain => hpc hagain.1

/-- The end of a call: the saved conntrack it came with is put. -/
theorem Account.out (h : Account leaks w) (hpc : w.pc = .out) (env : NlEnv) : Account leaks (w.go env req) := by
  have hsaved := h.saved
  rw [owed_call (Or.inr (Or.inr hpc))] at hsaved
  rw [DumpTask.go, hpc]
  dsimp only
  cases hlast : w.last with
  | none =>
    rw [hlast] at hsaved
    refine Account.ofEnd (Or.inl rfl) ?_ h.evict (Or.inl rfl)
    show w.refs.saved.Holds (w.s.args1.toList ++ leaks)
    by_cases hnone : w.s.args1 = none
    · rw [hnone] at hsaved ⊢
      exact hsaved
    · rw [if_neg hnone] at hsaved
      exact hsaved
  | some p =>
    rw [hlast] at hsaved
    refine Account.ofEnd (Or.inl rfl) ?_ h.evict (Or.inl rfl)
    show (w.refs.saved.put p).Holds ((if w.s.args1 = some p then none else w.s.args1).toList ++ leaks)
    have hput := hsaved.put
    by_cases hsame : w.s.args1 = some p
    · rw [if_pos hsame] at hput ⊢
      exact hput
    · rw [if_neg hsame] at hput ⊢
      exact hput

/-- **The task goes on.** -/
theorem Account.go (h : Account leaks w) (env : NlEnv) :
    ∃ leaks', Account leaks' (w.go env req) ∧ (leaks' = [] ↔ leaks = [] ∧ ¬ w.SavesAgain env req) := by
  -- a part that is not a walk leaks nothing
  have hquiet : ¬ w.SavesAgain env req → Account leaks (w.go env req) →
      ∃ leaks', Account leaks' (w.go env req) ∧ (leaks' = [] ↔ leaks = [] ∧ ¬ w.SavesAgain env req) :=
    fun hno hgo => ⟨leaks, hgo, (and_iff_left hno).symm⟩
  cases hpc : w.pc with
  | idle =>
    refine hquiet (not_savesAgain (by rw [hpc]; decide)) ?_
    rw [go_resting (Or.inl hpc)]
    exact h
  | closed =>
    refine hquiet (not_savesAgain (by rw [hpc]; decide)) ?_
    rw [go_resting (Or.inr hpc)]
    exact h
  | loop =>
    refine hquiet (not_savesAgain (by rw [hpc]; decide)) ?_
    have hsaved := h.saved
    rw [owed_call (Or.inl hpc)] at hsaved
    rw [go_loop hpc]
    refine Account.ofCall ?_ hsaved h.evict (Or.inr (h.searching (Or.inl hpc)))
    dsimp only
    split
    · exact Or.inr (Or.inl rfl)
    · exact Or.inr (Or.inr rfl)
  | restart =>
    cases hevict : w.s.evict with
    | cons p l =>
      refine hquiet (fun hagain => by rw [hagain.2.1] at hevict; cases hevict) ?_
      rw [go_evict (Or.inl hpc) hevict]
      exact h.evictOne hevict env
    | nil =>
      by_cases hlt : w.s.args0 < w.s.table.size
      · exact h.walk hpc hevict hlt
      · refine hquiet (fun hagain => hlt hagain.2.2.1) ?_
        have hsaved := h.saved
        rw [owed_call (Or.inr (Or.inl hpc))] at hsaved
        rw [go_over hpc hevict (Nat.not_lt.mp hlt)]
        exact Account.ofCall (Or.inr (Or.inr rfl)) hsaved h.evict (Or.inl rfl)
  | out =>
    refine hquiet (not_savesAgain (by rw [hpc]; decide)) ?_
    exact h.out hpc env
  | release =>
    refine hquiet (not_savesAgain (by rw [hpc]; decide)) ?_
    cases hevict : w.s.evict with
    | cons p l =>
      rw [go_evict (Or.inr hpc) hevict]
      exact h.evictOne hevict env
    | nil =>
      have hsaved := h.saved
      rw [owed_release hpc] at hsaved
      rw [go_released hpc hevict]
      exact Account.ofEnd (Or.inr (Or.inl rfl)) hsaved h.evict (Or.inr hevict)

/-- **One event.** -/
theorem Account.step (h : Account leaks w) (e : DumpEvent) :
    ∃ leaks', Account leaks' (w.step req e) ∧ (leaks' = [] ↔ leaks = [] ∧ ¬ w.Leaks req e) := by
  -- only the task itself can leak
  have hquiet : ¬ w.Leaks req e → Account leaks (w.step req e) →
      ∃ leaks', Account leaks' (w.step req e) ∧ (leaks' = [] ↔ leaks = [] ∧ ¬ w.Leaks req e) :=
    fun hno hstep => ⟨leaks, hstep, (and_iff_left hno).symm⟩
  cases e with
  | go env => exact h.go env
  | change t => exact hquiet id ⟨h.saved, h.evict, h.resting, h.searching⟩
  | call skb =>
    refine hquiet id ?_
    unfold DumpTask.step
    dsimp only
    by_cases hpc : w.pc = .idle
    · have hsaved := h.saved
      have hevict := h.evict
      rw [owed_idle hpc] at hsaved
      rw [h.resting (Or.inl hpc)] at hevict
      rw [if_pos hpc]
      refine Account.ofCall (Or.inl rfl) ?_ hevict (Or.inr (Or.inr rfl))
      dsimp only at hsaved ⊢
      rw [if_pos rfl, List.append_nil]
      exact hsaved
    · rw [if_neg hpc]
      exact h
  | done =>
    refine hquiet id ?_
    unfold DumpTask.step
    dsimp only
    by_cases hpc : w.pc = .idle
    · have hsaved := h.saved
      rw [owed_idle hpc] at hsaved
      rw [if_pos hpc]
      cases hargs1 : w.s.args1 with
      | none =>
        rw [hargs1] at hsaved
        exact Account.ofEnd (Or.inr (Or.inr rfl)) hsaved h.evict (Or.inr (h.resting (Or.inl hpc)))
      | some p =>
        rw [hargs1] at hsaved
        exact Account.ofEnd (Or.inr (Or.inr rfl)) hsaved.put h.evict (Or.inr (h.resting (Or.inl hpc)))
    · rw [if_neg hpc]
      exact h

/-! ### Runs -/

/-- **The account of a run.**  References have leaked exactly if a walk has saved again. -/
theorem run_account (req : DumpRequest) (t : NfConntrackHash) (skb : Buf) (l : List DumpEvent) :
    ∃ leaks, Account leaks (run (step req) (start t skb) l) ∧
      (leaks = [] ↔ ∀ pre e post, l = pre ++ e :: post →
        ¬ (run (step req) (start t skb) pre).Leaks req e) := by
  induction l using List.reverseRecOn with
  | nil => exact ⟨[], start_account t skb, iff_of_true rfl fun pre e post hsplit => by simp at hsplit⟩
  | append_singleton l e ih =>
    obtain ⟨leaks, haccount, hleaks⟩ := ih
    obtain ⟨leaks', haccount', hleaks'⟩ := @Account.step req _ leaks haccount e
    rw [run_snoc, forall_split_snoc]
    exact ⟨leaks', haccount', hleaks'.trans (and_congr_left fun _ => hleaks)⟩

/-- **The references of a dump.**  Between two calls, and behind `ctnetlink_done`, the session holds the
references it should, exactly if no walk so far has saved again the conntrack that was saved when its call
began. -/
theorem references_balanced_iff (req : DumpRequest) (t : NfConntrackHash) (skb : Buf) (l : List DumpEvent)
    (hrest : (run (step req) (start t skb) l).Resting) :
    (run (step req) (start t skb) l).Balanced ↔
      ∀ pre e post, l = pre ++ e :: post → ¬ (run (step req) (start t skb) pre).Leaks req e := by
  obtain ⟨leaks, haccount, hleaks⟩ := run_account req t skb l
  exact (haccount.balanced_iff hrest).trans hleaks

/-! ### A dump that leaks a reference -/

/-- The two conntracks of `pairTable` once the table has been resized, in its second chain. -/
def resizedTable : NfConntrackHash where
  chains := [[], [⟨1, .original⟩, ⟨2, .original⟩]]
  heap := fun _ => liveConn
  nodup := by decide

/-- A buffer for one message. -/
def smallBuf : Buf := .empty 300 narrow_lt

/-- The first call dumps conntrack 1 and saves conntrack 2; the table is resized; the second call does not
find conntrack 2 in the chain it was saved in, dumps conntrack 1 again, and saves conntrack 2 again. -/
def resizedDump : List DumpEvent :=
  .call smallBuf :: List.replicate 4 (.go sampleNlEnv) ++ .change resizedTable :: .call smallBuf ::
    List.replicate 7 (.go sampleNlEnv)

/-- The session is left with a reference to conntrack 2 that it does not know of any more. -/
theorem resizedDump_leaks :
    (run (step sampleRequest) (start (pairTable 1 2 (by decide)) smallBuf) resizedDump).Resting ∧
      ¬ (run (step sampleRequest) (start (pairTable 1 2 (by decide)) smallBuf) resizedDump).Balanced := by
  obtain ⟨w, hw⟩ : ∃ w, w = run (step sampleRequest) (start (pairTable 1 2 (by decide)) smallBuf)
    resizedDump := ⟨_, rfl⟩
  have hend : w.pc = .idle ∧ w.s.args1 = none ∧ w.refs.saved 2 = 1 := by
    rw [hw]
    decide +kernel
  obtain ⟨hidle, hargs1, hheld⟩ := hend
  rw [← hw]
  refine ⟨Or.inl hidle, fun hbalanced => ?_⟩
  have htwo := hbalanced.1 2
  rw [hidle, hargs1, hheld] at htwo
  cases htwo

/-- One call whose buffer holds the first of the two messages: the session rests with the second conntrack
saved. -/
theorem references_balanced_sample :
    (run (step sampleRequest) (start (pairTable 1 2 (by decide)) smallBuf)
        (.call smallBuf :: List.replicate 4 (.go sampleNlEnv))).Balanced ↔
      ∀ pre e post, (.call smallBuf :: List.replicate 4 (.go sampleNlEnv)) = pre ++ e :: post →
        ¬ (run (step sampleRequest) (start (pairTable 1 2 (by decide)) smallBuf) pre).Leaks sampleRequest e :=
  references_balanced_iff _ _ _ _ (Or.inl (by decide +kernel))

end DumpTask

end VgwDriver
