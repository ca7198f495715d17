import Trainer6800.Proofs.Machine.Calls
import Trainer6800.Proofs.Machine.Off
import Trainer6800.Proofs.Machine.Stepping

/-!
# A run in two calls

A front end gives the machine its cycles in portions.  Where the cuts fall should make no difference,
and this module says when that is so: a first call that has used its budget up, or that has waited
through the end of it, and a second call for what is left of a larger budget leave the machine as one
call for the larger budget does, and their summaries add up to its summary (`Machine.run_in_two`).

There is one condition.  A call exempts its first instruction from the breakpoints, so the second call
would go through a breakpoint at the cut, where the long call stops; the cut must not fall on one.

A slice is taken apart into the instructions that it executes, its leg (`Machine.Leg`), and its stop.
A leg may be walked with any larger budget, and the slice that comes after it may be counted from
zero or from what the leg has spent.
-/

namespace Trainer6800

/-- The summary of a run of which this is the later part, when the earlier part took so many cycles and
instructions. -/
def RunSummary.after (s : RunSummary) (cycles instructions : Nat) : RunSummary :=
  { s with
    cycles := s.cycles + UInt64.ofNat cycles
    instructions := s.instructions + UInt64.ofNat instructions }

namespace Machine

theorem summary_add (cycles instructions earlier earlier' : Nat) (stop : StopReason) :
    summary (cycles + earlier) (instructions + earlier') stop =
      (summary cycles instructions stop).after earlier earlier' := by
  simp only [summary, RunSummary.after, UInt64.ofNat_add]

/-! ## Counting from elsewhere -/

/-- A slice does not depend on where its counters begin, except that it may not begin at a breakpoint if
there have been instructions before. -/
theorem Slice.shift {budget : Nat} {m m' : Machine} {spent done : Nat} {events : List RunEvent}
    {s : RunSummary} (h : Slice budget m spent done events m' s) (cycles instructions : Nat)
    (free : done = 0 → 0 < instructions → m.breakpoints.contains m.cpu.registers.pc = false) :
    ∃ events', Slice (budget + cycles) m (spent + cycles) (done + instructions) events' m'
      (s.after cycles instructions) := by
  have freeAt {m : Machine} {done : Nat}
      (first : done = 0 → 0 < instructions → m.breakpoints.contains m.cpu.registers.pc = false)
      (later : 0 < done → m.breakpoints.contains m.cpu.registers.pc = false) :
      0 < done + instructions → m.breakpoints.contains m.cpu.registers.pc = false := by
    intro some
    rcases Nat.eq_zero_or_pos done with start | going
    · exact first start (by omega)
    · exact later going
  induction h with
  | exhausted used =>
    rw [← summary_add]
    exact ⟨_, .exhausted (Nat.add_le_add_right used cycles)⟩
  | halted within halted =>
    rw [← summary_add]
    exact ⟨_, .halted (Nat.add_lt_add_right within cycles) halted⟩
  | @waiting m spent done within waiting =>
    have ends : Slice (budget + cycles) m (spent + cycles) (done + instructions) _ _ _ :=
      .waiting (Nat.add_lt_add_right within cycles) waiting
    rw [Nat.add_sub_add_right, summary_add] at ends
    exact ⟨_, ends⟩
  | breakpoint within running later stops =>
    rw [← summary_add]
    exact ⟨_, .breakpoint (Nat.add_lt_add_right within cycles) running (Nat.add_pos_left later _) stops⟩
  | undefined within running going failed =>
    rw [← summary_add]
    exact ⟨_, .undefined (Nat.add_lt_add_right within cycles) running (freeAt free going) failed⟩
  | executed within running going took rest ih =>
    obtain ⟨events', next⟩ := ih fun start => absurd start (Nat.succ_ne_zero _)
    rw [Nat.add_right_comm, Nat.add_right_comm _ 1] at next
    exact ⟨_, .executed (Nat.add_lt_add_right within cycles) running (freeAt free going) took next⟩

/-! ## Legs -/

/-- A run of `budget` cycles that has come to `m`, after `spent` cycles and `done` instructions, executes
some instructions and comes to `m'`, after `spent'` cycles and `done'` instructions. -/
inductive Leg (budget : Nat) : Machine → Nat → Nat → Machine → Nat → Nat → Prop where
  | stay (m : Machine) (spent done : Nat) : Leg budget m spent done m spent done
  | execute {m : Machine} {spent done : Nat} (within : spent < budget)
      (running : m.cpu.state = .running)
      (free : 0 < done → m.breakpoints.contains m.cpu.registers.pc = false)
      {n : Nat} (took : m.advance.2 = .ok n) {m' : Machine} {spent' done' : Nat}
      (rest : Leg budget m.advance.1 (spent + n) (done + 1) m' spent' done') :
    Leg budget m spent done m' spent' done'

namespace Leg

variable {budget : Nat} {m m' : Machine} {spent done spent' done' : Nat}

/-- What is within a budget is within a larger one. -/
theorem mono (h : Leg budget m spent done m' spent' done') {larger : Nat} (le : budget ≤ larger) :
    Leg larger m spent done m' spent' done' := by
  induction h with
  | stay m spent done => exact .stay m spent done
  | execute within running free took rest ih =>
    exact .execute (Nat.lt_of_lt_of_le within le) running free took ih

/-- A leg goes before a slice. -/
theorem slice (h : Leg budget m spent done m' spent' done') {events : List RunEvent} {m'' : Machine}
    {s : RunSummary} (rest : Slice budget m' spent' done' events m'' s) :
    ∃ events', Slice budget m spent done events' m'' s := by
  induction h with
  | stay m spent done => exact ⟨events, rest⟩
  | execute within running free took leg ih =>
    obtain ⟨events', next⟩ := ih rest
    exact ⟨_, .executed within running free took next⟩

/-- Each instruction of a leg takes at least two cycles, and only the last may exceed the budget, by less
than its length. -/
theorem counts (h : Leg budget m spent done m' spent' done') (enough : spent ≤ budget + 11) :
    spent' ≤ budget + 11 ∧ 2 * done' + spent ≤ 2 * done + spent' := by
  induction h with
  | stay m spent done => exact ⟨enough, Nat.le_refl _⟩
  | execute within running free took rest ih =>
    have atLeast := Cpu.two_le_of_step running took
    have atMost := Cpu.le_twelve_of_step took
    have later := ih (by omega)
    omega

end Leg

section
variable {budget : Nat} {m m' : Machine} {spent done : Nat} {events : List RunEvent} {s : RunSummary}

/-- A slice that uses its budget up is a leg. -/
theorem Slice.leg_of_exhausted (h : Slice budget m spent done events m' s)
    (stop : s.stop = .budgetExhausted) :
    ∃ spent' done', Leg budget m spent done m' spent' done' ∧ budget ≤ spent' ∧
      s = summary spent' done' .budgetExhausted := by
  induction h with
  | @exhausted m spent done used => exact ⟨spent, done, .stay m spent done, used, rfl⟩
  | halted | waiting | breakpoint | undefined => cases stop
  | executed within running free took rest ih =>
    obtain ⟨spent', done', leg, used, same⟩ := ih stop
    exact ⟨spent', done', .execute within running free took leg, used, same⟩

/-- A slice that ends waiting is a leg to where the processor waits, and the rest of the budget. -/
theorem Slice.leg_of_waiting (h : Slice budget m spent done events m' s) (stop : s.stop = .waiting) :
    ∃ parked spent' done', Leg budget m spent done parked spent' done' ∧ spent' < budget ∧
      parked.cpu.state = .waiting ∧ m' = parked.idle (UInt64.ofNat (budget - spent')) ∧
      s = summary budget done' .waiting := by
  induction h with
  | @waiting m spent done within waiting =>
    exact ⟨m, spent, done, .stay m spent done, within, waiting, rfl, rfl⟩
  | exhausted | halted | breakpoint | undefined => cases stop
  | executed within running free took rest ih =>
    obtain ⟨parked, spent', done', leg, rest⟩ := ih stop
    exact ⟨parked, spent', done', .execute within running free took leg, rest⟩

end

/-! ## Two calls -/

/-- The second of two calls, with what the first one has left of a budget. -/
def runRest (m : Machine) (first whole : Nat) : Machine × RunSummary :=
  (m.run first).1.run (whole - (m.run first).2.cycles.toNat)

/-- The two calls come to the same as one. -/
structure RunsInTwo (m : Machine) (first whole : Nat) : Prop where
  machine : (m.run whole).1 = (m.runRest first whole).1
  stop : (m.run whole).2.stop = (m.runRest first whole).2.stop
  cycles : (m.run whole).2.cycles.toNat =
    (m.run first).2.cycles.toNat + (m.runRest first whole).2.cycles.toNat
  instructions : (m.run whole).2.instructions.toNat =
    (m.run first).2.instructions.toNat + (m.runRest first whole).2.instructions.toNat

variable {m : Machine} {first whole : Nat}

theorem run_eq_runFrom (on : m.isPowered) (budget : Nat) : m.run budget = m.runFrom budget 0 0 :=
  if_pos on

/-- A call is known from what the loop leads to and what it counts. -/
theorem run_of_runFrom (on : m.isPowered) {budget : Nat} {m' : Machine} {s : RunSummary}
    (machine : (m.runFrom budget 0 0).1 = m') (counted : (m.runFrom budget 0 0).2 = s) :
    m.run budget = (m', s) :=
  (run_eq_runFrom on budget).trans (Prod.ext machine counted)

/-- A call does not turn the machine off. -/
theorem isPowered_run (on : m.isPowered) (budget : Nat) : (m.run budget).1.isPowered := by
  rw [isPowered, power_run]
  exact on

/-- It is enough to know where the calls lead and what their counters come to, if these fit 64 bits. -/
theorem RunsInTwo.of_eq {m₁ m₂ : Machine} {cycles instructions cycles' instructions' : Nat}
    {stop stop' : StopReason} (call : m.run first = (m₁, summary cycles instructions stop))
    (call' : m₁.run (whole - cycles) = (m₂, summary cycles' instructions' stop'))
    (long : m.run whole = (m₂, summary (cycles + cycles') (instructions + instructions') stop'))
    (fits : cycles + cycles' < UInt64.size) (fits' : instructions + instructions' < UInt64.size) :
    m.RunsInTwo first whole := by
  have size {n : Nat} (small : n < UInt64.size) : (UInt64.ofNat n).toNat = n :=
    UInt64.toNat_ofNat_of_lt' small
  have spent : (m.run first).2.cycles.toNat = cycles := by
    rw [call]
    exact size (by omega)
  have done : (m.run first).2.instructions.toNat = instructions := by
    rw [call]
    exact size (by omega)
  have rest : m.runRest first whole = (m₂, summary cycles' instructions' stop') := by
    rw [runRest, spent, call, call']
  refine ⟨?_, ?_, ?_, ?_⟩
  · rw [long, rest]
  · rw [long, rest]
    rfl
  · rw [long, rest, spent]
    exact (size fits).trans (congrArg (cycles + ·) (size (by omega)).symm)
  · rw [long, rest, done]
    exact (size fits').trans (congrArg (instructions + ·) (size (by omega)).symm)

/-- The rest of a budget, when the first call has used up its own. -/
theorem runsInTwo_of_exhausted (on : m.isPowered) (room : first + 12 ≤ UInt64.size)
    (room' : whole + 12 ≤ UInt64.size) (stop : (m.run first).2.stop = .budgetExhausted)
    (free : m.breakpoints.contains (m.run first).1.cpu.registers.pc = false)
    (left : (m.run first).2.cycles.toNat ≤ whole) : m.RunsInTwo first whole := by
  have slice := slice_runFrom first m 0 0
  have on' := isPowered_run on first
  rw [run_eq_runFrom on] at stop free left on'
  obtain ⟨spent, done, leg, used, total⟩ := slice.leg_of_exhausted stop
  have counts := leg.counts (Nat.zero_le _)
  have spent_le : spent ≤ whole := by
    rw [total] at left
    rwa [summary, UInt64.toNat_ofNat_of_lt' (by omega)] at left
  -- the second call, counted from what the first has spent
  have slice' := slice_runFrom (whole - spent) (m.runFrom first 0 0).1 0 0
  obtain ⟨cycles, instructions, account⟩ := slice'.accounted (Nat.zero_le _)
  have free' : (m.runFrom first 0 0).1.breakpoints.contains
      (m.runFrom first 0 0).1.cpu.registers.pc = false := by
    rw [slice.keeps_settings.1]
    exact free
  obtain ⟨_, later⟩ := slice'.shift spent done fun _ _ => free'
  rw [Nat.sub_add_cancel spent_le, Nat.zero_add, Nat.zero_add] at later
  obtain ⟨events, long⟩ := (leg.mono (Nat.le_trans used spent_le)).slice later
  have summary' := account.summary
  have le := account.stop.le
  have least := account.least
  rw [Nat.zero_add, Nat.zero_add] at summary'
  rw [Nat.zero_add] at le
  have call := run_of_runFrom on rfl total
  have call' := run_of_runFrom on' rfl summary'
  refine .of_eq call call' ?_ (by omega) (by omega)
  rw [run_eq_runFrom on, long.runFrom_eq, summary', ← summary_add, Nat.add_comm cycles,
    Nat.add_comm instructions]
  rfl

/-- The rest of a budget, when the first call has ended waiting. -/
theorem runsInTwo_of_waiting (on : m.isPowered) (room : first + 12 ≤ UInt64.size)
    (room' : whole + 12 ≤ UInt64.size) (stop : (m.run first).2.stop = .waiting)
    (left : (m.run first).2.cycles.toNat < whole) : m.RunsInTwo first whole := by
  have slice := slice_runFrom first m 0 0
  have on' := isPowered_run on first
  rw [run_eq_runFrom on] at stop left on'
  obtain ⟨parked, spent, done, leg, within, waiting, idled, total⟩ := slice.leg_of_waiting stop
  have counts := leg.counts (Nat.zero_le _)
  have some : first < whole := by
    rw [total] at left
    rwa [summary, UInt64.toNat_ofNat_of_lt' (by omega)] at left
  -- the second call passes the rest of the time where the first one has stopped
  have waiting' : (parked.idle (UInt64.ofNat (first - spent))).cpu.state = .waiting := waiting
  have later : Slice (whole - first) _ 0 0 _ _ _ := .waiting (Nat.sub_pos_of_lt some) waiting'
  have rest : Slice whole parked spent done _ _ _ :=
    .waiting (Nat.lt_trans within some) waiting
  obtain ⟨events, long⟩ := (leg.mono (Nat.le_of_lt some)).slice rest
  have passed : first - spent + (whole - first) = whole - spent := by omega
  have call := run_of_runFrom on idled total
  rw [idled] at on'
  have call' : (parked.idle _).run (whole - first) = (_, _) :=
    (run_eq_runFrom on' _).trans later.runFrom_eq
  refine .of_eq call call' ?_ (by omega) (by omega)
  rw [run_eq_runFrom on, long.runFrom_eq, Nat.add_sub_of_le (Nat.le_of_lt some), Nat.add_zero]
  have same := parked.idle_idle (UInt64.ofNat (first - spent)) (UInt64.ofNat (whole - first))
  rw [← UInt64.ofNat_add, passed] at same
  exact congrArg (·, _) same.symm

/-- Slicing a run does not change it.  A call that has used up its budget, and has not left the processor
at a breakpoint, may be followed by another for the rest of any larger budget, and a call that has ended
waiting by one that is not for nothing: the two leave the machine as one call does, which stops for the
reason of the second and takes as many cycles and instructions as both. -/
theorem run_in_two (room : first + 12 ≤ UInt64.size) (room' : whole + 12 ≤ UInt64.size) :
    ((m.run first).2.stop = .budgetExhausted →
        m.breakpoints.contains (m.run first).1.cpu.registers.pc = false →
        (m.run first).2.cycles.toNat ≤ whole → m.RunsInTwo first whole) ∧
      ((m.run first).2.stop = .waiting →
        (m.run first).2.cycles.toNat < whole → m.RunsInTwo first whole) := by
  by_cases on : m.isPowered
  · exact ⟨runsInTwo_of_exhausted on room room', runsInTwo_of_waiting on room room'⟩
  · -- a call of a machine that is off says so
    have off : (m.run first).2.stop = .poweredOff := by
      rw [run, if_neg on]
      rfl
    constructor
    · intro stop
      rw [off] at stop
      cases stop
    · intro stop
      rw [off] at stop
      cases stop

/-- A machine before two instructions that do nothing and one that waits. -/
def beforeWait : Machine :=
  ((ofMonitor [1, 1, 0x3E] {}).powerButton).setPc 0xFC00

/-- A cut within the second instruction, and one within the wait. -/
theorem run_in_two_beforeWait :
    beforeWait.RunsInTwo 3 100 ∧ (beforeWait.run 3).2.cycles = 4 ∧
      beforeWait.RunsInTwo 50 100 ∧ (beforeWait.run 50).2.instructions = 3 := by
  have exhausted : (beforeWait.run 3).2 = ⟨4, 2, .budgetExhausted⟩ := by decide +kernel
  have free : beforeWait.breakpoints.contains (beforeWait.run 3).1.cpu.registers.pc = false := rfl
  have waiting : (beforeWait.run 50).2 = ⟨50, 3, .waiting⟩ := by decide +kernel
  have room : 100 + 12 ≤ UInt64.size := by decide
  have inTwo := @run_in_two beforeWait 3 100 (by decide) room
  have inWait := @run_in_two beforeWait 50 100 (by decide) room
  refine ⟨inTwo.1 ?_ free ?_, ?_, inWait.2 ?_ ?_, ?_⟩
  · rw [exhausted]
  · rw [exhausted]
    decide
  · rw [exhausted]
  · rw [waiting]
  · rw [waiting]
    decide
  · rw [waiting]

end Machine

end Trainer6800
