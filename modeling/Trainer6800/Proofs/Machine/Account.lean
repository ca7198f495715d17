import Trainer6800.Proofs.Cpu.Footprint
import Trainer6800.Proofs.Machine.Slice

/-!
# The account of a run

A run answers how many cycles it took, how many instructions it executed and why it stopped.  This
module says what the three have to do with each other and with the machine: the cycle counter has gone
on by the cycles of the summary, each reason to stop says where the processor is and how much of the
budget is left, and an instruction took between two and twelve cycles.  That the run ends at all is part
of the account: an instruction takes at least two cycles, so the loop goes round at most once for every
two cycles of the budget, and once more.

A summary counts in 64 bits and the loop without a bound.  The two agree as long as the last instruction,
which may go on for eleven cycles after the budget is used up, does not run over.
-/

namespace Trainer6800

/-- What a reason to stop says of a run of `budget` cycles that leaves the processor `cpu` behind, after
so many cycles and instructions.  No run of a powered machine stops because it is off. -/
def StopReason.Explains (budget : Nat) (breakpoints : Breakpoints) (cpu : Cpu Bus)
    (cycles instructions : Nat) : StopReason → Prop
  | budgetExhausted => budget ≤ cycles ∧ cycles ≤ budget + 11
  | breakpoint p => cycles < budget ∧ 1 ≤ instructions ∧ breakpoints.contains p ∧
    cpu.registers.pc = p ∧ cpu.state = .running
  | halted => cycles < budget ∧ cpu.state = .halted
  | waiting => cycles = budget ∧ 0 < budget ∧ cpu.state = .waiting
  | poweredOff => False

/-- Whatever the reason, the budget is exceeded by less than an instruction. -/
theorem StopReason.Explains.le {budget cycles instructions : Nat} {breakpoints : Breakpoints}
    {cpu : Cpu Bus} {stop : StopReason}
    (h : stop.Explains budget breakpoints cpu cycles instructions) : cycles ≤ budget + 11 := by
  cases stop with
  | budgetExhausted => exact h.2
  | breakpoint p => exact Nat.le_add_right_of_le (Nat.le_of_lt h.1)
  | halted => exact Nat.le_add_right_of_le (Nat.le_of_lt h.1)
  | waiting => exact Nat.le_add_right_of_le (Nat.le_of_eq h.1)
  | poweredOff => exact h.elim

/-- The budget of a tick is at most what the clock does in a second, or one. -/
theorem MachineConfig.cyclesPerTick_lt (config : MachineConfig) :
    config.cyclesPerTick < UInt32.size := by
  have clock := config.clockHz.toNat_lt_size
  have share := Nat.div_le_self config.clockHz.toNat (max 1 config.ticksPerSecond.toNat)
  have longest := Nat.lt_of_le_of_lt share clock
  exact Nat.max_lt.mpr ⟨by decide, longest⟩

namespace Machine

/-- A run of `budget` cycles from `m`, after `spent` cycles and `done` instructions, goes on for `cycles`
and `instructions`. -/
structure Accounted (budget : Nat) (m : Machine) (spent done : Nat) (m' : Machine) (s : RunSummary)
    (cycles instructions : Nat) : Prop where
  summary : s = Machine.summary (spent + cycles) (done + instructions) s.stop
  counter : m'.cpu.cycles = m.cpu.cycles + UInt64.ofNat cycles
  stop : s.stop.Explains budget m.breakpoints m'.cpu (spent + cycles) (done + instructions)
  least : 2 * instructions ≤ cycles
  most : s.stop ≠ .waiting → cycles ≤ 12 * instructions

/-- Nothing is spent by stopping on the spot. -/
theorem Accounted.at_once {budget : Nat} {m m' : Machine} {spent done : Nat} {stop : StopReason}
    (counter : m'.cpu.cycles = m.cpu.cycles)
    (explains : stop.Explains budget m.breakpoints m'.cpu spent done) :
    Accounted budget m spent done m' (Machine.summary spent done stop) 0 0 where
  summary := rfl
  counter := counter.trans (UInt64.add_zero _).symm
  stop := explains
  least := Nat.le_refl 0
  most := fun _ => Nat.le_refl 0

/-- Every slice has an account. -/
theorem Slice.accounted {budget : Nat} {m m' : Machine} {spent done : Nat} {events : List RunEvent}
    {s : RunSummary} (h : Slice budget m spent done events m' s) (enough : spent ≤ budget + 11) :
    ∃ cycles instructions, Accounted budget m spent done m' s cycles instructions := by
  induction h with
  | exhausted used => exact ⟨0, 0, .at_once rfl ⟨used, enough⟩⟩
  | halted within halted => exact ⟨0, 0, .at_once rfl ⟨within, halted⟩⟩
  | breakpoint within running later stops =>
    exact ⟨0, 0, .at_once rfl ⟨within, later, stops, rfl, running⟩⟩
  | @undefined m spent done within running free e failed =>
    have halts : m.advance.1.cpu.state = .halted := Cpu.halted_of_step failed
    have counter : m.advance.1.cpu.cycles = m.cpu.cycles := by
      show m.cpu.step.cpu.cycles = m.cpu.cycles
      rw [Cpu.halts_of_step failed]
    exact ⟨0, 0, .at_once counter ⟨within, halts⟩⟩
  | @waiting m spent done within waiting =>
    have whole : spent + (budget - spent) = budget := Nat.add_sub_of_le (Nat.le_of_lt within)
    refine ⟨budget - spent, 0, ?_⟩
    exact {
      summary := by rw [whole]; rfl
      counter := rfl
      stop := ⟨whole, Nat.zero_lt_of_lt within, waiting⟩
      least := Nat.zero_le _
      most := fun other => absurd rfl other }
  | @executed m spent done within running free n took events m' s rest ih =>
    have atLeast : 2 ≤ n := Cpu.two_le_of_step running took
    have atMost : n ≤ 12 := Cpu.le_twelve_of_step took
    obtain ⟨cycles, instructions, account⟩ := ih (by omega)
    have counter : m.advance.1.cpu.cycles = m.cpu.cycles + UInt64.ofNat n :=
      Cpu.cycles_of_step took
    have least := account.least
    refine ⟨n + cycles, 1 + instructions, ?_⟩
    exact {
      summary := by rw [← Nat.add_assoc, ← Nat.add_assoc]; exact account.summary
      counter := by rw [account.counter, counter, UInt64.ofNat_add, UInt64.add_assoc]
      stop := by rw [← Nat.add_assoc, ← Nat.add_assoc]; exact account.stop
      least := by omega
      most := fun other => by have most := account.most other; omega }

/-- A slice has at most one event for every two cycles, and its return. -/
theorem Slice.length_events {budget : Nat} {m m' : Machine} {spent done : Nat}
    {events : List RunEvent} {s : RunSummary} (h : Slice budget m spent done events m' s) :
    2 * events.length ≤ budget - spent + 3 := by
  induction h with
  | exhausted used => exact Nat.le_add_left _ _
  | halted within halted => exact Nat.le_add_left _ _
  | waiting within waiting => exact Nat.le_add_left _ _
  | breakpoint within running later stops => exact Nat.le_add_left _ _
  | undefined within running free failed =>
    rw [List.length_cons, List.length_singleton]
    omega
  | executed within running free took rest ih =>
    have atLeast := Cpu.two_le_of_step running took
    rw [List.length_cons]
    omega

/-- A run of a powered machine ends, and its summary is true: the loop goes round at most once for every
two cycles of the budget and once more, the cycle counter has gone on by the cycles of the summary, the
reason to stop explains where the machine is, and, unless it waited, every instruction took between two
and twelve cycles.  A tick is a run with a budget that the summary can count. -/
theorem run_accounted {m : Machine} (on : m.isPowered) {budget : Nat}
    (room : budget + 12 ≤ UInt64.size) :
    (∃ events, Slice budget m 0 0 events (m.run budget).1 (m.run budget).2 ∧
      2 * events.length ≤ budget + 3) ∧
    (m.run budget).1.cpu.cycles = m.cpu.cycles + (m.run budget).2.cycles ∧
    (m.run budget).2.stop.Explains budget m.breakpoints (m.run budget).1.cpu
      (m.run budget).2.cycles.toNat (m.run budget).2.instructions.toNat ∧
    ((m.run budget).2.stop ≠ .waiting →
      2 * (m.run budget).2.instructions.toNat ≤ (m.run budget).2.cycles.toNat ∧
      (m.run budget).2.cycles.toNat ≤ 12 * (m.run budget).2.instructions.toNat) ∧
    m.config.cyclesPerTick < UInt32.size := by
  have slice : Slice budget m 0 0 (m.eventsFrom budget 0 0) (m.run budget).1 (m.run budget).2 := by
    rw [run, if_pos on]
    exact slice_runFrom budget m 0 0
  obtain ⟨cycles, instructions, account⟩ := slice.accounted (Nat.zero_le _)
  have stop := account.stop
  have summary := account.summary
  rw [Nat.zero_add, Nat.zero_add] at stop summary
  -- neither number runs over in 64 bits
  have counted : (m.run budget).2.cycles.toNat = cycles := by
    have le := stop.le
    rw [summary]
    exact UInt64.toNat_ofNat_of_lt' (by omega)
  have counted' : (m.run budget).2.instructions.toNat = instructions := by
    have le := stop.le
    have least := account.least
    rw [summary]
    exact UInt64.toNat_ofNat_of_lt' (by omega)
  refine ⟨⟨_, slice, slice.length_events⟩, ?_, ?_, ?_, m.config.cyclesPerTick_lt⟩
  · rw [account.counter, ← counted, UInt64.ofNat_toNat]
  · rw [counted, counted']
    exact stop
  · intro other
    rw [counted, counted']
    exact ⟨account.least, account.most other⟩

/-- A machine before an instruction that takes two cycles, one that takes four, and a breakpoint. -/
def beforeTwo : Machine :=
  (((ofMonitor [0x01, 0x08, 0x01] {}).powerButton).setPc 0xFC00).addBreakpoint 0xFC02

/-- With many cycles it stops at the breakpoint, when it has executed both; three are used up by the
second. -/
theorem run_accounted_beforeTwo :
    beforeTwo.isPowered ∧
      (beforeTwo.run 1000).2 = ⟨6, 2, .breakpoint 0xFC02⟩ ∧
      (beforeTwo.run 1000).1.cpu.cycles = beforeTwo.cpu.cycles + 6 ∧
      StopReason.Explains 1000 beforeTwo.breakpoints (beforeTwo.run 1000).1.cpu 6 2
        (.breakpoint 0xFC02) ∧
      2 * 2 ≤ 6 ∧ 6 ≤ 12 * 2 ∧
      (beforeTwo.run 3).2 = ⟨6, 2, .budgetExhausted⟩ ∧
      StopReason.Explains 3 beforeTwo.breakpoints (beforeTwo.run 3).1.cpu 6 2 .budgetExhausted := by
  have on : beforeTwo.isPowered := rfl
  have stopped : (beforeTwo.run 1000).2 = ⟨6, 2, .breakpoint 0xFC02⟩ := by decide +kernel
  have ended : (beforeTwo.run 3).2 = ⟨6, 2, .budgetExhausted⟩ := by decide +kernel
  obtain ⟨-, counter, stop, bounds, -⟩ := run_accounted on (by decide : 1000 + 12 ≤ UInt64.size)
  obtain ⟨-, -, stop', -, -⟩ := run_accounted on (by decide : 3 + 12 ≤ UInt64.size)
  rw [stopped] at counter stop bounds
  rw [ended] at stop'
  obtain ⟨least, most⟩ := bounds nofun
  exact ⟨on, stopped, counter, stop, least, most, ended, stop'⟩

end Machine

end Trainer6800
