import Mathlib.Logic.Function.Iterate
import Trainer6800.Proofs.Machine.Account
import Trainer6800.Proofs.Machine.Sound

/-!
# Stepping instead of running

The plain way to run a machine is to step it until the budget is used up, the processor halts, or it
comes to a breakpoint (`Machine.stepUntil`).  `Machine.run` does so too, but does not step a processor
that waits: it lets the rest of the budget pass in one jump.  This module says that the jump makes no
difference (`Machine.run_eq_stepUntil`).

A step records the last write that nothing took, and a jump does not; so the two agree on machines on
which no write has failed, as no write does on a machine that came to be through its own operations.
The report of a breakpoint, which only a run makes, goes to the journal, so the machines are compared
with their journals written out.
-/

namespace Trainer6800

namespace Machine

/-- A machine does not turn itself off. -/
theorem isPowered_step {m : Machine} (on : m.isPowered) : m.step.1.isPowered := by
  rw [step, if_pos on]
  exact on

theorem step_of_isPowered {m : Machine} (on : m.isPowered) : m.step = m.advance :=
  if_pos on

/-- Step a powered machine on, after `spent` cycles and `done` steps, until `budget` cycles are spent or
the processor is halted, or until it comes to a breakpoint; the machine then, and the cycles spent. -/
def stepUntil (budget : Nat) (m : Machine) (on : m.isPowered) (spent done : Nat) : Machine × Nat :=
  if goes : spent < budget ∧ m.cpu.state ≠ .halted then
    if m.cpu.state = .running ∧ 0 < done ∧ m.breakpoints.contains m.cpu.registers.pc then
      (m, spent)
    else
      match took : m.step.2 with
      | .error _ => (m.step.1, spent)
      | .ok n =>
        have : 0 < n := by
          rw [step_of_isPowered on] at took
          exact Cpu.pos_of_step goes.2 took
        stepUntil budget m.step.1 (isPowered_step on) (spent + n) (done + 1)
  else (m, spent)
termination_by budget - spent

section
variable {budget : Nat} {m : Machine} {on : m.isPowered} {spent done : Nat}

/-! ## The rounds of the loop -/

theorem not_stops_of_free (free : 0 < done → m.breakpoints.contains m.cpu.registers.pc = false) :
    ¬ (m.cpu.state = .running ∧ 0 < done ∧ m.breakpoints.contains m.cpu.registers.pc) := by
  rintro ⟨-, later, stops⟩
  rw [free later] at stops
  cases stops

theorem stepUntil_stop (stops : ¬ (spent < budget ∧ m.cpu.state ≠ .halted)) :
    m.stepUntil budget on spent done = (m, spent) := by
  rw [stepUntil, dif_neg stops]

theorem stepUntil_breakpoint (goes : spent < budget ∧ m.cpu.state ≠ .halted)
    (stops : m.cpu.state = .running ∧ 0 < done ∧ m.breakpoints.contains m.cpu.registers.pc) :
    m.stepUntil budget on spent done = (m, spent) := by
  rw [stepUntil, dif_pos goes, if_pos stops]

theorem stepUntil_error (goes : spent < budget ∧ m.cpu.state ≠ .halted)
    (free : ¬ (m.cpu.state = .running ∧ 0 < done ∧ m.breakpoints.contains m.cpu.registers.pc))
    {e : InvalidOpcode} (failed : m.advance.2 = .error e) :
    m.stepUntil budget on spent done = (m.advance.1, spent) := by
  rw [stepUntil, dif_pos goes, if_neg free]
  split
  · rw [step_of_isPowered on]
  · rename_i other
    rw [step_of_isPowered on, failed] at other
    cases other

theorem stepUntil_ok (goes : spent < budget ∧ m.cpu.state ≠ .halted)
    (free : ¬ (m.cpu.state = .running ∧ 0 < done ∧ m.breakpoints.contains m.cpu.registers.pc))
    {n : Nat} (took : m.advance.2 = .ok n) :
    m.stepUntil budget on spent done =
      m.advance.1.stepUntil budget on (spent + n) (done + 1) := by
  rw [stepUntil, dif_pos goes, if_neg free]
  split
  · rename_i other
    rw [step_of_isPowered on, took] at other
    cases other
  · rename_i same
    rw [step_of_isPowered on, took] at same
    cases same
    simp only [step_of_isPowered on]

/-! ## Waiting -/

/-- The machine after cycles in which nothing else has happened. -/
def idle (m : Machine) (cycles : UInt64) : Machine :=
  { m with cpu.cycles := m.cpu.cycles + cycles }

theorem idle_zero (m : Machine) : m.idle 0 = m := by
  rw [idle, UInt64.add_zero]

theorem idle_idle (m : Machine) (first later : UInt64) :
    (m.idle first).idle later = m.idle (first + later) := by
  simp only [idle, UInt64.add_assoc]

/-- Where no write has failed, a waiting processor makes nothing of a step but a cycle. -/
theorem advance_waiting (waiting : m.cpu.state = .waiting) (unharmed : m.bus.fault = none) :
    m.advance = (m.idle 1, .ok 1) := by
  obtain ⟨⟨registers, state, cycles, bus⟩, power, config, breakpoints, queue, lastFault, mounted⟩ := m
  obtain ⟨ram, rom, keypad, display, fault, journal⟩ := bus
  cases waiting
  cases unharmed
  rfl

/-- Any number of cycles may pass at once. -/
theorem iterate_step_waiting (on : m.isPowered) (waiting : m.cpu.state = .waiting)
    (unharmed : m.bus.fault = none) (n : Nat) :
    (fun m => m.step.1)^[n] m = m.idle (UInt64.ofNat n) := by
  induction n with
  | zero => exact m.idle_zero.symm
  | succ n ih =>
    have on' : (m.idle (UInt64.ofNat n)).isPowered := on
    have step := advance_waiting (m := m.idle (UInt64.ofNat n)) waiting unharmed
    rw [Function.iterate_succ_apply', ih, step_of_isPowered on', step, idle_idle, UInt64.ofNat_add]
    rfl

/-- Stepping a waiting processor uses the budget up. -/
theorem stepUntil_waiting (waiting : m.cpu.state = .waiting) (unharmed : m.bus.fault = none)
    (within : spent ≤ budget) :
    m.stepUntil budget on spent done = (m.idle (UInt64.ofNat (budget - spent)), budget) := by
  -- the induction is on the cycles that are left
  generalize left : budget - spent = n
  induction n generalizing m spent done with
  | zero =>
    have used : spent = budget := by omega
    rw [stepUntil_stop fun goes => Nat.not_lt.mpr (Nat.le_of_eq used.symm) goes.1, used]
    exact congrArg (·, budget) m.idle_zero.symm
  | succ n ih =>
    have goes : spent < budget ∧ m.cpu.state ≠ .halted := ⟨by omega, by rw [waiting]; decide⟩
    have free : ¬ (m.cpu.state = .running ∧ 0 < done ∧
        m.breakpoints.contains m.cpu.registers.pc) := by
      rintro ⟨running, -⟩
      rw [waiting] at running
      cases running
    have step := advance_waiting waiting unharmed
    have took : m.advance.2 = .ok 1 := by rw [step]
    have rest := @ih (m.idle 1) on (spent + 1) (done + 1) waiting unharmed (by omega) (by omega)
    rw [stepUntil_ok goes free took]
    simp only [step]
    rw [rest, idle_idle, UInt64.add_comm, UInt64.ofNat_add]
    rfl

end

/-! ## Running -/

/-- What the plain loop has to do with a slice of a run. -/
structure SteppedUntil (budget : Nat) (m : Machine) (on : m.isPowered) (spent done : Nat)
    (m' : Machine) (s : RunSummary) : Prop where
  machine : m'.act .writeOut = (m.stepUntil budget on spent done).1.act .writeOut
  cycles : s.cycles = UInt64.ofNat (m.stepUntil budget on spent done).2
  enough : (m.stepUntil budget on spent done).2 ≤ budget + 11

/-- It is enough to know where the loop ends. -/
theorem SteppedUntil.of_eq {budget : Nat} {m m' d : Machine} {on : m.isPowered} {spent done total : Nat}
    {s : RunSummary} (ends : m.stepUntil budget on spent done = (d, total))
    (machine : m'.act .writeOut = d.act .writeOut) (cycles : s.cycles = UInt64.ofNat total)
    (enough : total ≤ budget + 11) : SteppedUntil budget m on spent done m' s where
  machine := by rw [ends]; exact machine
  cycles := by rw [ends]; exact cycles
  enough := by rw [ends]; exact enough

/-- A slice and the plain loop come to the same end. -/
theorem Slice.steppedUntil {budget : Nat} {m m' : Machine} {spent done : Nat}
    {events : List RunEvent} {s : RunSummary} (h : Slice budget m spent done events m' s)
    (on : m.isPowered) (unharmed : m.bus.fault = none) (enough : spent ≤ budget + 11) :
    SteppedUntil budget m on spent done m' s := by
  induction h with
  | @exhausted m spent done used =>
    have ends : m.stepUntil budget on spent done = (m, spent) :=
      stepUntil_stop fun goes => Nat.not_lt.mpr used goes.1
    exact .of_eq ends rfl rfl enough
  | @halted m spent done within halted =>
    have ends : m.stepUntil budget on spent done = (m, spent) :=
      stepUntil_stop fun goes => goes.2 halted
    exact .of_eq ends rfl rfl enough
  | @waiting m spent done within waiting =>
    have ends : m.stepUntil budget on spent done = (m.idle _, budget) :=
      stepUntil_waiting waiting unharmed (Nat.le_of_lt within)
    exact .of_eq ends rfl rfl (Nat.le_add_right _ _)
  | @breakpoint m spent done within running later stops =>
    have goes : spent < budget ∧ m.cpu.state ≠ .halted := ⟨within, by rw [running]; decide⟩
    have ends : m.stepUntil budget on spent done = (m, spent) :=
      stepUntil_breakpoint goes ⟨running, later, stops⟩
    exact .of_eq ends rfl rfl enough
  | @undefined m spent done within running free e failed =>
    have goes : spent < budget ∧ m.cpu.state ≠ .halted := ⟨within, by rw [running]; decide⟩
    have ends : m.stepUntil budget on spent done = (m.advance.1, spent) :=
      stepUntil_error goes (not_stops_of_free free) failed
    exact .of_eq ends rfl rfl enough
  | @executed m spent done within running free n took events m' s rest ih =>
    have goes : spent < budget ∧ m.cpu.state ≠ .halted := ⟨within, by rw [running]; decide⟩
    have atMost : n ≤ 12 := Cpu.le_twelve_of_step took
    have next : m.stepUntil budget on spent done = m.advance.1.stepUntil budget on _ _ :=
      stepUntil_ok goes (not_stops_of_free free) took
    have later := ih on rfl (by omega)
    exact .of_eq next later.machine later.cycles later.enough

/-- The machine with other breakpoints. -/
def withBreakpoints (m : Machine) (breakpoints : Breakpoints) : Machine :=
  { m with breakpoints }

/-- A powered machine that came to be through its own operations, with any breakpoints, is left by a run
as by stepping it until the run would stop, and the run takes as many cycles as the steps.  A run of a
processor that waits is as many steps as the budget has cycles. -/
theorem run_eq_stepUntil {m : Machine} (reachable : Reachable m) (on : m.isPowered)
    (breakpoints : Breakpoints) {budget : Nat} (room : budget + 12 ≤ UInt64.size) :
    ((m.withBreakpoints breakpoints).run budget).1.act .writeOut =
        ((m.withBreakpoints breakpoints).stepUntil budget on 0 0).1.act .writeOut ∧
      ((m.withBreakpoints breakpoints).run budget).2.cycles.toNat =
        ((m.withBreakpoints breakpoints).stepUntil budget on 0 0).2 ∧
      (m.cpu.state = .waiting → ((m.withBreakpoints breakpoints).run budget).1 =
        (fun m => m.step.1)^[budget] (m.withBreakpoints breakpoints)) := by
  have unharmed : (m.withBreakpoints breakpoints).bus.fault = none := reachable.sound.bus.fault
  have on' : (m.withBreakpoints breakpoints).isPowered := on
  rw [run, if_pos on']
  have slice := slice_runFrom budget (m.withBreakpoints breakpoints) 0 0
  have same := slice.steppedUntil on' unharmed (Nat.zero_le _)
  refine ⟨same.machine, ?_, ?_⟩
  · have enough := same.enough
    rw [same.cycles]
    exact UInt64.toNat_ofNat_of_lt' (by omega)
  · intro waiting
    have waiting' : (m.withBreakpoints breakpoints).cpu.state = .waiting := waiting
    rw [iterate_step_waiting on' waiting' unharmed]
    rcases Nat.eq_zero_or_pos budget with rfl | some
    · rw [(Slice.exhausted (Nat.le_refl 0)).runFrom_eq]
      exact (idle_zero _).symm
    · rw [(Slice.waiting some waiting').runFrom_eq]
      rfl

/-- A machine that has been turned on and sent to the instruction that waits, and has taken it. -/
def parked : Machine :=
  (((ofMonitor [0x3E] {}).act (.command .powerButton)).act (.command (.setPc 0xFC00))).act
    (.command .step)

/-- It may be run, with a breakpoint where it waits, or stepped. -/
theorem run_eq_stepUntil_parked :
    Reachable parked ∧ parked.isPowered ∧ parked.cpu.state = .waiting ∧
      ((parked.withBreakpoints (.ofList [0xFC01])).run 1000).1 =
        (fun m => m.step.1)^[1000] (parked.withBreakpoints (.ofList [0xFC01])) := by
  have reachable : Reachable parked := .act (.act (.act (.ofMonitor _ _) _) _) _
  have on : parked.isPowered := by decide +kernel
  have waiting : parked.cpu.state = .waiting := by decide +kernel
  have stepped := run_eq_stepUntil reachable on (.ofList [0xFC01]) (by decide : 1000 + 12 ≤ UInt64.size)
  exact ⟨reachable, on, waiting, stepped.2.2 waiting⟩

end Machine

end Trainer6800
