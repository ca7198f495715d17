import Trainer6800.Machine.Run

/-!
# Slices of execution

A call of `Machine.run` executes a slice of a program.  `Machine.Slice` describes such a slice from
its end: each constructor is one reason to stop, apart from `Slice.executed`, which puts one
instruction before a slice.  A slice also has a record of what happened in it, the instructions
executed, each with the cycles that the call had spent before it, and, last, the return of the call with
its summary (`Machine.eventsFrom`).

`Machine.slice_runFrom` says that the run is such a slice.  Whatever is to be shown of runs is shown
by induction on the slice, and no other proof has to open the loop.
-/

namespace Trainer6800

/-- What happens while a machine is run. -/
inductive RunEvent where
  /-- When a call has spent `spent` cycles, the processor takes the instruction at an address, or meets an
  undefined opcode there.  This takes `cost` cycles, and the processor is then in the execution state
  `state` and at the address `next`. -/
  | executed (address : UInt16) (spent cost : Nat) (state : ExecState) (next : UInt16)
  /-- A call to run for `budget` cycles returns. -/
  | returned (budget : Nat) (summary : RunSummary)
  deriving DecidableEq, Repr

/-- A step fails only on an undefined opcode, and halts the processor. -/
theorem Cpu.halted_of_step {M : Type} [AddressSpace M] {c : Cpu M} {e : InvalidOpcode}
    (h : c.step.result = .error e) : c.step.cpu.state = .halted := by
  unfold step at h ⊢
  split at h
  · cases h
  · cases h
  · split at h
    · simp only [*]
    · cases h

namespace Machine

/-- The event of one step of the processor. -/
def executed (m : Machine) (spent cost : Nat) : RunEvent :=
  .executed m.cpu.registers.pc spent cost m.advance.1.cpu.state m.advance.1.cpu.registers.pc

/-- What happens in the rest of a run, after `spent` cycles and `done` instructions. -/
def eventsFrom (budget : Nat) (m : Machine) (spent done : Nat) : List RunEvent :=
  if _within : spent < budget then
    match running : m.cpu.state with
    | .halted => [.returned budget (summary spent done .halted)]
    | .waiting => [.returned budget (summary budget done .waiting)]
    | .running =>
      if 0 < done ∧ m.breakpoints.contains m.cpu.registers.pc then
        [.returned budget (summary spent done (.breakpoint m.cpu.registers.pc))]
      else
        match stepped : m.advance with
        | (_, .error _) => [m.executed spent 0, .returned budget (summary spent done .halted)]
        | (m', .ok n) =>
          have : 2 ≤ n := Cpu.two_le_of_step running (congrArg Prod.snd stepped)
          m.executed spent n :: eventsFrom budget m' (spent + n) (done + 1)
  else [.returned budget (summary spent done .budgetExhausted)]
termination_by budget - spent

/-- A run of `budget` cycles, going on from `m` after `spent` cycles and `done` instructions, has the
events `events` and ends in the machine `m'` with the summary `s`. -/
inductive Slice (budget : Nat) :
    Machine → Nat → Nat → List RunEvent → Machine → RunSummary → Prop where
  | exhausted {m : Machine} {spent done : Nat} (used : budget ≤ spent) :
    Slice budget m spent done [.returned budget (summary spent done .budgetExhausted)] m
      (summary spent done .budgetExhausted)
  | halted {m : Machine} {spent done : Nat} (within : spent < budget)
      (halted : m.cpu.state = .halted) :
    Slice budget m spent done [.returned budget (summary spent done .halted)] m
      (summary spent done .halted)
  | waiting {m : Machine} {spent done : Nat} (within : spent < budget)
      (waiting : m.cpu.state = .waiting) :
    Slice budget m spent done [.returned budget (summary budget done .waiting)]
      { m with cpu.cycles := m.cpu.cycles + UInt64.ofNat (budget - spent) }
      (summary budget done .waiting)
  | breakpoint {m : Machine} {spent done : Nat} (within : spent < budget)
      (running : m.cpu.state = .running) (later : 0 < done)
      (stops : m.breakpoints.contains m.cpu.registers.pc) :
    Slice budget m spent done
      [.returned budget (summary spent done (.breakpoint m.cpu.registers.pc))]
      (m.report [⟨.cpu, .debug, breakpointText m.cpu.registers.pc⟩])
      (summary spent done (.breakpoint m.cpu.registers.pc))
  | undefined {m : Machine} {spent done : Nat} (within : spent < budget)
      (running : m.cpu.state = .running)
      (free : 0 < done → m.breakpoints.contains m.cpu.registers.pc = false)
      {e : InvalidOpcode} (failed : m.advance.2 = .error e) :
    Slice budget m spent done [m.executed spent 0, .returned budget (summary spent done .halted)]
      m.advance.1 (summary spent done .halted)
  | executed {m : Machine} {spent done : Nat} (within : spent < budget)
      (running : m.cpu.state = .running)
      (free : 0 < done → m.breakpoints.contains m.cpu.registers.pc = false)
      {n : Nat} (took : m.advance.2 = .ok n) {events : List RunEvent} {m' : Machine}
      {s : RunSummary} (rest : Slice budget m.advance.1 (spent + n) (done + 1) events m' s) :
    Slice budget m spent done (m.executed spent n :: events) m' s

/-! ## The loop, opened once

The definitions of the two loops carry what their termination needs through every branch.  These are
the equations without it. -/

theorem runFrom_eq (budget : Nat) (m : Machine) (spent done : Nat) :
    m.runFrom budget spent done =
      if spent < budget then
        match m.cpu.state with
        | .halted => (m, summary spent done .halted)
        | .waiting =>
          ({ m with cpu.cycles := m.cpu.cycles + UInt64.ofNat (budget - spent) },
            summary budget done .waiting)
        | .running =>
          if 0 < done ∧ m.breakpoints.contains m.cpu.registers.pc then
            (m.report [⟨.cpu, .debug, breakpointText m.cpu.registers.pc⟩],
              summary spent done (.breakpoint m.cpu.registers.pc))
          else
            match m.advance.2 with
            | .error _ => (m.advance.1, summary spent done .halted)
            | .ok n => m.advance.1.runFrom budget (spent + n) (done + 1)
      else (m, summary spent done .budgetExhausted) := by
  rw [runFrom]
  split
  · split
    · rename_i h
      simp only [h]
    · rename_i h
      simp only [h]
    · rename_i h
      simp only [h]
      split
      · rfl
      · split
        · rename_i stepped
          simp only [stepped]
        · rename_i stepped
          simp only [stepped]
  · rfl

theorem eventsFrom_eq (budget : Nat) (m : Machine) (spent done : Nat) :
    m.eventsFrom budget spent done =
      if spent < budget then
        match m.cpu.state with
        | .halted => [.returned budget (summary spent done .halted)]
        | .waiting => [.returned budget (summary budget done .waiting)]
        | .running =>
          if 0 < done ∧ m.breakpoints.contains m.cpu.registers.pc then
            [.returned budget (summary spent done (.breakpoint m.cpu.registers.pc))]
          else
            match m.advance.2 with
            | .error _ => [m.executed spent 0, .returned budget (summary spent done .halted)]
            | .ok n =>
              m.executed spent n :: m.advance.1.eventsFrom budget (spent + n) (done + 1)
      else [.returned budget (summary spent done .budgetExhausted)] := by
  rw [eventsFrom]
  split
  · split
    · rename_i h
      simp only [h]
    · rename_i h
      simp only [h]
    · rename_i h
      simp only [h]
      split
      · rfl
      · split
        · rename_i stepped
          simp only [stepped]
        · rename_i stepped
          simp only [stepped]
  · rfl

/-- The loop runs a slice. -/
theorem slice_runFrom (budget : Nat) (m : Machine) (spent done : Nat) :
    Slice budget m spent done (m.eventsFrom budget spent done)
      (m.runFrom budget spent done).1 (m.runFrom budget spent done).2 := by
  induction m, spent, done using runFrom.induct budget with
  | case1 m spent done within stopped =>
    rw [eventsFrom_eq, runFrom_eq, if_pos within, if_pos within, stopped]
    exact .halted within stopped
  | case2 m spent done within idle =>
    have ends : Slice budget m spent done _ _ _ := .waiting within idle
    rw [eventsFrom_eq, runFrom_eq, if_pos within, if_pos within]
    simp only [idle] at ends ⊢
    exact ends
  | case3 m spent done within running pc stops =>
    rw [eventsFrom_eq, runFrom_eq]
    simp only [if_pos within, running]
    rw [if_pos stops, if_pos stops]
    exact .breakpoint within running stops.1 stops.2
  | case4 m spent done within running pc free m' e stepped =>
    have failed : m.advance.2 = .error e := congrArg Prod.snd stepped
    rw [eventsFrom_eq, runFrom_eq]
    simp only [if_pos within, running]
    rw [if_neg free, if_neg free, failed]
    exact .undefined within running (fun later => by simpa using fun h => free ⟨later, h⟩) failed
  | case5 m spent done within running pc free m' n stepped two ih =>
    have took : m.advance.2 = .ok n := congrArg Prod.snd stepped
    have next : m.advance.1 = m' := congrArg Prod.fst stepped
    rw [eventsFrom_eq, runFrom_eq]
    simp only [if_pos within, running]
    rw [if_neg free, if_neg free, took]
    refine .executed within running (fun later => by simpa using fun h => free ⟨later, h⟩) took ?_
    rw [next]
    exact ih
  | case6 m spent done used =>
    rw [eventsFrom_eq, runFrom_eq, if_neg used, if_neg used]
    exact .exhausted (Nat.not_lt.mp used)

/-- No breakpoint stops a machine that is free to go on. -/
theorem not_stops {m : Machine} {done : Nat}
    (free : 0 < done → m.breakpoints.contains m.cpu.registers.pc = false) :
    ¬ (0 < done ∧ m.breakpoints.contains m.cpu.registers.pc = true) := by
  rintro ⟨later, stops⟩
  rw [free later] at stops
  cases stops

/-- There is no other slice: what a slice ends in is what the loop gives. -/
theorem Slice.runFrom_eq {budget : Nat} {m m' : Machine} {spent done : Nat}
    {events : List RunEvent} {s : RunSummary} (h : Slice budget m spent done events m' s) :
    m.runFrom budget spent done = (m', s) := by
  induction h with
  | exhausted used => rw [Machine.runFrom_eq, if_neg (Nat.not_lt.mpr used)]
  | halted within halted => rw [Machine.runFrom_eq, if_pos within, halted]
  | waiting within waiting =>
    rw [Machine.runFrom_eq, if_pos within]
    simp only [waiting]
  | breakpoint within running later stops =>
    rw [Machine.runFrom_eq, if_pos within, running]
    dsimp only
    rw [if_pos ⟨later, stops⟩]
  | @undefined m spent done within running free e failed =>
    rw [Machine.runFrom_eq, if_pos within, running]
    dsimp only
    rw [if_neg (not_stops free), failed]
  | @executed m spent done within running free n took events m' s rest ih =>
    rw [Machine.runFrom_eq, if_pos within, running]
    dsimp only
    rw [if_neg (not_stops free), took]
    exact ih

/-- What a call leaves alone. -/
theorem Slice.keeps_settings {budget : Nat} {m m' : Machine} {spent done : Nat}
    {events : List RunEvent} {s : RunSummary} (h : Slice budget m spent done events m' s) :
    m'.breakpoints = m.breakpoints ∧ m'.keyQueue = m.keyQueue := by
  induction h with
  | executed within running free took rest ih => exact ih
  | exhausted | halted | waiting | breakpoint | undefined => exact ⟨rfl, rfl⟩

end Machine

end Trainer6800
