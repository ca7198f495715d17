import Trainer6800.Machine.Basic

/-!
# Running

`Machine.step` does one step of the processor.  `Machine.run` does steps until a number of cycles is
spent, and stops before that at a breakpoint, at a halt, and, having let the time pass in one jump,
when the processor waits: nothing can interrupt it within a run.  A breakpoint at the first
instruction of a run does not stop it, so that a machine stopped there can go on.

A run ends because a running processor spends at least two cycles with each step
(`Cpu.two_le_of_step`).
-/

namespace Trainer6800

open Json

/-- Why a run stopped. -/
inductive StopReason where
  | budgetExhausted
  | breakpoint (address : UInt16)
  | halted
  | waiting
  | poweredOff
  deriving DecidableEq, Repr

/-- What a run did. -/
structure RunSummary where
  cycles : UInt64 := 0
  instructions : UInt64 := 0
  stop : StopReason
  deriving DecidableEq, Repr

/-- Stop reasons as variants. -/
def StopReason.codec : Codec StopReason :=
  Codec.choice
    [.unit "BudgetExhausted" .budgetExhausted, .single "Breakpoint" Codec.word .breakpoint,
     .unit "Halted" .halted, .unit "Waiting" .waiting, .unit "PoweredOff" .poweredOff]
    fun
    | .budgetExhausted => .string "BudgetExhausted"
    | .breakpoint address => .object [("Breakpoint", Codec.word.encode address)]
    | .halted => .string "Halted"
    | .waiting => .string "Waiting"
    | .poweredOff => .string "PoweredOff"

/-- Run summaries as records. -/
def RunSummary.codec : Codec RunSummary :=
  Codec.record "struct RunSummary"
    ((Fields.field "cycles" Codec.quadWord (Fields.field "instructions" Codec.quadWord
      (Fields.field "stop" StopReason.codec .none))).map
      (fun (cycles, instructions, stop, _) => { cycles, instructions, stop })
      fun s => (s.cycles, s.instructions, s.stop, ()))

namespace OpcodeMap

/-- Every opcode costs at least two cycles, and at most twelve. -/
theorem cycles_of_decode {opcode : UInt8} {i : Instruction} (h : decode opcode = some i) :
    2 ≤ i.cycles ∧ i.cycles ≤ 12 := by
  have all : ∀ n : Fin 256, ∀ i ∈ defineOpcode (UInt8.ofFin n), 2 ≤ i.cycles ∧ i.cycles ≤ 12 := by
    decide +kernel
  have := all opcode.toFin
  rw [UInt8.ofFin_toFin, ← decode_eq] at this
  exact this i h

end OpcodeMap

namespace Cpu

variable {M : Type} [AddressSpace M]

/-- A running processor spends at least two cycles with each step. -/
theorem two_le_of_step {c : Cpu M} {n : Nat} (running : c.state = .running)
    (h : c.step.result = .ok n) : 2 ≤ n := by
  unfold step at h
  rw [running] at h
  simp only at h
  split at h
  · cases h
  · rename_i i hi
    cases h
    exact (OpcodeMap.cycles_of_decode hi).1

end Cpu

namespace Machine

/-- One step of the processor of a powered machine: the machine after it, and the cycles it took or
the opcode that stopped it. -/
def advance (m : Machine) : Machine × Except InvalidOpcode Nat :=
  let o := m.cpu.step
  -- an undefined opcode counts for more than a failed write
  let fault :=
    match o.result, o.cpu.memory.fault with
    | .error e, _ => some (.cpu e)
    | .ok _, some e => some (.memory e)
    | .ok _, none => m.lastFault
  let m := { m with cpu := o.cpu, lastFault := fault }
  ((m.updateBus fun b => { b with fault := none }).report o.records, o.result)

/-- One step of the machine; a machine that is off does nothing. -/
def step (m : Machine) : Machine × Except InvalidOpcode Nat :=
  if m.isPowered then m.advance else (m, .ok 0)

/-- The summary of a stop. -/
def summary (cycles instructions : Nat) (stop : StopReason) : RunSummary :=
  ⟨UInt64.ofNat cycles, UInt64.ofNat instructions, stop⟩

/-- What is said of a stop at a breakpoint. -/
def breakpointText (address : UInt16) : String :=
  "breakpoint at " ++ Hex.word address

/-- Go on with a run of `budget` cycles after `spent` cycles and `done` instructions. -/
def runFrom (budget : Nat) (m : Machine) (spent done : Nat) : Machine × RunSummary :=
  if _within : spent < budget then
    match running : m.cpu.state with
    | .halted => (m, summary spent done .halted)
    | .waiting =>
      -- nothing can end the wait before the budget does
      ({ m with cpu.cycles := m.cpu.cycles + UInt64.ofNat (budget - spent) },
        summary budget done .waiting)
    | .running =>
      -- the first instruction is exempt, so that a stopped machine can go on
      let pc := m.cpu.registers.pc
      if 0 < done ∧ m.breakpoints.contains pc then
        (m.report [⟨.cpu, .debug, breakpointText pc⟩],
          summary spent done (.breakpoint pc))
      else
        match stepped : m.advance with
        | (m', .error _) => (m', summary spent done .halted)
        | (m', .ok n) =>
          have : 2 ≤ n := Cpu.two_le_of_step running (congrArg Prod.snd stepped)
          runFrom budget m' (spent + n) (done + 1)
  else (m, summary spent done .budgetExhausted)
termination_by budget - spent

/-- Run until `budget` cycles are spent, or something stops the machine before. -/
def run (m : Machine) (budget : Nat) : Machine × RunSummary :=
  if m.isPowered then m.runFrom budget 0 0 else (m, summary 0 0 .poweredOff)

/-- Handle the queued keys, then run for one tick. -/
def tick (m : Machine) : Machine × RunSummary :=
  m.drainKeys.run m.config.cyclesPerTick

end Machine

end Trainer6800
