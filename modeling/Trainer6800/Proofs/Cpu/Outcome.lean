import Mathlib.Logic.Function.Iterate
import Trainer6800.Machine.Run

/-!
# Outcomes of a step

A step has one of four outcomes, told apart by the execution state and the opcode: a halted processor
does nothing, a waiting one idles, a running one meets an undefined opcode and halts, or it executes an
instruction.  There is one equation for each, and from them follows what a step can cost.
-/

namespace Trainer6800.Cpu

variable {M : Type} [AddressSpace M] {c : Cpu M}

theorem step_halted (halted : c.state = .halted) : c.step = { cpu := c, result := .ok 0 } := by
  simp only [step, halted]

theorem step_waiting (waiting : c.state = .waiting) :
    c.step = { cpu := { c with cycles := c.cycles + 1 }, result := .ok 1 } := by
  simp only [step, waiting]

theorem step_undefined (running : c.state = .running) (undefined : decode c.opcode = none) :
    c.step.cpu = { c with state := .halted } ∧
      c.step.result = .error ⟨c.opcode, c.registers.pc⟩ := by
  constructor
  · simp only [step, running, undefined]
  · simp only [step, running, undefined]

theorem step_defined (running : c.state = .running) {i : Instruction}
    (defined : decode c.opcode = some i) :
    c.step.cpu = c.execute i ∧ c.step.result = .ok i.cycles := by
  constructor
  · simp only [step, running, defined]
  · simp only [step, running, defined]

/-- Nothing but the cycle counter tells for how long a processor has waited. -/
theorem iterate_step_waiting (waiting : c.state = .waiting) (n : Nat) :
    (fun c => c.step.cpu)^[n] c = { c with cycles := c.cycles + UInt64.ofNat n } := by
  induction n with
  | zero =>
    show c = { c with cycles := c.cycles + 0 }
    rw [UInt64.add_zero]
  | succ n ih =>
    rw [Function.iterate_succ_apply', ih, step_waiting (by exact waiting), UInt64.ofNat_add,
      ← UInt64.add_assoc]
    rfl

/-- A step that fails halts the processor and does nothing else. -/
theorem halts_of_step {e : InvalidOpcode} (failed : c.step.result = .error e) :
    c.step.cpu = { c with state := .halted } := by
  cases state : c.state with
  | halted =>
    rw [step_halted state] at failed
    cases failed
  | waiting =>
    rw [step_waiting state] at failed
    cases failed
  | running =>
    cases defined : decode c.opcode with
    | none => exact (step_undefined state defined).1
    | some i =>
      rw [(step_defined state defined).2] at failed
      cases failed

/-- No step takes more than twelve cycles. -/
theorem le_twelve_of_step {n : Nat} (took : c.step.result = .ok n) : n ≤ 12 := by
  cases state : c.state with
  | halted =>
    rw [step_halted state] at took
    cases took
    decide
  | waiting =>
    rw [step_waiting state] at took
    cases took
    decide
  | running =>
    cases defined : decode c.opcode with
    | none =>
      rw [(step_undefined state defined).2] at took
      cases took
    | some i =>
      rw [(step_defined state defined).2] at took
      cases took
      exact (OpcodeMap.cycles_of_decode defined).2

/-- A step takes time unless the processor is halted. -/
theorem pos_of_step (goes : c.state ≠ .halted) {n : Nat} (took : c.step.result = .ok n) : 0 < n := by
  cases state : c.state with
  | halted => exact absurd state goes
  | waiting =>
    rw [step_waiting state] at took
    cases took
    decide
  | running => exact Nat.lt_of_lt_of_le (by decide) (two_le_of_step state took)

end Trainer6800.Cpu
