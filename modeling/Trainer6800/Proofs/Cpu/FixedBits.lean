import Trainer6800.Cpu.Encoding
import Trainer6800.Cpu.Step

/-!
# Bits 6 and 7 of the condition codes

The two top bits of the condition code register read as one on the real part.  Here they are
ordinary bits of the register, and it is the operations that keep them set: those that take the
register from a byte (`TAP`, `RTI`, a restored state) set them, a reset sets them, and all others
leave them alone.  `ConditionCodes.IsFixed` says that they are set, and the lemmas of this module
say that a processor whose bits are set has them set ever after.
-/

namespace Trainer6800

namespace ConditionCodes

/-- Bits 6 and 7 are set. -/
def IsFixed (f : ConditionCodes) : Prop :=
  f.fixed = f

theorem isFixed_iff {f : ConditionCodes} : f.IsFixed ↔ f.bit7 = true ∧ f.bit6 = true := by
  obtain ⟨b7, b6, h, i, n, z, v, c⟩ := f
  simp [IsFixed, fixed, eq_comm]

theorem isFixed_fixed (f : ConditionCodes) : f.fixed.IsFixed :=
  rfl

/-- Codes with the same two top bits are fixed together. -/
theorem IsFixed.of_top {f g : ConditionCodes} (h : f.IsFixed)
    (top : g.bit7 = f.bit7 ∧ g.bit6 = f.bit6) : g.IsFixed := by
  obtain ⟨h7, h6⟩ := isFixed_iff.mp h
  exact isFixed_iff.mpr ⟨top.1.trans h7, top.2.trans h6⟩

end ConditionCodes

/-! ## Arithmetic leaves the two bits alone -/

theorem Modification.apply_top (op : Modification) (m : UInt8) (f : ConditionCodes) :
    (op.apply m f).2.bit7 = f.bit7 ∧ (op.apply m f).2.bit6 = f.bit6 := by
  cases op <;> exact ⟨rfl, rfl⟩

theorem Combination.apply_top (op : Combination) (acc m : UInt8) (f : ConditionCodes) :
    (op.apply acc m f).2.bit7 = f.bit7 ∧ (op.apply acc m f).2.bit6 = f.bit6 := by
  cases op <;> exact ⟨rfl, rfl⟩

namespace Cpu

variable {M : Type} [AddressSpace M]

open ConditionCodes

theorem ccr_push (c : Cpu M) (value : UInt8) : (c.push value).registers.ccr = c.registers.ccr :=
  rfl

theorem ccr_pushWord (c : Cpu M) (value : UInt16) :
    (c.pushWord value).registers.ccr = c.registers.ccr := by
  rw [pushWord, ccr_push, ccr_push]

/-- Putting the registers on the stack changes none of them but the stack pointer. -/
theorem pushState_isFixed {c : Cpu M} (h : c.registers.ccr.IsFixed) :
    c.pushState.registers.ccr.IsFixed := by
  rw [pushState, ccr_push, ccr_push, ccr_push, ccr_pushWord, ccr_pushWord]
  exact h

theorem modify_isFixed {c : Cpu M} (h : c.registers.ccr.IsFixed) (op : Modification)
    (target : Target) (address : UInt16) :
    (c.modify op target address).registers.ccr.IsFixed := by
  cases target with
  | a => exact h.of_top (op.apply_top _ _)
  | b => exact h.of_top (op.apply_top _ _)
  | memory =>
    simp only [modify]
    split
    · exact h.of_top (op.apply_top _ _)
    · exact h.of_top (op.apply_top _ _)

theorem perform_isFixed {c : Cpu M} (h : c.registers.ccr.IsFixed) (op : Operation)
    (address : UInt16) : (c.perform op address).registers.ccr.IsFixed := by
  cases op with
  -- these take the whole register from a byte
  | tap | rti => exact isFixed_fixed _
  | branch condition =>
    simp only [perform]
    split
    · exact h
    · exact h
  | pul acc =>
    cases acc with
    | a => exact h
    | b => exact h
  | modify m target => exact modify_isFixed h m target address
  | combine m acc => exact h.of_top (m.apply_top _ _ _)
  | wai => exact pushState_isFixed h
  | swi => exact (pushState_isFixed h).of_top ⟨rfl, rfl⟩
  | nop | tpa | tsx | txs | ins | des | psh | rts | jmp | bsr | jsr => exact h
  | inx | dex | clv | sev | clc | sec | cli | sei | sba | cba | tab | tba | daa | aba | sta
  | cpx | lds | ldx | sts | stx => exact h.of_top ⟨rfl, rfl⟩

theorem step_isFixed {c : Cpu M} (h : c.registers.ccr.IsFixed) :
    c.step.cpu.registers.ccr.IsFixed := by
  unfold step
  split
  · exact h
  · exact h
  · split
    · exact h
    · exact perform_isFixed (by exact h) _ _

theorem reset_isFixed (c : Cpu M) : c.reset.registers.ccr.IsFixed :=
  (isFixed_fixed c.registers.ccr).of_top ⟨rfl, rfl⟩

theorem interrupt_isFixed {c : Cpu M} (h : c.registers.ccr.IsFixed) (vector : UInt16) :
    (c.interrupt vector).registers.ccr.IsFixed := by
  have stacked : (if c.state = .waiting then c else c.pushState).registers.ccr.IsFixed := by
    split
    · exact h
    · exact pushState_isFixed h
  exact stacked.of_top ⟨rfl, rfl⟩

omit [AddressSpace M] in
theorem restore_isFixed (c : Cpu M) (s : CpuSnapshot) : (c.restore s).registers.ccr.IsFixed :=
  isFixed_fixed _

end Cpu

end Trainer6800
