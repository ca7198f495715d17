import Mathlib.Data.List.Nodup
import Trainer6800.Cpu.Step
import Trainer6800.Proofs.Memory.Cells

/-!
# The machine state on the stack

Stacking the machine state is seven writes at the stack pointer and below it, and unstacking it is
seven reads of the same addresses in the opposite order.  `Registers.frame` lists the seven bytes with
their addresses, `Cpu.pushState_eq` and `Cpu.pullState_eq` describe the two operations by it, and
`Cpu.pullState_frame` says that what was stacked on cells of memory comes back.

The stack pointer wraps around, and the area with it: it may begin at the bottom of the address space
and go on at the top.
-/

namespace Trainer6800

/-- The `count` addresses from `sp` downwards, where a stack puts its next bytes. -/
def stackArea (sp : UInt16) (count : Nat) : List UInt16 :=
  (List.range count).map fun depth => sp - UInt16.ofNat depth

/-- The area is no longer than the address space, so it meets no address twice. -/
theorem nodup_stackArea (sp : UInt16) {count : Nat} (fits : count ≤ 65536) :
    (stackArea sp count).Nodup := by
  refine List.Nodup.map_on (fun m hm n hn same => ?_) List.nodup_range
  have lower : m < 65536 := Nat.lt_of_lt_of_le (List.mem_range.mp hm) fits
  have upper : n < 65536 := Nat.lt_of_lt_of_le (List.mem_range.mp hn) fits
  have depths : UInt16.ofNat m = UInt16.ofNat n := (UInt16.sub_right_inj sp).mp same
  have values := congrArg UInt16.toNat depths
  rwa [UInt16.toNat_ofNat_of_lt' lower, UInt16.toNat_ofNat_of_lt' upper] at values

/-- The seven bytes of the machine state with the addresses where they are stacked. -/
def Registers.frame (r : Registers) : List (UInt16 × UInt8) :=
  [(r.sp, lowByte r.pc), (r.sp - 1, highByte r.pc), (r.sp - 2, lowByte r.x),
    (r.sp - 3, highByte r.x), (r.sp - 4, r.a), (r.sp - 5, r.b), (r.sp - 6, r.ccr.toByte)]

theorem Registers.addresses_frame (r : Registers) :
    r.frame.map Prod.fst = stackArea r.sp 7 := by
  have top : r.sp - 0 = r.sp := UInt16.sub_zero r.sp
  show [r.sp, r.sp - 1, r.sp - 2, r.sp - 3, r.sp - 4, r.sp - 5, r.sp - 6] =
    [r.sp - 0, r.sp - 1, r.sp - 2, r.sp - 3, r.sp - 4, r.sp - 5, r.sp - 6]
  rw [top]

theorem Registers.forall_mem_frame {r : Registers} {cell : UInt16 → Prop}
    (cells : ∀ address ∈ stackArea r.sp 7, cell address) : ∀ w ∈ r.frame, cell w.1 := by
  intro w hw
  refine cells w.1 ?_
  rw [← r.addresses_frame]
  exact List.mem_map_of_mem hw

open AddressSpace

namespace Cpu

variable {M : Type} [AddressSpace M]

/-- Pushing the machine state writes its frame and moves the pointer below it. -/
theorem pushState_eq (c : Cpu M) :
    c.pushState = { c with
      memory := writeBytes c.memory c.registers.frame
      registers.sp := c.registers.sp - 7 } := by
  have below (n m : UInt16) : c.registers.sp - n - m = c.registers.sp - (n + m) := by grind
  simp only [pushState, pushWord, push, below]
  rfl

/-- Pulling the machine state reads the seven bytes above the pointer. -/
theorem pullState_eq (c : Cpu M) :
    c.pullState = { c with registers := {
      a := read c.memory (c.registers.sp + 3)
      b := read c.memory (c.registers.sp + 2)
      x := joinBytes (read c.memory (c.registers.sp + 4)) (read c.memory (c.registers.sp + 5))
      sp := c.registers.sp + 7
      pc := joinBytes (read c.memory (c.registers.sp + 6)) (read c.memory (c.registers.sp + 7))
      ccr := (ConditionCodes.ofByte (read c.memory (c.registers.sp + 1))).fixed } } := by
  have above (n m : UInt16) : c.registers.sp + n + m = c.registers.sp + (n + m) := by grind
  simp only [pullState, pullWord, pull, above]
  rfl

/-- A processor that finds a frame above its stack pointer takes its registers from it. -/
theorem pullState_frame {P : M → Prop} {cell : UInt16 → Prop} (hS : Storage P cell) {c : Cpu M}
    {m : M} (h : P m) {r : Registers} (codes : r.ccr.fixed = r.ccr)
    (cells : ∀ address ∈ stackArea r.sp 7, cell address)
    (stacked : c.memory = writeBytes m r.frame) (pointer : c.registers.sp = r.sp - 7) :
    c.pullState = { c with registers := r } := by
  have once : (r.frame.map Prod.fst).Nodup := by
    rw [r.addresses_frame]
    exact nodup_stackArea r.sp (by decide)
  have found (n : UInt16) {value : UInt8} (hw : (r.sp - (7 - n), value) ∈ r.frame) :
      read c.memory (c.registers.sp + n) = value := by
    have place : c.registers.sp + n = r.sp - (7 - n) := by grind
    rw [place, stacked]
    exact hS.read_writeBytes_of_mem h (Registers.forall_mem_frame cells) once hw
  have ccr : read c.memory (c.registers.sp + 1) = r.ccr.toByte := found 1 (by simp [Registers.frame])
  have b : read c.memory (c.registers.sp + 2) = r.b := found 2 (by simp [Registers.frame])
  have a : read c.memory (c.registers.sp + 3) = r.a := found 3 (by simp [Registers.frame])
  have xHigh : read c.memory (c.registers.sp + 4) = highByte r.x :=
    found 4 (by simp [Registers.frame])
  have xLow : read c.memory (c.registers.sp + 5) = lowByte r.x :=
    found 5 (by simp [Registers.frame])
  have pcHigh : read c.memory (c.registers.sp + 6) = highByte r.pc :=
    found 6 (by simp [Registers.frame])
  have pcLow : read c.memory (c.registers.sp + 7) = lowByte r.pc :=
    found 7 (by simp [Registers.frame])
  have sp : c.registers.sp + 7 = r.sp := by grind
  rw [pullState_eq, a, b, xHigh, xLow, pcHigh, pcLow, ccr, sp, joinBytes_highByte_lowByte,
    joinBytes_highByte_lowByte, ConditionCodes.ofByte_toByte, codes]

end Cpu

end Trainer6800
