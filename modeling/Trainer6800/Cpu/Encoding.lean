import Trainer6800.Cpu.Basic
import Trainer6800.Json.Codec.Choice

/-!
# JSON forms of the processor's state
-/

namespace Trainer6800

open Json

/-- Registers as records; the condition codes are a byte. -/
def Registers.codec : Codec Registers :=
  Codec.record "struct Registers"
    ((Fields.field "a" Codec.byte (Fields.field "b" Codec.byte (Fields.field "x" Codec.word
      (Fields.field "sp" Codec.word (Fields.field "pc" Codec.word
        (Fields.field "ccr" Codec.byte .none)))))).map
      (fun (a, b, x, sp, pc, ccr, _) => { a, b, x, sp, pc, ccr := .ofByte ccr })
      fun r => (r.a, r.b, r.x, r.sp, r.pc, r.ccr.toByte, ()))

/-- All execution states. -/
def ExecState.all : List ExecState :=
  [running, waiting, halted]

/-- Execution states by name. -/
def ExecState.codec : Codec ExecState :=
  Codec.enumeration ExecState.all ExecState.name

/-- The part of a processor that a saved state keeps. -/
structure CpuSnapshot where
  registers : Registers
  state : ExecState
  cycles : UInt64
  deriving DecidableEq, Repr

/-- Processor snapshots as records. -/
def CpuSnapshot.codec : Codec CpuSnapshot :=
  Codec.record "struct CpuState"
    ((Fields.field "registers" Registers.codec (Fields.field "state" ExecState.codec
      (Fields.field "cycles" Codec.quadWord .none))).map
      (fun (registers, state, cycles, _) => { registers, state, cycles })
      fun s => (s.registers, s.state, s.cycles, ()))

namespace Cpu

variable {M : Type}

/-- What a saved state keeps of a processor. -/
def snapshot (c : Cpu M) : CpuSnapshot :=
  ⟨c.registers, c.state, c.cycles⟩

/-- The processor with a saved state; bits 6 and 7 of the condition codes are set. -/
def restore (c : Cpu M) (s : CpuSnapshot) : Cpu M :=
  { c with
    registers := { s.registers with ccr := s.registers.ccr.fixed }
    state := s.state
    cycles := s.cycles }

end Cpu

end Trainer6800
