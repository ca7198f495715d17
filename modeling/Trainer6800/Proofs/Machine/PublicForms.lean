import Trainer6800.Machine.Run
import Trainer6800.Proofs.Machine.SavedState

/-!
# Public forms

What a trainer gives to others and takes from them has a JSON form: registers, keys, programs,
summaries, configurations and the rest.  All of these forms are put together from a few kinds of codec,
so that nothing is lost in any of them is seen by going through their fields and variants, whose names
have to be different.  A configuration may be read from less than what is written, because its fields
have defaults; but all of them are written, so the defaults do not come into it.
-/

namespace Trainer6800

open Json

/-! ## The processor -/

theorem StopReason.lossless_codec : StopReason.codec.Lossless := by
  refine Codec.lossless_choice ?_ ?_
  · decide
  intro reason
  cases reason with
  | budgetExhausted => exact ⟨_, .head _, Variant.takes_unit _ _⟩
  | breakpoint address => exact ⟨_, .tail _ (.head _), Variant.takes_single Codec.lossless_word _ _ _⟩
  | halted => exact ⟨_, .tail _ (.tail _ (.head _)), Variant.takes_unit _ _⟩
  | waiting => exact ⟨_, .tail _ (.tail _ (.tail _ (.head _))), Variant.takes_unit _ _⟩
  | poweredOff => exact ⟨_, .tail _ (.tail _ (.tail _ (.tail _ (.head _)))), Variant.takes_unit _ _⟩

theorem RunSummary.lossless_codec : RunSummary.codec.Lossless := by
  refine Codec.lossless_record (Fields.Lossless.map ?_ fun _ => rfl) _
  refine .field Codec.lossless_quadWord ?_ (by decide) _
  refine .field Codec.lossless_quadWord ?_ (by decide) _
  exact .field StopReason.lossless_codec Fields.lossless_none (by decide) _

/-! ## Keys -/

theorem KeyEvent.lossless_codec : KeyEvent.codec.Lossless := by
  refine Codec.lossless_choice ?_ ?_
  · decide
  intro event
  cases event with
  | press key => exact ⟨_, .head _, Variant.takes_single Key.lossless_codec _ _ _⟩
  | release key => exact ⟨_, .tail _ (.head _), Variant.takes_single Key.lossless_codec _ _ _⟩

/-! ## The machine -/

theorem DisplayEvent.lossless_codec : DisplayEvent.codec.Lossless := by
  have fields : DisplayEvent.codec.digitFields.Lossless := by
    refine .field Codec.lossless_count ?_ (by decide) _
    exact .field Codec.lossless_byte Fields.lossless_none (by decide) _
  refine Codec.lossless_choice ?_ ?_
  · decide
  intro event
  cases event with
  | snapshot shown =>
    exact ⟨_, .head _, Variant.takes_single DisplaySnapshot.lossless_codec _ _ _⟩
  | digit index segments =>
    exact ⟨_, .tail _ (.head _), Variant.takes_record fields _ _ _ (index, segments, ())⟩

theorem ProgramImage.lossless_codec : ProgramImage.codec.Lossless := by
  have fields : ProgramImage.codec.blockFields.Lossless := by
    refine .field Codec.lossless_word ?_ (by decide) _
    exact .field Codec.lossless_byte.list Fields.lossless_none (by decide) _
  have pairs := (Codec.lossless_word.pair Codec.lossless_byte).list
  refine Codec.lossless_choice ?_ ?_
  · decide
  intro image
  cases image with
  | pairs bytes => exact ⟨_, .head _, Variant.takes_single pairs _ _ _⟩
  | block start bytes =>
    exact ⟨_, .tail _ (.head _), Variant.takes_record fields _ _ _ (start, bytes, ())⟩

theorem LoadReport.lossless_codec : LoadReport.codec.Lossless := by
  refine Codec.lossless_record (Fields.Lossless.map ?_ fun _ => rfl) _
  refine .field Codec.lossless_count ?_ (by decide) _
  exact .field Codec.lossless_count Fields.lossless_none (by decide) _

theorem MachineConfig.lossless_codec : MachineConfig.codec.Lossless := by
  refine Codec.lossless_record (Fields.Lossless.map ?_ fun _ => rfl) _
  refine .field KeyPolicy.lossless_codec ?_ (by decide) _
  refine .field Codec.lossless_bool ?_ (by decide) _
  refine .field Codec.lossless_doubleWord ?_ (by decide) _
  refine .field Codec.lossless_doubleWord ?_ (by decide) _
  exact .field Codec.lossless_word.list Fields.lossless_none (by decide) _

/-- Every element of a type with a public form is read back from its text, on one line or with one item
a line, and from its value. -/
theorem public_forms_roundTrip :
    Registers.codec.RoundTrips ∧ ExecState.codec.RoundTrips ∧ StopReason.codec.RoundTrips ∧
      RunSummary.codec.RoundTrips ∧ Key.codec.RoundTrips ∧ (Codec.list Key.codec).RoundTrips ∧
      KeyPolicy.codec.RoundTrips ∧ Keypad.codec.RoundTrips ∧ KeyEvent.codec.RoundTrips ∧
      PowerState.codec.RoundTrips ∧ DisplaySnapshot.codec.RoundTrips ∧
      DisplayEvent.codec.RoundTrips ∧ ProgramImage.codec.RoundTrips ∧ LoadReport.codec.RoundTrips ∧
      MachineConfig.codec.RoundTrips :=
  ⟨Registers.lossless_codec.roundTrips, ExecState.lossless_codec.roundTrips,
    StopReason.lossless_codec.roundTrips, RunSummary.lossless_codec.roundTrips,
    Key.lossless_codec.roundTrips, Key.lossless_codec.list.roundTrips,
    KeyPolicy.lossless_codec.roundTrips, Keypad.lossless_codec.roundTrips,
    KeyEvent.lossless_codec.roundTrips, PowerState.lossless_codec.roundTrips,
    DisplaySnapshot.lossless_codec.roundTrips, DisplayEvent.lossless_codec.roundTrips,
    ProgramImage.lossless_codec.roundTrips, LoadReport.lossless_codec.roundTrips,
    MachineConfig.lossless_codec.roundTrips⟩

end Trainer6800
