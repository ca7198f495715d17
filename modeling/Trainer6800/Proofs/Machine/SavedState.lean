import Trainer6800.Machine.SaveState
import Trainer6800.Proofs.Json.TypedRecord

/-!
# Saved states on their way

A saved state can be kept as a JSON value or as text, and nothing of it is lost: the value decodes to
the state, and the text of the value, in either layout, reads back as the value.  The first is put
together from the codecs of the parts, none of which loses anything; the second needs only that their
encodings are plain.

A state decodes only if its memory has the right size, which it has in every state that a machine
saves.
-/

namespace Trainer6800

open Json

/-! ## The parts -/

theorem Registers.lossless_codec : Registers.codec.Lossless := by
  refine Codec.lossless_record (Fields.Lossless.map ?_ ?_) _
  · refine .field Codec.lossless_byte ?_ (by decide) _
    refine .field Codec.lossless_byte ?_ (by decide) _
    refine .field Codec.lossless_word ?_ (by decide) _
    refine .field Codec.lossless_word ?_ (by decide) _
    refine .field Codec.lossless_word ?_ (by decide) _
    exact .field Codec.lossless_byte Fields.lossless_none (by decide) _
  · intro r
    show { r with ccr := .ofByte r.ccr.toByte } = r
    rw [ConditionCodes.ofByte_toByte]

theorem ExecState.lossless_codec : ExecState.codec.Lossless := by
  refine Codec.lossless_enumeration ?_ (by decide)
  intro s
  cases s <;> decide

theorem CpuSnapshot.lossless_codec : CpuSnapshot.codec.Lossless := by
  refine Codec.lossless_record (Fields.Lossless.map ?_ fun _ => rfl) _
  refine .field Registers.lossless_codec ?_ (by decide) _
  refine .field ExecState.lossless_codec ?_ (by decide) _
  exact .field Codec.lossless_quadWord Fields.lossless_none (by decide) _

theorem PowerState.lossless_codec : PowerState.codec.Lossless := by
  refine Codec.lossless_enumeration ?_ (by decide)
  intro power
  cases power <;> decide

theorem DisplaySnapshot.lossless_codec : DisplaySnapshot.codec.Lossless := by
  refine Codec.lossless_record (Fields.Lossless.map ?_ fun _ => rfl) _
  exact .field (Codec.lossless_byte.vector 6) Fields.lossless_none (by decide) _

/-- The code of a key reads as the key. -/
theorem Key.ofText_code (key : Key) : Key.ofText key.code = .ok key := by
  have read : ofCode? (Text.trimBlanks key.code.toList) = some key := by
    cases key with
    | reset => decide
    | data digit =>
      rw [code, String.toList_ofList]
      revert digit
      decide
  rw [ofText, read]

theorem Key.lossless_codec : Key.codec.Lossless :=
  Codec.lossless_string.refine fun key => congrArg (·.mapError UnknownKey.message) key.ofText_code

theorem KeyPolicy.lossless_codec : KeyPolicy.codec.Lossless := by
  refine Codec.lossless_enumeration ?_ (by decide)
  intro policy
  cases policy <;> decide

theorem Keypad.lossless_codec : Keypad.codec.Lossless := by
  refine Codec.lossless_record (Fields.Lossless.map ?_ fun _ => rfl) _
  refine .field Key.lossless_codec.list ?_ (by decide) _
  exact .field KeyPolicy.lossless_codec Fields.lossless_none (by decide) _

/-! ## The whole state -/

namespace SavedState

/-- The members of a saved state before they are sorted. -/
def members (s : SavedState) : Members :=
  [("version", .ofNat stateVersion),
   ("system", .string stateSystem),
   ("power", PowerState.codec.encode s.power),
   ("cpu", CpuSnapshot.codec.encode s.cpu),
   ("ram", (Codec.list Codec.byte).encode s.ram),
   ("display", DisplaySnapshot.codec.encode s.display),
   ("keypad", Keypad.codec.encode s.keypad)]

/-- A saved state survives being printed and read. -/
theorem plain_toValue (s : SavedState) : s.toValue.Plain := by
  refine .object (ascending_sortedMembers s.members) ?_
  intro m hm
  obtain ⟨v, mem, same⟩ := mem_sortedMembers hm
  rw [same]
  simp only [List.mem_cons, List.not_mem_nil, or_false, Prod.mk.injEq] at mem
  rcases mem with ⟨-, rfl⟩ | ⟨-, rfl⟩ | ⟨-, rfl⟩ | ⟨-, rfl⟩ | ⟨-, rfl⟩ | ⟨-, rfl⟩ | ⟨-, rfl⟩
  · exact .natural (by decide)
  · exact .string _
  · exact PowerState.lossless_codec.plain s.power
  · exact CpuSnapshot.lossless_codec.plain s.cpu
  · exact Codec.lossless_byte.list.plain s.ram
  · exact DisplaySnapshot.lossless_codec.plain s.display
  · exact Keypad.lossless_codec.plain s.keypad

/-- A part that was encoded by a lossless codec is found under its key and decoded. -/
theorem part_toValue {s : SavedState} {α : Type} {c : Codec α} (lossless : c.Lossless) {key : String}
    {a : α} (here : s.members.lookup key = some (c.encode a)) : part s.toValue key c = .ok a := by
  have found : s.toValue.get key = (c.encode a).sorted := by
    show (Value.object s.members).sorted.get key = _
    rw [get_sorted, Value.get, here]
    rfl
  rw [part, found, lossless.decodes a]
  rfl

/-- A saved state is read back from its value. -/
theorem ofValue_toValue {s : SavedState} (size : s.ram.length = ramSize) :
    ofValue s.toValue = .ok s := by
  have version : s.toValue.get "version" = .ofNat stateVersion := get_sorted _ _
  have system : s.toValue.get "system" = .string stateSystem := get_sorted _ _
  rw [ofValue, version, system, part_toValue PowerState.lossless_codec rfl,
    part_toValue CpuSnapshot.lossless_codec rfl, part_toValue Codec.lossless_byte.list rfl,
    part_toValue DisplaySnapshot.lossless_codec rfl, part_toValue Keypad.lossless_codec rfl]
  show (if s.ram.length ≠ ramSize then Except.error StateError.memorySize else Except.ok s) = _
  rw [if_neg (not_not_intro size)]

end SavedState

end Trainer6800
