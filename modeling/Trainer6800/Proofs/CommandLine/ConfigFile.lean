import Trainer6800.CommandLine.Program
import Trainer6800.Proofs.CommandLine.Keeping
import Trainer6800.Proofs.Json.Given
import Trainer6800.Proofs.Machine.PublicForms

/-!
# Configuration files

A configuration is saved as it is, valid or not, and checked when it is loaded.  So what has been saved is
loaded again if it is valid, and refused for the rate that is zero if it is not (`MachineConfig.verdict`).

A file may also be written by hand.  Then it need not give every field, and what it does not give has its
default (`MachineConfig.GivenBy`).
-/

namespace Trainer6800

open Json

theorem textOfBytes_toUTF8 (text : String) : textOfBytes text.toUTF8 = .ok text := by
  have valid : String.fromUTF8? text.toUTF8 = some text := dif_pos text.isValidUTF8
  rw [textOfBytes, valid]

namespace MachineConfig

section Files

variable {m : Type → Type} [Monad m] [FileAccess m]

/-- The program loads its configuration from the file that is named, if one is. -/
theorem readConfig_eq [LawfulMonad m] (a : Arguments) :
    Program.readConfig (m := m) a =
      match a.config with
      | none => pure {}
      | some path => liftM (n := Program.Run m) (load (m := m) path) >>= Program.require (.config path) := by
  unfold Program.readConfig load
  cases a.config with
  | none => rfl
  | some path => simp only [liftM_bind, liftM_pure, bind_assoc, pure_bind]

end Files

/-- A configuration if it is valid, and otherwise what is wrong with it: the clock is looked at first. -/
def verdict (c : MachineConfig) : Except ConfigError MachineConfig :=
  if c.clockHz = 0 then .error .clockZero
  else if c.ticksPerSecond = 0 then .error .ticksZero
  else .ok c

theorem validate_eq (c : MachineConfig) : (c.validate.bind fun _ => .ok c) = c.verdict := by
  unfold validate verdict
  split
  · rfl
  · split
    · rfl
    · rfl

theorem ofText_eq (text : String) :
    ofText text = ((codec.ofText text).mapError .unparsable).bind verdict := by
  unfold ofText
  cases codec.ofText text with
  | error e => rfl
  | ok c => exact validate_eq c

/-- Only valid configurations are approved. -/
theorem validate_of_verdict {c c' : MachineConfig} (approved : c.verdict = .ok c') :
    c' = c ∧ c'.validate = .ok () := by
  obtain ⟨clock, approved⟩ := check_eq_ok_iff.mp approved
  obtain ⟨ticks, approved⟩ := check_eq_ok_iff.mp approved
  cases approved
  refine ⟨rfl, ?_⟩
  rw [validate, if_neg clock, if_neg ticks]

/-- The text that a configuration is saved as leads to its verdict. -/
theorem ofText_fileText (c : MachineConfig) : ofText c.fileText = c.verdict := by
  have read : codec.ofText c.fileText = .ok c := (lossless_codec.roundTrips c).2.1
  rw [ofText_eq, read]
  rfl

theorem ofFile_ok (text : String) : ofFile (.ok text) = ofText text :=
  rfl

theorem bind_textOfBytes_toUTF8 (text : String) :
    (Except.ok text.toUTF8 : Except FileFault ByteArray).bind textOfBytes = .ok text :=
  textOfBytes_toUTF8 text

/-- Only a valid configuration is read from a text. -/
theorem validate_of_ofText {text : String} {c : MachineConfig} (read : ofText text = .ok c) :
    codec.ofText text = .ok c ∧ c.validate = .ok () := by
  rw [ofText_eq] at read
  cases given : codec.ofText text with
  | error e =>
    rw [given] at read
    cases read
  | ok c' =>
    rw [given] at read
    obtain ⟨rfl, valid⟩ := validate_of_verdict read
    exact ⟨rfl, valid⟩

/-- Whatever a file holds, a valid configuration comes of it. -/
theorem validate_ofFileOrDefault (file : Except FileFault String) :
    (ofFileOrDefault file).validate = .ok () := by
  unfold ofFileOrDefault
  cases loaded : ofFile file with
  | error e =>
    show ({} : MachineConfig).validate = .ok ()
    rw [validate, if_neg (by decide), if_neg (by decide)]
  | ok c =>
    cases file with
    | error fault => cases loaded
    | ok text => exact (validate_of_ofText loaded).2

/-! ## Texts that give some of the fields -/

/-- The names of the fields. -/
def fieldNames : List String :=
  ["key_policy", "clear_ram_on_power_on", "clock_hz", "ticks_per_second", "breakpoints"]

/-- A configuration is what some members give of it: a field without a member has its default, and members
with other names are passed over. -/
structure GivenBy (ms : List Member) (c : MachineConfig) : Prop where
  keyPolicy : Given ms "key_policy" KeyPolicy.codec .singleKey c.keyPolicy
  clearRamOnPowerOn : Given ms "clear_ram_on_power_on" Codec.bool true c.clearRamOnPowerOn
  clockHz : Given ms "clock_hz" Codec.doubleWord 1000000 c.clockHz
  ticksPerSecond : Given ms "ticks_per_second" Codec.doubleWord 60 c.ticksPerSecond
  breakpoints : Given ms "breakpoints" (Codec.list Codec.word) [] c.breakpoints
  others : ∀ m ∈ ms, m.name ∉ fieldNames → skipValue m.value = .ok m.rest

/-- The places of the fields while a configuration is read. -/
abbrev Places :=
  Option KeyPolicy × Option Bool × Option UInt32 × Option UInt32 × Option (List UInt16) × Unit

theorem finish_eq (s : Places) :
    fields.finish s = .ok
      { keyPolicy := s.1.getD .singleKey
        clearRamOnPowerOn := s.2.1.getD true
        clockHz := s.2.2.1.getD 1000000
        ticksPerSecond := s.2.2.2.1.getD 60
        breakpoints := s.2.2.2.2.1.getD [] } := by
  obtain ⟨keyPolicy, clearRam, clockHz, ticks, breakpoints, ⟨⟩⟩ := s
  cases keyPolicy <;> cases clearRam <;> cases clockHz <;> cases ticks <;> cases breakpoints <;> rfl

theorem place_keyPolicy : fields.Place "key_policy" KeyPolicy.codec (fun s : Places => s.1) :=
  (Fields.Place.head (by decide) _).map _ _

theorem place_clearRamOnPowerOn :
    fields.Place "clear_ram_on_power_on" Codec.bool (fun s : Places => s.2.1) :=
  ((Fields.Place.head (by decide) _).tail (by decide) _ _).map _ _

theorem place_clockHz : fields.Place "clock_hz" Codec.doubleWord (fun s : Places => s.2.2.1) :=
  (((Fields.Place.head (by decide) _).tail (by decide) _ _).tail (by decide) _ _).map _ _

theorem place_ticksPerSecond :
    fields.Place "ticks_per_second" Codec.doubleWord (fun s : Places => s.2.2.2.1) :=
  ((((Fields.Place.head (by decide) _).tail (by decide) _ _).tail (by decide) _ _).tail
    (by decide) _ _).map _ _

theorem place_breakpoints :
    fields.Place "breakpoints" (Codec.list Codec.word) (fun s : Places => s.2.2.2.2.1) :=
  (((((Fields.Place.head (by decide) _).tail (by decide) _ _).tail (by decide) _ _).tail
    (by decide) _ _).tail (by decide) _ _).map _ _

theorem names_fields : fields.slots.map Slot.name = fieldNames :=
  rfl

theorem placed_fields : fields.Placed where
  distinct := by
    rw [names_fields]
    decide
  place slot mem := by
    have named : slot.name ∈ fieldNames := names_fields ▸ List.mem_map_of_mem mem
    simp only [fieldNames, List.mem_cons, List.not_mem_nil, or_false] at named
    rcases named with same | same | same | same | same
    · exact same ▸ ⟨_, _, _, place_keyPolicy⟩
    · exact same ▸ ⟨_, _, _, place_clearRamOnPowerOn⟩
    · exact same ▸ ⟨_, _, _, place_clockHz⟩
    · exact same ▸ ⟨_, _, _, place_ticksPerSecond⟩
    · exact same ▸ ⟨_, _, _, place_breakpoints⟩

/-- A text that is read as a configuration is the text of a record, and the configuration is what this
gives. -/
theorem givenBy_of_ofText {text : String} {c : MachineConfig} (read : codec.ofText text = .ok c) :
    ∃ ms rest, RecordText fieldNames text.toList ms rest ∧ skipBlanks rest = [] ∧ c.GivenBy ms := by
  obtain ⟨⟨c', rest⟩, reads, ends⟩ := bind_eq_ok_iff.mp read
  have blank : skipBlanks rest = [] ∧ c' = c := by
    simp only at ends
    split at ends
    · rename_i none
      cases ends
      exact ⟨none, rfl⟩
    · cases ends
  obtain ⟨none, rfl⟩ := blank
  obtain ⟨ms, s, record, takes, finish⟩ := Fields.recordText_of_read placed_fields reads
  rw [names_fields] at record
  have known {name : String} (mem : name ∈ fieldNames) : name ∈ fields.slots.map Slot.name := mem
  cases (finish_eq s).symm.trans finish
  exact ⟨ms, rest, record, none, {
    keyPolicy := place_keyPolicy.given (known (by decide)) takes rfl _
    clearRamOnPowerOn := place_clearRamOnPowerOn.given (known (by decide)) takes rfl _
    clockHz := place_clockHz.given (known (by decide)) takes rfl _
    ticksPerSecond := place_ticksPerSecond.given (known (by decide)) takes rfl _
    breakpoints := place_breakpoints.given (known (by decide)) takes rfl _
    others := takes.skips }⟩

/-- A configuration with the defaults for all fields but those that are named. -/
def restrictedTo (names : List String) (c : MachineConfig) : MachineConfig where
  keyPolicy := if "key_policy" ∈ names then c.keyPolicy else .singleKey
  clearRamOnPowerOn := if "clear_ram_on_power_on" ∈ names then c.clearRamOnPowerOn else true
  clockHz := if "clock_hz" ∈ names then c.clockHz else 1000000
  ticksPerSecond := if "ticks_per_second" ∈ names then c.ticksPerSecond else 60
  breakpoints := if "breakpoints" ∈ names then c.breakpoints else []

/-- The places when some fields are given. -/
def chosen (names : List String) (c : MachineConfig) : Places :=
  (if "key_policy" ∈ names then some c.keyPolicy else none,
    if "clear_ram_on_power_on" ∈ names then some c.clearRamOnPowerOn else none,
    if "clock_hz" ∈ names then some c.clockHz else none,
    if "ticks_per_second" ∈ names then some c.ticksPerSecond else none,
    if "breakpoints" ∈ names then some c.breakpoints else none, ())

theorem selective_fields : fields.Selective chosen := by
  have breakpoints := Fields.selective_none.field Codec.lossless_word.list "breakpoints"
    (fun _ => List.not_mem_nil) (some [])
  have ticksPerSecond := breakpoints.field Codec.lossless_doubleWord "ticks_per_second"
    (fun _ => by simp [Fields.field, Fields.none]) (some 60)
  have clockHz := ticksPerSecond.field Codec.lossless_doubleWord "clock_hz"
    (fun _ => by simp [Fields.field, Fields.none]) (some 1000000)
  have clearRam := clockHz.field Codec.lossless_bool "clear_ram_on_power_on"
    (fun _ => by simp [Fields.field, Fields.none]) (some true)
  have keyPolicy := clearRam.field KeyPolicy.lossless_codec "key_policy"
    (fun _ => by simp [Fields.field, Fields.none]) (some .singleKey)
  exact keyPolicy.map _ _

/-- Any selection of the members of a configuration, in any order and with any blanks, is read as the
configuration with the other fields as they are by default. -/
theorem ofText_selection (c : MachineConfig) {ms : Members} (distinct : (ms.map Prod.fst).Nodup)
    (mem : ∀ m ∈ ms, m ∈ fields.encode c) (l : Layout) :
    ofText (String.ofList ((Value.object ms).lay l 0)) = (c.restrictedTo (ms.map Prod.fst)).verdict := by
  have finish : fields.finish (chosen (ms.map Prod.fst) c) = .ok (c.restrictedTo (ms.map Prod.fst)) := by
    have getD {α : Type} (p : Prop) [Decidable p] (a d : α) :
        (if p then some a else none).getD d = if p then a else d := by
      split
      · rfl
      · rfl
    rw [finish_eq]
    simp only [chosen, getD, restrictedTo]
  have read := selective_fields.read "struct MachineConfig" distinct mem l 0 []
  rw [finish, List.append_nil] at read
  have whole : codec.ofText (String.ofList ((Value.object ms).lay l 0)) =
      .ok (c.restrictedTo (ms.map Prod.fst)) := by
    rw [Codec.ofText, readWhole, String.toList_ofList]
    show (fields.read _ _).bind _ = _
    rw [read]
    rfl
  rw [ofText_eq, whole]
  rfl

/-! ## Saving and loading -/

section Files

variable {S : Type} [FileAccess (StateM S)] {path : String}

/-- A file to which a configuration has been saved holds its text. -/
theorem read_of_save (keeps : FileAccess.Keeps S path) {c : MachineConfig} {s s' : S}
    (saved : (save (m := StateM S) c path).run s = (.ok (), s')) :
    ((FileAccess.read (m := StateM S) path).run s').1 = .ok c.fileText.toUTF8 := by
  simp only [save, StateT.run_bind] at saved
  cases made : (FileAccess.create (m := StateM S) path).run s with
  | mk result s₁ =>
    rw [made] at saved
    cases result with
    | error fault => cases saved
    | ok done => exact keeps c.fileText s s₁ s' made saved

theorem ofFileOrDefault_of_verdict {c : MachineConfig} {file : Except FileFault String}
    (loads : ofFile file = c.verdict) :
    ofFileOrDefault file = if c.clockHz = 0 ∨ c.ticksPerSecond = 0 then {} else c := by
  rw [ofFileOrDefault, loads, verdict]
  by_cases clock : c.clockHz = 0
  · simp [clock]
  · by_cases ticks : c.ticksPerSecond = 0
    · simp [clock, ticks]
    · simp [clock, ticks]

/-- What has been saved is loaded again if it is valid, and otherwise the first rate that is zero is
reported, or the defaults are taken.  Whatever text is loaded, only a valid configuration comes of it: each
field has the value that the text gives, or its default.  A text may give the fields of a configuration in
any order, and any of them may be left out. -/
theorem config_files (keeps : FileAccess.Keeps S path) :
    (∀ (c : MachineConfig) (s s' : S), (save (m := StateM S) c path).run s = (.ok (), s') →
      ((load (m := StateM S) path).run s').1 = c.verdict ∧
      ((loadOrDefault (m := StateM S) path).run s').1 =
        if c.clockHz = 0 ∨ c.ticksPerSecond = 0 then {} else c) ∧
    (∀ text c, ofText text = .ok c → c.validate = .ok () ∧
      ∃ ms rest, RecordText fieldNames text.toList ms rest ∧ skipBlanks rest = [] ∧ c.GivenBy ms) ∧
    (∀ (c : MachineConfig) (ms : Members), (ms.map Prod.fst).Nodup → (∀ m ∈ ms, m ∈ fields.encode c) →
      ∀ l : Layout, ofText (String.ofList ((Value.object ms).lay l 0)) =
        (c.restrictedTo (ms.map Prod.fst)).verdict) ∧
    ∀ s : S, ((loadOrDefault (m := StateM S) path).run s).1.validate = .ok () := by
  refine ⟨fun c s s' saved => ?_, fun text c read => ?_, fun c ms distinct mem l => ?_, fun s => ?_⟩
  · have loads : ofFile (((FileAccess.read (m := StateM S) path).run s').1.bind textOfBytes) = c.verdict := by
      rw [read_of_save keeps saved, bind_textOfBytes_toUTF8, ofFile_ok, ofText_fileText]
    exact ⟨loads, ofFileOrDefault_of_verdict loads⟩
  · obtain ⟨given, valid⟩ := validate_of_ofText read
    exact ⟨valid, givenBy_of_ofText given⟩
  · exact ofText_selection c distinct mem l
  · exact validate_ofFileOrDefault _

/-- A file in a working directory without other files: what is saved there without ticks is refused when it
is loaded, and the defaults are taken.  A text that gives the key policy alone is loaded. -/
theorem config_files_directory :
    let c : MachineConfig := { ticksPerSecond := 0, breakpoints := [0xFC00] }
    FileAccess.Keeps Directory "c" ∧
      ∃ s', (save (m := StateM Directory) c "c").run {} = (.ok (), s') ∧
        ((load (m := StateM Directory) "c").run s').1 = .error .ticksZero ∧
        ((loadOrDefault (m := StateM Directory) "c").run s').1 = {} ∧
        ofText (String.ofList ((Value.object [("key_policy", .string "MultiKey")]).lay .compact 0)) =
          .ok { keyPolicy := .multiKey } := by
  intro c
  let place : Place := Place.working.child "c"
  let made : Directory := Directory.put {} place .empty
  have names : "c".splitOn "/" = ["c"] := by
    rw [String.splitOn, if_neg (by decide), String.splitOnAux, if_neg (by decide), if_neg (by decide),
      String.splitOnAux, if_pos (by decide)]
    decide +kernel
  have parsed : Path.ofText "c" = .ok ⟨.working, ["c"], false⟩ := by
    have relative : "c".startsWith "/" = false := by decide +kernel
    have file : "c".endsWith "/" = false := by decide +kernel
    rw [Path.ofText, names, relative, file]
    rfl
  have keeps : FileAccess.Keeps Directory "c" := by
    refine Directory.keeps fun d there leads => ?_
    obtain ⟨p, here, name, read, follows, -, looked, -⟩ := leads
    cases parsed.symm.trans read
    cases follows
    unfold Directory.entry at looked
    split at looked
    · cases looked
    · cases looked
      rfl
  have creates : (FileAccess.create (m := StateM Directory) "c").run {} = (.ok (), made) := by
    have writes : Directory.writable {} "c" = .ok place := by
      rw [Directory.writable, parsed]
      rfl
    show Directory.become (Directory.create · "c") {} = _
    rw [Directory.become, Directory.create, writes]
    rfl
  have appends (text : String) : ∃ s', (FileAccess.write (m := StateM Directory) "c" text).run made =
      (.ok (), s') := by
    have writes : made.writable "c" = .ok place := by
      rw [Directory.writable, parsed]
      rfl
    refine ⟨made.put place ((made.file? place).getD .empty ++ text.toUTF8), ?_⟩
    show Directory.become (Directory.append · "c" text.toUTF8) made = _
    rw [Directory.become, Directory.append, writes]
    rfl
  obtain ⟨s', written⟩ := appends c.fileText
  have saved : (save (m := StateM Directory) c "c").run {} = (.ok (), s') := by
    simp only [save, StateT.run_bind, creates]
    exact written
  obtain ⟨roundTrip, -, selection, -⟩ := config_files keeps
  obtain ⟨loads, defaults⟩ := roundTrip c {} s' saved
  refine ⟨keeps, s', saved, loads, defaults, ?_⟩
  exact selection { keyPolicy := .multiKey } [("key_policy", .string "MultiKey")]
    (List.pairwise_singleton _ _) (List.forall_mem_singleton.mpr List.mem_cons_self) .compact

end Files

end MachineConfig

end Trainer6800
