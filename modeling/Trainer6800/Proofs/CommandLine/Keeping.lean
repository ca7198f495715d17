import Trainer6800.CommandLine.Directory
import Trainer6800.Proofs.Results

/-!
# Files keep what is written

Whoever saves something and loads it again relies on the files to keep it (`FileAccess.Keeps`).  On a disk
this is a matter of the system.  A `Directory` keeps what is written to any path that does not lead to a
device (`Directory.keeps`): writing makes no directory and removes none, so that the path leads to the
same place afterwards.
-/

namespace Trainer6800

/-- What is written to a path is read from it: after a file has been made empty and a text has been written
to it, its contents are that text. -/
def FileAccess.Keeps (S : Type) [FileAccess (StateM S)] (path : String) : Prop :=
  ∀ (text : String) (s s₁ s₂ : S),
    (FileAccess.create (m := StateM S) path).run s = (.ok (), s₁) →
    (FileAccess.write (m := StateM S) path text).run s₁ = (.ok (), s₂) →
    ((FileAccess.read (m := StateM S) path).run s₂).1 = .ok text.toUTF8

namespace Directory

variable {d d' : Directory} {path : String} {place : Place}

/-- Every directory of one directory is one of another. -/
def Within (d d' : Directory) : Prop :=
  ∀ place, d.isDirectory place = true → d'.isDirectory place = true

/-- A file in a directory, or on the way to it. -/
theorem isDirectory_iff : d.isDirectory place = true ↔
    place.names = [] ∨ place ∈ Place.inRoot ∨
      ∃ file ∈ d.files, place.isOnWayTo file.1 = true ∧ place ≠ file.1 := by
  simp [isDirectory, or_assoc]

theorem within_put (d : Directory) (place : Place) (bytes : ByteArray) : d.Within (d.put place bytes) := by
  intro here h
  unfold put
  split
  · exact h
  rw [isDirectory_iff] at h ⊢
  rcases h with empty | root | ⟨file, mem, way⟩
  · exact .inl empty
  · exact .inr (.inl root)
  · refine .inr (.inr ?_)
    by_cases same : file.1 = place
    · exact ⟨(place, bytes), List.mem_cons_self, same ▸ way⟩
    · exact ⟨file, List.mem_cons_of_mem _ (List.mem_filter.mpr ⟨mem, by simpa using same⟩), way⟩

/-- The place of a file does not become a directory when the file is written. -/
theorem isDirectory_put {bytes : ByteArray} (file : d.isDirectory place = false) :
    (d.put place bytes).isDirectory place = false := by
  rw [← Bool.not_eq_true, isDirectory_iff] at file ⊢
  unfold put
  split
  · exact file
  rintro (empty | root | ⟨other, mem, way⟩)
  · exact file (.inl empty)
  · exact file (.inr (.inl root))
  · rcases List.mem_cons.mp mem with rfl | before
    · exact way.2 rfl
    · exact file (.inr (.inr ⟨other, (List.mem_filter.mp before).1, way⟩))

theorem file?_put {bytes : ByteArray} (kept : place.isDevice = false) :
    (d.put place bytes).file? place = some bytes := by
  simp [file?, put, kept]

/-- Where there are more directories, a name still leads to the same one. -/
theorem enter_of_within (within : d.Within d') {here there : Place} {name : String}
    (enters : d.enter here name = .ok there) : d'.enter here name = .ok there := by
  unfold enter at enters ⊢
  by_cases dot : name = "."
  · rw [if_pos dot] at enters ⊢
    exact enters
  by_cases dots : name = ".."
  · rw [if_neg dot, if_pos dots] at enters ⊢
    exact enters
  rw [if_neg dot, if_neg dots] at enters ⊢
  obtain ⟨place, looked, enters⟩ := bind_eq_ok_iff.mp enters
  refine bind_eq_ok_iff.mpr ⟨place, looked, ?_⟩
  by_cases directory : d.isDirectory place = true
  · rw [if_pos directory] at enters
    rw [if_pos (within place directory)]
    exact enters
  · rw [if_neg directory] at enters
    cases enters

theorem follow_of_within (within : d.Within d') {here : Place} {names : List String}
    {found : Place × String} (follows : d.follow here names = .ok found) :
    d'.follow here names = .ok found := by
  induction names generalizing here with
  | nil => cases follows
  | cons name rest ih =>
    cases rest with
    | nil => exact follows
    | cons next rest =>
      obtain ⟨there, enters, follows⟩ := bind_eq_ok_iff.mp follows
      exact bind_eq_ok_iff.mpr ⟨there, enter_of_within within enters, ih follows⟩

/-- A path leads to the place of a file, whether or not there is one. -/
def Leads (d : Directory) (text : String) (place : Place) : Prop :=
  ∃ path here name, Path.ofText text = .ok path ∧ d.follow path.start path.names = .ok (here, name) ∧
    path.wantsDirectory = false ∧ entry here name = .ok place ∧ d.isDirectory place = false

theorem leads_of_writable (writes : d.writable path = .ok place) : d.Leads path place := by
  obtain ⟨p, read, writes⟩ := bind_eq_ok_iff.mp writes
  obtain ⟨⟨here, name⟩, follows, writes⟩ := bind_eq_ok_iff.mp writes
  obtain ⟨wants, writes⟩ := check_eq_ok_iff.mp writes
  obtain ⟨there, looked, writes⟩ := bind_eq_ok_iff.mp writes
  obtain ⟨directory, writes⟩ := check_eq_ok_iff.mp writes
  cases writes
  exact ⟨p, here, name, read, follows, Bool.eq_false_iff.mpr wants, looked,
    Bool.eq_false_iff.mpr directory⟩

theorem read_of_leads (leads : d.Leads path place) {bytes : ByteArray} (file : d.file? place = some bytes) :
    d.read path = .ok bytes := by
  obtain ⟨p, here, name, read, follows, wants, looked, notDirectory⟩ := leads
  refine bind_eq_ok_iff.mpr ⟨p, read, bind_eq_ok_iff.mpr ⟨(here, name), follows, ?_⟩⟩
  refine bind_eq_ok_iff.mpr ⟨place, looked, check_eq_ok_iff.mpr ⟨Bool.eq_false_iff.mp notDirectory, ?_⟩⟩
  rw [file]
  exact check_eq_ok_iff.mpr ⟨Bool.eq_false_iff.mp wants, rfl⟩

/-- After a file has been written, its path leads to the place where it was, and to no other. -/
theorem leads_put {there : Place} {bytes : ByteArray} (leads : d.Leads path place)
    (later : (d.put place bytes).Leads path there) : there = place := by
  obtain ⟨p, here, name, read, follows, -, looked, -⟩ := leads
  obtain ⟨p', here', name', read', follows', -, looked', -⟩ := later
  cases read.symm.trans read'
  cases (follow_of_within (d.within_put place bytes) follows).symm.trans follows'
  cases looked.symm.trans looked'
  rfl

theorem leads_of_put {bytes : ByteArray} (leads : d.Leads path place) :
    (d.put place bytes).Leads path place := by
  obtain ⟨p, here, name, read, follows, wants, looked, file⟩ := leads
  exact ⟨p, here, name, read, follow_of_within (d.within_put place bytes) follows, wants, looked,
    isDirectory_put file⟩

theorem exists_put_of_create (creates : d.create path = .ok d') :
    ∃ place, d.Leads path place ∧ d' = d.put place .empty := by
  obtain ⟨place, writes, creates⟩ := bind_eq_ok_iff.mp creates
  cases creates
  exact ⟨place, leads_of_writable writes, rfl⟩

theorem exists_put_of_append {bytes : ByteArray} (appends : d.append path bytes = .ok d') :
    ∃ place, d.Leads path place ∧ d' = d.put place ((d.file? place).getD .empty ++ bytes) := by
  obtain ⟨place, writes, appends⟩ := bind_eq_ok_iff.mp appends
  obtain ⟨-, appends⟩ := check_eq_ok_iff.mp appends
  cases appends
  exact ⟨place, leads_of_writable writes, rfl⟩

theorem eq_ok_of_become {change : Directory → Except FileFault Directory}
    (becomes : become change d = (.ok (), d')) : change d = .ok d' := by
  unfold become at becomes
  cases changed : change d with
  | error fault =>
    rw [changed] at becomes
    cases becomes
  | ok changedTo =>
    rw [changed] at becomes
    cases becomes
    rfl

/-- A directory keeps what is written to a path that does not lead to a device. -/
theorem keeps (ordinary : ∀ d place, Leads d path place → place.isDevice = false) :
    FileAccess.Keeps Directory path := by
  intro text d d₁ d₂ made written
  have made : become (create · path) d = (.ok (), d₁) := made
  have written : become (append · path text.toUTF8) d₁ = (.ok (), d₂) := written
  obtain ⟨place, leads, rfl⟩ := exists_put_of_create (eq_ok_of_become made)
  obtain ⟨there, leads', rfl⟩ := exists_put_of_append (eq_ok_of_become written)
  cases leads_put leads leads'
  have kept := ordinary d place leads
  have contents : ByteArray.empty ++ text.toUTF8 = text.toUTF8 := ByteArray.empty_append
  rw [file?_put kept, Option.getD_some, contents]
  exact read_of_leads (leads_of_put leads') (file?_put kept)

end Directory

end Trainer6800
