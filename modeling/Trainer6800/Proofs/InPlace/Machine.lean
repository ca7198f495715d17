import Trainer6800.InPlace.Machine
import Trainer6800.Proofs.InPlace.Bus
import Trainer6800.Proofs.InPlace.Cpu
import Trainer6800.Proofs.Machine.Command
import Trainer6800.Proofs.Machine.Slice

/-!
# The trainer in place

Every operation of the trainer in place does what the operation on the value does, whatever the log: it
gives the same result, and leaves a machine that goes with the value (`Machine.Follows`).  That two
machines go together, means that they differ in nothing but the journal, and that the journal of the
value is what the machine in place has logged.
-/

namespace Trainer6800

open Acting
open Log (Record)

/-- The defaults are not taken without a warning. -/
theorem MachineConfig.does_ofFileOrDefaultM {σ : Type} (s : σ) (path : String)
    (file : Except FileFault String) :
    (ofFileOrDefaultM path file).Does s (ofFileOrDefault file) s
      (match ofFile file with
        | .ok _ => []
        | .error e => [⟨.power, .warn, defaultsText path e⟩]) := by
  unfold ofFileOrDefaultM ofFileOrDefault
  cases ofFile file with
  | ok c => exact .pure _ s
  | error e => exact (Does.log rfl).bind (.pure _ s)

namespace Machine

/-- A machine that is made in place has no journal, since what it would have in it is logged. -/
theorem does_ofMonitorM {σ : Type} (s : σ) (image : List UInt8) (config : MachineConfig) :
    (ofMonitorM image config).Does s ((ofMonitor image config).act .writeOut) s
      (ofMonitor image config).bus.journal.toList := by
  rw [← List.append_nil (ofMonitor image config).bus.journal.toList]
  exact (Bus.does_ofMonitorM s image { policy := config.keyPolicy }).bind (.pure _ s)

/-- The machine in place goes with the value. -/
inductive Follows (fit : Prop) (m : Machine) : Machine → List Record → Prop where
  | mk {cpu : Cpu Bus} {records : List Record} (cpus : Cpu.Follows (Bus.Follows fit) m.cpu cpu records) :
    Follows fit m { m with cpu } records

variable {fit : Prop} {α : Type} {m w : Machine} {before records : List Record}

namespace Follows

theorem isPowered (follows : Follows fit m w before) : w.isPowered = m.isPowered := by
  cases follows
  rfl

theorem power (follows : Follows fit m w before) : w.power = m.power := by
  cases follows
  rfl

theorem config (follows : Follows fit m w before) : w.config = m.config := by
  cases follows
  rfl

theorem breakpoints (follows : Follows fit m w before) : w.breakpoints = m.breakpoints := by
  cases follows
  rfl

theorem keyQueue (follows : Follows fit m w before) : w.keyQueue = m.keyQueue := by
  cases follows
  rfl

theorem registers (follows : Follows fit m w before) : w.cpu.registers = m.cpu.registers := by
  obtain ⟨cpus⟩ := follows
  exact cpus.registers

theorem pcText (follows : Follows fit m w before) : w.pcText = m.pcText :=
  congrArg (fun r : Registers => Hex.word r.pc) follows.registers

theorem state (follows : Follows fit m w before) : w.cpu.state = m.cpu.state := by
  obtain ⟨cpus⟩ := follows
  exact cpus.state

theorem fault (follows : Follows fit m w before) : w.bus.fault = m.bus.fault := by
  obtain ⟨⟨⟨-⟩⟩⟩ := follows
  rfl

theorem display (follows : Follows fit m w before) : w.bus.display = m.bus.display := by
  obtain ⟨⟨⟨-⟩⟩⟩ := follows
  rfl

/-- But for the journal, the two are one machine. -/
theorem act_writeOut (follows : Follows fit m w before) : w.act .writeOut = m.act .writeOut := by
  obtain ⟨⟨⟨-⟩⟩⟩ := follows
  rfl

/-- On a trainer, the journal is what has been logged. -/
theorem journal (follows : Follows fit m w before) (h : fit) : m.bus.journal.toList = before := by
  obtain ⟨⟨⟨logged⟩⟩⟩ := follows
  exact (logged h).2

/-- What is logged is put into the journal. -/
theorem report (follows : Follows fit m w before) (records : List Record) :
    Follows fit (m.report records) w (before ++ records) := by
  obtain ⟨⟨buses⟩⟩ := follows
  exact ⟨⟨buses.report records⟩⟩

end Follows

/-! ## Parts -/

theorem tracks_onCpu {a : Acting (Cpu Bus) α} {f : Cpu Bus → α × Cpu Bus}
    (tracks : Tracks (Cpu.Follows (Bus.Follows fit)) a f) :
    Tracks (Follows fit) (onCpu a) fun m => ((f m.cpu).1, { m with cpu := (f m.cpu).2 }) := by
  rintro m w before ⟨cpus⟩
  obtain ⟨cpu, records, does, cpus'⟩ := tracks _ _ _ cpus
  exact .of_does (.within does) ⟨cpus'⟩

theorem tracks_onBus {a : Acting Bus α} {f : Bus → α × Bus} (tracks : Tracks (Bus.Follows fit) a f) :
    Tracks (Follows fit) (onBus a) fun m =>
      ((f m.bus).1, { m with cpu.memory := (f m.bus).2 }) := by
  rintro m w before ⟨⟨buses⟩⟩
  obtain ⟨b, records, does, buses'⟩ := tracks _ _ _ buses
  exact .of_does (.within does) ⟨⟨buses'⟩⟩

/-- A change that has nothing to do with the bus. -/
theorem tracks_modify {f : Machine → Machine}
    (alone : ∀ (m : Machine) (b : Bus), f { m with cpu.memory := b } = { f m with cpu.memory := b }) :
    Tracks (Follows fit) (modify f) fun m => (⟨⟩, f m) := by
  rintro m w before ⟨cpus⟩
  obtain @⟨b, _, buses⟩ := cpus
  have same : (f m).cpu.memory = m.cpu.memory :=
    congrArg (fun m => m.cpu.memory) (alone m m.cpu.memory)
  refine .of_quiet (.modify f _) ?_
  rw [alone m b]
  exact ⟨⟨same ▸ buses⟩⟩

/-- That the processor is at an address now is put into the journal. -/
theorem goes_log (follows : Follows fit m w before) (what : String) :
    Goes (Follows fit) (log .power .info (return what ++ (← get).pcText)) w before
      ((), m.report [⟨.power, .info, what ++ m.pcText⟩]) := by
  have does := Does.tell .power .info (fun m : Machine => what ++ m.pcText) w
  refine .of_does does ?_
  rw [follows.pcText]
  exact follows.report _

/-- What a machine does depends on its power in place as it does in the value. -/
theorem Follows.ifPowered (follows : Follows fit m w before) {a b : Acting Machine α}
    {out : α × Machine} (on : m.isPowered = true → Goes (Follows fit) a w before out)
    (off : ¬ m.isPowered = true → Goes (Follows fit) b w before out) :
    Goes (Follows fit) (do if (← get).isPowered then a else b) w before out := by
  refine .quiet (.get w) ?_
  rw [follows.isPowered]
  split
  · rename_i powered
    exact on powered
  · rename_i unpowered
    exact off unpowered

/-! ## Power and reset -/

theorem tracks_clearRamM : Tracks (Follows fit) clearRamM fun m => ((), m.clearRam) :=
  tracks_onBus (Bus.tracks_onRam (f := MemoryBlock.clear) MemoryBlock.does_clearM fun _ h => h.clear)

theorem tracks_blankM :
    Tracks (Follows fit) (onBus (Bus.onDisplay DisplayLatch.blankM)) fun m => ((), m.blankDisplay) := by
  unfold blankDisplay report updateBus
  exact tracks_onBus (Bus.tracks_onDisplay DisplayLatch.does_blankM)

theorem tracks_forgetM :
    Tracks (Follows fit) (onBus (modify fun b => { b with fault := none })) fun m =>
      (⟨⟩, m.updateBus fun b => { b with fault := none }) :=
  tracks_onBus (Bus.tracks_modify (f := fun b => { b with fault := none }) (fun _ _ => rfl)
    fun _ fitted => { fitted with })

theorem tracks_prepareRamM :
    Tracks (Follows fit) prepareRamM fun m =>
      ((), if m.config.clearRamOnPowerOn then m.clearRam else m) := by
  intro m w before follows
  dsimp only
  refine .quiet (.get w) ?_
  rw [follows.config]
  split
  · exact tracks_clearRamM m w before follows
  · exact .pure follows

/-- What turning on does after memory and display have been seen to. -/
theorem powerOn_reports (m : Machine) :
    m.powerOn =
      let on : Machine := { m.wiped with
        keyQueue := []
        lastFault := none
        power := .running
        cpu := m.wiped.cpu.powerOnReset }
      (on.report [on.cpu.resetRecord]).report [⟨.power, .info, on.powerOnText⟩] :=
  report_append _ [_] [_]

theorem tracks_powerOnM : Tracks (Follows fit) powerOnM fun m => ((), m.powerOn) := by
  intro m w before follows
  refine .bind (tracks_prepareRamM m w before follows) fun w before follows => ?_
  refine .bind (tracks_blankM _ w before follows) fun w before follows => ?_
  refine .bind (tracks_forgetM _ w before follows) fun w before follows => ?_
  have wiped : Follows fit m.wiped w before := follows
  dsimp only
  rw [powerOn_reports]
  generalize m.wiped = dark at wiped
  refine .bind (tracks_modify (fun _ _ => rfl) dark w before wiped) fun w before follows => ?_
  refine .bind (tracks_onCpu (Cpu.tracks_powerOnResetM Bus.memoryFollows) _ w before follows)
    fun w before follows => ?_
  refine .bind (tracks_modify (fun _ _ => rfl) _ w before follows) fun w before follows => ?_
  exact goes_log follows _

theorem tracks_releaseAllM :
    Tracks (Follows fit) (onBus (Bus.onKeypad Keypad.releaseAllM)) fun m =>
      ((), (m.updateBus fun b => { b with keypad := b.keypad.releaseAll }).report
        m.bus.keypad.releaseAllRecords) :=
  tracks_onBus (Bus.tracks_onKeypad Keypad.does_releaseAllM)

theorem tracks_powerOffM : Tracks (Follows fit) powerOffM fun m => ((), m.powerOff) := by
  intro m w before follows
  refine .quiet (.get w) ?_
  rw [follows.isPowered]
  refine .bind (tracks_modify (fun _ _ => rfl) m w before follows) fun w before follows => ?_
  refine .bind (tracks_releaseAllM _ w before follows) fun w before follows => ?_
  refine .bind (tracks_blankM _ w before follows) fun w before follows => ?_
  refine .bind (tracks_modify (fun _ _ => rfl) _ w before follows) fun w before follows => ?_
  unfold powerOff
  dsimp only
  cases m.isPowered with
  | true => exact .of_does (.log rfl) (follows.report _)
  | false => exact .pure follows

theorem tracks_powerButtonM : Tracks (Follows fit) powerButtonM fun m => ((), m.powerButton) := by
  intro m w before follows
  refine .quiet (.get w) ?_
  dsimp only
  rw [follows.power, powerButton, isPowered]
  cases m.power with
  | off => exact tracks_powerOnM m w before follows
  | running => exact tracks_powerOffM m w before follows

/-- What a reset of a powered machine does, report by report. -/
theorem reset_reports (on : m.isPowered = true) :
    m.reset =
      let reset : Machine := { m with cpu := m.cpu.reset }
      (reset.report [reset.cpu.resetRecord]).report [⟨.power, .info, reset.resetText⟩] := by
  rw [reset, if_pos on]
  exact report_append _ [_] [_]

theorem tracks_resetM : Tracks (Follows fit) resetM fun m => ((), m.reset) := by
  intro m w before follows
  refine follows.ifPowered (fun on => ?_) fun off => ?_
  · refine .bind (tracks_onCpu (Cpu.tracks_resetM Bus.memoryFollows) m w before follows)
      fun w before follows => ?_
    dsimp only
    rw [reset_reports on]
    exact goes_log follows _
  · dsimp only
    rw [reset, if_neg off]
    exact .pure follows

/-! ## Keys -/

theorem tracks_pressKeyM (key : Key) :
    Tracks (Follows fit) (pressKeyM key) fun m => ((), m.pressKey key) := by
  intro m w before follows
  dsimp only [pressKey, isPressed]
  refine follows.ifPowered (fun on => ?_) fun off => ?_
  · refine .bind (tracks_onBus (Bus.tracks_onKeypad (Keypad.does_pressM · key)) m w before follows)
      fun w before follows => ?_
    dsimp only
    rw [if_pos on]
    by_cases acts : key = .reset ∧ (!m.bus.keypad.isPressed key) = true
    · rw [if_pos acts, if_pos acts.symm]
      exact tracks_resetM _ w before follows
    · rw [if_neg acts, if_neg fun both => acts both.symm]
      exact .pure follows
  · rw [if_neg off]
    exact .of_does (.log rfl) (follows.report _)

theorem tracks_releaseKeyM (key : Key) :
    Tracks (Follows fit) (releaseKeyM key) fun m => ((), m.releaseKey key) := by
  intro m w before follows
  dsimp only [releaseKey]
  refine follows.ifPowered (fun on => ?_) fun off => ?_
  · rw [if_pos on]
    exact .bind (tracks_onBus (Bus.tracks_onKeypad (Keypad.does_releaseM · key)) m w before follows)
      fun w before follows => .pure follows
  · rw [if_neg off]
    exact .pure follows

theorem tracks_handleKeyM (event : KeyEvent) :
    Tracks (Follows fit) (handleKeyM event) fun m => (⟨⟩, m.handleKey event) := by
  cases event with
  | press key => exact tracks_pressKeyM key
  | release key => exact tracks_releaseKeyM key

theorem tracks_queueKeyM (event : KeyEvent) :
    Tracks (Follows fit) (queueKeyM event) fun m => ((), m.queueKey event) := by
  intro m w before follows
  dsimp only [queueKey]
  refine follows.ifPowered (fun on => ?_) fun off => ?_
  · rw [if_pos on]
    exact tracks_modify (fun _ _ => rfl) m w before follows
  · rw [if_neg off]
    exact .pure follows

theorem tracks_drainKeysM : Tracks (Follows fit) drainKeysM fun m => ((), m.drainKeys) := by
  intro m w before follows
  refine .quiet (.get w) ?_
  rw [follows.keyQueue]
  refine .bind (tracks_modify (fun _ _ => rfl) m w before follows) fun w before follows => ?_
  exact Tracks.forM tracks_handleKeyM m.keyQueue _ w before follows

/-! ## Interrupts -/

theorem tracks_irqM : Tracks (Follows fit) irqM fun m => (m.acceptsIrq, m.irq) := by
  intro m w before follows
  refine follows.ifPowered (fun on => ?_) fun off => ?_
  · have powered : m.acceptsIrq = m.cpu.acceptsIrq := by
      rw [acceptsIrq, on, Bool.true_and]
    have taken : m.irq = { m with
        cpu := if m.cpu.acceptsIrq then m.cpu.interrupted Bus.report irqVector else m.cpu } := by
      rw [irq, powered]
      split
      · rfl
      · rfl
    dsimp only
    rw [powered, taken]
    exact tracks_onCpu (Cpu.tracks_irqM Bus.memoryFollows) m w before follows
  · have refused : m.acceptsIrq = false := by
      rw [acceptsIrq, Bool.eq_false_iff.mpr off, Bool.false_and]
    have unmoved : m.irq = m := by
      rw [irq, refused]
      rfl
    dsimp only
    rw [refused, unmoved]
    exact .pure follows

theorem tracks_nmiM : Tracks (Follows fit) nmiM fun m => ((), m.nmi) := by
  intro m w before follows
  refine follows.ifPowered (fun on => ?_) fun off => ?_
  · have taken : m.nmi = { m with
        cpu := if m.cpu.isHalted then m.cpu else m.cpu.interrupted Bus.report nmiVector } := by
      rw [nmi, on, Bool.true_and]
      cases m.cpu.isHalted with
      | true => rfl
      | false => rfl
    dsimp only
    rw [taken]
    exact tracks_onCpu (Cpu.tracks_nmiM Bus.memoryFollows) m w before follows
  · have unmoved : m.nmi = m := by
      rw [nmi, Bool.eq_false_iff.mpr off, Bool.false_and]
      rfl
    dsimp only
    rw [unmoved]
    exact .pure follows

theorem tracks_removeBreakpointM (address : UInt16) :
    Tracks (Follows fit) (removeBreakpointM address) fun m =>
      (m.breakpoints.contains address, m.removeBreakpoint address) := by
  intro m w before follows
  dsimp only
  refine .quiet (.get w) ?_
  rw [follows.breakpoints]
  exact .bind (tracks_modify (fun _ _ => rfl) m w before follows) fun w before follows => .pure follows

/-! ## Running -/

theorem tracks_takeFaultM :
    Tracks (Follows fit) takeFaultM fun m =>
      ((), { m.updateBus (fun b => { b with fault := none }) with
        lastFault := m.bus.fault.elim m.lastFault fun e => some (.memory e) }) := by
  intro m w before follows
  dsimp only
  refine .quiet (.get w) ?_
  rw [follows.fault]
  cases fault : m.bus.fault with
  | none =>
    have same : m.updateBus (fun b => { b with fault := none }) = m := by
      rw [← fault]
      rfl
    rw [same]
    exact .pure follows
  | some e =>
    refine .bind (tracks_forgetM m w before follows) fun w before follows => ?_
    exact tracks_modify (fun _ _ => rfl) _ w before follows

theorem tracks_advanceM : Tracks (Follows fit) advanceM fun m => (m.advance.2, m.advance.1) := by
  intro m w before follows
  refine .bind (tracks_onCpu (Cpu.tracks_stepM Bus.memoryFollows) m w before follows)
    fun w before follows => ?_
  refine .bind (tracks_takeFaultM _ w before follows) fun w before follows => ?_
  unfold advance
  dsimp only at follows ⊢
  generalize m.cpu.step = o at follows ⊢
  obtain ⟨cpu, result, records⟩ := o
  cases result with
  | error e =>
    exact .bind (tracks_modify (f := fun m => { m with lastFault := some (.cpu e) })
      (fun _ _ => rfl) _ w before follows) fun w before follows => .pure follows
  | ok n =>
    have fault : (cpu.noted Bus.report records).memory.fault = cpu.memory.fault := rfl
    refine .pure ?_
    dsimp only [bus] at follows ⊢
    rw [fault] at follows
    cases remembered : cpu.memory.fault with
    | none =>
      rw [remembered] at follows
      exact follows
    | some e =>
      rw [remembered] at follows
      exact follows

theorem tracks_stepM : Tracks (Follows fit) stepM fun m => (m.step.2, m.step.1) := by
  intro m w before follows
  dsimp only [step]
  refine follows.ifPowered (fun on => ?_) fun off => ?_
  · rw [if_pos on]
    exact tracks_advanceM m w before follows
  · rw [if_neg off]
    exact .pure follows

/-- A running machine that no breakpoint stops goes on with a step. -/
theorem goes_runFromM_of_free {budget spent done : Nat} (follows : Follows fit m w before)
    (within : spent < budget) (running : m.cpu.state = .running)
    (free : 0 < done → m.breakpoints.contains m.cpu.registers.pc = false)
    {result : Except InvalidOpcode Nat} (stepped : m.advance.2 = result) {out : RunSummary × Machine}
    (next : ∀ w before, Follows fit m.advance.1 w before →
      Goes (Follows fit)
        (match result with
          | .error _ => return summary spent done .halted
          | .ok n => runFromM budget (spent + max 1 n) (done + 1)) w before out) :
    Goes (Follows fit) (runFromM budget spent done) w before out := by
  rw [runFromM, if_pos within]
  refine .quiet (.get w) ?_
  rw [follows.state, running]
  refine .quiet (.get w) (.quiet (.get w) ?_)
  rw [follows.registers, follows.breakpoints, if_neg (not_stops free)]
  refine .bind (tracks_advanceM m w before follows) fun w before follows => ?_
  dsimp only at follows ⊢
  rw [stepped]
  exact next w before follows

/-- A run in place goes through the same slice. -/
theorem goes_runFromM {budget spent done : Nat} {events : List RunEvent} {m m' : Machine}
    {s : RunSummary} (slice : Slice budget m spent done events m' s) :
    ∀ {w : Machine} {before : List Record}, Follows fit m w before →
      Goes (Follows fit) (runFromM budget spent done) w before (s, m') := by
  induction slice with
  | exhausted used =>
    intro w before follows
    rw [runFromM, if_neg (Nat.not_lt.mpr used)]
    exact .pure follows
  | halted within halted =>
    intro w before follows
    rw [runFromM, if_pos within]
    refine .quiet (.get w) ?_
    rw [follows.state, halted]
    exact .pure follows
  | @waiting m spent done within waiting =>
    intro w before follows
    rw [runFromM, if_pos within]
    refine .quiet (.get w) ?_
    rw [follows.state, waiting]
    exact .bind (tracks_modify (fun _ _ => rfl) m w before follows) fun w before follows => .pure follows
  | breakpoint within running later stops =>
    intro w before follows
    rw [runFromM, if_pos within]
    refine .quiet (.get w) ?_
    rw [follows.state, running]
    refine .quiet (.get w) (.quiet (.get w) ?_)
    rw [follows.registers, follows.breakpoints, if_pos ⟨later, stops⟩]
    exact .after (.log rfl) (.pure (follows.report _))
  | undefined within running free failed =>
    intro w before follows
    exact goes_runFromM_of_free follows within running free failed fun w before follows =>
      .pure follows
  | executed within running free took rest ih =>
    intro w before follows
    refine goes_runFromM_of_free follows within running free took fun w before follows => ?_
    -- the step has taken time
    have two := Cpu.two_le_of_step running took
    dsimp only
    rw [Nat.max_eq_right (Nat.le_of_succ_le two)]
    exact ih follows

theorem tracks_runM (budget : Nat) :
    Tracks (Follows fit) (runM budget) fun m => ((m.run budget).2, (m.run budget).1) := by
  intro m w before follows
  dsimp only [run]
  refine follows.ifPowered (fun on => ?_) fun off => ?_
  · rw [if_pos on]
    exact goes_runFromM (slice_runFrom budget m 0 0) follows
  · rw [if_neg off]
    exact .pure follows

/-- Keys do not change the configuration. -/
theorem config_drainKeys (m : Machine) : m.drainKeys.config = m.config := by
  have reset (m : Machine) : m.reset.config = m.config := by
    unfold Machine.reset
    split
    · rfl
    · rfl
  refine drainKeys_keeps (P := fun m' => m'.config = m.config) (fun m' key same => ?_)
    (fun m' key same => ?_) rfl
  · unfold pressKey
    split
    · dsimp only
      split
      · exact (reset _).trans same
      · exact same
    · exact same
  · unfold releaseKey
    split
    · exact same
    · exact same

theorem tracks_tickM : Tracks (Follows fit) tickM fun m => (m.tick.2, m.tick.1) := by
  intro m w before follows
  refine .bind (tracks_drainKeysM m w before follows) fun w before follows => ?_
  refine .quiet (.get w) ?_
  rw [follows.config, config_drainKeys]
  exact tracks_runM m.config.cyclesPerTick m.drainKeys w before follows

/-! ## Images and states -/

theorem tracks_loadProgramM (image : ProgramImage) :
    Tracks (Follows fit) (loadProgramM image) fun m =>
      ((m.loadProgram image).2, (m.loadProgram image).1) :=
  tracks_onBus (Bus.tracks_loadProgramM image)

theorem tracks_changeMonitorM (image : List UInt8) (mounted : Bool) :
    Tracks (Follows fit) (changeMonitorM image mounted) fun m => ((), m.changeMonitor image mounted) := by
  intro m w before follows
  refine .bind (tracks_powerOffM m w before follows) fun w before follows => ?_
  refine .bind (tracks_onBus (Bus.tracks_loadMonitorM image) _ w before follows)
    fun w before follows => ?_
  exact tracks_modify (fun _ _ => rfl) _ w before follows

theorem tracks_mountM (id : String) (image : List UInt8) :
    Tracks (Follows fit) (mountM id image) fun m =>
      ((m.orElse (m.mount id image)).2, (m.orElse (m.mount id image)).1) := by
  intro m w before follows
  unfold mountM mount
  dsimp only
  by_cases known : id = monitorMount.id
  · rw [if_pos known, if_pos known]
    refine .bind (tracks_changeMonitorM image true m w before follows) fun w before follows => ?_
    exact .after (.log rfl) (.pure (follows.report _))
  · rw [if_neg known, if_neg known]
    exact .pure follows

theorem tracks_unmountM (id : String) :
    Tracks (Follows fit) (unmountM id) fun m =>
      ((m.orElse (m.unmount id)).2, (m.orElse (m.unmount id)).1) := by
  intro m w before follows
  unfold unmountM unmount
  dsimp only
  by_cases known : id = monitorMount.id
  · rw [if_pos known, if_pos known]
    exact .bind (tracks_changeMonitorM [] false m w before follows) fun w before follows =>
      .pure follows
  · rw [if_neg known, if_neg known]
    exact .pure follows

/-- What becomes of a machine whose memory has been loaded from a state. -/
theorem resume_reports (m : Machine) (s : SavedState) (ram : MemoryBlock) :
    m.resume s ram =
      let shown : Machine := m.updateBus fun b => { b with
        ram
        keypad := { s.keypad with policy := m.config.keyPolicy }.withoutRepetitions
        display := b.display.restore s.display }
      let resumed : Machine := { shown.report m.bus.display.broadcastRecords with
        cpu := (shown.report m.bus.display.broadcastRecords).cpu.restore s.cpu
        power := s.power
        keyQueue := [] }
      resumed.report [⟨.power, .info, resumed.stateLoadedText⟩] :=
  report_append _ _ [_]

theorem tracks_loadStateM (v : Json.Value) :
    Tracks (Follows fit) (loadStateM v) fun m =>
      ((m.orElse (m.loadState v)).2, (m.orElse (m.loadState v)).1) := by
  intro m w before follows
  unfold loadStateM
  dsimp only
  cases read : SavedState.ofValue v with
  | error e =>
    rw [loadState_unread read]
    exact .pure follows
  | ok s =>
    refine .bind (tracks_onBus (Bus.tracks_loadRamM s.ram) m w before follows)
      fun w before follows => ?_
    dsimp only at follows ⊢
    rw [MemoryBlock.update, MemoryBlock.attempt] at follows
    cases loads : m.bus.ram.load 0 s.ram with
    | error e =>
      rw [loadState_unfit read loads]
      rw [loads] at follows
      exact .pure follows
    | ok ram =>
      rw [loadState_fit read loads]
      rw [loads] at follows
      refine .quiet (.get w) ?_
      rw [follows.config]
      refine .bind (tracks_onBus (Bus.tracks_modify
        (f := fun b => { b with keypad :=
          { s.keypad with policy := m.config.keyPolicy }.withoutRepetitions })
        (fun _ _ => rfl) fun _ fitted => { fitted with }) _ w before follows)
        fun w before follows => ?_
      refine .bind (tracks_onBus (Bus.tracks_onDisplay (DisplayLatch.does_restoreM · s.display))
        _ w before follows) fun w before follows => ?_
      refine .bind (tracks_modify (fun _ _ => rfl) _ w before follows) fun w before follows => ?_
      refine .bind (goes_log follows _) fun w before follows => ?_
      rw [resume_reports]
      exact .pure follows

/-! ## Looking -/

theorem tracks_watch (action : Watching) :
    Tracks (Follows fit) (modify (·.act (.watch action))) fun m => (⟨⟩, m.act (.watch action)) := by
  rintro m w before ⟨⟨⟨logged⟩⟩⟩
  exact .of_quiet (.modify _ _) ⟨⟨⟨fun h => ⟨{ (logged h).1 with }, (logged h).2⟩⟩⟩⟩

/-- Looking at the bus. -/
theorem tracks_look {a : Acting Bus α} {x : Bus → α}
    (tracks : Tracks (Bus.Follows fit) a fun b => (x b, b)) :
    Tracks (Follows fit) (onBus a) fun m => (x m.bus, m) :=
  tracks_onBus tracks

theorem tracks_peekM (address : UInt16) :
    Tracks (Follows fit) (peekM address) fun m => (m.peek address, m) :=
  tracks_look (x := fun b => b.read address) (Bus.tracks_readM address)

theorem tracks_disassembleM (address : UInt16) :
    Tracks (Follows fit) (disassembleM address) fun m => (ListingLine.ofAddress m.bus address, m) :=
  tracks_look (x := fun b => ListingLine.ofAddress b address) (Bus.memoryFollows.ofAddress address)

end Machine

end Trainer6800
