import Trainer6800.Proofs.InPlace.Machine

/-!
# Machines that log

A machine in place is asked to do one thing after the other, and calls the log in the midst of it.  How
much of that the log shows depends on the levels in force; what the machine does, and what it answers,
does not (`Machine.logged_filters`).

The requests are the commands, what the observers of the display do, and the two ways of looking at the
machine that lead over the bus.  `Machine.course` and `Machine.reports` say what happens, and what is
reported, when the machine is a value and nothing is logged.
-/

namespace Trainer6800

open Acting
open Log (Record)

/-- What can be asked of a machine. -/
inductive Request where
  | command (c : Command)
  | watch (w : Watching)
  | peek (address : UInt16)
  | disassemble (address : UInt16)

/-- What comes back. -/
inductive Response where
  | answer (a : Answer)
  /-- The events that an observer is handed. -/
  | events (handed : Array DisplayEvent)
  | byte (value : UInt8)
  | line (l : ListingLine)

/-- The events that an observer is handed. -/
def DisplayLatch.handed (l : DisplayLatch) : Watching → Array DisplayEvent
  | .take id => l.waiting id
  | .subscribe | .close _ => #[]

namespace Machine

/-! ## Without a log -/

/-- Do what is asked. -/
def serve (m : Machine) : Request → Machine × Response
  | .command c => ((m.obey c).1, .answer (m.obey c).2)
  | .watch w => (m.act (.watch w), .events (m.bus.display.handed w))
  | .peek address => (m, .byte (m.peek address))
  | .disassemble address => (m, .line (.ofAddress m.bus address))

/-- What becomes of a machine, request by request: what comes back, and the machine but for its
journal. -/
def course (m : Machine) : List Request → List (Response × Machine)
  | [] => []
  | r :: rest => ((m.serve r).2, (m.serve r).1.act .writeOut) :: (m.serve r).1.course rest

/-- The machine when all requests have been served. -/
def serveAll (m : Machine) (requests : List Request) : Machine :=
  requests.foldl (fun m r => (m.serve r).1) m

/-! ## In place -/

/-- Carry out a command in place. -/
def obeyM : Command → Acting Machine Answer
  | .step => return .stepped (← stepM)
  | .run budget => return .ran (← runM budget.toNat)
  | .tick => return .ran (← tickM)
  | .press key => do
    pressKeyM key
    return .done
  | .release key => do
    releaseKeyM key
    return .done
  | .pressCode code => return .keyed (← withKeyCode code pressKeyM)
  | .releaseCode code => return .keyed (← withKeyCode code releaseKeyM)
  | .queueKey event => do
    queueKeyM event
    return .done
  | .powerButton => do
    powerButtonM
    return .done
  | .powerOff => do
    powerOffM
    return .done
  | .reset => do
    resetM
    return .done
  | .irq => return .flag (← irqM)
  | .nmi => do
    nmiM
    return .done
  | .setPc address => do
    modify (·.setPc address)
    return .done
  | .clearRam => do
    clearRamM
    return .done
  | .loadProgram image => return .loaded (← loadProgramM image)
  | .addBreakpoint address => do
    modify (·.addBreakpoint address)
    return .done
  | .removeBreakpoint address => return .flag (← removeBreakpointM address)
  | .mount id image => return .mounted (← mountM id image)
  | .unmount id => return .mounted (← unmountM id)
  | .loadState v => return .restored (← loadStateM v)

/-- Do in place what is asked. -/
def serveM : Request → Acting Machine Response
  | .command c => return .answer (← obeyM c)
  | .watch w => do
    let handed := (← get).bus.display.handed w
    modify (·.act (.watch w))
    return .events handed
  | .peek address => return .byte (← peekM address)
  | .disassemble address => return .line (← disassembleM address)

/-- What comes back for each request, and the machine at that moment. -/
def courseM : List Request → Acting Machine (List (Response × Machine))
  | [] => return []
  | r :: rest => do
    let response ← serveM r
    let m ← get
    return (response, m.act .writeOut) :: (← courseM rest)

/-! ## The log has no say -/

variable {fit : Prop}

theorem tracks_withKeyCode {act : Key → Acting Machine Unit} {f : Machine → Key → Machine}
    (each : ∀ key, Tracks (Follows fit) (act key) fun m => ((), f m key)) (code : String) :
    Tracks (Follows fit) (withKeyCode code act) fun m =>
      ((m.orElse ((Key.ofText code).map (f m))).2, (m.orElse ((Key.ofText code).map (f m))).1) := by
  intro m w before follows
  unfold withKeyCode
  cases Key.ofText code with
  | error e => exact .pure follows
  | ok key => exact .bind (each key m w before follows) fun _ _ follows => .pure follows

/-- A command in place does what the command does. -/
theorem tracks_obeyM (c : Command) :
    Tracks (Follows fit) (obeyM c) fun m => ((m.obey c).2, (m.obey c).1) := by
  have done {a : Acting Machine Unit} {f : Machine → Machine}
      (tracks : Tracks (Follows fit) a fun m => ((), f m)) :
      Tracks (Follows fit) (do a; return Answer.done) fun m => (.done, f m) :=
    tracks.answer fun _ => Answer.done
  cases c with
  | step => exact tracks_stepM.answer Answer.stepped
  | run budget => exact (tracks_runM budget.toNat).answer Answer.ran
  | tick => exact tracks_tickM.answer Answer.ran
  | press key => exact done (tracks_pressKeyM key)
  | release key => exact done (tracks_releaseKeyM key)
  | pressCode code => exact (tracks_withKeyCode tracks_pressKeyM code).answer Answer.keyed
  | releaseCode code => exact (tracks_withKeyCode tracks_releaseKeyM code).answer Answer.keyed
  | queueKey event => exact done (tracks_queueKeyM event)
  | powerButton => exact done tracks_powerButtonM
  | powerOff => exact done tracks_powerOffM
  | reset => exact done tracks_resetM
  | irq => exact tracks_irqM.answer Answer.flag
  | nmi => exact done tracks_nmiM
  | setPc address | addBreakpoint address => exact done (tracks_modify fun _ _ => rfl)
  | clearRam => exact done tracks_clearRamM
  | loadProgram image => exact (tracks_loadProgramM image).answer Answer.loaded
  | removeBreakpoint address => exact (tracks_removeBreakpointM address).answer Answer.flag
  | mount id image => exact (tracks_mountM id image).answer Answer.mounted
  | unmount id => exact (tracks_unmountM id).answer Answer.mounted
  | loadState v => exact (tracks_loadStateM v).answer Answer.restored

/-- So does whatever is asked in place. -/
theorem tracks_serveM (r : Request) :
    Tracks (Follows fit) (serveM r) fun m => ((m.serve r).2, (m.serve r).1) := by
  cases r with
  | command c => exact (tracks_obeyM c).answer Response.answer
  | watch action =>
    intro m w before follows
    refine .quiet (.get w) ?_
    rw [follows.display]
    exact (tracks_watch action m w before follows).answer fun _ => Response.events _
  | peek address => exact (tracks_peekM address).answer Response.byte
  | disassemble address =>
    have shown : Tracks (Follows fit) _ _ := (tracks_disassembleM address).answer Response.line
    dsimp only at shown
    exact shown

theorem tracks_courseM (requests : List Request) :
    Tracks (Follows fit) (courseM requests) fun m => (m.course requests, m.serveAll requests) := by
  intro m w before follows
  induction requests generalizing m w before with
  | nil => exact .pure follows
  | cons r rest ih =>
    refine .bind (tracks_serveM r m w before follows) fun w before follows => ?_
    refine .quiet (.get w) ?_
    rw [follows.act_writeOut]
    exact .bind (ih _ w before follows) fun _ _ follows => .pure follows

/-- A machine goes with itself. -/
theorem Follows.self (m : Machine) : Follows m.bus.Fitted m m m.bus.journal.toList :=
  ⟨⟨⟨fun fitted => ⟨fitted, rfl⟩⟩⟩⟩

/-- Logging is inert, and levels only filter.  A machine with a log gives to any requests the responses
that it gives without, and becomes after each of them the machine that it becomes without; all that the
log has to do with it is that the same records are entered in it.  As long as the limit is not reached, and
if one of two logs shows everything, the lines of the other are, in order, those of the records written
by the first that its own settings admit. -/
theorem logged_filters (m : Machine) (requests : List Request) :
    ∃ (m' : Machine) (records : List Record),
      (∀ b : Log.Book,
        ((courseM requests).run m).run b = ((m.course requests, m'), b.enter records)) ∧
      (m.bus.Fitted → (m.serveAll requests).bus.journal.toList = m.bus.journal.toList ++ records) ∧
      ∀ k l : Log.Book, k.Unhindered records → l.Unhindered records → l.logger.settings.ShowsAll →
        ∃ written : List Record, written.Sublist records ∧
          (l.enter records).lines.toList = l.lines.toList ++ written.map Record.line ∧
          (k.enter records).lines.toList = k.lines.toList ++
            (written.filter fun r => k.logger.settings.admits r.category r.level).map Record.line := by
  obtain ⟨m', records, does, follows⟩ := tracks_courseM requests m m _ (.self m)
  refine ⟨m', records, does, follows.journal, fun k l unhindered unhindered' all => ?_⟩
  obtain ⟨written, part, shown, filtered⟩ := all.lines_eq k.logger.settings records
  refine ⟨written, part, ?_, ?_⟩
  · rw [Log.Book.lines_enter unhindered', shown]
  · rw [Log.Book.lines_enter unhindered, filtered]
    rfl

/-- A key is pressed while the machine is off, and then a monitor is mounted: the first is reported at
`trace`, the second at `info`. -/
theorem logged_filters_mounting :
    let requests : List Request := [.command (.press .reset), .command (.mount "Monitor" [])]
    let informed : Log.Book := { logger := { settings := { everything := .info } } }
    let tracing : Log.Book := { logger := { settings := { category := .const .trace } } }
    let run (b : Log.Book) := ((courseM requests).run .bare).run b
    (run informed).1 = (run tracing).1 ∧
      (run informed).2.lines.toList = ["[Memory] monitor ROM mounted (0 bytes)"] ∧
      ∃ written : List Record, (run tracing).2.lines.toList = written.map Record.line ∧
        (run informed).2.lines.toList =
          (written.filter fun r => informed.logger.settings.admits r.category r.level).map
            Record.line := by
  intro requests informed tracing run
  obtain ⟨m', records, runs, reported, filters⟩ := logged_filters .bare requests
  have known : records = [⟨.keypad, .trace, "key RESET ignored while off"⟩,
      ⟨.memory, .info, "monitor ROM mounted (0 bytes)"⟩] :=
    (reported (Bus.fitted_ofMonitor [] {})).symm
  have none : informed.logger.NoneDropped := fun c => by cases c <;> rfl
  have none' : tracing.logger.NoneDropped := fun c => by cases c <;> rfl
  have fits : informed.logger.Fits records := by
    rw [known]
    intro c
    cases c <;> decide
  have fits' : tracing.logger.Fits records := by
    rw [known]
    intro c
    cases c <;> decide
  have unhindered := Log.Book.unhindered_of_fits fits none
  obtain ⟨written, -, shown, filtered⟩ := filters informed tracing unhindered
    (Log.Book.unhindered_of_fits fits' none') fun c => by cases c <;> rfl
  have lines := Log.Book.lines_enter unhindered
  rw [known] at lines
  dsimp only [run]
  rw [runs, runs]
  refine ⟨rfl, ?_, written, shown, filtered⟩
  rw [known]
  exact lines

end Machine

end Trainer6800
