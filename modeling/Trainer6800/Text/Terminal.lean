/-!
# Text without terminal controls

A terminal does not show every character that is sent to it: it acts on controls and on the sequences
that an escape begins.  `shown` is what is left of a text when those are taken out; line ends, tabs and
form feeds stay.

A sequence is read in stages.  An escape begins one, whatever came before.  A bracket after it opens a
control sequence, which ends with a letter; other signs open strings, which end with the next escape or
with a mark of their own.  Everything else is over with the character after the escape.
-/

namespace Trainer6800.Text

/-- How far a terminal has come in a sequence. -/
inductive Stage where
  /-- In no sequence. -/
  | ground
  /-- After an escape. -/
  | escape
  /-- After an escape and at least one sign before its final character. -/
  | escapeSigns
  /-- In a control sequence. -/
  | control
  /-- At the head of a string for a device. -/
  | device
  /-- In the parameters of a string for a device. -/
  | deviceParameters
  /-- In the signs before the final character of a string for a device. -/
  | deviceSigns
  /-- In a string for a device, or in one that nothing is done with. -/
  | string
  /-- In a title or another command to the terminal's surroundings. -/
  | title
  deriving DecidableEq, Repr

/-- Whether the code of a character is in a range. -/
def inRange (c : Char) (first last : Nat) : Bool :=
  first ≤ c.toNat && c.toNat ≤ last

/-- Controls that move on in the text: they are shown, even inside a sequence. -/
def isSpacing (c : Char) : Bool :=
  c == '\t' || c == '\n' || c == '\x0c' || c == '\r'

/-- Whether a character is shown outside of sequences. -/
def isShown (c : Char) : Bool :=
  isSpacing c || (0x20 ≤ c.toNat && c.toNat != 0x7F)

/-- Whether the byte that ends a string for a device is among those that encode a character. -/
def endsString (c : Char) : Bool :=
  (String.utf8EncodeChar c).contains 0x9C

namespace Stage

/-- Whether characters of this stage belong to a string, so that spacing is not shown either. -/
def isString : Stage → Bool
  | ground | escape | escapeSigns | control => false
  | device | deviceParameters | deviceSigns | string | title => true

/-- The stage after a character. -/
def next (stage : Stage) (c : Char) : Stage :=
  -- an escape begins anew, cancel and substitute break off, at any stage
  if c = '\x1b' then escape
  else if c = '\x18' ∨ c = '\x1a' then ground
  else
    match stage with
    | ground => ground
    | escape =>
      if c = '[' then control
      else if c = ']' then title
      else if c = 'P' then device
      else if c = 'X' ∨ c = '^' ∨ c = '_' then string
      else if inRange c 0x20 0x2F then escapeSigns
      else if inRange c 0x30 0x7E then ground
      else escape
    | escapeSigns => if inRange c 0x30 0x7E then ground else escapeSigns
    | control => if inRange c 0x40 0x7E then ground else control
    | device =>
      if inRange c 0x20 0x2F then deviceSigns
      else if inRange c 0x30 0x3F then deviceParameters
      else if inRange c 0x40 0x7E then string
      else device
    | deviceParameters =>
      if inRange c 0x20 0x2F then deviceSigns
      else if inRange c 0x3C 0x7E then string
      else deviceParameters
    | deviceSigns => if inRange c 0x30 0x7E then string else deviceSigns
    | string => if endsString c then ground else string
    | title => if c = '\x07' then ground else title

/-- Whether a character is shown when it comes at a stage. -/
def shows (stage : Stage) (c : Char) : Bool :=
  match stage with
  | ground => isShown c
  | _ => isSpacing c && !stage.isString

end Stage

/-- The shown characters of a text that begins at a stage.  After a character that is shown, others
are as well, until the next one that is not: `showing` says so.  Spacing inside a sequence has this
effect too, while the sequence itself goes on behind it. -/
def shownFrom (stage : Stage) (showing : Bool) : List Char → List Char
  | [] => []
  | c :: rest =>
    if showing && isShown c then
      -- a character beyond the first 128 leaves the terminal in no sequence
      c :: shownFrom (if c.toNat < 0x80 then stage else .ground) true rest
    else if stage.shows c then c :: shownFrom stage true rest
    else shownFrom (stage.next c) false rest

/-- What a terminal would show of a text. -/
def shown (text : String) : String :=
  String.ofList (shownFrom .ground false text.toList)

/-- Of a text without controls, everything is shown. -/
theorem shownFrom_eq_self {cs : List Char} (h : ∀ c ∈ cs, isShown c = true) (showing : Bool) :
    shownFrom .ground showing cs = cs := by
  induction cs generalizing showing with
  | nil => rfl
  | cons c rest ih =>
    have hc := h c (List.mem_cons_self ..)
    have hrest := ih fun d hd => h d (List.mem_cons_of_mem _ hd)
    cases showing <;> simp [shownFrom, Stage.shows, hc, hrest]

end Trainer6800.Text
