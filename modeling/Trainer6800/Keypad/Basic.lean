import Trainer6800.Keypad.Key
import Trainer6800.Log.Record

/-!
# The keypad

The keypad remembers which keys are held, in the order in which they were pressed.  The processor
reads it through a scan byte: the low three bits of the address select rows, a row taking part when
its bit is zero, and each active key in a selected row pulls its bit of the byte to zero.

Which held keys are active is a matter of policy: with `singleKey` only the data key pressed last,
with `multiKey` all of them.
-/

namespace Trainer6800

/-- How held keys reach the scan matrix. -/
inductive KeyPolicy where
  /-- Only the data key that was pressed last. -/
  | singleKey
  /-- Every held key. -/
  | multiKey
  deriving DecidableEq, Repr

/-- The held keys, oldest press first, and the policy. -/
structure Keypad where
  held : List Key := []
  policy : KeyPolicy := .singleKey
  deriving DecidableEq, Repr

/-- A press or release of a key. -/
inductive KeyEvent where
  | press (key : Key)
  | release (key : Key)
  deriving DecidableEq, Repr

/-- All policies. -/
def KeyPolicy.all : List KeyPolicy :=
  [singleKey, multiKey]

/-- The name of a policy. -/
def KeyPolicy.name : KeyPolicy → String
  | singleKey => "SingleKey"
  | multiKey => "MultiKey"

namespace Keypad

/-- Whether a key is held. -/
def isPressed (k : Keypad) (key : Key) : Bool :=
  k.held.contains key

/-- Press a key; nothing happens if it is held already. -/
def press (k : Keypad) (key : Key) : Keypad :=
  if k.isPressed key then k else { k with held := k.held ++ [key] }

/-- What is said of a press. -/
def downText (key : Key) : String :=
  "key " ++ key.code ++ " down"

/-- The report of a press. -/
def pressRecords (k : Keypad) (key : Key) : List Log.Record :=
  if k.isPressed key then [] else [⟨.keypad, .debug, downText key⟩]

/-- Release a key; nothing happens if it is not held. -/
def release (k : Keypad) (key : Key) : Keypad :=
  { k with held := k.held.erase key }

/-- What is said of a release. -/
def upText (key : Key) : String :=
  "key " ++ key.code ++ " up"

/-- The report of a release. -/
def releaseRecords (k : Keypad) (key : Key) : List Log.Record :=
  if k.isPressed key then [⟨.keypad, .debug, upText key⟩] else []

/-- Release every key. -/
def releaseAll (k : Keypad) : Keypad :=
  { k with held := [] }

/-- What is said of releasing every key. -/
def releaseAllText (k : Keypad) : String :=
  "releasing " ++ toString k.held.length ++ " held keys"

/-- The report of releasing every key. -/
def releaseAllRecords (k : Keypad) : List Log.Record :=
  if k.held.isEmpty then [] else [⟨.keypad, .debug, k.releaseAllText⟩]

/-- The keypad with every key held at most once, since its first press. -/
def withoutRepetitions (k : Keypad) : Keypad :=
  { k with held := k.held.eraseDups }

/-- The keys that the scan matrix sees. -/
def active (k : Keypad) : List Key :=
  match k.policy with
  | .singleKey => (k.held.findRev? fun key => key.position?.isSome).toList
  | .multiKey => k.held

/-- The byte whose only bit set is the given one. -/
def mask (bit : Nat) : UInt8 :=
  1 <<< UInt8.ofNat bit

/-- A scan byte after one more active key: its bit is cleared if its row is selected. -/
def pull (select value : UInt8) (key : Key) : UInt8 :=
  match key.position? with
  | some (row, bit) => if select &&& mask row = 0 then value &&& ~~~(mask bit) else value
  | none => value

/-- The byte that the processor reads with `select` as the low bits of the address. -/
def scan (k : Keypad) (select : UInt8) : UInt8 :=
  k.active.foldl (pull select) 0xFF

end Keypad

end Trainer6800
