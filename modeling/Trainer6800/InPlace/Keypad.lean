import Trainer6800.Keypad.Basic
import Trainer6800.Log.Book

/-!
# The keypad in place

Pressing and releasing keys with the log at hand.  Both tell whether they have changed anything.
-/

namespace Trainer6800.Keypad

open Acting (log)

/-- Press a key, and tell whether it was not held already. -/
def pressM (key : Key) : Acting Keypad Bool := do
  let k ← get
  if k.isPressed key then
    return false
  else
    set { k with held := k.held ++ [key] }
    log .keypad .debug (pure (downText key))
    return true

/-- Release a key, and tell whether it was held. -/
def releaseM (key : Key) : Acting Keypad Bool := do
  let k ← get
  if k.isPressed key then
    set { k with held := k.held.erase key }
    log .keypad .debug (pure (upText key))
    return true
  else
    return false

/-- Release every key. -/
def releaseAllM : Acting Keypad Unit := do
  let k ← get
  if !k.held.isEmpty then
    log .keypad .debug (pure k.releaseAllText)
  set { k with held := [] }

end Trainer6800.Keypad
