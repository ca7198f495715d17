import Trainer6800.Json.Codec.Choice
import Trainer6800.Keypad.Basic

/-!
# JSON forms of keys and keypads

A key is the string of its code, and is read from every string that reads as one.  A keypad is a
record of the held keys and the policy.
-/

namespace Trainer6800

open Json

/-- Keys as strings. -/
def Key.codec : Codec Key :=
  Codec.string.refine (fun text => (Key.ofText text).mapError UnknownKey.message) Key.code

/-- Policies by name. -/
def KeyPolicy.codec : Codec KeyPolicy :=
  Codec.enumeration KeyPolicy.all KeyPolicy.name

/-- Keypads as records. -/
def Keypad.codec : Codec Keypad :=
  Codec.record "struct Keypad"
    ((Fields.field "held" (Codec.list Key.codec) (Fields.field "policy" KeyPolicy.codec .none)).map
      (fun (held, policy, _) => { held, policy })
      fun k => (k.held, k.policy, ()))

/-- Key events as variants. -/
def KeyEvent.codec : Codec KeyEvent :=
  Codec.choice
    [.single "Press" Key.codec .press, .single "Release" Key.codec .release]
    fun
    | .press key => .object [("Press", Key.codec.encode key)]
    | .release key => .object [("Release", Key.codec.encode key)]

end Trainer6800
