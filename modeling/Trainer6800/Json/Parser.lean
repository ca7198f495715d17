import Trainer6800.Json.Sequence

/-!
# Reading JSON values from text

`Value.ofText` reads a whole text as one value.  Objects come out sorted by key, and of two members
with one key the later one counts.  `skipValue` passes over a value that nobody asked for: it checks
the punctuation, but does not care whether a number is in range or an escape makes a character.
-/

namespace Trainer6800.Json

/-- Read what is left of the text as one value; `depth` bounds how deep values may nest. -/
def readNested : Nat → Reader Value
  | 0, _ => .error (.ended .value)
  | depth + 1, cs =>
    match skipBlanks cs with
    | [] => .error (.ended .value)
    | c :: rest =>
      if c = 'n' then (readWord ['u', 'l', 'l'] rest).map (.null, ·)
      else if c = 't' then (readWord ['r', 'u', 'e'] rest).map (.bool true, ·)
      else if c = 'f' then (readWord ['a', 'l', 's', 'e'] rest).map (.bool false, ·)
      else if c = '"' then do
        let (s, rest) ← readString rest
        return (.string s, rest)
      else if c = '[' then do
        let (vs, rest) ← readElements (readNested depth) rest
        return (.array vs, rest)
      else if c = '\x7b' then do
        let member (key : String) (members : Members) : Reader Members := fun cs => do
          let (v, rest) ← readNested depth (← readColon cs)
          return (members.put key v, rest)
        let (members, rest) ← readMembers member [] rest
        return (.object members, rest)
      else if c = '-' ∨ (decimalDigit? c).isSome then do
        let (n, rest) ← readNumber (c :: rest)
        return (.number n, rest)
      else .error (.malformed .expectedValue)

/-- Read a value from the front of a text. -/
def readValue : Reader Value := fun cs =>
  readNested (cs.length + 1) cs

/-- Read a whole text: nothing but blanks may follow. -/
def readWhole {α : Type} (reader : Reader α) (text : String) : Except Error α := do
  let (a, rest) ← reader text.toList
  match skipBlanks rest with
  | [] => return a
  | _ => .error (.malformed .trailingCharacters)

/-- The value that a text stands for. -/
def Value.ofText (text : String) : Except Error Value :=
  readWhole readValue text

/-! ## What is found where something else was expected -/

/-- What the text holds at its front; scalars are read for it, and may turn out malformed. -/
def foundInText (cs : List Char) : Except Error Found :=
  match skipBlanks cs with
  | [] => .error (.ended .value)
  | c :: rest =>
    if c = 'n' then (readWord ['u', 'l', 'l'] rest).map fun _ => .null
    else if c = 't' then (readWord ['r', 'u', 'e'] rest).map fun _ => .boolean true
    else if c = 'f' then (readWord ['a', 'l', 's', 'e'] rest).map fun _ => .boolean false
    else if c = '"' then (readString rest).map fun (s, _) => .string s
    else if c = '[' then .ok .sequence
    else if c = '\x7b' then .ok .map
    else if c = '-' ∨ (decimalDigit? c).isSome then
      (readNumber (c :: rest)).map fun (n, _) => n.found
    else .error (.malformed .expectedValue)

/-- The error for a text that holds something else than expected. -/
def unexpectedText (expected : String) (cs : List Char) : Error :=
  match foundInText cs with
  | .ok found => .mismatch (.type found expected)
  | .error e => e

/-! ## Passing over a value -/

/-- Pass over at least one digit. -/
def skipSomeDigits (cs : List Char) : Except Error (List Char) :=
  match skipDigits cs with
  | (0, _) => .error (.malformed .invalidNumber)
  | (_, rest) => .ok rest

/-- Pass over an exponent, if there is one. -/
def skipExponent : List Char → Except Error (List Char)
  | 'e' :: cs | 'E' :: cs =>
    match cs with
    | '+' :: rest | '-' :: rest => skipSomeDigits rest
    | cs => skipSomeDigits cs
  | cs => .ok cs

/-- Pass over a number without its sign. -/
def skipNumber (cs : List Char) : Except Error (List Char) := do
  let rest ←
    match cs with
    | '0' :: rest => if startsWithDigit rest then .error (.malformed .invalidNumber) else pure rest
    | cs => skipSomeDigits cs
  match rest with
  | '.' :: rest => skipExponent (← skipSomeDigits rest)
  | rest => skipExponent rest

/-- Pass over the rest of a string, after its opening quote. -/
def skipString (cs : List Char) : Except Error (List Char) :=
  match cs with
  | [] => .error (.ended .string)
  | c :: rest =>
    if c = '"' then .ok rest
    else if c = '\\' then
      match rest with
      | [] => .error (.ended .string)
      | 'u' :: rest =>
        match h : readUnit rest with
        | .ok (_, rest') =>
          have := length_of_readUnit h
          skipString rest'
        | .error e => .error e
      | e :: rest =>
        if (escapeLetter? e).isSome then skipString rest else .error (.malformed .invalidEscape)
    else if c.toNat < 0x20 then .error (.malformed .controlCharacter)
    else skipString rest
termination_by cs.length
decreasing_by
  all_goals simp_all only [List.length_cons]; omega

/-- An opening bracket whose partner has not been met. -/
inductive Bracket where
  | list
  | object
  deriving DecidableEq

/-- Where passing over a value stands. -/
inductive SkipState where
  /-- A value comes next. -/
  | value
  /-- A key comes next. -/
  | key
  /-- An opening bracket has just been passed. -/
  | opened
  /-- A value has just been passed. -/
  | passed

/-- Pass over a value inside the given open brackets, as long as `fuel` lasts. -/
def skipLoop : Nat → SkipState → List Bracket → List Char → Except Error (List Char)
  | 0, _, _, _ => .error (.ended .value)
  | _ + 1, .passed, [], cs => .ok cs
  | _ + 1, .opened, [], cs => .ok cs
  | fuel + 1, .value, open', cs =>
    match skipBlanks cs with
    | [] => .error (.ended .value)
    | c :: rest => do
      if c = 'n' then skipLoop fuel .passed open' (← readWord ['u', 'l', 'l'] rest)
      else if c = 't' then skipLoop fuel .passed open' (← readWord ['r', 'u', 'e'] rest)
      else if c = 'f' then skipLoop fuel .passed open' (← readWord ['a', 'l', 's', 'e'] rest)
      else if c = '"' then skipLoop fuel .passed open' (← skipString rest)
      else if c = '-' then skipLoop fuel .passed open' (← skipNumber rest)
      else if (decimalDigit? c).isSome then skipLoop fuel .passed open' (← skipNumber (c :: rest))
      else if c = '[' then skipLoop fuel .opened (.list :: open') rest
      else if c = '\x7b' then skipLoop fuel .opened (.object :: open') rest
      else .error (.malformed .expectedValue)
  | fuel + 1, .key, open', cs =>
    match skipBlanks cs with
    | [] => .error (.ended .object)
    | c :: rest => do
      if c = '"' then skipLoop fuel .value open' (← readColon (← skipString rest))
      else .error (.malformed .keyNotString)
  | fuel + 1, .opened, b :: open', cs =>
    match b, skipBlanks cs with
    | .list, [] => .error (.ended .list)
    | .object, [] => .error (.ended .object)
    | .list, c :: rest =>
      if c = ']' then skipLoop fuel .passed open' rest else skipLoop fuel .value (b :: open') (c :: rest)
    | .object, c :: rest =>
      if c = '\x7d' then skipLoop fuel .passed open' rest else skipLoop fuel .key (b :: open') (c :: rest)
  | fuel + 1, .passed, b :: open', cs =>
    match b, skipBlanks cs with
    | .list, [] => .error (.ended .list)
    | .object, [] => .error (.ended .object)
    | .list, c :: rest =>
      if c = ']' then skipLoop fuel .passed open' rest
      else if c = ',' then skipLoop fuel .value (b :: open') rest
      else .error (.malformed .expectedElementEnd)
    | .object, c :: rest =>
      if c = '\x7d' then skipLoop fuel .passed open' rest
      else if c = ',' then skipLoop fuel .key (b :: open') rest
      else .error (.malformed .expectedMemberEnd)

/-- Pass over a value. -/
def skipValue (cs : List Char) : Except Error (List Char) :=
  skipLoop (2 * cs.length + 2) .value [] cs

end Trainer6800.Json
