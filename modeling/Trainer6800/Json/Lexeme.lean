import Trainer6800.Json.Error
import Trainer6800.Text.Hex

/-!
# The words of JSON text

Blanks, fixed words, numbers and strings.  A reader takes the text from where it stands and gives
what it read with the text after it.

Numbers without fraction and exponent are integers as long as they fit 64 bits.  All others, and
minus zero, are floating-point: the digits that fit 64 bits are the significand, the digits beyond
only count for the exponent, and the significand is then multiplied or divided by a power of ten.
-/

namespace Trainer6800.Json

/-- Reads something from the front of a text. -/
abbrev Reader (α : Type) := List Char → Except Error (α × List Char)

/-- The characters that may stand between the words of JSON. -/
def isBlank (c : Char) : Bool :=
  c == ' ' || c == '\n' || c == '\t' || c == '\r'

/-- A text without the blanks at its front. -/
def skipBlanks (cs : List Char) : List Char :=
  cs.dropWhile isBlank

/-- Expect the characters of a word. -/
def readWord : List Char → List Char → Except Error (List Char)
  | [], cs => .ok cs
  | _ :: _, [] => .error (.ended .value)
  | w :: ws, c :: cs => if w = c then readWord ws cs else .error (.malformed .expectedWord)

/-! ## Numbers -/

/-- The value of a decimal digit. -/
def decimalDigit? (c : Char) : Option Nat :=
  let n := c.toNat
  if 48 ≤ n ∧ n ≤ 57 then some (n - 48) else none

/-- Whether the next character is a digit. -/
def startsWithDigit : List Char → Bool
  | [] => false
  | c :: _ => (decimalDigit? c).isSome

/-- Append digits to a number as long as it stays within `limit`: the number, how many digits were
taken, and the text after them. -/
def takeDigits (limit : Nat) : Nat → List Char → Nat × Nat × List Char
  | n, [] => (n, 0, [])
  | n, c :: cs =>
    match decimalDigit? c with
    | none => (n, 0, c :: cs)
    | some d =>
      if 10 * n + d ≤ limit then
        let (m, taken, rest) := takeDigits limit (10 * n + d) cs
        (m, taken + 1, rest)
      else (n, 0, c :: cs)

/-- Pass over digits: how many there were, and the text after them. -/
def skipDigits : List Char → Nat × List Char
  | [] => (0, [])
  | c :: cs =>
    if (decimalDigit? c).isSome then
      let (n, rest) := skipDigits cs
      (n + 1, rest)
    else (0, c :: cs)

/-- A power of ten as a floating-point number. -/
def floatPower (e : Nat) : Float :=
  Float.ofScientific 1 false e

/-- Scale by a power of ten; a power below the smallest representable one is taken in steps. -/
def scaleDown : Nat → Float → Nat → Float
  | 0, f, _ => f
  | fuel + 1, f, e => if e ≤ 308 then f / floatPower e else scaleDown fuel (f / floatPower 308) (e - 308)

/-- The floating-point number `±significand · 10^exponent`. -/
def floatNumber (negative : Bool) (significand : Nat) (exponent : Int) : Except Error Number :=
  let f := Float.ofNat significand
  let sign (f : Float) : Number := .float (if negative then f.toBits ^^^ 0x8000000000000000 else f.toBits)
  if significand = 0 then .ok (sign 0.0)
  else if exponent < 0 then .ok (sign (scaleDown 4 f (-exponent).toNat))
  else if 308 < exponent then .error (.malformed .numberOutOfRange)
  else
    let scaled := f * floatPower exponent.toNat
    if scaled.isInf then .error (.malformed .numberOutOfRange) else .ok (sign scaled)

/-- The largest exponent that is read as a number; beyond it the value is zero or out of range. -/
def maxExponent : Nat := 0x7FFFFFFF

/-- The largest significand. -/
def maxSignificand : Nat := 0xFFFFFFFFFFFFFFFF

/-- Read the exponent after its letter. -/
def readExponent (negative : Bool) (significand : Nat) (exponent : Int) : Reader Number := fun cs =>
  let (down, cs) :=
    match cs with
    | '+' :: rest => (false, rest)
    | '-' :: rest => (true, rest)
    | cs => (false, cs)
  match cs with
  | [] => .error (.ended .value)
  | c :: cs =>
    match decimalDigit? c with
    | none => .error (.malformed .invalidNumber)
    | some d =>
      let (e, _, rest) := takeDigits maxExponent d cs
      if startsWithDigit rest then
        if significand ≠ 0 ∧ !down then .error (.malformed .numberOutOfRange)
        else (floatNumber negative 0 0).map (·, (skipDigits rest).2)
      else
        (floatNumber negative significand (if down then exponent - e else exponent + e)).map (·, rest)

/-- Read an exponent if there is one. -/
def readScale (negative : Bool) (significand : Nat) (exponent : Int) : Reader Number
  | 'e' :: cs | 'E' :: cs => readExponent negative significand exponent cs
  | cs => (floatNumber negative significand exponent).map (·, cs)

/-- Read the digits after the point. -/
def readFraction (negative : Bool) (significand : Nat) (exponent : Int) : Reader Number := fun cs =>
  let (s, taken, rest) := takeDigits maxSignificand significand cs
  if startsWithDigit rest then readScale negative s (exponent - taken) (skipDigits rest).2
  else if taken = 0 then
    .error (if rest.isEmpty then .ended .value else .malformed .invalidNumber)
  else readScale negative s (exponent - taken) rest

/-- The number of a significand that is followed by neither fraction nor exponent. -/
def integerNumber (negative : Bool) (significand : Nat) : Number :=
  if !negative then .int significand
  else if 0 < significand ∧ significand ≤ 0x8000000000000000 then .int (-significand)
  else .float ((Float.ofNat significand).toBits ^^^ 0x8000000000000000)

/-- Read what follows the digits of a significand. -/
def readAfterInteger (negative : Bool) (significand : Nat) : Reader Number
  | '.' :: cs => readFraction negative significand 0 cs
  | 'e' :: cs | 'E' :: cs => readExponent negative significand 0 cs
  | cs => .ok (integerNumber negative significand, cs)

/-- Read a number without its sign. -/
def readUnsigned (negative : Bool) : Reader Number
  | [] => .error (.ended .value)
  | '0' :: cs =>
    if startsWithDigit cs then .error (.malformed .invalidNumber) else readAfterInteger negative 0 cs
  | c :: cs =>
    match decimalDigit? c with
    | none => .error (.malformed .invalidNumber)
    | some d =>
      let (s, _, rest) := takeDigits maxSignificand d cs
      if startsWithDigit rest then
        let (dropped, rest) := skipDigits rest
        match rest with
        | '.' :: rest => readFraction negative s dropped rest
        | rest => readScale negative s dropped rest
      else readAfterInteger negative s rest

/-- Read a number. -/
def readNumber : Reader Number
  | '-' :: cs => readUnsigned true cs
  | cs => readUnsigned false cs

/-! ## Strings -/

/-- The code unit written as four hexadecimal digits.  A text too short for four bytes has ended;
otherwise a character that is no digit makes the escape invalid. -/
def readUnit : Reader Nat
  | a :: b :: c :: d :: rest =>
    match Hex.digitValue? a, Hex.digitValue? b, Hex.digitValue? c, Hex.digitValue? d with
    | some a, some b, some c, some d => .ok (((16 * a + b) * 16 + c) * 16 + d, rest)
    | _, _, _, _ => .error (.malformed .invalidEscape)
  | cs =>
    if 4 ≤ cs.foldl (fun n c => n + c.utf8Size) 0 then .error (.malformed .invalidEscape)
    else .error (.ended .string)

/-- Whether a code unit is the second half of a pair. -/
def isTrailing (unit : Nat) : Bool :=
  0xDC00 ≤ unit && unit ≤ 0xDFFF

/-- Whether a code unit is the first half of a pair. -/
def isLeading (unit : Nat) : Bool :=
  0xD800 ≤ unit && unit ≤ 0xDBFF

/-- Read the character of a `\u` escape, after the letter; a pair of escapes makes one character
beyond the first 65536. -/
def readUnicode : Reader Char := fun cs => do
  let (unit, cs) ← readUnit cs
  if isTrailing unit then .error (.malformed .loneSurrogate)
  else if !isLeading unit then .ok (Char.ofNat unit, cs)
  else
    match cs with
    | '\\' :: 'u' :: cs =>
      let (second, cs) ← readUnit cs
      if isTrailing second then
        .ok (Char.ofNat (0x10000 + (unit - 0xD800) * 1024 + (second - 0xDC00)), cs)
      else .error (.malformed .loneSurrogate)
    | [] | ['\\'] => .error (.ended .string)
    | _ => .error (.malformed .unfinishedEscape)

/-- The character of a one-letter escape. -/
def escapeLetter? : Char → Option Char
  | '"' => some '"'
  | '\\' => some '\\'
  | '/' => some '/'
  | 'b' => some '\x08'
  | 'f' => some '\x0c'
  | 'n' => some '\n'
  | 'r' => some '\r'
  | 't' => some '\t'
  | _ => none

/-- Read an escape, after the backslash. -/
def readEscape : Reader Char
  | [] => .error (.ended .string)
  | 'u' :: cs => readUnicode cs
  | c :: cs =>
    match escapeLetter? c with
    | some e => .ok (e, cs)
    | none => .error (.malformed .invalidEscape)

theorem length_of_readUnit {cs rest : List Char} {n : Nat} (h : readUnit cs = .ok (n, rest)) :
    rest.length ≤ cs.length := by
  unfold readUnit at h
  split at h
  · split at h
    · cases h
      simp only [List.length_cons]
      omega
    · cases h
  · split at h <;> cases h

theorem length_of_readUnicode {cs rest : List Char} {c : Char}
    (h : readUnicode cs = .ok (c, rest)) : rest.length ≤ cs.length := by
  unfold readUnicode at h
  cases hu : readUnit cs with
  | error e => simp [hu, bind, Except.bind] at h
  | ok p =>
    obtain ⟨unit, tail⟩ := p
    have h1 := length_of_readUnit hu
    simp only [hu, bind, Except.bind] at h
    split at h
    · cases h
    split at h
    · cases h
      exact h1
    split at h
    · rename_i tail'
      cases hv : readUnit tail' with
      | error e => simp [hv] at h
      | ok q =>
        obtain ⟨second, tail''⟩ := q
        have h2 := length_of_readUnit hv
        simp only [hv] at h
        split at h
        · simp only [Except.ok.injEq, Prod.mk.injEq] at h
          obtain ⟨_, rfl⟩ := h
          simp only [List.length_cons] at h1
          omega
        · cases h
    all_goals cases h

theorem length_of_readEscape {cs rest : List Char} {c : Char}
    (h : readEscape cs = .ok (c, rest)) : rest.length ≤ cs.length := by
  unfold readEscape at h
  split at h
  · cases h
  · have := length_of_readUnicode h
    simp only [List.length_cons]
    omega
  · split at h
    · cases h
      simp
    · cases h

/-- Read the rest of a string, after its opening quote; `taken` holds its characters so far, last
first. -/
def readStringFrom (taken : List Char) (cs : List Char) : Except Error (String × List Char) :=
  match cs with
  | [] => .error (.ended .string)
  | c :: rest =>
    if c = '"' then .ok (String.ofList taken.reverse, rest)
    else if c = '\\' then
      match h : readEscape rest with
      | .ok (e, rest') =>
        have := length_of_readEscape h
        readStringFrom (e :: taken) rest'
      | .error e => .error e
    else if c.toNat < 0x20 then .error (.malformed .controlCharacter)
    else readStringFrom (c :: taken) rest
termination_by cs.length
decreasing_by
  · simp only [List.length_cons]; omega
  · simp only [List.length_cons]; omega

/-- Read the rest of a string, after its opening quote. -/
def readString : Reader String :=
  readStringFrom []

end Trainer6800.Json
