import Trainer6800.Json.Codec.Basic

/-!
# Codecs of lists, vectors and pairs

All three are JSON arrays.  A list takes what comes; a vector and a pair have a fixed length and say
so when there are fewer or more elements.
-/

namespace Trainer6800.Json.Codec

variable {α β : Type}

/-- Decode the elements of an array in order. -/
def decodeElements (c : Codec α) : List Value → Except Error (List α)
  | [] => .ok []
  | v :: vs => do
    let a ← c.decode v
    return a :: (← decodeElements c vs)

/-- Lists of any length. -/
def list (c : Codec α) : Codec (List α) where
  encode as := .array (as.map c.encode)
  read cs :=
    match skipBlanks cs with
    | '[' :: rest => readElements c.read rest
    | cs => .error (unexpectedText "a sequence" cs)
  decode
    | .array vs => decodeElements c vs
    | v => .error (.mismatch (.type v.found "a sequence"))

/-- The error for an array that ends after `n` elements. -/
def tooShort (n : Nat) (expected : String) : Error :=
  .mismatch (.length n expected)

/-- The error for an array of `n` elements, more than there are places for. -/
def tooLong (n : Nat) : Error :=
  .mismatch (.length n "fewer elements in array")

/-- Read the elements from number `i` on of an array of `i + n` elements; the array is closed by
the caller. -/
def readExactly (c : Codec α) (expected : String) (i : Nat) :
    (n : Nat) → Reader (Vector α n)
  | 0, cs => .ok (#v[], cs)
  | n + 1, cs => do
    match ← nextElement (i == 0) cs with
    | .close _ => .error (tooShort i expected)
    | .item text =>
      let (a, rest) ← c.read text
      let (as, rest) ← readExactly c expected (i + 1) n rest
      return ((#v[a] ++ as).cast (Nat.add_comm 1 n), rest)

/-- Decode the elements from number `i` on of an array of `i + n` elements, with what is left. -/
def decodeExactly (c : Codec α) (expected : String) (i : Nat) :
    (n : Nat) → List Value → Except Error (Vector α n × List Value)
  | 0, vs => .ok (#v[], vs)
  | _ + 1, [] => .error (tooShort i expected)
  | n + 1, v :: vs => do
    let a ← c.decode v
    let (as, rest) ← decodeExactly c expected (i + 1) n vs
    return ((#v[a] ++ as).cast (Nat.add_comm 1 n), rest)

/-- Lists of exactly `n` elements. -/
def vector (n : Nat) (c : Codec α) : Codec (Vector α n) :=
  let expected := "an array of length " ++ toString n
  { encode := fun as => .array (as.toList.map c.encode)
    read := fun cs =>
      match skipBlanks cs with
      | '[' :: rest => do
        let (as, rest) ← readExactly c expected 0 n rest
        return (as, ← closeArray rest)
      | cs => .error (unexpectedText expected cs)
    decode := fun v =>
      match v with
      | .array vs => do
        let (as, rest) ← decodeExactly c expected 0 n vs
        if rest.isEmpty then return as else .error (tooLong vs.length)
      | v => .error (.mismatch (.type v.found expected)) }

/-- What a pair is called in errors. -/
def pairExpected : String := "a tuple of size 2"

/-- Pairs. -/
def pair (c : Codec α) (d : Codec β) : Codec (α × β) where
  encode p := .array [c.encode p.1, d.encode p.2]
  read cs :=
    match skipBlanks cs with
    | '[' :: rest => do
      match ← nextElement true rest with
      | .close _ => .error (tooShort 0 pairExpected)
      | .item text =>
        let (a, rest) ← c.read text
        match ← nextElement false rest with
        | .close _ => .error (tooShort 1 pairExpected)
        | .item text =>
          let (b, rest) ← d.read text
          return ((a, b), ← closeArray rest)
    | cs => .error (unexpectedText pairExpected cs)
  decode
    | .array vs =>
      match vs with
      | [] => .error (tooShort 0 pairExpected)
      | v :: vs => do
        let a ← c.decode v
        match vs with
        | [] => .error (tooShort 1 pairExpected)
        | w :: ws =>
          let b ← d.decode w
          if ws.isEmpty then return (a, b) else .error (tooLong (ws.length + 2))
    | v => .error (.mismatch (.type v.found pairExpected))

end Trainer6800.Json.Codec
