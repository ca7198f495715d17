import Trainer6800.Json.Lexeme

/-!
# Arrays and objects as sequences

The punctuation of arrays and objects, apart from what they hold.  `nextElement` and `nextKey` stand
between the items: they say whether another item follows, and refuse misplaced commas.  On top of
them, `readElements` reads a list of any length with a reader for its elements, and `readMembers`
folds a reader over the members of an object.  A loop runs at most once for each character of its
text, since every item but the first follows a comma.
-/

namespace Trainer6800.Json

/-- What follows in an array or object. -/
inductive Next where
  /-- Another item, and the text from where it starts. -/
  | item (text : List Char)
  /-- The closing bracket, and the text after it. -/
  | close (rest : List Char)

/-- Look for the next element of an array. -/
def nextElement (first : Bool) (cs : List Char) : Except Error Next :=
  match skipBlanks cs with
  | [] => .error (.ended .list)
  | c :: rest =>
    if c = ']' then .ok (.close rest)
    else if first then .ok (.item (c :: rest))
    else if c = ',' then
      match skipBlanks rest with
      | [] => .error (.ended .value)
      | d :: rest => if d = ']' then .error (.malformed .trailingComma) else .ok (.item (d :: rest))
    else .error (.malformed .expectedElementEnd)

/-- Expect the end of an array after its last element. -/
def closeArray (cs : List Char) : Except Error (List Char) :=
  match skipBlanks cs with
  | [] => .error (.ended .list)
  | c :: rest =>
    if c = ']' then .ok rest
    else if c = ',' then
      -- a comma before the bracket is told apart from a further element
      match skipBlanks rest with
      | ']' :: _ => .error (.malformed .trailingComma)
      | _ => .error (.malformed .trailingCharacters)
    else .error (.malformed .trailingCharacters)

/-- Look for the next key of an object; an item starts after the key's opening quote. -/
def nextKey (first : Bool) (cs : List Char) : Except Error Next :=
  match skipBlanks cs with
  | [] => .error (.ended .object)
  | c :: rest =>
    if c = '\x7d' then .ok (.close rest)
    else if first then
      if c = '"' then .ok (.item rest) else .error (.malformed .keyNotString)
    else if c = ',' then
      match skipBlanks rest with
      | [] => .error (.ended .value)
      | d :: rest =>
        if d = '"' then .ok (.item rest)
        else if d = '\x7d' then .error (.malformed .trailingComma)
        else .error (.malformed .keyNotString)
    else .error (.malformed .expectedMemberEnd)

/-- Expect the colon after a key. -/
def readColon (cs : List Char) : Except Error (List Char) :=
  match skipBlanks cs with
  | [] => .error (.ended .object)
  | c :: rest => if c = ':' then .ok rest else .error (.malformed .expectedColon)

/-- Read the elements of an array after its bracket, as long as `fuel` lasts; `taken` holds the
elements so far, last first. -/
def elementsLoop {α : Type} (element : Reader α) :
    Nat → Bool → List α → List Char → Except Error (List α × List Char)
  | 0, _, _, _ => .error (.ended .list)
  | fuel + 1, first, taken, cs => do
    match ← nextElement first cs with
    | .close rest => return (taken.reverse, rest)
    | .item text =>
      let (a, rest) ← element text
      elementsLoop element fuel false (a :: taken) rest

/-- Read the elements of an array, after its opening bracket. -/
def readElements {α : Type} (element : Reader α) : Reader (List α) := fun cs =>
  elementsLoop element (cs.length + 1) true [] cs

/-- Fold over the members of an object after its brace, as long as `fuel` lasts.  `member` gets the
key and what was gathered before it, and reads from behind the key. -/
def membersLoop {σ : Type} (member : String → σ → Reader σ) :
    Nat → Bool → σ → List Char → Except Error (σ × List Char)
  | 0, _, _, _ => .error (.ended .object)
  | fuel + 1, first, s, cs => do
    match ← nextKey first cs with
    | .close rest => return (s, rest)
    | .item text =>
      let (key, rest) ← readString text
      let (s, rest) ← member key s rest
      membersLoop member fuel false s rest

/-- Fold over the members of an object, after its opening brace. -/
def readMembers {σ : Type} (member : String → σ → Reader σ) (start : σ) : Reader σ := fun cs =>
  membersLoop member (cs.length + 1) true start cs

end Trainer6800.Json
