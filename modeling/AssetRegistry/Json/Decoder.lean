import AssetRegistry.Json.Printer

/-! # Reading JSON from left to right

A decoder takes one value off the front of a list of tokens.  It goes from left
to right and stops at the first fault, which is either that the text is not JSON
(`malformed`) or that it is JSON of another shape than wanted (`mismatched`).

Arrays and objects may be nested `maxDepth` deep.  `skip` passes over a value
that nobody wants; it looks at its brackets alone and knows no such limit. -/

namespace AssetRegistry.Json

/-- Why a text does not hold a wanted value. -/
inductive Fault where
  | malformed
  | mismatched
  deriving DecidableEq, Repr

/-- Reads a value off the front of the tokens, with room for that many more
    levels of brackets. -/
abbrev Decoder (α : Type) : Type :=
  Nat → List Token → Except Fault (α × List Token)

/-- How deep brackets may be nested. -/
def maxDepth : Nat := 127

/-- The room left inside a bracket. -/
def enter : Nat → Except Fault Nat
  | 0 => .error .malformed
  | room + 1 => .ok room

/-- The fault of meeting these tokens in the place of a value of another kind. -/
def unexpected : List Token → Fault
  | .number n :: _ => if n.isFinite then .mismatched else .malformed
  | .null :: _ | .bool _ :: _ | .string _ :: _ | .bracketOpen :: _ | .braceOpen :: _ => .mismatched
  | _ => .malformed

/-- Passes the wanted token, which belongs to the grammar of JSON. -/
def expect (wanted : Token) : List Token → Except Fault (List Token)
  | t :: rest => if t = wanted then .ok rest else .error .malformed
  | [] => .error .malformed

/-! ### Arrays and objects -/

/-- Passes what separates the items of an array: a comma between two items,
    nothing before the first.  `none` stands for the closing bracket, which
    stays. -/
def nextItem (first : Bool) : List Token → Except Fault (Option (List Token))
  | .bracketClose :: _ => .ok none
  | .comma :: .bracketClose :: _ => .error .malformed
  | .comma :: rest => if first then .ok (some (.comma :: rest)) else .ok (some rest)
  | t :: rest => if first then .ok (some (t :: rest)) else .error .malformed
  | [] => .error .malformed

/-- The next key of an object and the tokens after it.  `none` stands for the
    closing brace, which stays. -/
def nextKey (first : Bool) : List Token → Except Fault (Option (String × List Token))
  | .braceClose :: _ => .ok none
  | .string key :: rest => if first then .ok (some (key, rest)) else .error .malformed
  | .comma :: .string key :: rest =>
    if first then .error .malformed else .ok (some (key, rest))
  | _ => .error .malformed

/-- The items of an array up to its closing bracket, which stays.  Every item
    takes a token at least, so as many steps as there are tokens are enough. -/
def items (decode : Decoder α) (room : Nat) :
    Nat → Bool → List Token → Except Fault (List α × List Token)
  | 0, _, _ => .error .malformed
  | steps + 1, first, ts => do
    match ← nextItem first ts with
    | none => return ([], ts)
    | some ts =>
      let (head, ts) ← decode room ts
      let (tail, ts) ← items decode room steps false ts
      return (head :: tail, ts)

/-- The members of an object up to its closing brace, which stays.  `member key`
    continues a state over a member, from the tokens after its key on. -/
def members (member : String → σ → Decoder σ) (room : Nat) :
    Nat → Bool → σ → List Token → Except Fault (σ × List Token)
  | 0, _, _, _ => .error .malformed
  | steps + 1, first, state, ts => do
    match ← nextKey first ts with
    | none => return (state, ts)
    | some (key, ts) =>
      let (state, ts) ← member key state room ts
      members member room steps false state ts

/-- A list from an array. -/
def Decoder.list (decode : Decoder α) : Decoder (List α)
  | room, .bracketOpen :: ts => do
    let (values, ts) ← items decode (← enter room) (ts.length + 1) true ts
    return (values, ← expect .bracketClose ts)
  | _, ts => .error (unexpected ts)

/-! ### Values that nobody wants -/

/-- What `skip` waits for. -/
inductive Awaited where
  | value
  | itemOrEnd
  | key
  | keyOrEnd
  | colon
  | separator
  deriving DecidableEq, Repr

/-- Passes one well-formed value.  `unclosed` tells of the brackets around the
    current place, from the inside out, whether each is a brace. -/
def skipFrom : Awaited → (unclosed : List Bool) → List Token → Except Fault (List Token)
  | _, _, [] => .error .malformed
  | awaited, unclosed, t :: ts =>
    let close (outer : List Bool) : Except Fault (List Token) :=
      if outer.isEmpty then .ok ts else skipFrom .separator outer ts
    let value : Except Fault (List Token) :=
      match t with
      | .null | .bool _ | .number _ | .string _ | .garbled => close unclosed
      | .bracketOpen => skipFrom .itemOrEnd (false :: unclosed) ts
      | .braceOpen => skipFrom .keyOrEnd (true :: unclosed) ts
      | _ => .error .malformed
    let key : Except Fault (List Token) :=
      match t with
      | .string _ | .garbled => skipFrom .colon unclosed ts
      | _ => .error .malformed
    -- Which tokens may come depends on what is awaited and, after a value, on the bracket around.
    match awaited, unclosed with
    | .value, _ => value
    | .itemOrEnd, _ => if t = .bracketClose then close unclosed.tail else value
    | .key, _ => key
    | .keyOrEnd, _ => if t = .braceClose then close unclosed.tail else key
    | .colon, _ => if t = .colon then skipFrom .value unclosed ts else .error .malformed
    | .separator, true :: outer =>
      if t = .comma then skipFrom .key unclosed ts
      else if t = .braceClose then close outer
      else .error .malformed
    | .separator, false :: outer =>
      if t = .comma then skipFrom .value unclosed ts
      else if t = .bracketClose then close outer
      else .error .malformed
    | .separator, [] => .error .malformed

/-- Passes one well-formed value. -/
def skip (ts : List Token) : Except Fault (List Token) :=
  skipFrom .value [] ts

/-! ### Whole values -/

/-- Any value, through at most that many nested steps. -/
def valueWithin : Nat → Decoder Json
  | 0, _, _ => .error .malformed
  | steps + 1, room, ts =>
    match ts with
    | .null :: ts => .ok (.null, ts)
    | .bool b :: ts => .ok (.bool b, ts)
    | .number n :: ts => if n.isFinite then .ok (.number n, ts) else .error .malformed
    | .string s :: ts => .ok (.string s, ts)
    | .bracketOpen :: ts => do
      let (values, ts) ← items (valueWithin steps) (← enter room) (ts.length + 1) true ts
      return (.array values, ← expect .bracketClose ts)
    | .braceOpen :: ts => do
      let member (key : String) (earlier : List (String × Json)) : Decoder (List (String × Json)) :=
        fun room ts => do
          let (value, ts) ← valueWithin steps room (← expect .colon ts)
          return (earlier ++ [(key, value)], ts)
      let (found, ts) ← members member (← enter room) (ts.length + 1) true [] ts
      return (.object found, ← expect .braceClose ts)
    | _ => .error .malformed

/-- Any value.  Each nested value is one level deeper, so one step more than
    there is room is enough. -/
def value : Decoder Json :=
  fun room ts => valueWithin (room + 1) room ts

/-- The value that bytes start with, whatever follows it. -/
def decodeFront (decode : Decoder α) (bytes : List UInt8) : Except Fault α := do
  let (value, _) ← decode maxDepth (byteTokens bytes)
  return value

/-- The value that a text is, with nothing after it. -/
def decodeWhole (decode : Decoder α) (text : String) : Except Fault α := do
  let (value, rest) ← decode maxDepth (tokens text.toList)
  if rest.isEmpty then return value else .error .malformed

/-- The value of a JSON text as it stands there. -/
def ofPlainText? (text : String) : Option Json :=
  (decodeWhole value text).toOption

end AssetRegistry.Json
