import TableReconciler.Json.Token

/-!
# Reading JSON

The tokens of a text are taken in one after the other by a reader that remembers the lists and
objects still open, of which there may be `depth` at most.  A repeated key of an object keeps its
first place and takes its last value.  The first fault on the way ends the reading.
-/

namespace TableReconciler.Json

/-- Why a text is not read as JSON. -/
inductive Fault where
  /-- The text is not JSON. -/
  | malformed
  /-- An integer is not read. -/
  | integer (fault : Text.IntegerFault)
  /-- A list stands too deep inside other lists and objects. -/
  | deepList
  /-- An object stands too deep inside other lists and objects. -/
  | deepObject
  deriving DecidableEq, Repr

/-- The wording of a fault; text that is not JSON has none. -/
def Fault.message? : Fault → Option String
  | .malformed => none
  | .integer fault => some fault.message
  | .deepList =>
      some "maximum recursion depth exceeded while decoding a JSON array from a unicode string"
  | .deepObject =>
      some "maximum recursion depth exceeded while decoding a JSON object from a unicode string"

/-- A list or an object that is still open. -/
inductive Frame where
  /-- A list, its items so far latest first. -/
  | list (items : List Value)
  /-- An object with its entries so far, and the key whose value is being read. -/
  | object (entries : List (Scalar × Value)) (key : Scalar)

/-- What may follow. -/
inductive Expects where
  /-- A value. -/
  | value
  /-- A value, or the end of a list without items. -/
  | firstItem
  /-- A key, or, if `first`, the end of an object without entries. -/
  | key (entries : List (Scalar × Value)) (first : Bool)
  /-- A colon after a key. -/
  | colon (entries : List (Scalar × Value)) (key : Scalar)
  /-- What may follow a complete value. -/
  | after (value : Value)

/-- What has been read: the containers still open, innermost first, and what may follow. -/
structure Reader where
  /-- The containers still open. -/
  frames : List Frame
  /-- What may follow. -/
  expects : Expects

namespace Reader

/-- Nothing has been read. -/
def initial : Reader := ⟨[], .value⟩

/-- Take in the first token of a value. -/
def pushValue (depth : Nat) (frames : List Frame) : Token → Except Fault Reader
  | .openList =>
      if frames.length < depth then .ok ⟨.list [] :: frames, .firstItem⟩ else .error .deepList
  | .openObject =>
      if frames.length < depth then .ok ⟨frames, .key [] true⟩ else .error .deepObject
  | .atom value => .ok ⟨frames, .after (.scalar value)⟩
  | .unreadable fault => .error (.integer fault)
  | _ => .error .malformed

/-- Take in a token after a complete value. -/
def pushAfter (value : Value) : List Frame → Token → Except Fault Reader
  | .list items :: frames, .comma => .ok ⟨.list (value :: items) :: frames, .value⟩
  | .list items :: frames, .closeList => .ok ⟨frames, .after (.list (value :: items).reverse)⟩
  | .object entries key :: frames, .comma =>
      .ok ⟨frames, .key (Value.insertEntry key value entries) false⟩
  | .object entries key :: frames, .closeObject =>
      .ok ⟨frames, .after (.mapping (Value.insertEntry key value entries))⟩
  | _, _ => .error .malformed

/-- Take in a token. -/
def push (depth : Nat) (reader : Reader) (token : Token) : Except Fault Reader :=
  match reader.expects, token with
  | .value, token => pushValue depth reader.frames token
  | .firstItem, .closeList => .ok ⟨reader.frames.tail, .after (.list [])⟩
  | .firstItem, token => pushValue depth reader.frames token
  | .key entries true, .closeObject => .ok ⟨reader.frames, .after (.mapping entries)⟩
  | .key entries _, .atom key =>
      if key.isText then .ok ⟨reader.frames, .colon entries key⟩ else .error .malformed
  | .colon entries key, .colon => .ok ⟨.object entries key :: reader.frames, .value⟩
  | .after value, token => pushAfter value reader.frames token
  | _, _ => .error .malformed

/-- The value that has been read, if it is complete. -/
def result : Reader → Except Fault Value
  | ⟨[], .after value⟩ => .ok value
  | _ => .error .malformed

end Reader

/-- Take in one character of a text. -/
def readChar (depth : Nat) (state : Mode × Reader) (c : Char) : Except Fault (Mode × Reader) := do
  let (tokens, mode) := step state.1 c
  return (mode, ← tokens.foldlM (Reader.push depth) state.2)

/-- Read a text as one JSON value with `depth` lists and objects inside one another at most. -/
def read (depth : Nat) (text : String) : Except Fault Value := do
  let (mode, reader) ← text.toList.foldlM (readChar depth) (.gap, .initial)
  let reader ← (finish mode).foldlM (Reader.push depth) reader
  reader.result

end TableReconciler.Json
