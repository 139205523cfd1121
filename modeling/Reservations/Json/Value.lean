import Reservations.Json.Token

namespace Reservations.Json

/-! ## Values of JSON

Values are put together from tokens, one token at a time, by an automaton with
a stack of unfinished arrays and objects. -/

/-- A value. Members keep their order, and names may repeat. -/
inductive Value where
  | null
  | bool (value : Bool)
  | number (written : List UInt8)
  | text (written : List UInt8)
  | array (items : List Value)
  | object (members : List (List UInt8 × Value))
  deriving Repr, Inhabited

/-- An unfinished array or object. What it holds is in reverse. -/
inductive Frame where
  | array (items : List Value)
  | object (members : List (List UInt8 × Value)) (name : List UInt8)
  deriving Repr, Inhabited

/-- What may come next. -/
inductive Expecting where
  | value
  /-- A value or the end of an array without items. -/
  | item
  /-- A name or the end of an object without members. -/
  | member
  | name (members : List (List UInt8 × Value))
  | colon (members : List (List UInt8 × Value)) (name : List UInt8)
  /-- A comma or the end of the array or object on top of the stack. -/
  | comma
  | nothing (value : Value)
  deriving Repr, Inhabited

/-- The state of the automaton. -/
structure BuildState where
  stack : List Frame := []
  expecting : Expecting := .value
  deriving Repr, Inhabited

namespace BuildState

/-- Puts a finished value where it belongs. -/
def put (value : Value) : List Frame → BuildState
  | [] => ⟨[], .nothing value⟩
  | .array items :: stack => ⟨.array (value :: items) :: stack, .comma⟩
  | .object members name :: stack =>
      ⟨.object ((name, value) :: members) [] :: stack, .comma⟩

/-- Takes a token that begins a value. -/
def begin (stack : List Frame) : Token → Option BuildState
  | .null => some (put .null stack)
  | .bool value => some (put (.bool value) stack)
  | .number written => some (put (.number written) stack)
  | .text written => some (put (.text written) stack)
  | .openArray => some ⟨.array [] :: stack, .item⟩
  | .openObject => some ⟨stack, .member⟩
  | _ => none

/-- Takes one token. -/
def step (state : BuildState) (token : Token) : Option BuildState :=
  match state.expecting, token with
  | .value, token => begin state.stack token
  | .item, .closeArray =>
      match state.stack with
      | .array items :: stack => some (put (.array items.reverse) stack)
      | _ => none
  | .item, token => begin state.stack token
  | .member, .closeObject => some (put (.object []) state.stack)
  | .member, .text written => some ⟨state.stack, .colon [] written⟩
  | .name members, .text written => some ⟨state.stack, .colon members written⟩
  | .colon members name, .colon => some ⟨.object members name :: state.stack, .value⟩
  | .comma, .comma =>
      match state.stack with
      | .array items :: stack => some ⟨.array items :: stack, .value⟩
      | .object members _ :: stack => some ⟨stack, .name members⟩
      | [] => none
  | .comma, .closeArray =>
      match state.stack with
      | .array items :: stack => some (put (.array items.reverse) stack)
      | _ => none
  | .comma, .closeObject =>
      match state.stack with
      | .object members _ :: stack => some (put (.object members.reverse) stack)
      | _ => none
  | _, _ => none

/-- Takes tokens one after the other. -/
def run (state : BuildState) : List Token → Option BuildState
  | [] => some state
  | token :: tokens =>
      match state.step token with
      | some state => run state tokens
      | none => none

end BuildState

/-- The value that bytes denote. -/
def parse? (bytes : List UInt8) : Option Value := do
  let tokens ← lex bytes
  let state ← BuildState.run {} tokens
  match state.expecting with
  | .nothing value => some value
  | _ => none

end Reservations.Json
