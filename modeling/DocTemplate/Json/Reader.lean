import DocTemplate.Json.Token

/-!
# Reading JSON

One pass over the tokens with a stack of the lists and objects that are still open.  Fields keep
their order and repeated keys are kept, since a record refuses a repeated field while a free map
takes the last one.
-/

namespace DocTemplate.Json

/-- A list or object that is still open, latest entry first. -/
inductive Frame where
  | list (items : List Json)
  | object (fields : List (String × Json))
  | field (fields : List (String × Json)) (key : String)

inductive Expecting where
  | value
  | itemOrClose
  | key
  | keyOrClose
  | colon
  | commaOrClose
  | nothing (result : Json)

structure ReadState where
  stack : List Frame
  expecting : Expecting

def depthLimit : Nat := 127

def ReadState.complete (value : Json) : List Frame → Option ReadState
  | [] => some ⟨[], .nothing value⟩
  | .list items :: outer => some ⟨.list (value :: items) :: outer, .commaOrClose⟩
  | .field fields key :: outer => some ⟨.object ((key, value) :: fields) :: outer, .commaOrClose⟩
  | .object _ :: _ => none

def ReadState.enter (frame : Frame) (expecting : Expecting) (stack : List Frame) :
    Option ReadState :=
  if stack.length < depthLimit then some ⟨frame :: stack, expecting⟩ else none

def ReadState.takeValue (stack : List Frame) : Token → Option ReadState
  | .null => complete .null stack
  | .bool value => complete (.bool value) stack
  | .number value => complete (.number value) stack
  | .text value => complete (.text value) stack
  | .openList => enter (.list []) .itemOrClose stack
  | .openObject => enter (.object []) .keyOrClose stack
  | _ => none

def ReadState.close : List Frame → Token → Option ReadState
  | .list items :: outer, .closeList => complete (.list items.reverse) outer
  | .object fields :: outer, .closeObject => complete (.object fields.reverse) outer
  | _, _ => none

def ReadState.takeKey (stack : List Frame) (token : Token) : Option ReadState :=
  match stack, token with
  | .object fields :: outer, .text key => some ⟨.field fields key :: outer, .colon⟩
  | _, _ => none

def ReadState.step (state : ReadState) (token : Token) : Option ReadState :=
  match state.expecting with
  | .value => takeValue state.stack token
  | .itemOrClose =>
      match token with
      | .closeList => close state.stack token
      | _ => takeValue state.stack token
  | .key => takeKey state.stack token
  | .keyOrClose =>
      match token with
      | .closeObject => close state.stack token
      | _ => takeKey state.stack token
  | .colon =>
      match token with
      | .colon => some ⟨state.stack, .value⟩
      | _ => none
  | .commaOrClose =>
      match token with
      | .comma =>
          match state.stack with
          | .object _ :: _ => some ⟨state.stack, .key⟩
          | _ => some ⟨state.stack, .value⟩
      | _ => close state.stack token
  | .nothing _ => none

def ofTokens? (tokens : List Token) : Option Json :=
  match tokens.foldlM ReadState.step ⟨[], .value⟩ with
  | some ⟨_, .nothing value⟩ => some value
  | _ => none

def read? (text : String) : Option Json := (tokens? text.toList).bind ofTokens?

end DocTemplate.Json
