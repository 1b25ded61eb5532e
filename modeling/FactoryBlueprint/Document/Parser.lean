import FactoryBlueprint.Document.Token

/-! # Reading documents

The reader takes the tokens from left to right and keeps the open arrays and objects on a stack,
innermost first. At most `maxDepth` of them may be open. The fields of a finished object are put in
key order, with the last value of a repeated key.
-/

namespace FactoryBlueprint

/-- An open array or object; what it holds so far is kept last first. -/
inductive Frame where
  | items (done : List Document)
  | members (done : List (String × Document))
  /-- An object of which the value of `key` comes next. -/
  | member (done : List (String × Document)) (key : String)

/-- What may come next. -/
inductive Expecting where
  | value
  /-- The first item of an array or its end. -/
  | firstItem
  /-- The first key of an object or its end. -/
  | firstKey
  | key
  | colon (key : String)
  | separator
  | nothing (document : Document)

/-- A document read in part. -/
structure PartialDocument where
  frames : List Frame
  expecting : Expecting

namespace PartialDocument

/-- The most arrays and objects that may be open at once. -/
def maxDepth : Nat := 127

def initial : PartialDocument := ⟨[], .value⟩

/-- A value is complete: the innermost open array or object takes it. -/
def complete? (document : Document) : List Frame → Option PartialDocument
  | [] => some ⟨[], .nothing document⟩
  | .items done :: rest => some ⟨.items (document :: done) :: rest, .separator⟩
  | .member done key :: rest => some ⟨.members ((key, document) :: done) :: rest, .separator⟩
  | .members _ :: _ => none

/-- A further array or object opens. -/
def open? (frames : List Frame) (frame : Frame) (expecting : Expecting) : Option PartialDocument :=
  if frames.length < maxDepth then some ⟨frame :: frames, expecting⟩ else none

/-- A token that starts a value. -/
def startValue? (frames : List Frame) : Token → Option PartialDocument
  | .text value => complete? (.text value) frames
  | .word value => complete? value frames
  | .openArray => open? frames (.items []) .firstItem
  | .openObject => open? frames (.members []) .firstKey
  | _ => none

/-- The innermost array or object ends. -/
def close? (token : Token) : List Frame → Option PartialDocument
  | .items done :: rest =>
    match token with
    | .closeArray => complete? (.array done.reverse) rest
    | _ => none
  | .members done :: rest =>
    match token with
    | .closeObject => complete? (.ofFields done.reverse) rest
    | _ => none
  | _ => none

def step? (state : PartialDocument) (token : Token) : Option PartialDocument :=
  match state.expecting, token with
  | .value, _ => startValue? state.frames token
  | .firstItem, .closeArray => close? token state.frames
  | .firstItem, _ => startValue? state.frames token
  | .firstKey, .closeObject => close? token state.frames
  | .firstKey, .text key | .key, .text key => some ⟨state.frames, .colon key⟩
  | .colon key, .colon =>
    match state.frames with
    | .members done :: rest => some ⟨.member done key :: rest, .value⟩
    | _ => none
  | .separator, .comma =>
    match state.frames with
    | .items _ :: _ => some ⟨state.frames, .value⟩
    | .members _ :: _ => some ⟨state.frames, .key⟩
    | _ => none
  | .separator, _ => close? token state.frames
  | _, _ => none

/-- The document, if it is complete. -/
def document? (state : PartialDocument) : Option Document :=
  match state.expecting with
  | .nothing document => some document
  | _ => none

end PartialDocument

namespace Document

/-- Reads a whole text as a document. -/
def ofChars? (cs : List Char) : Option Document := do
  let tokens ← Token.ofChars? cs
  let state ← tokens.foldlM PartialDocument.step? PartialDocument.initial
  state.document?

/-- Reads a document. -/
def parse? (s : String) : Option Document := ofChars? s.toList

end Document
end FactoryBlueprint
