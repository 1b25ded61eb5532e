import FactoryBlueprint.Proofs.Document.Fields
import FactoryBlueprint.Proofs.Document.Scanning

/-! # Reading back a written document

A legible document that opens no more arrays and objects inside one another than the reader allows
is read back from what it is written as (`parse?_render`). The tokens of a value take the reader
from any stack of open arrays and objects to where the innermost of them has taken the value
(`foldlM_tokens`).
-/

namespace FactoryBlueprint

namespace Document

mutual

/-- How many arrays and objects are open at once while the document is read. -/
def depth : Document → Nat
  | .array items => depthOfItems items + 1
  | .object fields => depthOfFields fields + 1
  | _ => 0

def depthOfItems : List Document → Nat
  | [] => 0
  | item :: rest => max (depth item) (depthOfItems rest)

def depthOfFields : List (String × Document) → Nat
  | [] => 0
  | (_, value) :: rest => max (depth value) (depthOfFields rest)

end

/-- No value starts with the end of an array. -/
theorem tokens_eq_cons (document : Document) :
    ∃ token rest, document.tokens = token :: rest ∧ token ≠ .closeArray := by
  cases document with
  | null | bool | integer | number | text => exact ⟨_, _, rfl, nofun⟩
  | array items => cases items <;> exact ⟨_, _, rfl, nofun⟩
  | object fields => cases fields <;> exact ⟨_, _, rfl, nofun⟩

end Document

namespace PartialDocument

/-- A token that is taken comes before the others. -/
theorem foldlM_cons_of_step {state next : PartialDocument} {token : Token}
    (step : step? state token = some next) (rest : List Token) :
    (token :: rest).foldlM step? state = rest.foldlM step? next := by
  rw [List.foldlM_cons, step]
  rfl

/-- The first item of an array is read like any other value. -/
theorem foldlM_tokens_firstItem (document : Document) (frames : List Frame) (rest : List Token) :
    (document.tokens ++ rest).foldlM step? ⟨frames, .firstItem⟩ =
      (document.tokens ++ rest).foldlM step? ⟨frames, .value⟩ := by
  -- only the end of the array is taken differently there
  obtain ⟨token, others, eq, notEnd⟩ := document.tokens_eq_cons
  have same : step? ⟨frames, .firstItem⟩ token = step? ⟨frames, .value⟩ token := by
    cases token with
    | closeArray => contradiction
    | _ => rfl
  rw [eq, List.cons_append, List.foldlM_cons, List.foldlM_cons, same]

theorem step?_openArray {frames : List Frame} (fits : frames.length < maxDepth) :
    step? ⟨frames, .value⟩ .openArray = some ⟨.items [] :: frames, .firstItem⟩ := if_pos fits

theorem step?_openObject {frames : List Frame} (fits : frames.length < maxDepth) :
    step? ⟨frames, .value⟩ .openObject = some ⟨.members [] :: frames, .firstKey⟩ := if_pos fits

theorem step?_closeArray (done : List Document) (frames : List Frame) :
    step? ⟨.items done :: frames, .separator⟩ .closeArray =
      complete? (.array done.reverse) frames := rfl

/-- Fields that are in key order are those of the object. -/
theorem step?_closeObject {done : List (String × Document)} (sorted : Fields.Sorted done.reverse)
    (frames : List Frame) : step? ⟨.members done :: frames, .separator⟩ .closeObject =
      complete? (.object done.reverse) frames := by
  change complete? (.object (Fields.ofList done.reverse)) frames = _
  rw [sorted.ofList_eq]

mutual

/-- The tokens of a value are read, and the innermost open array or object takes it. -/
theorem foldlM_tokens : (document : Document) → document.Legible → (frames : List Frame) →
    frames.length + document.depth ≤ maxDepth → (rest : List Token) →
    (document.tokens ++ rest).foldlM step? ⟨frames, .value⟩ =
      (complete? document frames).bind (rest.foldlM step?)
  | .null, _, frames, _, rest => rfl
  | .bool _, _, frames, _, rest => rfl
  | .integer _, _, frames, _, rest => rfl
  | .number _, _, frames, _, rest => rfl
  | .text _, _, frames, _, rest => rfl
  | .array [], _, frames, fits, rest => by
    have room : frames.length < maxDepth := by
      rw [Document.depth] at fits
      omega
    exact foldlM_cons_of_step (step?_openArray room) (.closeArray :: rest)
  | .array (item :: items), legible, frames, fits, rest => by
    -- the array itself is on the stack while its items are read
    rw [Document.depth, Document.depthOfItems] at fits
    rw [Document.tokens, List.cons_append, foldlM_cons_of_step (step?_openArray (by omega)),
      List.append_assoc, foldlM_tokens_firstItem,
      foldlM_tokens item legible.1 _ (by rw [List.length_cons]; omega), complete?, Option.bind_some,
      List.append_assoc, foldlM_tokensOfItems items legible.2 _ _ (by omega),
      List.singleton_append, List.foldlM_cons, step?_closeArray]
    simp
  | .object [], _, frames, fits, rest => by
    have room : frames.length < maxDepth := by
      rw [Document.depth] at fits
      omega
    exact foldlM_cons_of_step (step?_openObject room) (.closeObject :: rest)
  | .object ((key, value) :: fields), legible, frames, fits, rest => by
    rw [Document.depth, Document.depthOfFields] at fits
    rw [Document.tokens, List.cons_append, foldlM_cons_of_step (step?_openObject (by omega)),
      List.cons_append, foldlM_cons_of_step rfl, List.cons_append, foldlM_cons_of_step rfl,
      List.append_assoc, foldlM_tokens value legible.2.1 _ (by rw [List.length_cons]; omega),
      complete?, Option.bind_some, List.append_assoc,
      foldlM_tokensOfFields fields legible.2.2 _ _ (by omega), List.singleton_append,
      List.foldlM_cons, step?_closeObject (by simpa using legible.1)]
    simp

/-- Further items are read up to the end of the array. -/
theorem foldlM_tokensOfItems : (items : List Document) → Document.LegibleItems items →
    (done : List Document) → (frames : List Frame) →
    frames.length + 1 + Document.depthOfItems items ≤ maxDepth → (rest : List Token) →
    (Document.tokensOfItems items ++ rest).foldlM step? ⟨.items done :: frames, .separator⟩ =
      rest.foldlM step? ⟨.items (items.reverse ++ done) :: frames, .separator⟩
  | [], _, _, _, _, _ => rfl
  | item :: items, legible, done, frames, fits, rest => by
    rw [Document.depthOfItems] at fits
    rw [Document.tokensOfItems, List.cons_append, foldlM_cons_of_step rfl, List.append_assoc,
      foldlM_tokens item legible.1 _ (by rw [List.length_cons]; omega), complete?, Option.bind_some,
      foldlM_tokensOfItems items legible.2 _ _ (by omega)]
    simp

/-- Further fields are read up to the end of the object. -/
theorem foldlM_tokensOfFields : (fields : List (String × Document)) →
    Document.LegibleFields fields → (done : List (String × Document)) → (frames : List Frame) →
    frames.length + 1 + Document.depthOfFields fields ≤ maxDepth → (rest : List Token) →
    (Document.tokensOfFields fields ++ rest).foldlM step? ⟨.members done :: frames, .separator⟩ =
      rest.foldlM step? ⟨.members (fields.reverse ++ done) :: frames, .separator⟩
  | [], _, _, _, _, _ => rfl
  | (key, value) :: fields, legible, done, frames, fits, rest => by
    rw [Document.depthOfFields] at fits
    rw [Document.tokensOfFields, List.cons_append, foldlM_cons_of_step rfl, List.cons_append,
      foldlM_cons_of_step rfl, List.cons_append, foldlM_cons_of_step rfl, List.append_assoc,
      foldlM_tokens value legible.1 _ (by rw [List.length_cons]; omega), complete?,
      Option.bind_some, foldlM_tokensOfFields fields legible.2 _ _ (by omega)]
    simp

end

end PartialDocument

namespace Document

/-- A legible document within the depth of the reader is read back from what it is written as. -/
theorem parse?_render {document : Document} (legible : document.Legible)
    (shallow : document.depth ≤ PartialDocument.maxDepth) :
    parse? document.render = some document := by
  have read : document.tokens.foldlM PartialDocument.step? PartialDocument.initial =
      some ⟨[], .nothing document⟩ := by
    have all := PartialDocument.foldlM_tokens document legible [] (by simpa using shallow) []
    rw [List.append_nil] at all
    exact all
  rw [parse?, render, String.toList_ofList, ofChars?, ofChars?_chars legible, Option.bind_eq_bind,
    Option.bind_some, read]
  rfl

end Document
end FactoryBlueprint
