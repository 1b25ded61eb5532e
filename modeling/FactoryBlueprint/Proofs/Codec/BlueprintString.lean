import FactoryBlueprint.Codec.BlueprintString
import FactoryBlueprint.Proofs.Codec.Base64
import FactoryBlueprint.Proofs.Codec.Zlib
import FactoryBlueprint.Proofs.Document.Parsing

/-! # Reading back a blueprint string

A document that its characters stand for is read back from its blueprint string, whatever white
space surrounds it (`decode_surrounded_encode`). The layers are undone one after the other. None
disturbs the next: the base64 alphabet is ASCII and has no white space, so trimming leaves the
payload whole.
-/

namespace FactoryBlueprint.BlueprintString

/-- The characters of the payload are ASCII, and none is white space. -/
theorem payload_chars (bytes : List UInt8) :
    ∀ c ∈ Base64.encode bytes, c.toNat < 128 ∧ Text.isBlank c = false :=
  Base64.forall_mem_encode (by decide +kernel) (by decide) bytes

/-- However a document was compressed, it is read back if the stream holds its characters. -/
theorem decode_payload {document : Document} (legible : document.Legible)
    (shallow : document.depth ≤ PartialDocument.maxDepth) {compressed : List UInt8}
    (holds : Zlib.decode? compressed = some document.render.toUTF8.toList) {before after : String}
    (blankBefore : ∀ c ∈ before.toList, Text.isBlank c = true)
    (blankAfter : ∀ c ∈ after.toList, Text.isBlank c = true) :
    decode (before ++ String.ofList (formatVersion :: Base64.encode compressed) ++ after) =
      .ok document := by
  have solid : ∀ c ∈ formatVersion :: Base64.encode compressed, Text.isBlank c = false :=
    List.forall_mem_cons.mpr ⟨by decide, fun c mem => (payload_chars compressed c mem).2⟩
  have ascii : ∀ c ∈ Base64.encode compressed, c.toNat < 128 :=
    fun c mem => (payload_chars compressed c mem).1
  rw [decode, String.toList_append, String.toList_append, String.toList_ofList,
    Text.trim_surrounded blankBefore blankAfter (List.cons_ne_nil _ _) solid]
  simp only [ne_eq, not_true_eq_false, if_false, toList_toUTF8 ascii, Base64.decode_encode, holds,
    documentOfBytes, fromUTF8?_toList_toUTF8, Document.parse?_render legible shallow]

/-- Reading undoes writing: a legible document within the depth of the reader is read back from its
blueprint string, with any white space around it. -/
theorem decode_surrounded_encode {document : Document} (legible : document.Legible)
    (shallow : document.depth ≤ 127) {before after : String}
    (blankBefore : ∀ c ∈ before.toList, Text.isBlank c = true)
    (blankAfter : ∀ c ∈ after.toList, Text.isBlank c = true) :
    decode (before ++ encode document ++ after) = .ok document :=
  decode_payload legible shallow (Zlib.decode?_encode _) blankBefore blankAfter

/-- A document with both forms of numbers, escaped and other characters, and nested arrays and
objects. -/
def nestedSample : Document :=
  .object [
    ("list", .array [.integer (-5), .number 1.5, .text "\"\\\n\x01é", .bool true, .null]),
    ("more", .object [("empty", .array [])])]

theorem legible_nestedSample : nestedSample.Legible := by
  have spelled : Numeral.parse? (NumberLayout.document.render 1.5).toList =
    some ⟨false, [1], some [5], none⟩ := by decide +kernel
  have number : (Document.number 1.5).Legible :=
    legible_number spelled (by decide) (by decide +kernel)
  have integer : (Document.integer (-5)).Legible := ⟨by decide, by decide⟩
  have inner : Fields.Sorted [("empty", Document.array [])] := List.pairwise_singleton ..
  have outer : Fields.Sorted nestedSample.fields :=
    Fields.sorted_of_keys ["list", "more"] rfl (by decide)
  exact ⟨outer, ⟨integer, number, trivial, trivial, trivial, trivial⟩,
    ⟨inner, trivial, trivial⟩, trivial⟩

theorem decode_surrounded_encode_nestedSample :
    nestedSample.Legible ∧ nestedSample.depth ≤ 127 ∧
      decode (" \n" ++ encode nestedSample ++ "\t\u3000") = .ok nestedSample :=
  ⟨legible_nestedSample, by decide,
    decode_surrounded_encode legible_nestedSample (by decide) (List.all_eq_true.mp (by decide))
      (List.all_eq_true.mp (by decide))⟩

end FactoryBlueprint.BlueprintString
