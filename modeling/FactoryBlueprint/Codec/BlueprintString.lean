import FactoryBlueprint.Codec.Base64
import FactoryBlueprint.Codec.Zlib
import FactoryBlueprint.Document.Parser
import FactoryBlueprint.Document.Printer
import FactoryBlueprint.Text.Blank

/-! # Blueprint strings

A blueprint string is a version character followed by the base64 text of the compressed document.
White space around it does not count.
-/

namespace FactoryBlueprint

/-- Why a text is no blueprint string. -/
inductive StringFault where
  | empty
  | unsupportedVersion (version : Char)
  | base64 (fault : Base64.Fault)
  /-- The bytes are no complete compressed stream. -/
  | compression
  /-- The uncompressed bytes are no document. -/
  | document
  deriving DecidableEq

/-- What the fault says of itself. Compression and document faults have no further words. -/
def StringFault.message : StringFault → String
  | empty => "blueprint string is empty"
  | unsupportedVersion version => s!"unsupported blueprint string version '{version}'"
  | base64 fault => "invalid base64: " ++ fault.message
  | compression => "invalid zlib stream"
  | document => "invalid JSON"

namespace BlueprintString

/-- The version character in use. -/
def formatVersion : Char := '0'

/-- The document that bytes spell. -/
def documentOfBytes (bytes : List UInt8) : Except StringFault Document :=
  match String.fromUTF8? ⟨bytes.toArray⟩ with
  | none => .error .document
  | some text =>
    match Document.parse? text with
    | none => .error .document
    | some document => .ok document

/-- The document in a blueprint string. -/
def decode (s : String) : Except StringFault Document :=
  match Text.trim s.toList with
  | [] => .error .empty
  | version :: payload =>
    if version ≠ formatVersion then .error (.unsupportedVersion version)
    else
      match Base64.decode (String.ofList payload).toUTF8.toList with
      | .error fault => .error (.base64 fault)
      | .ok compressed =>
        match Zlib.decode? compressed with
        | none => .error .compression
        | some bytes => documentOfBytes bytes

/-- The blueprint string of a document. -/
def encode (document : Document) : String :=
  String.ofList
    (formatVersion :: Base64.encode (Zlib.encode document.render.toUTF8.toList))

end BlueprintString
end FactoryBlueprint
