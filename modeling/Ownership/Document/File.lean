import Ownership.Document.Records
import Ownership.Failure
import Ownership.Json.Reader
import Ownership.Text.Lines
import Ownership.Text.Utf8

/-!
# Document files

A file holds a text in UTF-8.  Whatever ends its lines, the text that comes out of it has line
feeds.  A document file holds one JSON value.
-/

namespace Ownership
namespace Document

def fileText (content : List UInt8) : Except Failure String :=
  match Text.Utf8.decode content with
  | .ok text => .ok (String.ofList (Text.unifyLineEnds text.toList))
  | .error _ => .error .malformedText

def parse (reader : Reader α) (text : String) : Except Failure α :=
  match Json.read? text with
  | none => .error .malformedJson
  | some json => (reader json).result.mapError .document

def parseFile (reader : Reader α) (content : List UInt8) : Except Failure α := do
  parse reader (← fileText content)

end Document
end Ownership
