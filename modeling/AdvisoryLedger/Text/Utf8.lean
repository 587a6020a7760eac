/-!
# Text as bytes

Bodies of responses and percent-encoded texts are bytes, and `utf8` and `ofUtf8?` lead
from text to bytes and back. Every text has bytes; only some bytes have a text, and
`ofUtf8?_utf8` says that those of a text lead back to it.
-/

namespace AdvisoryLedger
namespace Text

def utf8 (s : String) : List UInt8 := s.toUTF8.data.toList

/-- The text with the given UTF-8 bytes, where there is one. -/
def ofUtf8? (bytes : List UInt8) : Option String := String.fromUTF8? ⟨bytes.toArray⟩

theorem ofUtf8?_utf8 (s : String) : ofUtf8? (utf8 s) = some s := by
  simp [ofUtf8?, utf8, String.fromUTF8?, String.fromUTF8, s.isValidUTF8]

end Text
end AdvisoryLedger
