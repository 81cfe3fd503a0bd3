import HeaderBindings.Header.Source
import HeaderBindings.Text.Lines
import HeaderBindings.Text.Utf8

/-!
# Reading headers

The bytes of a header are read as UTF-8 and its line ends are unified; the result is normalized.
-/
namespace HeaderBindings.Header

/-- The characters of a header before it is normalized. -/
def decode (bytes : Text.Bytes) : Text := Text.unifyLineEnds (Text.Utf8.decodeReplacing bytes)

def ofBytes (bytes : Text.Bytes) : Text := normalize (decode bytes)

end HeaderBindings.Header
