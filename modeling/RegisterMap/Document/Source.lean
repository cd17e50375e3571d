import RegisterMap.Document.Reading
import RegisterMap.Text.Lines
import RegisterMap.Text.Utf8

/-!
Reading a description from the content of a file.
-/

set_option autoImplicit false

namespace RegisterMap.Document

def linesOfBytes (content : List UInt8) : List String := Text.lines (Text.decodeUtf8 content)

def readBytes (o : Settings) (content : List UInt8) : Reading := read o (linesOfBytes content)

end RegisterMap.Document
