/-!
# Texts from bytes
-/

namespace SqlKit.Text

def utf8? (bytes : List UInt8) : Option String := String.fromUTF8? ⟨bytes.toArray⟩

end SqlKit.Text
