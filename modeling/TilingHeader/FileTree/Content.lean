namespace TilingHeader.FileTree

/-! What a file holds: bytes, which may be the encoding of a text. -/

abbrev Content := List UInt8

namespace Content

def ofBytes (bytes : ByteArray) : Content :=
  bytes.data.toList

def ofText (text : String) : Content :=
  ofBytes text.toUTF8

def toBytes (content : Content) : ByteArray :=
  ⟨content.toArray⟩

/-- The text that the bytes encode, if they encode one. -/
def text? (content : Content) : Option String :=
  String.fromUTF8? content.toBytes

@[simp] theorem toBytes_ofBytes (bytes : ByteArray) :
    (ofBytes bytes).toBytes = bytes := by
  simp [ofBytes, toBytes]

@[simp] theorem text?_ofText (text : String) :
    (ofText text).text? = some text := by
  have valid := text.isValidUTF8
  simp [text?, ofText, String.fromUTF8?, valid, String.fromUTF8]

end Content

end TilingHeader.FileTree
