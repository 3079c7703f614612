import TilingHeader.Layout.Basic

namespace TilingHeader

/-! The text of packed structs in a header.  A struct stands between a line that
sets the packing and a line that restores it, with one line to a member. -/

namespace Member

def text : Member → String
  | .scalar type name => "    " ++ type ++ " " ++ name ++ " = 0;\n"
  | .array type length name =>
      "    " ++ type ++ " " ++ name ++ "[" ++ length ++ "] = \x7b\x7d;\n"
  | .nested type name => "    " ++ type ++ " " ++ name ++ ";\n"

end Member

def openingText (packAlignment : Nat) (name : String) : String :=
  "#pragma pack(push, " ++ packAlignment.repr ++ ")\n" ++
    "struct " ++ name ++ " \x7b\n"

def closingText : String :=
  "\x7d;\n#pragma pack(pop)\n"

namespace PackedStruct

def openText (body : PackedStruct) : String :=
  openingText body.packAlignment body.name ++
    String.join (body.members.map Member.text)

def text (body : PackedStruct) : String :=
  body.openText ++ closingText

end PackedStruct

namespace Fragment

def text : Fragment → String
  | .whole body => body.text
  | .unclosed body => body.openText
  | .loose member => member.text
  | .strayClosing => closingText

end Fragment

def layoutText (fragments : List Fragment) : String :=
  String.join (fragments.map Fragment.text)

@[simp] theorem layoutText_nil : layoutText [] = "" := rfl

@[simp] theorem layoutText_cons (fragment : Fragment)
    (fragments : List Fragment) :
    layoutText (fragment :: fragments) =
      fragment.text ++ layoutText fragments := by
  simp [layoutText]

@[simp] theorem layoutText_append (first second : List Fragment) :
    layoutText (first ++ second) = layoutText first ++ layoutText second := by
  simp [layoutText]

end TilingHeader
