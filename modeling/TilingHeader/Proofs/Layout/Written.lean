import TilingHeader.Layout.Text
import TilingHeader.Proofs.Layout.Arrangement

namespace TilingHeader

/-! The text of a layout, line by line.  It depends on the events alone, and not
on the fragments that they fall into.  From a text that is written of unbroken
lines the lines are read back. -/

def written (lines : List String) : String :=
  String.join (lines.map fun line => line ++ "\n")

@[simp] theorem written_nil : written [] = "" := rfl

@[simp] theorem written_cons (line : String) (lines : List String) :
    written (line :: lines) = line ++ "\n" ++ written lines := by
  simp [written]

@[simp] theorem written_append (first second : List String) :
    written (first ++ second) = written first ++ written second := by
  simp [written]

namespace Text

/-- What stands between the line breaks.  Behind a last one stands an empty
line. -/
def lines (text : String) : List String :=
  (text.toList.splitOn '\n').map String.ofList

theorem lines_empty : lines "" = [""] := rfl

theorem lines_cons {line : String} (one_line : '\n' ∉ line.toList)
    (rest : String) : lines (line ++ "\n" ++ rest) = line :: lines rest := by
  have split : (line ++ "\n" ++ rest).toList =
      line.toList ++ '\n' :: rest.toList := by simp
  rw [lines, split, List.splitOn_append_cons_self,
    List.splitOn_eq_singleton one_line, List.map_append, List.map_singleton,
    String.ofList_toList]
  rfl

theorem lines_written_append {lines : List String}
    (one_line : ∀ line ∈ lines, '\n' ∉ line.toList) (rest : String) :
    Text.lines (written lines ++ rest) = lines ++ Text.lines rest := by
  induction lines with
  | nil => rw [written_nil, String.empty_append, List.nil_append]
  | cons line others induction =>
      obtain ⟨line_one, others_one⟩ := List.forall_mem_cons.mp one_line
      rw [written_cons, String.append_assoc, lines_cons line_one,
        induction others_one, List.cons_append]

theorem lines_written {lines : List String}
    (one_line : ∀ line ∈ lines, '\n' ∉ line.toList) :
    Text.lines (written lines) = lines ++ [""] := by
  have joined := lines_written_append one_line ""
  rwa [String.append_empty, lines_empty] at joined

end Text

namespace Member

def line : Member → String
  | .scalar type name => "    " ++ type ++ " " ++ name ++ " = 0;"
  | .array type length name =>
      "    " ++ type ++ " " ++ name ++ "[" ++ length ++ "] = \x7b\x7d;"
  | .nested type name => "    " ++ type ++ " " ++ name ++ ";"

/-- What stands behind the name of a member. -/
def ending : Member → List Char
  | .scalar _ _ => " = 0;".toList
  | .array _ length _ => '[' :: (length.toList ++ "] = \x7b\x7d;".toList)
  | .nested _ _ => [';']

theorem toList_line (member : Member) :
    member.line.toList = "    ".toList ++
      (member.type.toList ++ ' ' :: (member.name.toList ++ member.ending)) := by
  cases member <;> simp [line, type, name, ending]

theorem text_eq_line (member : Member) : member.text = member.line ++ "\n" := by
  cases member <;> simp [text, line, String.append_assoc]

end Member

namespace Event

/-- The lines that an event adds to a layout. -/
def lines (packAlignment : Nat) : Event → List String
  | .opening name =>
      ["#pragma pack(push, " ++ packAlignment.repr ++ ")",
        "struct " ++ name ++ " \x7b"]
  | .member declared => [declared.line]
  | .closing => ["\x7d;", "#pragma pack(pop)"]

end Event

namespace PackedStruct

def lines (body : PackedStruct) : List String :=
  ["#pragma pack(push, " ++ body.packAlignment.repr ++ ")",
      "struct " ++ body.name ++ " \x7b"] ++
    body.members.map Member.line ++ ["\x7d;", "#pragma pack(pop)"]

end PackedStruct

namespace Fragment

theorem written_members (packAlignment : Nat) (members : List Member) :
    written ((members.map Event.member).flatMap (Event.lines packAlignment)) =
      String.join (members.map Member.text) := by
  induction members with
  | nil => rfl
  | cons member rest induction =>
      rw [List.map_cons, List.flatMap_cons, written_append, induction]
      simp [Event.lines, Member.text_eq_line]

theorem written_opening (packAlignment : Nat) (name : String) :
    written ((Event.opening name).lines packAlignment) =
      openingText packAlignment name := by
  have packed_end : ")\n" = ")" ++ "\n" := by simp
  have struct_end : " \x7b\n" = " \x7b" ++ "\n" := by simp
  unfold openingText
  simp only [Event.lines, written_cons, written_nil, String.append_assoc,
    String.append_empty]
  rw [packed_end, struct_end, String.append_assoc]

theorem written_unclosed (body : PackedStruct) :
    written ((unclosed body).events.flatMap
        (Event.lines body.packAlignment)) =
      body.openText := by
  rw [events, List.flatMap_cons, written_append, written_members,
    written_opening]
  rfl

theorem written_closing (packAlignment : Nat) :
    written (Event.closing.lines packAlignment) = closingText := by
  simp only [Event.lines, written_cons, written_nil, closingText,
    String.reduceAppend]

theorem text_eq_written {packAlignment : Nat} {fragment : Fragment}
    (packed : fragment.Packed packAlignment) :
    fragment.text =
      written (fragment.events.flatMap (Event.lines packAlignment)) := by
  cases fragment with
  | whole body =>
      have packed_body : body.packAlignment = packAlignment := packed body rfl
      subst packed_body
      have split : (whole body).events = (unclosed body).events ++ [.closing] :=
        rfl
      rw [split, List.flatMap_append, written_append, written_unclosed,
        List.flatMap_singleton, written_closing]
      rfl
  | unclosed body =>
      have packed_body : body.packAlignment = packAlignment := packed body rfl
      subst packed_body
      rw [written_unclosed]
      rfl
  | loose member =>
      simp [text, events, Event.lines, Member.text_eq_line]
  | strayClosing =>
      rw [events, List.flatMap_singleton, written_closing]
      rfl

theorem whole_lines (body : PackedStruct) :
    (whole body).events.flatMap (Event.lines body.packAlignment) =
      body.lines := by
  have member_lines :
      (body.members.map Event.member).flatMap
          (Event.lines body.packAlignment) =
        body.members.map Member.line := by
    rw [List.flatMap_map]
    exact List.map_eq_flatMap.symm
  rw [events, List.cons_append, List.flatMap_cons, List.flatMap_append,
    member_lines]
  rfl

theorem layoutText_eq_written {packAlignment : Nat}
    {fragments : List Fragment}
    (packed : ∀ fragment ∈ fragments, fragment.Packed packAlignment) :
    layoutText fragments =
      written
        ((fragments.flatMap events).flatMap (Event.lines packAlignment)) := by
  induction fragments with
  | nil => rfl
  | cons fragment rest induction =>
      obtain ⟨fragment_packed, rest_packed⟩ := List.forall_mem_cons.mp packed
      rw [layoutText_cons, text_eq_written fragment_packed,
        induction rest_packed, List.flatMap_cons, List.flatMap_append,
        written_append]

theorem layoutText_map_whole (structs : List PackedStruct) :
    layoutText (structs.map whole) =
      written (structs.flatMap PackedStruct.lines) := by
  induction structs with
  | nil => rfl
  | cons body rest induction =>
      have packed : (whole body).Packed body.packAlignment := by
        rintro _ ⟨rfl⟩
        rfl
      rw [List.map_cons, layoutText_cons, text_eq_written packed, whole_lines,
        induction, List.flatMap_cons, written_append]

theorem layoutText_arrange (packAlignment : Nat) (steps : List Event) :
    layoutText (arrange packAlignment none steps) =
      written (steps.flatMap (Event.lines packAlignment)) := by
  rw [layoutText_eq_written (packed_arrange (by simp) steps), events_arrange,
    pending_none, List.nil_append]

end Fragment

end TilingHeader
