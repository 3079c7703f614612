import TilingHeader.Number.Binary64
import TilingHeader.Text.Quoted

namespace TilingHeader.Toml

/-! The values of a TOML document, each with its place in the text.  A place is
known by what is left of the text from there. -/

structure Span where
  start : List Char
  stop : List Char

structure Located (α : Type) where
  span : Span
  content : α

inductive Value where
  | text (content : String)
  | integer (number : Int)
  | float (number : Binary64)
  | boolean (truth : Bool)
  /-- A date or a time; which one is not kept. -/
  | moment
  | sequence (items : List (Located Value))
  /-- A table as a value; what it holds is not kept. -/
  | table

/-- A part of a key, as it is meant and with its place. -/
structure Key where
  name : String
  span : Span

namespace Value

/-- What a message calls the value. -/
def description : Value → String
  | .text content => "string " ++ Text.quoted content
  | .integer number => "integer `" ++ toString number ++ "`"
  | .float number => "floating point `" ++ number.text ++ "`"
  | .boolean true => "boolean `true`"
  | .boolean false => "boolean `false`"
  | .moment => "map"
  | .sequence _ => "sequence"
  | .table => "map"

end Value

end TilingHeader.Toml
