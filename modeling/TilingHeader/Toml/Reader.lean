import TilingHeader.Toml.Table
import TilingHeader.Toml.Word

namespace TilingHeader.Toml

/-! Reading the keys, values and lines of a document.  A reader takes from the
front of a text and gives what is left; where it fails, the document has no
reading. -/

abbrev Reader (α : Type) := StateT (List Char) Option α

namespace Reader

def takeWhile (keep : Char → Bool) : Reader (List Char) := fun text =>
  some (text.takeWhile keep, text.dropWhile keep)

def spaces : Reader Unit := do
  let _ ← takeWhile isSpace

def character (wanted : Char) : Reader Unit
  | [] => none
  | next :: rest => if next = wanted then some ((), rest) else none

def ofFunction (read : List Char → Option (α × List Char)) : Reader α := read

def located (read : Reader α) : Reader (Located α) := do
  let start ← get
  let content ← read
  let stop ← get
  pure ⟨⟨start, stop⟩, content⟩

/-- As many times as there are characters left, and once more. -/
def withFuel (read : Nat → Reader α) : Reader α := fun text =>
  read (text.length + 1) text

def lineBreak : Reader Unit
  | '\n' :: rest => some ((), rest)
  | '\r' :: '\n' :: rest => some ((), rest)
  | _ => none

/-- A comment, if there is one, up to the end of its line. -/
def comment : Reader Unit
  | '#' :: rest => some ((), rest.dropWhile isVisible)
  | text => some ((), text)

/-- The end of a line or of the document. -/
def lineEnd : Reader Unit
  | [] => some ((), [])
  | text => lineBreak text

/-- Blanks, comments and line breaks. -/
def gapFrom : Nat → Reader Unit
  | 0 => pure ()
  | fuel + 1 => do
      spaces
      match ← get with
      | '#' :: _ =>
          comment
          lineBreak
          gapFrom fuel
      | '\n' :: _ =>
          lineBreak
          gapFrom fuel
      | '\r' :: _ =>
          lineBreak
          gapFrom fuel
      | _ => pure ()

def gap : Reader Unit :=
  withFuel gapFrom

/-! Keys. -/

def isBare (character : Char) : Bool :=
  character.isAlphanum || character == '_' || character == '-'

def bareName : Reader (List Char) := do
  let name ← takeWhile isBare
  if name = [] then failure else pure name

def keyPart : Reader Key := do
  let name ← located do
    match ← get with
    | '"' :: _ => ofFunction lineQuotation?
    | '\'' :: _ => ofFunction lineQuotation?
    | _ => bareName
  pure ⟨String.ofList name.content, name.span⟩

def keyFrom : Nat → Reader (List Key)
  | 0 => failure
  | fuel + 1 => do
      spaces
      let part ← keyPart
      spaces
      match ← get with
      | '.' :: _ =>
          character '.'
          let others ← keyFrom fuel
          pure (part :: others)
      | _ => pure [part]

/-- A key has fewer parts than this. -/
def keyLimit : Nat := 80

/-- The parts of a key, with blanks around each of them. -/
def key : Reader (List Key) := do
  let parts ← withFuel keyFrom
  if parts.length < keyLimit then pure parts else failure

/-! Values. -/

/-- Values between brackets; a comma may stand behind the last. -/
def itemsFrom (item : Reader α) : Nat → Reader (List α)
  | 0 => failure
  | fuel + 1 => do
      match ← get with
      | ']' :: _ =>
          character ']'
          pure []
      | _ =>
          let first ← item
          gap
          match ← get with
          | ',' :: _ =>
              character ','
              gap
              let others ← itemsFrom item fuel
              pure (first :: others)
          | _ =>
              character ']'
              pure [first]

def sequence (item : Reader (Located Value)) : Reader Value := do
  character '['
  gap
  let items ← withFuel (itemsFrom item)
  pure (.sequence items)

/-- A key with its value, as the parts before the last, the last, the value. -/
structure Assignment where
  outer : List Key
  key : Key
  value : Located Value

def assignment (value : Reader (Located Value)) : Reader Assignment := do
  let parts ← key
  character '='
  spaces
  let value ← value
  spaces
  match parts.getLast? with
  | some last => pure ⟨parts.dropLast, last, value⟩
  | none => failure

def fieldsFrom (value : Reader (Located Value)) (table : Node) :
    Nat → Reader Unit
  | 0 => failure
  | fuel + 1 => do
      let field ← assignment value
      match table.assign field.outer field.key field.value with
      | none => failure
      | some grown =>
          match ← get with
          | ',' :: _ =>
              character ','
              fieldsFrom value grown fuel
          | _ => character '\x7d'

/-- A table on one line; a comma may not stand behind its last field. -/
def inlineTable (value : Reader (Located Value)) : Reader Value := do
  character '\x7b'
  spaces
  match ← get with
  | '\x7d' :: _ => character '\x7d'
  | _ => withFuel (fieldsFrom value .top)
  pure .table

def startsWithDigit : List Char → Bool
  | character :: _ => character.isDigit
  | [] => false

/-- One word, or a date and a time with a blank between them. -/
def word : Reader Value := do
  let first ← takeWhile isWordPart
  match ← get with
  | ' ' :: rest =>
      if Word.isDate first ∧ startsWithDigit rest then
        character ' '
        let time ← takeWhile isWordPart
        if Word.isOffsetTime time then pure .moment else failure
      else liftM (Word.value? first)
  | _ => liftM (Word.value? first)

def simple : Reader Value := do
  match ← get with
  | '"' :: _ => return .text (String.ofList (← ofFunction quotation?))
  | '\'' :: _ => return .text (String.ofList (← ofFunction quotation?))
  | _ => word

/-- A value in which brackets stand within brackets at most so deep. -/
def valueWithin : Nat → Reader (Located Value)
  | 0 => located simple
  | depth + 1 => located do
      match ← get with
      | '[' :: _ => sequence (valueWithin depth)
      | '\x7b' :: _ => inlineTable (valueWithin depth)
      | _ => simple

def depthLimit : Nat := 79

def value : Reader (Located Value) :=
  valueWithin depthLimit

/-! Lines. -/

inductive Line where
  | blank
  | assign (field : Assignment)
  | table (name : List Key) (span : Span)
  | element (name : List Key) (span : Span)

def header : Reader Line := do
  let line ← located do
    character '['
    match ← get with
    | '[' :: _ =>
        character '['
        let name ← key
        character ']'
        character ']'
        pure (true, name)
    | _ =>
        let name ← key
        character ']'
        pure (false, name)
  let (isElement, name) := line.content
  pure (if isElement then .element name line.span else .table name line.span)

def line : Reader Line := do
  spaces
  let line ← match ← get with
    | [] => pure .blank
    | '\n' :: _ => pure .blank
    | '\r' :: _ => pure .blank
    | '#' :: _ => pure .blank
    | '[' :: _ => header
    | _ => pure (.assign (← assignment value))
  spaces
  comment
  lineEnd
  pure line

def linesFrom : Nat → Reader (List Line)
  | 0 => failure
  | fuel + 1 => do
      match ← get with
      | [] => pure []
      | _ =>
          let first ← line
          let others ← linesFrom fuel
          pure (first :: others)

end Reader

end TilingHeader.Toml
