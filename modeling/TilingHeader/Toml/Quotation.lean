namespace TilingHeader.Toml

/-! Texts in quotes.  Double quotes allow escapes, single ones take everything as
it stands.  Three quotes open a text of several lines, which may end in up to
two quotes of its own. -/

def isSpace (character : Char) : Bool :=
  character == ' ' || character == '\t'

/-- What may stand in a text or a comment: all but the ASCII controls, and the
tab of those. -/
def isVisible (character : Char) : Bool :=
  character == '\t' || (0x20 ≤ character.toNat && character.toNat != 0x7F)

def hexDigit? (character : Char) : Option Nat :=
  if character.isDigit then some (character.toNat - '0'.toNat)
  else if 'a' ≤ character ∧ character ≤ 'f' then
    some (character.toNat - 'a'.toNat + 10)
  else if 'A' ≤ character ∧ character ≤ 'F' then
    some (character.toNat - 'A'.toNat + 10)
  else none

def escaped? : Char → Option Char
  | 'b' => some '\x08'
  | 't' => some '\t'
  | 'n' => some '\n'
  | 'f' => some '\x0c'
  | 'r' => some '\r'
  | '"' => some '"'
  | '\\' => some '\\'
  | _ => none

def character? (code : Nat) : Option Char :=
  if code.isValidChar then some (Char.ofNat code) else none

/-- A text that has been read, and what is left behind it. -/
abbrev Quotation := List Char × List Char

def prepend (characters : List Char) (read : Option Quotation) :
    Option Quotation :=
  read.map fun (content, rest) => (characters ++ content, rest)

/-- Where the reading of a text in double quotes stands. -/
inductive Phase where
  /-- Among its characters, behind so many quotes that may be its end or its
  own; `joining` if line breaks and blanks are being passed over. -/
  | within (quotes : Nat) (joining : Bool)
  | escape
  /-- A character code of which so many digits are missing. -/
  | code (missing value : Nat)
  /-- Behind a backslash and blanks that have to end in a line break. -/
  | broken
  deriving DecidableEq, Repr

def longestEnd : Nat := 5

/-- What is left of a text in double quotes, after the opening. -/
def escapedText (multiline : Bool) : Phase → List Char → Option Quotation
  | .within quotes _, [] =>
      if 3 ≤ quotes then some (List.replicate (quotes - 3) '"', []) else none
  | _, [] => none
  | .within quotes joining, character :: rest =>
      if character = '"' ∧ multiline ∧ quotes < longestEnd then
        escapedText multiline (.within (quotes + 1) false) rest
      else if 3 ≤ quotes then
        some (List.replicate (quotes - 3) '"', character :: rest)
      else
        prepend (List.replicate quotes '"') <|
          if character = '"' then some ([], rest)
          else if character = '\\' then escapedText multiline .escape rest
          else if character = '\r' then
            if multiline ∧ rest.head? = some '\n' then
              escapedText multiline (.within 0 joining) rest
            else none
          else if joining ∧ (isSpace character ∨ character = '\n') then
            escapedText multiline (.within 0 true) rest
          else if isVisible character ∨ (multiline ∧ character = '\n') then
            prepend [character] (escapedText multiline (.within 0 false) rest)
          else none
  | .escape, character :: rest =>
      match escaped? character with
      | some meant =>
          prepend [meant] (escapedText multiline (.within 0 false) rest)
      | none =>
          if character = 'u' then escapedText multiline (.code 4 0) rest
          else if character = 'U' then escapedText multiline (.code 8 0) rest
          else if multiline ∧ character = '\n' then
            escapedText multiline (.within 0 true) rest
          else if multiline ∧ (isSpace character ∨
              (character = '\r' ∧ rest.head? = some '\n')) then
            escapedText multiline .broken rest
          else none
  | .code missing value, character :: rest =>
      match hexDigit? character with
      | none => none
      | some digit =>
          if missing ≤ 1 then
            match character? (value * 16 + digit) with
            | some meant =>
                prepend [meant] (escapedText multiline (.within 0 false) rest)
            | none => none
          else
            escapedText multiline (.code (missing - 1) (value * 16 + digit)) rest
  | .broken, character :: rest =>
      if character = '\n' then escapedText multiline (.within 0 true) rest
      else if isSpace character ∨
          (character = '\r' ∧ rest.head? = some '\n') then
        escapedText multiline .broken rest
      else none

/-- What is left of a text in single quotes, after the opening and so many
quotes that may be its end or its own. -/
def literalText (multiline : Bool) : Nat → List Char → Option Quotation
  | quotes, [] =>
      if 3 ≤ quotes then some (List.replicate (quotes - 3) '\'', []) else none
  | quotes, character :: rest =>
      if character = '\'' ∧ multiline ∧ quotes < longestEnd then
        literalText multiline (quotes + 1) rest
      else if 3 ≤ quotes then
        some (List.replicate (quotes - 3) '\'', character :: rest)
      else
        prepend (List.replicate quotes '\'') <|
          if character = '\'' then some ([], rest)
          else if character = '\r' then
            if multiline ∧ rest.head? = some '\n' then
              literalText multiline 0 rest
            else none
          else if isVisible character ∨ (multiline ∧ character = '\n') then
            prepend [character] (literalText multiline 0 rest)
          else none

/-- A line break right behind the opening of several lines does not count. -/
def dropBreak : List Char → List Char
  | '\n' :: rest => rest
  | '\r' :: '\n' :: rest => rest
  | text => text

/-- A text of one line, from its opening quote. -/
def lineQuotation? : List Char → Option Quotation
  | '"' :: rest => escapedText false (.within 0 false) rest
  | '\'' :: rest => literalText false 0 rest
  | _ => none

/-- A text of one line or several, from its opening quotes. -/
def quotation? : List Char → Option Quotation
  | '"' :: '"' :: '"' :: rest =>
      escapedText true (.within 0 false) (dropBreak rest)
  | '\'' :: '\'' :: '\'' :: rest => literalText true 0 (dropBreak rest)
  | text => lineQuotation? text

end TilingHeader.Toml
