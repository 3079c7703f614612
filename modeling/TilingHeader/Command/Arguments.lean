namespace TilingHeader.Command

/-! The words of a command: two paths, options among them, and what follows
them, which is ignored. -/

structure Arguments where
  source : String
  destination : String
  config : Option String := none
  lenient : Bool := false
  /-- The words after the two paths, from the first that is no option. -/
  extras : List String := []
  deriving DecidableEq, Repr

inductive Request where
  | help
  | run (arguments : Arguments)
  deriving DecidableEq, Repr

/-- Why the words are no command. -/
inductive Refusal where
  | unknownOption (word : String)
  | repeated (option : String)
  | missingValue (option : String)
  | unexpectedValue (option : String)
  | emptyValue (role : String)
  | missingPath (role : String)
  deriving DecidableEq, Repr

def Refusal.message : Refusal → String
  | .unknownOption word => "unknown option " ++ word
  | .repeated option => option ++ " is given twice"
  | .missingValue option => option ++ " needs a value"
  | .unexpectedValue option => option ++ " takes no value"
  | .emptyValue role => role ++ " must not be empty"
  | .missingPath role => role ++ " is missing"

inductive Word where
  /-- Two hyphens: no option follows. -/
  | separator
  | long (name : String) (value : Option String)
  | short (letters : List Char)
  | plain
  deriving DecidableEq, Repr

def Word.ofText (text : String) : Word :=
  match text.toList with
  | ['-', '-'] => .separator
  | '-' :: '-' :: body =>
      let name := String.ofList (body.takeWhile (· ≠ '='))
      match body.dropWhile (· ≠ '=') with
      | [] => .long name none
      | _ :: value => .long name (some (String.ofList value))
  | '-' :: letter :: letters => .short (letter :: letters)
  | _ => .plain

/-- What the words read so far have said. -/
structure Gathered where
  source : Option String := none
  destination : Option String := none
  config : Option String := none
  /-- The next word is the path of the settings. -/
  awaiting : Bool := false
  lenient : Bool := false
  deriving DecidableEq, Repr

/-- What a word makes of those before it. -/
inductive Advance where
  | next (gathered : Gathered)
  | help
  | literal
  | extras
  deriving DecidableEq, Repr

namespace Gathered

abbrev Reply := Except Refusal

/-- Both paths are there, so that a word that is no option is an extra. -/
def isComplete (gathered : Gathered) : Bool :=
  gathered.destination.isSome

/-- No option stands where a value is awaited. -/
def expectOption (gathered : Gathered) : Reply Unit :=
  if gathered.awaiting then .error (.missingValue "--config") else .ok ()

def setConfig (gathered : Gathered) (path : String) : Reply Gathered :=
  if path = "" then .error (.emptyValue "--config")
  else .ok { gathered with config := some path, awaiting := false }

def startConfig (gathered : Gathered) (value : Option String) :
    Reply Gathered := do
  gathered.expectOption
  if gathered.config.isSome then .error (.repeated "--config")
  else
    match value with
    | none => .ok { gathered with awaiting := true }
    | some path => gathered.setConfig path

def setLenient (gathered : Gathered) (value : Option String) :
    Reply Gathered := do
  gathered.expectOption
  if value.isSome then .error (.unexpectedValue "--lenient")
  else if gathered.lenient then .error (.repeated "--lenient")
  else .ok { gathered with lenient := true }

def askHelp (gathered : Gathered) (value : Option String) : Reply Advance := do
  gathered.expectOption
  if value.isSome then .error (.unexpectedValue "--help") else .ok .help

/-- Takes a path; there is no room for a third. -/
def place? (gathered : Gathered) (text : String) : Option (Reply Gathered) :=
  match gathered.source, gathered.destination with
  | none, _ => some <|
      if text = "" then .error (.emptyValue "the source root")
      else .ok { gathered with source := some text }
  | some _, none => some <|
      if text = "" then .error (.emptyValue "the destination")
      else .ok { gathered with destination := some text }
  | some _, some _ => none

def takePlain (gathered : Gathered) (text : String) : Reply Advance :=
  if gathered.awaiting then .next <$> gathered.setConfig text
  else
    match gathered.place? text with
    | some placed => .next <$> placed
    | none => .ok .extras

/-- A word that looks like an option and is none: after the paths it stands for
itself. -/
def takeUnknown (gathered : Gathered) (text : String) : Reply Advance :=
  if gathered.isComplete then gathered.takePlain text
  else .error (.unknownOption text)

def isLetter (letter : Char) : Bool :=
  letter == 'c' || letter == 'h'

def takeShort (gathered : Gathered) (text : String) : List Char → Reply Advance
  | 'h' :: _ => gathered.askHelp none
  | ['c'] => .next <$> gathered.startConfig none
  | 'c' :: '=' :: value =>
      .next <$> gathered.startConfig (some (String.ofList value))
  | 'c' :: value => .next <$> gathered.startConfig (some (String.ofList value))
  | _ => gathered.takeUnknown text

def take (gathered : Gathered) (text : String) : Reply Advance :=
  match Word.ofText text with
  | .separator => .ok .literal
  | .long "config" value => .next <$> gathered.startConfig value
  | .long "lenient" value => .next <$> gathered.setLenient value
  | .long "help" value => gathered.askHelp value
  | .long _ _ => gathered.takeUnknown text
  | .short letters =>
      if gathered.isComplete ∧ ¬letters.all isLetter then
        gathered.takePlain text
      else gathered.takeShort text letters
  | .plain => gathered.takePlain text

def finish (gathered : Gathered) (extras : List String) : Reply Request := do
  gathered.expectOption
  match gathered.source, gathered.destination with
  | none, _ => .error (.missingPath "the source root")
  | _, none => .error (.missingPath "the destination")
  | some source, some destination =>
      .ok (.run ⟨source, destination, gathered.config, gathered.lenient,
        extras⟩)

/-- Reads words that are all taken as they stand. -/
def readLiteral (gathered : Gathered) : List String → Reply Request
  | [] => gathered.finish []
  | text :: rest =>
      match gathered.place? text with
      | none => gathered.finish (text :: rest)
      | some (.error refusal) => .error refusal
      | some (.ok placed) => placed.readLiteral rest

def read (gathered : Gathered) : List String → Reply Request
  | [] => gathered.finish []
  | text :: rest =>
      match gathered.take text with
      | .error refusal => .error refusal
      | .ok .help => .ok .help
      | .ok .literal => gathered.readLiteral rest
      | .ok .extras => gathered.finish (text :: rest)
      | .ok (.next after) => after.read rest

end Gathered

def Request.read (words : List String) : Except Refusal Request :=
  Gathered.read {} words

/-- What is to be carried out, if the words are a command and ask for more than
help. -/
def Request.arguments? (words : List String) : Option Arguments :=
  match Request.read words with
  | .ok (.run arguments) => some arguments
  | _ => none

def help : String :=
  "Generates packed structs from the tiling descriptions below a directory.\n" ++
    "\n" ++
    "Usage: [OPTIONS] <source-root> <destination>\n" ++
    "\n" ++
    "Options:\n" ++
    "  -c, --config <file>  TOML file that overrides the defaults\n" ++
    "      --lenient        write broken nesting as it stands\n" ++
    "  -h, --help           show this text\n"

end TilingHeader.Command
