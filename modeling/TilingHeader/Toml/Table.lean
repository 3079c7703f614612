import TilingHeader.Toml.Value

namespace TilingHeader.Toml

/-! The tables of a document while it is read.  A key may be given once; a table
may be opened by one header, or be the common part of dotted keys, or stand
above tables that have headers, and only the last of these may get a header
later on. -/

inductive TableForm where
  /-- It has a header of its own, or it is the top. -/
  | headed
  /-- It stands above tables with headers. -/
  | implied
  /-- It is the common part of dotted keys. -/
  | dotted
  deriving DecidableEq, Repr

inductive Node where
  | leaf (value : Located Value)
  | table (form : TableForm) (span : Option Span) (fields : List (Key × Node))
  /-- Tables under one key, each with a header in double brackets. -/
  | series (tables : List Node)

abbrev Fields := List (Key × Node)

namespace Fields

def get? (name : String) : Fields → Option Node
  | [] => none
  | (key, node) :: rest =>
      if key.name = name then some node else get? name rest

def has (name : String) (fields : Fields) : Bool :=
  (get? name fields).isSome

def replace (name : String) (new : Node) : Fields → Fields
  | [] => []
  | (key, node) :: rest =>
      if key.name = name then (key, new) :: rest
      else (key, node) :: replace name new rest

def without (name : String) (fields : Fields) : Fields :=
  fields.filter fun field => field.1.name ≠ name

end Fields

namespace Node

def top : Node := .table .headed none []

/-- Changes the table that the keys lead to.  What is missing on the way is
made, in the form `made`; dotted keys do not go into tables with headers. -/
def within (made : TableForm) (change : Node → Option Node) :
    List Key → Node → Option Node
  | [], node => change node
  | key :: rest, .table form span fields =>
      match Fields.get? key.name fields with
      | none => do
          let child ← within made change rest (Node.table made none [])
          some (.table form span (fields ++ [(key, child)]))
      | some (.leaf _) => none
      | some (.series tables) =>
          match tables.getLast? with
          | none => none
          | some last => do
              let last ← within made change rest last
              some (.table form span
                (Fields.replace key.name (.series (tables.dropLast ++ [last])) fields))
      | some (.table childForm childSpan childFields) =>
          if made = .dotted ∧ childForm = .headed then none
          else do
            let child ←
              within made change rest (.table childForm childSpan childFields)
            some (.table form span (Fields.replace key.name child fields))
  | _ :: _, _ => none

/-- Gives a key its value in the table that stands open; `outer` are the parts
of the key before the last. -/
def assign (outer : List Key) (key : Key) (value : Located Value) :
    Node → Option Node :=
  within .dotted (fun node =>
    match node with
    | .table form span fields =>
        if (form = .dotted) = (outer = []) ∨ Fields.has key.name fields then none
        else some (.table form span (fields ++ [(key, .leaf value)]))
    | _ => none) outer

/-- The span of a table with a header reaches to its last value. -/
def extend (value : Located Value) : Node → Node
  | .table form (some span) fields =>
      .table form (some ⟨span.start, value.span.stop⟩) fields
  | node => node

def openTable (key : Key) (span : Span) : Node → Option Node
  | .table form outerSpan fields =>
      match Fields.get? key.name fields with
      | none =>
          some (.table form outerSpan
            (fields ++ [(key, .table .headed (some span) [])]))
      | some (.table .implied _ inner) =>
          some (.table form outerSpan
            (Fields.without key.name fields ++
              [(key, .table .headed (some span) inner)]))
      | some _ => none
  | _ => none

def openElement (key : Key) (span : Span) : Node → Option Node
  | .table form outerSpan fields =>
      let element := Node.table .headed (some span) []
      match Fields.get? key.name fields with
      | none =>
          some (.table form outerSpan (fields ++ [(key, .series [element])]))
      | some (.series tables) =>
          some (.table form outerSpan
            (Fields.replace key.name (.series (tables ++ [element])) fields))
      | some _ => none
  | _ => none

def span? : Node → Option Span
  | .leaf value => some value.span
  | .table _ span _ => span
  | .series _ => none

/-- A node as a value.  What has no place of its own gets that of its key. -/
def toValue (key : Key) : Node → Located Value
  | .leaf value => value
  | .table _ span _ => ⟨span.getD key.span, .table⟩
  | .series tables =>
      let items := tables.map fun table =>
        (⟨table.span?.getD key.span, .table⟩ : Located Value)
      match items.head?, items.getLast? with
      | some first, some last =>
          ⟨⟨first.span.start, last.span.stop⟩, .sequence items⟩
      | _, _ => ⟨key.span, .sequence items⟩

end Node

end TilingHeader.Toml
