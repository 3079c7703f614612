import TilingHeader.Toml.Reader

namespace TilingHeader.Toml

/-! A document as a list of keys with their values, in the order in which they
are first met. -/

structure Field where
  key : Key
  value : Located Value

abbrev Document := List Field

namespace Document

/-- What has been read of a document: its tables, and the keys of the one that
stands open. -/
structure Progress where
  top : Node
  current : List Key

def start : Progress := ⟨.top, []⟩

def split (name : List Key) : Option (List Key × Key) :=
  name.getLast?.map fun last => (name.dropLast, last)

def step (progress : Progress) : Reader.Line → Option Progress
  | .blank => some progress
  | .assign field => do
      let top ← progress.top.within .implied (fun table => do
        let grown ← table.assign field.outer field.key field.value
        some (grown.extend field.value)) progress.current
      some { progress with top }
  | .table name span => do
      let (outer, last) ← split name
      let top ← progress.top.within .implied (Node.openTable last span) outer
      some ⟨top, name⟩
  | .element name span => do
      let (outer, last) ← split name
      let top ← progress.top.within .implied (Node.openElement last span) outer
      some ⟨top, name⟩

def fields : Node → Document
  | .table _ _ fields =>
      fields.map fun (key, node) => ⟨key, node.toValue key⟩
  | _ => []

/-- A mark of the byte order may stand before all else. -/
def dropOrderMark : List Char → List Char
  | '\uFEFF' :: rest => rest
  | text => text

def read? (text : String) : Option Document := do
  let (lines, _) ←
    (Reader.withFuel Reader.linesFrom).run (dropOrderMark text.toList)
  let progress ← lines.foldlM step start
  some (fields progress.top)

end Document

end TilingHeader.Toml
