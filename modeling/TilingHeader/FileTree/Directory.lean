import TilingHeader.FileTree.Content

namespace TilingHeader.FileTree

/-! What a directory holds: named files, symbolic links and directories.  An
entry is found by the names that lead to it from the top. -/

inductive Directory where
  | empty
  | file (name : String) (content : Content) (others : Directory)
  | link (name target : String) (others : Directory)
  | folder (name : String) (inside others : Directory)
  deriving DecidableEq

inductive Entry where
  | file (content : Content)
  | link (target : String)
  | folder (inside : Directory)
  deriving DecidableEq

/-- The names that lead from the top to an entry. -/
abbrev Location := List String

namespace Directory

def cons (name : String) : Entry → Directory → Directory
  | .file content, others => .file name content others
  | .link target, others => .link name target others
  | .folder inside, others => .folder name inside others

def find? (wanted : String) : Directory → Option Entry
  | .empty => none
  | .file name content others =>
      if name = wanted then some (.file content) else others.find? wanted
  | .link name target others =>
      if name = wanted then some (.link target) else others.find? wanted
  | .folder name inside others =>
      if name = wanted then some (.folder inside) else others.find? wanted

/-- Replaces the entry of that name, or adds one after all others. -/
def put (wanted : String) (entry : Entry) : Directory → Directory
  | .empty => cons wanted entry .empty
  | .file name content others =>
      if name = wanted then cons wanted entry others
      else .file name content (others.put wanted entry)
  | .link name target others =>
      if name = wanted then cons wanted entry others
      else .link name target (others.put wanted entry)
  | .folder name inside others =>
      if name = wanted then cons wanted entry others
      else .folder name inside (others.put wanted entry)

def erase (wanted : String) : Directory → Directory
  | .empty => .empty
  | .file name content others =>
      if name = wanted then others
      else .file name content (others.erase wanted)
  | .link name target others =>
      if name = wanted then others
      else .link name target (others.erase wanted)
  | .folder name inside others =>
      if name = wanted then others
      else .folder name inside (others.erase wanted)

@[simp] theorem find?_cons (name wanted : String) (entry : Entry)
    (others : Directory) :
    (cons name entry others).find? wanted =
      if name = wanted then some entry else others.find? wanted := by
  cases entry <;> rfl

theorem find?_put_self (name : String) (entry : Entry) (directory : Directory) :
    (directory.put name entry).find? name = some entry := by
  induction directory with
  | empty => simp [put]
  | file other content others ih =>
      by_cases same : other = name <;> simp [put, same, find?, ih]
  | link other target others ih =>
      by_cases same : other = name <;> simp [put, same, find?, ih]
  | folder other inside others _ ih =>
      by_cases same : other = name <;> simp [put, same, find?, ih]

theorem find?_put_of_ne {name other : String} (distinct : name ≠ other)
    (entry : Entry) (directory : Directory) :
    (directory.put name entry).find? other = directory.find? other := by
  induction directory with
  | empty => simp [put, distinct, find?]
  | file next content others ih =>
      by_cases same : next = name
      · simp [put, same, distinct, find?]
      · simp [put, same, find?, ih]
  | link next target others ih =>
      by_cases same : next = name
      · simp [put, same, distinct, find?]
      · simp [put, same, find?, ih]
  | folder next inside others _ ih =>
      by_cases same : next = name
      · simp [put, same, distinct, find?]
      · simp [put, same, find?, ih]

end Directory

namespace Entry

def isFile : Entry → Bool
  | .file _ => true
  | _ => false

def isFolder : Entry → Bool
  | .folder _ => true
  | _ => false

def at? : Entry → Location → Option Entry
  | entry, [] => some entry
  | .folder inside, name :: rest =>
      (inside.find? name).bind fun entry => entry.at? rest
  | _, _ :: _ => none

/-- Puts `new` at the location.  Nothing changes where the way to it leads
through something that is not a directory. -/
def putAt : Entry → Location → Entry → Entry
  | _, [], new => new
  | .folder inside, name :: rest, new =>
      let old := (inside.find? name).getD (.folder .empty)
      .folder (inside.put name (old.putAt rest new))
  | entry, _ :: _, _ => entry

def eraseAt : Entry → Location → Entry
  | .folder inside, [name] => .folder (inside.erase name)
  | .folder inside, name :: rest =>
      match inside.find? name with
      | some old => .folder (inside.put name (old.eraseAt rest))
      | none => .folder inside
  | entry, _ => entry

@[simp] theorem at?_nil (entry : Entry) : entry.at? [] = some entry := by
  cases entry <;> rfl

@[simp] theorem at?_folder_cons (inside : Directory) (name : String)
    (rest : Location) :
    (Entry.folder inside).at? (name :: rest) =
      (inside.find? name).bind fun entry => entry.at? rest := rfl

theorem at?_append (entry : Entry) (first second : Location) :
    entry.at? (first ++ second) =
      (entry.at? first).bind fun middle => middle.at? second := by
  induction first generalizing entry with
  | nil => simp
  | cons name rest ih =>
      cases entry with
      | file content => rfl
      | link target => rfl
      | folder inside =>
          simp only [List.cons_append, at?_folder_cons]
          cases inside.find? name with
          | none => rfl
          | some next => simpa using ih next

end Entry

end TilingHeader.FileTree
