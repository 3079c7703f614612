import TilingHeader.Command.Arguments
import TilingHeader.Generation

namespace TilingHeader.Command

/-! The files of the machine that a command looks at, taken over into a tree
before it runs.  A link is taken over as a link to where it leads in the end. -/

open FileTree

def namesOf (path : String) : Location :=
  ((path.toList.splitOn '/').filter (· ≠ [])).map String.ofList

def absolutePath (location : Location) : String :=
  String.join (location.map fun name => "/" ++ name)

def kindOf (entry : IO.FS.DirEntry) : IO (Option IO.FS.FileType) := do
  match ← entry.path.symlinkMetadata.toBaseIO with
  | .ok found => return some found.type
  | .error _ => return none

/-- Takes over one entry.  A file is read only if it is wanted.  Gives where the
entry leads, if it leads anywhere. -/
def takeEntry (wanted : Bool) (files : FileSystem) (parent : Location)
    (name : String) : IO (FileSystem × Option Location) := do
  let entry : IO.FS.DirEntry := ⟨absolutePath parent, name⟩
  let takeKind (files : FileSystem) (location : Location)
      (kind : IO.FS.FileType) : IO FileSystem := do
    match kind with
    | .dir =>
        if (files.at? location).isSome then return files
        else return files.putAt location (.folder .empty)
    | .file =>
        let content : Content ←
          if wanted then
            .ofBytes <$> IO.FS.readBinFile (absolutePath location)
          else pure []
        return files.putAt location (.file content)
    | _ => return files
  match ← kindOf entry with
  | none => return (files, none)
  | some .symlink =>
      match ← (IO.FS.realPath entry.path).toBaseIO with
      | .error _ => return (files, none)
      | .ok real =>
          let target := namesOf real.toString
          let linked :=
            files.putAt (parent ++ [name]) (.link (absolutePath target))
          let kind := (← real.metadata).type
          return (← takeKind linked target kind, some target)
  | some kind =>
      return (← takeKind files (parent ++ [name]) kind,
        some (parent ++ [name]))

/-- Takes over what the steps of a path pass through. -/
def takeSteps (wanted : Bool) (files : FileSystem) (here : Location) :
    List Step → IO (FileSystem × Option Location)
  | [] => return (files, some here)
  | .up :: rest => takeSteps wanted files here.dropLast rest
  | .down name :: rest => do
      match ← takeEntry (wanted && rest.isEmpty) files here name with
      | (after, none) => return (after, none)
      | (after, some there) => takeSteps wanted after there rest
  | _ :: rest => takeSteps wanted files here rest

def takePath (wanted : Bool) (files : FileSystem) (path : String) :
    IO (FileSystem × Option Location) :=
  let route := Route.ofText path.toList
  takeSteps wanted files (files.start route) route.steps

/-- Takes over all that is below a directory, and reads the descriptions. -/
partial def takeBelow (suffix : String) (files : FileSystem)
    (here : Location) : IO FileSystem := do
  let entry : IO.FS.DirEntry := ⟨absolutePath here, "."⟩
  let mut files := files
  for inner in (← entry.path.readDir) do
    let name := inner.fileName
    let wanted := decide (Discovery.HasSuffix suffix name)
    files := (← takeEntry wanted files here name).1
    if files.isFolderAt (here ++ [name]) then
      files ← takeBelow suffix files (here ++ [name])
  return files

/-- Takes over the file of the settings, the tree below the source root, and the
way to the destination. -/
def takeArguments (files : FileSystem) (arguments : Arguments) :
    IO FileSystem := do
  let mut files := files
  if let some path := arguments.config then
    files := (← takePath true files path).1
  if let .ok settings := Settings.load files arguments.config then
    let (seen, root) ← takePath false files arguments.source
    files := seen
    if let some root := root then
      if files.isFolderAt root then
        files ← takeBelow settings.suffix files root
    files := (← takePath false files arguments.destination).1
  return files

def snapshot (arguments : Option Arguments) : IO FileSystem := do
  let current := namesOf (← IO.FS.realPath (← IO.currentDir)).toString
  let bare : FileSystem := ⟨.empty, current⟩
  let files := bare.putAt current (.folder .empty)
  match arguments with
  | none => return files
  | some arguments => takeArguments files arguments

/-- Makes the directories of the destination that the command has made, and
writes the header if there is one. -/
def store (arguments : Option Arguments) (before after : FileSystem)
    (header : Option Header) : IO Unit := do
  if let some arguments := arguments then
    for parent in (Path.parents arguments.destination).reverse do
      if after.isDirectory parent && !before.isDirectory parent then
        IO.FS.createDirAll parent
    if let some header := header then
      IO.FS.writeFile arguments.destination header.text

end TilingHeader.Command
