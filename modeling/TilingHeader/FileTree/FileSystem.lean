import TilingHeader.FileTree.AccessError
import TilingHeader.FileTree.Directory
import TilingHeader.FileTree.Path

namespace TilingHeader.FileTree

/-! A tree of files with a current directory.  A path is followed step by step,
through symbolic links; what changes the tree gives a new one. -/

structure FileSystem where
  root : Directory
  /-- Where a relative path starts. -/
  current : Location
  deriving DecidableEq

/-- Where a path leads: to an entry, or to a name that a directory lacks. -/
inductive Spot where
  | taken (location : Location)
  | vacant (parent : Location) (name : String)
  deriving DecidableEq, Repr

/-- What a path is followed for. -/
inductive Purpose where
  | use
  /-- A file is to be there, and is made if it is not. -/
  | create
  deriving DecidableEq, Repr

abbrev Access := Except AccessError

def nameLimit : Nat := 255

/-- A path has fewer bytes than this. -/
def pathLimit : Nat := 4096

/-- How many symbolic links one path may lead through. -/
def linkLimit : Nat := 40

namespace FileSystem

def top (files : FileSystem) : Entry :=
  .folder files.root

def at? (files : FileSystem) (location : Location) : Option Entry :=
  files.top.at? location

def isFolderAt (files : FileSystem) (location : Location) : Bool :=
  (files.at? location).any Entry.isFolder

/-- Follows steps from a location; `follow` goes on where a link is met. -/
def walkWith (files : FileSystem) (purpose : Purpose)
    (follow : Location → List Step → Access Spot) :
    Location → List Step → Access Spot
  | here, [] => .ok (.taken here)
  | here, step :: rest =>
      if files.isFolderAt here then
        match step with
        | .stay | .settle => walkWith files purpose follow here rest
        | .up => walkWith files purpose follow here.dropLast rest
        | .down name =>
            if purpose = .create ∧ rest = [.settle] then .error .isDirectory
            else if nameLimit < name.utf8ByteSize then .error .nameTooLong
            else
              match files.at? (here ++ [name]) with
              | none =>
                  if rest = [] then .ok (.vacant here name)
                  else .error .noEntry
              | some (.link target) =>
                  let route := Route.ofText target.toList
                  follow (if route.absolute then [] else here)
                    (route.steps ++ rest)
              | some _ =>
                  walkWith files purpose follow (here ++ [name]) rest
      else .error .notDirectory

/-- Follows steps through at most so many links. -/
def walk (files : FileSystem) (purpose : Purpose) :
    Nat → Location → List Step → Access Spot
  | 0 => files.walkWith purpose fun _ _ => .error .tooManyLinks
  | links + 1 => files.walkWith purpose (files.walk purpose links)

def start (files : FileSystem) (route : Route) : Location :=
  if route.absolute then [] else files.current

/-- The route of a path that can be one. -/
def route (path : String) : Access Route :=
  if path = "" then .error .noEntry
  else if pathLimit ≤ path.utf8ByteSize then .error .nameTooLong
  else .ok (.ofText path.toList)

def locate (files : FileSystem) (purpose : Purpose) (path : String) :
    Access Spot := do
  let route ← route path
  files.walk purpose linkLimit (files.start route) route.steps

def entry (files : FileSystem) (path : String) : Access Entry := do
  match ← files.locate .use path with
  | .taken location =>
      match files.at? location with
      | some entry => .ok entry
      | none => .error .noEntry
  | .vacant _ _ => .error .noEntry

def isFile (files : FileSystem) (path : String) : Bool :=
  match files.entry path with
  | .ok (.file _) => true
  | _ => false

def directory? (files : FileSystem) (path : String) : Option Directory :=
  match files.entry path with
  | .ok (.folder inside) => some inside
  | _ => none

def isDirectory (files : FileSystem) (path : String) : Bool :=
  (files.directory? path).isSome

def readBytes (files : FileSystem) (path : String) : Access Content := do
  match ← files.entry path with
  | .file content => .ok content
  | _ => .error .isDirectory

def readText (files : FileSystem) (path : String) : Access String := do
  match (← files.readBytes path).text? with
  | some text => .ok text
  | none => .error .notText

def putAt (files : FileSystem) (location : Location) (entry : Entry) :
    FileSystem :=
  match files.top.putAt location entry with
  | .folder root => { files with root }
  | _ => files

/-- Writes a file, the one that a link leads to if the path ends in one. -/
def writeBytes (files : FileSystem) (path : String) (content : Content) :
    Access FileSystem := do
  match ← files.locate .create path with
  | .vacant parent name =>
      .ok (files.putAt (parent ++ [name]) (.file content))
  | .taken location =>
      if files.isFolderAt location then .error .isDirectory
      else .ok (files.putAt location (.file content))

def writeText (files : FileSystem) (path text : String) : Access FileSystem :=
  files.writeBytes path (.ofText text)

/-- The directory that the last step of a path is taken in, and that step; a
slash at the end does not count as one. -/
def lastStep (files : FileSystem) (path : String) :
    Access (Location × Option Step) := do
  let route ← route path
  let steps := route.steps.filter (· ≠ .settle)
  match ← files.walk .use linkLimit (files.start route) steps.dropLast with
  | .vacant _ _ => .error .noEntry
  | .taken parent =>
      if files.isFolderAt parent then .ok (parent, steps.getLast?)
      else .error .notDirectory

/-- Adds an entry where there is none; a link that is there is not followed. -/
def add (files : FileSystem) (path : String) (entry : Entry) :
    Access FileSystem := do
  match ← files.lastStep path with
  | (parent, some (.down name)) =>
      if nameLimit < name.utf8ByteSize then .error .nameTooLong
      else if (files.at? (parent ++ [name])).isSome then .error .alreadyExists
      else .ok (files.putAt (parent ++ [name]) entry)
  | _ => .error .alreadyExists

def makeDirectory (files : FileSystem) (path : String) : Access FileSystem :=
  files.add path (.folder .empty)

def makeLink (files : FileSystem) (path target : String) : Access FileSystem :=
  files.add path (.link target)

/-- Makes the first of the paths.  Those after it are its parents, from the
inside out; they are made first if it takes them.  The empty path is there. -/
def makeFirst (files : FileSystem) :
    List String → FileSystem × Access Unit
  | [] => (files, .error .noEntry)
  | path :: outer =>
      if path = "" then (files, .ok ())
      else
        match files.makeDirectory path with
        | .ok made => (made, .ok ())
        | .error .noEntry =>
            match makeFirst files outer with
            | (grown, .error failure) => (grown, .error failure)
            | (grown, .ok ()) =>
                match grown.makeDirectory path with
                | .ok made => (made, .ok ())
                | .error failure =>
                    if grown.isDirectory path then (grown, .ok ())
                    else (grown, .error failure)
        | .error failure =>
            if files.isDirectory path then (files, .ok ())
            else (files, .error failure)

/-- Makes a directory and all those that it takes.  What was made before a
failure stays. -/
def makeDirectories (files : FileSystem) (path : String) :
    FileSystem × Access Unit :=
  files.makeFirst (path :: Path.parents path)

/-- Removes an entry, itself and not what a link leads to. -/
def remove (files : FileSystem) (path : String) : Access FileSystem := do
  match ← files.lastStep path with
  | (parent, some (.down name)) =>
      if (files.at? (parent ++ [name])).isNone then .error .noEntry
      else
        match files.top.eraseAt (parent ++ [name]) with
        | .folder root => .ok { files with root }
        | _ => .ok files
  | _ => .error .isDirectory

end FileSystem

end TilingHeader.FileTree
