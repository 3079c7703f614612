import TilingHeader.FileTree.FileSystem

namespace TilingHeader.FileTree

/-! What stands at a location, said without what lies below it.  An entry in
which nothing lies changes no location but its own when it is put in the place
of nothing or of another such entry. -/

inductive Node where
  | file (content : Content)
  | link (target : String)
  | folder
  deriving DecidableEq

namespace Directory

theorem cons_induction {motive : Directory → Prop} (empty : motive .empty)
    (cons : ∀ name entry others,
      (∀ inside, entry = .folder inside → motive inside) → motive others →
        motive (cons name entry others))
    (directory : Directory) : motive directory := by
  induction directory with
  | empty => exact empty
  | file name content others induction =>
      exact cons name (.file content) others nofun induction
  | link name target others induction =>
      exact cons name (.link target) others nofun induction
  | folder name inside others inside_induction induction =>
      refine cons name (.folder inside) others ?_ induction
      rintro _ ⟨rfl⟩
      exact inside_induction

theorem put_cons (name wanted : String) (entry new : Entry)
    (others : Directory) :
    (cons name entry others).put wanted new =
      if name = wanted then cons wanted new others
      else cons name entry (others.put wanted new) := by
  cases entry <;> rfl

theorem put_of_find? {directory : Directory} {name : String} {entry : Entry}
    (found : directory.find? name = some entry) :
    directory.put name entry = directory := by
  induction directory using cons_induction with
  | empty => cases found
  | cons other old others _ induction =>
      rw [find?_cons] at found
      rw [put_cons]
      by_cases same : other = name
      · rw [if_pos same] at found
        obtain rfl := Option.some.inj found
        rw [if_pos same, same]
      · rw [if_neg same] at found
        rw [if_neg same, induction found]

end Directory

namespace Entry

def node : Entry → Node
  | .file content => .file content
  | .link target => .link target
  | .folder _ => .folder

def node? (entry : Entry) (location : Location) : Option Node :=
  (entry.at? location).map node

def Bare (entry : Entry) : Prop :=
  ∀ name rest, entry.node? (name :: rest) = none

theorem bare_file (content : Content) : (Entry.file content).Bare :=
  fun _ _ => rfl

theorem bare_link (target : String) : (Entry.link target).Bare :=
  fun _ _ => rfl

theorem bare_empty : (Entry.folder .empty).Bare :=
  fun _ _ => rfl

@[simp] theorem node?_nil (entry : Entry) :
    entry.node? [] = some entry.node := by
  simp [node?]

@[simp] theorem node?_folder_cons (inside : Directory) (name : String)
    (rest : Location) :
    (Entry.folder inside).node? (name :: rest) =
      (inside.find? name).bind fun entry => entry.node? rest := by
  cases found : inside.find? name <;> simp [node?, found]

theorem node?_append (entry : Entry) (first second : Location) :
    entry.node? (first ++ second) =
      (entry.at? first).bind fun middle => middle.node? second := by
  rw [node?, at?_append]
  cases entry.at? first <;> rfl

theorem exists_folder_of_node? {entry : Entry} {name : String}
    {rest : Location} {node : Node}
    (found : entry.node? (name :: rest) = some node) :
    ∃ inside next, entry = .folder inside ∧ inside.find? name = some next ∧
      next.node? rest = some node := by
  cases entry with
  | file content => cases found
  | link target => cases found
  | folder inside =>
      rw [node?_folder_cons] at found
      obtain ⟨next, listed, below⟩ := Option.bind_eq_some_iff.mp found
      exact ⟨inside, next, rfl, listed, below⟩

theorem folder_of_node?_append {entry : Entry} {location : Location}
    {name : String} {rest : Location} {node : Node}
    (found : entry.node? (location ++ name :: rest) = some node) :
    entry.node? location = some .folder := by
  rw [node?_append] at found
  obtain ⟨middle, reached, below⟩ := Option.bind_eq_some_iff.mp found
  obtain ⟨inside, _, rfl, _, _⟩ := exists_folder_of_node? below
  rw [node?, reached]
  rfl

theorem putAt_of_at? {entry old : Entry} {location : Location}
    (found : entry.at? location = some old) :
    entry.putAt location old = entry := by
  induction location generalizing entry with
  | nil =>
      rw [at?_nil] at found
      obtain rfl := Option.some.inj found
      cases entry <;> rfl
  | cons name rest induction =>
      cases entry with
      | file content => rfl
      | link target => rfl
      | folder inside =>
          rw [at?_folder_cons] at found
          obtain ⟨next, listed, below⟩ := Option.bind_eq_some_iff.mp found
          rw [putAt, listed]
          simp only [Option.getD_some]
          rw [induction below, Directory.put_of_find? listed]

/-- Entries without anything inside take each other's place and change nothing
elsewhere. -/
theorem node?_putAt {entry new : Entry} {parent : Location} {name : String}
    (folder : entry.node? parent = some .folder)
    (replaced : ∀ old, entry.at? (parent ++ [name]) = some old → old.Bare)
    (bare : new.Bare) (location : Location) :
    (entry.putAt (parent ++ [name]) new).node? location =
      if location = parent ++ [name] then some new.node
      else entry.node? location := by
  induction parent generalizing entry location with
  | nil =>
      cases entry with
      | file content => cases folder
      | link target => cases folder
      | folder inside =>
          cases location with
          | nil => rfl
          | cons first rest =>
              simp only [List.nil_append, putAt, node?_folder_cons]
              by_cases same : first = name
              · subst same
                rw [Directory.find?_put_self, Option.bind_some]
                cases rest with
                | nil => simp
                | cons second others =>
                    have nothing_new : new.node? (second :: others) = none :=
                      bare second others
                    have nothing_old :
                        ((inside.find? first).bind fun old =>
                          old.node? (second :: others)) = none := by
                      cases listed : inside.find? first with
                      | none => rfl
                      | some old =>
                          exact replaced old (by simp [listed]) second others
                    simp [nothing_new, nothing_old]
              · have apart : ¬ first :: rest = [name] := by
                  simp [same]
                rw [Directory.find?_put_of_ne (Ne.symm same), if_neg apart]
  | cons first others induction =>
      obtain ⟨inside, next, rfl, listed, below⟩ :=
        exists_folder_of_node? folder
      cases location with
      | nil => rfl
      | cons second rest =>
          rw [List.cons_append, putAt, listed]
          simp only [Option.getD_some, node?_folder_cons]
          by_cases same : second = first
          · subst same
            have below_replaced : ∀ old,
                next.at? (others ++ [name]) = some old → old.Bare := by
              intro old found
              exact replaced old (by simp [listed, found])
            rw [Directory.find?_put_self, Option.bind_some,
              induction below below_replaced, listed, Option.bind_some]
            simp
          · have apart : ¬ second :: rest = first :: (others ++ [name]) := by
              simp [same]
            rw [Directory.find?_put_of_ne (Ne.symm same), if_neg apart]

end Entry

namespace FileSystem

def node? (files : FileSystem) (location : Location) : Option Node :=
  files.top.node? location

theorem node?_eq (files : FileSystem) (location : Location) :
    files.node? location = (files.at? location).map Entry.node := rfl

@[simp] theorem node?_nil (files : FileSystem) :
    files.node? [] = some .folder := rfl

theorem isFolderAt_iff (files : FileSystem) (location : Location) :
    files.isFolderAt location = true ↔
      files.node? location = some .folder := by
  rw [isFolderAt, node?_eq]
  cases files.at? location with
  | none => simp
  | some entry => cases entry <;> simp [Entry.isFolder, Entry.node]

theorem node?_eq_none_iff (files : FileSystem) (location : Location) :
    files.node? location = none ↔ files.at? location = none := by
  rw [node?_eq, Option.map_eq_none_iff]

theorem at?_of_node?_file {files : FileSystem} {location : Location}
    {content : Content} (found : files.node? location = some (.file content)) :
    files.at? location = some (.file content) := by
  obtain ⟨entry, reached, node_eq⟩ := Option.map_eq_some_iff.mp found
  cases entry with
  | file other =>
      cases node_eq
      exact reached
  | link target => cases node_eq
  | folder inside => cases node_eq

theorem folder_of_node?_concat {files : FileSystem} {parent : Location}
    {name : String} {node : Node}
    (found : files.node? (parent ++ [name]) = some node) :
    files.node? parent = some .folder :=
  Entry.folder_of_node?_append found

/-- What leads down to an entry are directories. -/
theorem folder_of_node?_below {files : FileSystem} {location above : Location}
    {name : String} {node : Node}
    (found : files.node? (location ++ (above ++ [name])) = some node) :
    ∀ front, front <+: above →
      files.node? (location ++ front) = some .folder := by
  rintro front ⟨rest, rfl⟩
  obtain ⟨first, others, rest_eq⟩ :=
    List.exists_cons_of_ne_nil (List.concat_ne_nil name rest)
  rw [List.append_assoc front, rest_eq, ← List.append_assoc] at found
  exact Entry.folder_of_node?_append found

@[simp] theorem current_putAt (files : FileSystem) (location : Location)
    (entry : Entry) : (files.putAt location entry).current = files.current := by
  rw [putAt]
  split <;> rfl

theorem top_putAt (files : FileSystem) (parent : Location) (name : String)
    (entry : Entry) :
    (files.putAt (parent ++ [name]) entry).top =
      files.top.putAt (parent ++ [name]) entry := by
  cases parent <;> rfl

theorem putAt_of_at? {files : FileSystem} {location : Location} {entry : Entry}
    (found : files.at? location = some entry) :
    files.putAt location entry = files := by
  rw [putAt, Entry.putAt_of_at? found]
  rfl

theorem node?_putAt {files : FileSystem} {parent : Location} {name : String}
    {new : Entry} (folder : files.node? parent = some .folder)
    (free : files.node? (parent ++ [name]) ≠ some .folder) (bare : new.Bare)
    (location : Location) :
    (files.putAt (parent ++ [name]) new).node? location =
      if location = parent ++ [name] then some new.node
      else files.node? location := by
  have replaced : ∀ old, files.top.at? (parent ++ [name]) = some old →
      old.Bare := by
    intro old found
    cases old with
    | file content => exact Entry.bare_file content
    | link target => exact Entry.bare_link target
    | folder inside =>
        have taken : files.node? (parent ++ [name]) = some .folder := by
          rw [node?, Entry.node?, found]
          rfl
        exact absurd taken free
  rw [node?, top_putAt]
  exact Entry.node?_putAt folder replaced bare location

end FileSystem

end TilingHeader.FileTree
