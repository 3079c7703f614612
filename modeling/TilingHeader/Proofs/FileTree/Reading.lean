import TilingHeader.Proofs.FileTree.Paths

namespace TilingHeader.FileTree

/-! Paths that give no text.  Why one does not is told by what it leads to: to
nothing, to a directory, on from a file, round a ring of links, or to bytes that
are not the encoding of a text. -/

namespace FileSystem

variable {files : FileSystem}

/-- The steps come to a link, which sends the walk on from another place. -/
inductive Turns (files : FileSystem) :
    Location → List Step → Location → List Step → Prop
  | stay {here there : Location} {rest later : List Step}
      (folder : files.node? here = some .folder)
      (onward : Turns files here rest there later) :
      Turns files here (.stay :: rest) there later
  | settle {here there : Location} {rest later : List Step}
      (folder : files.node? here = some .folder)
      (onward : Turns files here rest there later) :
      Turns files here (.settle :: rest) there later
  | up {here there : Location} {rest later : List Step}
      (folder : files.node? here = some .folder)
      (onward : Turns files here.dropLast rest there later) :
      Turns files here (.up :: rest) there later
  | down {here there : Location} {name : String} {node : Node}
      {rest later : List Step}
      (folder : files.node? here = some .folder)
      (passes : Passes .use name rest)
      (found : files.node? (here ++ [name]) = some node)
      (no_link : ∀ target, node ≠ .link target)
      (onward : Turns files (here ++ [name]) rest there later) :
      Turns files here (.down name :: rest) there later
  | link {here : Location} {name target : String} {rest : List Step}
      (folder : files.node? here = some .folder)
      (passes : Passes .use name rest)
      (found : files.node? (here ++ [name]) = some (.link target)) :
      Turns files here (.down name :: rest) (linkStart here target)
        ((Route.ofText target.toList).steps ++ rest)

theorem Turns.walk_eq {here there : Location} {steps later : List Step}
    (turns : files.Turns here steps there later) (links : Nat) :
    files.walk .use links here steps =
      files.followUp .use links there later := by
  induction turns with
  | stay folder _ induction => rw [walk_stay folder, induction]
  | settle folder _ induction => rw [walk_settle folder, induction]
  | up folder _ induction => rw [walk_up folder, induction]
  | down folder passes found no_link _ induction =>
      rw [walk_down_of_ne_link folder passes found no_link, induction]
  | link folder passes found =>
      rw [walk_down_of_passes folder passes, found]

/-- Where each turn leads to another one, no number of links is enough. -/
theorem walk_of_ring {ring : Location → List Step → Prop}
    (turns : ∀ here steps, ring here steps →
      ∃ there later, files.Turns here steps there later ∧ ring there later)
    (links : Nat) {here : Location} {steps : List Step}
    (within : ring here steps) :
    files.walk .use links here steps = .error .tooManyLinks := by
  induction links generalizing here steps with
  | zero =>
      obtain ⟨there, later, turn, _⟩ := turns here steps within
      rw [turn.walk_eq]
      rfl
  | succ links induction =>
      obtain ⟨there, later, turn, still_within⟩ := turns here steps within
      rw [turn.walk_eq]
      exact induction still_within

/-- A path that gives no text, and why. -/
inductive Unreadable (files : FileSystem) (path : String) : AccessError → Prop
  | missing {parent : Location} {name : String}
      (located : files.locate .use path = .ok (.vacant parent name)) :
      Unreadable files path .noEntry
  | folder (is_directory : files.isDirectory path = true) :
      Unreadable files path .isDirectory
  | belowFile {route : Route} {front rest : List Step} {step : Step}
      {location : Location} {content : Content}
      (routed : FileSystem.route path = .ok route)
      (steps_eq : route.steps = front ++ step :: rest)
      (leads : files.Leads .use linkLimit (files.start route) front
        (.taken location))
      (found : files.node? location = some (.file content)) :
      Unreadable files path .notDirectory
  | ring {route : Route} {ring : Location → List Step → Prop}
      (routed : FileSystem.route path = .ok route)
      (turns : ∀ here steps, ring here steps →
        ∃ there later, files.Turns here steps there later ∧ ring there later)
      (within : ring (files.start route) route.steps) :
      Unreadable files path .tooManyLinks
  | notText {location : Location} {content : Content}
      (located : files.locate .use path = .ok (.taken location))
      (found : files.node? location = some (.file content))
      (undecodable : content.text? = none) : Unreadable files path .notText

theorem locate_of_route {path : String} {route : Route}
    (routed : FileSystem.route path = .ok route) (purpose : Purpose) :
    files.locate purpose path =
      files.walk purpose linkLimit (files.start route) route.steps := by
  rw [locate, routed]
  rfl

theorem readText_of_entry_error {path : String} {cause : AccessError}
    (failed : files.entry path = .error cause) :
    files.readText path = .error cause := by
  rw [readText, readBytes, failed]
  rfl

theorem readText_of_locate_error {path : String} {cause : AccessError}
    (failed : files.locate .use path = .error cause) :
    files.readText path = .error cause := by
  apply readText_of_entry_error
  rw [entry, failed]
  rfl

theorem Unreadable.readText_eq {path : String} {cause : AccessError}
    (unreadable : files.Unreadable path cause) :
    files.readText path = .error cause := by
  cases unreadable with
  | missing located =>
      apply readText_of_entry_error
      rw [entry, located]
      rfl
  | folder is_directory =>
      obtain ⟨inside, found⟩ := Option.isSome_iff_exists.mp is_directory
      obtain ⟨location, located, reached⟩ := directory?_eq_some_iff.mp found
      have entry_eq : files.entry path = .ok (.folder inside) :=
        entry_eq_ok_iff.mpr ⟨location, located, reached⟩
      rw [readText, readBytes, entry_eq]
      rfl
  | @belowFile route front rest step location content routed steps_eq leads
      found =>
      have no_folder : files.node? location ≠ some .folder := by
        rw [found]
        intro same
        cases same
      obtain ⟨left, onward⟩ := leads.exists_walk_append rfl
      apply readText_of_locate_error
      rw [locate_of_route routed, steps_eq, onward]
      exact walk_of_not_folder no_folder step
  | ring routed turns within =>
      apply readText_of_locate_error
      rw [locate_of_route routed]
      exact walk_of_ring turns linkLimit within
  | notText located found undecodable =>
      rw [FileSystem.readText_eq located found, undecodable]

end FileSystem

end TilingHeader.FileTree
