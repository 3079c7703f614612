import TilingHeader.Proofs.FileTree.Walking
import TilingHeader.Proofs.Text.Splitting

namespace TilingHeader.FileTree

/-! What is known of the spot that steps lead to, and which changes of a tree
leave the way there as it was. -/

def Spot.location : Spot → Location
  | .taken location => location
  | .vacant parent name => parent ++ [name]

def Step.Named : Step → Prop
  | .down name => IsName name
  | _ => True

theorem Route.named_ofText (text : List Char) :
    ∀ step ∈ (Route.ofText text).steps, step.Named := by
  intro step listed
  rw [Route.ofText, List.mem_append] at listed
  rcases listed with piece_step | settled
  · obtain ⟨piece, piece_listed, stepped⟩ := List.mem_filterMap.mp piece_step
    cases step with
    | down name =>
        exact isName_of_ofPiece? (Text.not_mem_of_mem_splitOn piece_listed)
          stepped
    | stay => trivial
    | up => trivial
    | settle => trivial
  · split at settled
    · obtain rfl := List.mem_singleton.mp settled
      trivial
    · cases settled

namespace FileSystem

/-- Not a link, and there. -/
def IsSettled (files : FileSystem) (location : Location) : Prop :=
  ∃ node, files.node? location = some node ∧ ∀ target, node ≠ .link target

theorem isSettled_of_folder {files : FileSystem} {location : Location}
    (folder : files.node? location = some .folder) :
    files.IsSettled location :=
  ⟨.folder, folder, nofun⟩

theorem folder_dropLast {files : FileSystem} {location : Location}
    (folder : files.node? location = some .folder) :
    files.node? location.dropLast = some .folder := by
  rcases List.eq_nil_or_concat location with rfl | ⟨parent, name, rfl⟩
  · exact folder
  · rw [List.concat_eq_append] at folder ⊢
    rw [List.dropLast_concat]
    exact folder_of_node?_concat folder

theorem folder_linkStart {files : FileSystem} {here : Location}
    (folder : files.node? here = some .folder) (target : String) :
    files.node? (linkStart here target) = some .folder := by
  rw [linkStart]
  split
  · exact files.node?_nil
  · exact folder

section Spots

variable {files : FileSystem} {purpose : Purpose} {links : Nat}
  {here : Location} {steps : List Step} {spot : Spot}

theorem Leads.isSettled (leads : files.Leads purpose links here steps spot)
    (start : files.IsSettled here) (there : Location)
    (arrives : spot = .taken there) : files.IsSettled there := by
  induction leads with
  | arrived links here =>
      cases arrives
      exact start
  | stay folder _ induction => exact induction start arrives
  | settle folder _ induction => exact induction start arrives
  | up folder _ induction =>
      exact induction (isSettled_of_folder (folder_dropLast folder)) arrives
  | vacant folder passes nothing => cases arrives
  | link folder passes found _ induction =>
      exact induction (isSettled_of_folder (folder_linkStart folder _)) arrives
  | down folder passes found no_link _ induction =>
      exact induction ⟨_, found, no_link⟩ arrives

theorem Leads.folder_of_ne_nil
    (leads : files.Leads purpose links here steps spot) (moved : steps ≠ []) :
    files.node? here = some .folder := by
  cases leads with
  | arrived => exact absurd rfl moved
  | stay folder _ => exact folder
  | settle folder _ => exact folder
  | up folder _ => exact folder
  | vacant folder _ _ => exact folder
  | link folder _ _ _ => exact folder
  | down folder _ _ _ _ => exact folder

theorem Leads.vacant_spot (leads : files.Leads purpose links here steps spot)
    (named : ∀ step ∈ steps, step.Named) (parent : Location) (name : String)
    (ends : spot = .vacant parent name) :
    files.node? parent = some .folder ∧
      files.node? (parent ++ [name]) = none ∧ IsName name := by
  induction leads with
  | arrived links here => cases ends
  | stay folder _ induction =>
      exact induction (List.forall_mem_cons.mp named).2 ends
  | settle folder _ induction =>
      exact induction (List.forall_mem_cons.mp named).2 ends
  | up folder _ induction =>
      exact induction (List.forall_mem_cons.mp named).2 ends
  | vacant folder passes nothing =>
      cases ends
      exact ⟨folder, nothing, (List.forall_mem_cons.mp named).1⟩
  | link folder passes found _ induction =>
      refine induction ?_ ends
      exact List.forall_mem_append.mpr
        ⟨Route.named_ofText _, (List.forall_mem_cons.mp named).2⟩
  | down folder passes found no_link _ induction =>
      exact induction (List.forall_mem_cons.mp named).2 ends

theorem Leads.use (leads : files.Leads purpose links here steps spot) :
    files.Leads .use links here steps spot := by
  induction leads with
  | arrived links here => exact .arrived links here
  | stay folder _ induction => exact .stay folder induction
  | settle folder _ induction => exact .settle folder induction
  | up folder _ induction => exact .up folder induction
  | vacant folder passes nothing =>
      exact .vacant folder (passes.use _) nothing
  | link folder passes found _ induction =>
      exact .link folder (passes.use _) found induction
  | down folder passes found no_link _ induction =>
      exact .down folder (passes.use _) found no_link induction

end Spots

/-! Parts of a way. -/

section Parts

variable {files : FileSystem} {links : Nat} {here there : Location}
  {steps : List Step}

/-- Behind steps that arrive, the walk goes on from there, with the links that
are left. -/
theorem Leads.exists_walk_append {spot : Spot}
    (leads : files.Leads .use links here steps spot)
    (arrives : spot = .taken there) :
    ∃ left, ∀ more,
      files.walk .use links here (steps ++ more) =
        files.walk .use left there more := by
  induction leads with
  | arrived links here =>
      cases arrives
      exact ⟨links, fun more => rfl⟩
  | stay folder _ induction =>
      obtain ⟨left, onward⟩ := induction arrives
      refine ⟨left, fun more => ?_⟩
      rw [List.cons_append, walk_stay folder, onward]
  | settle folder _ induction =>
      obtain ⟨left, onward⟩ := induction arrives
      refine ⟨left, fun more => ?_⟩
      rw [List.cons_append, walk_settle folder, onward]
  | up folder _ induction =>
      obtain ⟨left, onward⟩ := induction arrives
      refine ⟨left, fun more => ?_⟩
      rw [List.cons_append, walk_up folder, onward]
  | vacant folder passes nothing => cases arrives
  | link folder passes found _ induction =>
      obtain ⟨left, onward⟩ := induction arrives
      refine ⟨left, fun more => ?_⟩
      rw [List.cons_append, walk_down_of_link folder (passes.use _)
        found, ← List.append_assoc, onward]
  | down folder passes found no_link _ induction =>
      obtain ⟨left, onward⟩ := induction arrives
      refine ⟨left, fun more => ?_⟩
      rw [List.cons_append, walk_down_of_ne_link folder (passes.use _)
        found no_link, onward]

/-- A way with more steps to come first arrives somewhere. -/
theorem Leads.exists_arrival {all more : List Step} {spot : Spot}
    (leads : files.Leads .use links here all spot) (steps : List Step)
    (all_eq : all = steps ++ more) (moved : more ≠ []) :
    ∃ there, files.Leads .use links here steps (.taken there) := by
  induction leads generalizing steps with
  | arrived links here =>
      have nothing := (List.append_eq_nil_iff.mp all_eq.symm).2
      exact absurd nothing moved
  | stay folder _ induction =>
      rcases List.cons_eq_append_iff.mp all_eq with
        ⟨rfl, _⟩ | ⟨others, rfl, rest_eq⟩
      · exact ⟨_, .arrived _ _⟩
      · obtain ⟨there, onward⟩ := induction others rest_eq
        exact ⟨there, .stay folder onward⟩
  | settle folder _ induction =>
      rcases List.cons_eq_append_iff.mp all_eq with
        ⟨rfl, _⟩ | ⟨others, rfl, rest_eq⟩
      · exact ⟨_, .arrived _ _⟩
      · obtain ⟨there, onward⟩ := induction others rest_eq
        exact ⟨there, .settle folder onward⟩
  | up folder _ induction =>
      rcases List.cons_eq_append_iff.mp all_eq with
        ⟨rfl, _⟩ | ⟨others, rfl, rest_eq⟩
      · exact ⟨_, .arrived _ _⟩
      · obtain ⟨there, onward⟩ := induction others rest_eq
        exact ⟨there, .up folder onward⟩
  | vacant folder passes nothing =>
      rcases List.cons_eq_append_iff.mp all_eq with
        ⟨rfl, _⟩ | ⟨others, rfl, rest_eq⟩
      · exact ⟨_, .arrived _ _⟩
      · exact absurd (List.append_eq_nil_iff.mp rest_eq.symm).2 moved
  | @link _ _ _ target rest _ folder passes found _ induction =>
      rcases List.cons_eq_append_iff.mp all_eq with
        ⟨rfl, _⟩ | ⟨others, rfl, rest_eq⟩
      · exact ⟨_, .arrived _ _⟩
      · have onward_eq : (Route.ofText target.toList).steps ++ rest =
            ((Route.ofText target.toList).steps ++ others) ++ more := by
          rw [rest_eq, List.append_assoc]
        obtain ⟨there, onward⟩ := induction _ onward_eq
        exact ⟨there, .link folder (passes.use _) found onward⟩
  | down folder passes found no_link _ induction =>
      rcases List.cons_eq_append_iff.mp all_eq with
        ⟨rfl, _⟩ | ⟨others, rfl, rest_eq⟩
      · exact ⟨_, .arrived _ _⟩
      · obtain ⟨there, onward⟩ := induction others rest_eq
        exact ⟨there, .down folder (passes.use _) found no_link onward⟩

end Parts

/-! Ways through a tree that has changed. -/

/-- Every entry is still there; only files may hold something else. -/
structure Extends (files after : FileSystem) : Prop where
  current_eq : after.current = files.current
  folder : ∀ location, files.node? location = some .folder →
    after.node? location = some .folder
  link : ∀ location target, files.node? location = some (.link target) →
    after.node? location = some (.link target)
  file : ∀ location content, files.node? location = some (.file content) →
    ∃ other, after.node? location = some (.file other)

theorem extends_of_node?_eq {files after : FileSystem}
    (current_eq : after.current = files.current)
    (same : ∀ location, after.node? location = files.node? location) :
    files.Extends after where
  current_eq := current_eq
  folder location found := (same location).trans found
  link location _ found := (same location).trans found
  file location content found := ⟨content, (same location).trans found⟩

theorem Extends.isSettled {files after : FileSystem}
    (grown : files.Extends after) {location : Location}
    (settled : files.IsSettled location) : after.IsSettled location := by
  obtain ⟨node, found, no_link⟩ := settled
  cases node with
  | file content =>
      obtain ⟨other, found⟩ := grown.file location content found
      exact ⟨.file other, found, nofun⟩
  | link target => exact absurd rfl (no_link target)
  | folder => exact isSettled_of_folder (grown.folder location found)

theorem Leads.mono {files after : FileSystem} {purpose : Purpose}
    {links : Nat} {here : Location} {steps : List Step} {spot : Spot}
    (leads : files.Leads purpose links here steps spot)
    (grown : files.Extends after)
    (filled : ∀ parent name, spot = .vacant parent name →
      after.IsSettled (parent ++ [name])) :
    after.Leads purpose links here steps (.taken spot.location) := by
  induction leads with
  | arrived links here => exact .arrived links here
  | stay folder _ induction =>
      exact .stay (grown.folder _ folder) (induction filled)
  | settle folder _ induction =>
      exact .settle (grown.folder _ folder) (induction filled)
  | up folder _ induction =>
      exact .up (grown.folder _ folder) (induction filled)
  | vacant folder passes nothing =>
      obtain ⟨node, found, no_link⟩ := filled _ _ rfl
      exact .down (grown.folder _ folder) passes found no_link (.arrived _ _)
  | link folder passes found _ induction =>
      exact .link (grown.folder _ folder) passes (grown.link _ _ found)
        (induction filled)
  | down folder passes found no_link _ induction =>
      obtain ⟨node, found, no_link⟩ := grown.isSettled ⟨_, found, no_link⟩
      exact .down (grown.folder _ folder) passes found no_link
        (induction filled)

/-- A file that has come, or that holds something else, is on the way to itself
only. -/
theorem Leads.of_file {files after : FileSystem} {place : Location}
    {content : Content} (file : after.node? place = some (.file content))
    (kept : ∀ location, location ≠ place →
      after.node? location = files.node? location)
    {purpose : Purpose} {links : Nat} {here : Location} {steps : List Step}
    {spot : Spot} (leads : after.Leads purpose links here steps spot)
    (there : Location) (arrives : spot = .taken there) :
    there = place ∨ files.Leads purpose links here steps (.taken there) := by
  have elsewhere {location : Location} {node : Node}
      (found : after.node? location = some node)
      (no_file : node ≠ .file content) :
      files.node? location = some node := by
    have apart : location ≠ place := by
      rintro rfl
      rw [file] at found
      exact no_file (Option.some.inj found).symm
    rw [← kept location apart, found]
  induction leads with
  | arrived links here =>
      cases arrives
      exact .inr (.arrived links _)
  | stay folder _ induction =>
      exact (induction arrives).imp_right (.stay (elsewhere folder nofun))
  | settle folder _ induction =>
      exact (induction arrives).imp_right (.settle (elsewhere folder nofun))
  | up folder _ induction =>
      exact (induction arrives).imp_right (.up (elsewhere folder nofun))
  | vacant folder passes nothing => cases arrives
  | link folder passes found _ induction =>
      exact (induction arrives).imp_right
        (.link (elsewhere folder nofun) passes (elsewhere found nofun))
  | @down links here name node rest spot folder passes found no_link onward
      induction =>
      by_cases reached : here ++ [name] = place
      · -- The steps behind a file are none.
        have stopped : rest = [] := by
          by_contra moved
          have inside := onward.folder_of_ne_nil moved
          rw [reached, file] at inside
          cases inside
        subst stopped
        cases arrives
        cases onward with
        | arrived => exact .inl reached
      · rw [kept _ reached] at found
        exact (induction arrives).imp_right
          (.down (elsewhere folder nofun) passes found no_link)

end FileSystem

end TilingHeader.FileTree
