import TilingHeader.Proofs.FileTree.WellFormed

namespace TilingHeader.FileTree

/-! How a path is followed, as a relation with one rule for each kind of step.
What the walk of a path depends on is read off the rules. -/

/-- Where the steps of a link's target are taken from. -/
def linkStart (here : Location) (target : String) : Location :=
  if (Route.ofText target.toList).absolute then [] else here

/-- A name may be tried, with these steps behind it. -/
structure Passes (purpose : Purpose) (name : String) (rest : List Step) :
    Prop where
  unsettled : ¬ (purpose = .create ∧ rest = [.settle])
  short : name.utf8ByteSize ≤ nameLimit

theorem Passes.use {purpose : Purpose} {name : String} {rest : List Step}
    (passes : Passes purpose name rest) (others : List Step) :
    Passes .use name others where
  unsettled := fun both => nomatch both.1
  short := passes.short

namespace FileSystem

/-- The steps lead from a location to a spot, through at most so many links. -/
inductive Leads (files : FileSystem) (purpose : Purpose) :
    Nat → Location → List Step → Spot → Prop
  | arrived (links : Nat) (here : Location) :
      Leads files purpose links here [] (.taken here)
  | stay {links : Nat} {here : Location} {rest : List Step} {spot : Spot}
      (folder : files.node? here = some .folder)
      (onward : Leads files purpose links here rest spot) :
      Leads files purpose links here (.stay :: rest) spot
  | settle {links : Nat} {here : Location} {rest : List Step} {spot : Spot}
      (folder : files.node? here = some .folder)
      (onward : Leads files purpose links here rest spot) :
      Leads files purpose links here (.settle :: rest) spot
  | up {links : Nat} {here : Location} {rest : List Step} {spot : Spot}
      (folder : files.node? here = some .folder)
      (onward : Leads files purpose links here.dropLast rest spot) :
      Leads files purpose links here (.up :: rest) spot
  | vacant {links : Nat} {here : Location} {name : String}
      (folder : files.node? here = some .folder)
      (passes : Passes purpose name [])
      (nothing : files.node? (here ++ [name]) = none) :
      Leads files purpose links here [.down name] (.vacant here name)
  | link {links : Nat} {here : Location} {name target : String}
      {rest : List Step} {spot : Spot}
      (folder : files.node? here = some .folder)
      (passes : Passes purpose name rest)
      (found : files.node? (here ++ [name]) = some (.link target))
      (onward : Leads files purpose links (linkStart here target)
        ((Route.ofText target.toList).steps ++ rest) spot) :
      Leads files purpose (links + 1) here (.down name :: rest) spot
  | down {links : Nat} {here : Location} {name : String} {node : Node}
      {rest : List Step} {spot : Spot}
      (folder : files.node? here = some .folder)
      (passes : Passes purpose name rest)
      (found : files.node? (here ++ [name]) = some node)
      (no_link : ∀ target, node ≠ .link target)
      (onward : Leads files purpose links (here ++ [name]) rest spot) :
      Leads files purpose links here (.down name :: rest) spot

/-! The walk takes exactly these steps. -/

section Walk

variable {files : FileSystem} {purpose : Purpose} {links : Nat}
  {here : Location} {rest : List Step}

/-- What is done where the walk meets a link. -/
def followUp (files : FileSystem) (purpose : Purpose) :
    Nat → Location → List Step → Access Spot
  | 0 => fun _ _ => .error .tooManyLinks
  | links + 1 => files.walk purpose links

theorem walk_eq_walkWith (files : FileSystem) (purpose : Purpose)
    (links : Nat) :
    files.walk purpose links =
      files.walkWith purpose (files.followUp purpose links) := by
  cases links <;> rfl

@[simp] theorem walk_nil (files : FileSystem) (purpose : Purpose) (links : Nat)
    (here : Location) :
    files.walk purpose links here [] = .ok (.taken here) := by
  rw [walk_eq_walkWith, walkWith]

theorem walk_of_not_folder (not_folder : files.node? here ≠ some .folder)
    (step : Step) :
    files.walk purpose links here (step :: rest) = .error .notDirectory := by
  have closed : ¬ files.isFolderAt here = true :=
    (files.isFolderAt_iff here).not.mpr not_folder
  rw [walk_eq_walkWith]
  cases step <;> rw [walkWith, if_neg closed]

theorem walk_stay (folder : files.node? here = some .folder) :
    files.walk purpose links here (.stay :: rest) =
      files.walk purpose links here rest := by
  rw [walk_eq_walkWith, walkWith, if_pos ((files.isFolderAt_iff here).mpr folder)]

theorem walk_settle (folder : files.node? here = some .folder) :
    files.walk purpose links here (.settle :: rest) =
      files.walk purpose links here rest := by
  rw [walk_eq_walkWith, walkWith, if_pos ((files.isFolderAt_iff here).mpr folder)]

theorem walk_up (folder : files.node? here = some .folder) :
    files.walk purpose links here (.up :: rest) =
      files.walk purpose links here.dropLast rest := by
  rw [walk_eq_walkWith, walkWith, if_pos ((files.isFolderAt_iff here).mpr folder)]

theorem walk_down (folder : files.node? here = some .folder) (name : String) :
    files.walk purpose links here (.down name :: rest) =
      if purpose = .create ∧ rest = [.settle] then .error .isDirectory
      else if nameLimit < name.utf8ByteSize then .error .nameTooLong
      else
        match files.node? (here ++ [name]) with
        | none => if rest = [] then .ok (.vacant here name) else .error .noEntry
        | some (.link target) =>
            files.followUp purpose links (linkStart here target)
              ((Route.ofText target.toList).steps ++ rest)
        | some _ => files.walk purpose links (here ++ [name]) rest := by
  rw [walk_eq_walkWith, walkWith, if_pos ((files.isFolderAt_iff here).mpr folder),
    node?_eq]
  cases files.at? (here ++ [name]) with
  | none => rfl
  | some entry => cases entry <;> rfl

theorem walk_down_of_passes (folder : files.node? here = some .folder)
    {name : String} (passes : Passes purpose name rest) :
    files.walk purpose links here (.down name :: rest) =
      match files.node? (here ++ [name]) with
      | none => if rest = [] then .ok (.vacant here name) else .error .noEntry
      | some (.link target) =>
          files.followUp purpose links (linkStart here target)
            ((Route.ofText target.toList).steps ++ rest)
      | some _ => files.walk purpose links (here ++ [name]) rest := by
  rw [walk_down folder, if_neg passes.unsettled,
    if_neg (Nat.not_lt.mpr passes.short)]

theorem walk_down_of_ne_link (folder : files.node? here = some .folder)
    {name : String} (passes : Passes purpose name rest) {node : Node}
    (found : files.node? (here ++ [name]) = some node)
    (no_link : ∀ target, node ≠ .link target) :
    files.walk purpose links here (.down name :: rest) =
      files.walk purpose links (here ++ [name]) rest := by
  rw [walk_down_of_passes folder passes, found]
  cases node with
  | file content => rfl
  | link target => exact absurd rfl (no_link target)
  | folder => rfl

theorem walk_down_of_link (folder : files.node? here = some .folder)
    {name target : String} (passes : Passes purpose name rest)
    (found : files.node? (here ++ [name]) = some (.link target)) :
    files.walk purpose (links + 1) here (.down name :: rest) =
      files.walk purpose links (linkStart here target)
        ((Route.ofText target.toList).steps ++ rest) := by
  rw [walk_down_of_passes folder passes, found]
  rfl

end Walk

section Leads

variable {files : FileSystem} {purpose : Purpose} {links : Nat}
  {here : Location} {steps : List Step} {spot : Spot}

theorem Leads.walk_eq (leads : files.Leads purpose links here steps spot) :
    files.walk purpose links here steps = .ok spot := by
  induction leads with
  | arrived links here => rw [walk_nil]
  | stay folder _ induction => rw [walk_stay folder, induction]
  | settle folder _ induction => rw [walk_settle folder, induction]
  | up folder _ induction => rw [walk_up folder, induction]
  | vacant folder passes nothing =>
      rw [walk_down_of_passes folder passes, nothing]
      rfl
  | link folder passes found _ induction =>
      rw [walk_down_of_link folder passes found, induction]
  | down folder passes found no_link _ induction =>
      rw [walk_down_of_ne_link folder passes found no_link, induction]

theorem leads_of_walk_eq (links : Nat)
    (walked : files.walk purpose links here steps = .ok spot) :
    files.Leads purpose links here steps spot := by
  -- A link brings steps with it, so the links that are left go first.
  induction links using Nat.strongRecOn generalizing here steps with
  | ind links links_induction =>
      induction steps generalizing here with
      | nil =>
          rw [walk_nil] at walked
          cases walked
          exact .arrived links here
      | cons step rest induction =>
          by_cases folder : files.node? here = some .folder
          · cases step with
            | stay =>
                rw [walk_stay folder] at walked
                exact .stay folder (induction walked)
            | settle =>
                rw [walk_settle folder] at walked
                exact .settle folder (induction walked)
            | up =>
                rw [walk_up folder] at walked
                exact .up folder (induction walked)
            | down name =>
                have passes : Passes purpose name rest := by
                  rw [walk_down folder] at walked
                  split at walked
                  · cases walked
                  · split at walked
                    · cases walked
                    · rename_i unsettled short
                      exact ⟨unsettled, Nat.not_lt.mp short⟩
                rw [walk_down_of_passes folder passes] at walked
                cases found : files.node? (here ++ [name]) with
                | none =>
                    rw [found] at walked
                    by_cases last : rest = []
                    · subst last
                      cases walked
                      exact .vacant folder passes found
                    · simp only [if_neg last] at walked
                      cases walked
                | some node =>
                    rw [found] at walked
                    cases node with
                    | file content =>
                        exact .down folder passes found nofun
                          (induction walked)
                    | folder =>
                        exact .down folder passes found nofun
                          (induction walked)
                    | link target =>
                        cases links with
                        | zero => cases walked
                        | succ links =>
                            exact .link folder passes found
                              (links_induction links (Nat.lt_succ_self links)
                                walked)
          · rw [walk_of_not_folder folder] at walked
            cases walked

theorem walk_eq_ok_iff :
    files.walk purpose links here steps = .ok spot ↔
      files.Leads purpose links here steps spot :=
  ⟨leads_of_walk_eq links, Leads.walk_eq⟩

end Leads

end FileSystem

end TilingHeader.FileTree
