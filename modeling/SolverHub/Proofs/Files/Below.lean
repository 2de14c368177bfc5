import Mathlib.Data.Finset.Card
import SolverHub.Files.Scan
import SolverHub.Proofs.Files.Joined
import SolverHub.Proofs.Files.Plain
import SolverHub.Proofs.Loader.Pending

/-! A scan meets exactly the files that lie below a directory, through links that do not lead back. -/

namespace SolverHub

namespace Tree

variable {α : Type} {tree : Tree α} {location : Location}

section Walk

variable {vacant : Bool} {links : Nat} {done : Location} {steps : List Component}

/-- More steps go on from the directory that a walk has ended at. -/
theorem walk_append (found : tree.walk vacant links done steps = .ok location)
    (directory : tree.node? location = some .directory) :
    ∃ left, ∀ more, tree.walk vacant links done (steps ++ more) =
      tree.walk vacant left location more := by
  -- The cases are those of the walk, whose last one is at a directory.
  fun_induction tree.walk vacant links done steps with
  | case1 =>
    cases found
    exact ⟨_, fun _ => rfl⟩
  | case2 _ _ _ ih | case3 _ _ _ ih | case4 _ _ _ ih =>
    obtain ⟨left, further⟩ := ih found
    exact ⟨left, fun more => by rw [List.cons_append, walk, further]⟩
  | case5 done name rest child links here ih =>
    obtain ⟨left, further⟩ := ih found
    exact ⟨left, fun more => by rw [List.cons_append, walk_directory here, further]⟩
  | case6 links done name rest child content file last =>
    have same : done ++ [name] = location := Except.ok.inj found
    rw [← same, file] at directory
    cases directory
  | case9 done name rest child target links link ih =>
    obtain ⟨left, further⟩ := ih found
    exact ⟨left, fun more => by rw [List.cons_append, walk_link link, ← List.append_assoc, further]⟩
  | case10 links done name rest child none last =>
    have same : done ++ [name] = location := Except.ok.inj found
    rw [← same, none] at directory
    cases directory
  | case7 | case8 | case11 => cases found

/-- A walk ends at a directory or a file, unless it may end where nothing is. -/
theorem walk_stands (formed : WellFormed tree) (start : tree.node? done = some .directory)
    (found : tree.walk false links done steps = .ok location) :
    tree.node? location = some .directory ∨
      ∃ content, tree.node? location = some (.file content) := by
  -- The walk stays in directories until it ends at its last step, and follows every link.
  generalize strict : false = vacant at found
  fun_induction tree.walk vacant links done steps with
  | case1 =>
    cases found
    exact .inl start
  | case2 links done rest ih => exact ih rfl found
  | case3 links done rest ih => exact ih start found
  | case4 links done rest ih => exact ih (formed.parent _ _ start) found
  | case5 done name rest child links directory ih => exact ih directory found
  | case6 links done name rest child content file last =>
    have same : done ++ [name] = location := Except.ok.inj found
    exact .inr ⟨content, same ▸ file⟩
  | case9 done name rest child target links link ih => exact ih start found
  | case10 links done name rest child none last => simp [← strict] at last
  | case7 | case8 | case11 => cases found

end Walk

/-- A path that leads to a directory leads there however it ends. -/
theorem locate_directory {path other : Path} (same : path.components = other.components)
    (found : tree.locate path = .ok location) (directory : tree.node? location = some .directory) :
    tree.locate other = .ok location := by
  obtain ⟨absolute, walked⟩ := walk_of_locate found
  rw [Path.isAbsolute_iff, same, ← Path.isAbsolute_iff] at absolute
  rw [same] at walked
  obtain ⟨left, further⟩ := walk_append walked directory
  have stays : tree.walk false left location [] = .ok location := by
    rw [← further, List.append_nil, walked]
  rw [locate, if_pos absolute, stepsOf]
  -- A step that stays at a directory makes no difference.
  split
  · rw [further, walk, ← stays]
  · rw [further, walk, ← stays]
  · exact walked

/-- A path is one of a directory if it leads to the location of one. -/
theorem isDirectory_iff {path : Path} :
    tree.isDirectory path = true ↔
      ∃ location, tree.locate path = .ok location ∧ tree.node? location = some .directory := by
  -- Something is found at a path exactly if the path leads to a place where it stands.
  constructor
  · intro directory
    unfold isDirectory find? at directory
    split at directory
    · rename_i found
      split at found
      · exact ⟨_, ‹_›, found⟩
      · cases found
    · cases directory
  · rintro ⟨location, found, directory⟩
    rw [isDirectory, find?_of_locate found, directory]

/-- A path of a directory is not one of a file. -/
theorem isFile_eq_false {path : Path} (directory : tree.isDirectory path = true) :
    tree.isFile path = false := by
  -- A path leads to one place, where one thing stands.
  obtain ⟨location, found, stands⟩ := isDirectory_iff.mp directory
  rw [isFile, find?_of_locate found, stands]

/-- The names in a directory are those with an entry. -/
theorem mem_names {name : String} :
    name ∈ tree.names location ↔ ∃ node, tree.node? (location ++ [name]) = some node := by
  constructor
  · -- A name is the last one of an entry that stands right below the place.
    intro listed
    obtain ⟨⟨place, node⟩, stands, found⟩ := List.mem_filterMap.mp listed
    split at found
    · rename_i above
      have same : place = location ++ [name] := by
        obtain ⟨front, rfl⟩ := List.getLast?_eq_some_iff.mp found
        rw [← above, List.dropLast_concat]
      obtain ⟨held, there⟩ := Option.isSome_iff_exists.mp (Keyed.isSome_get?_of_mem stands)
      subst same
      refine ⟨held, ?_⟩
      unfold node?
      split
      · rename_i empty
        simp at empty
      · exact there
    · cases found
  · -- An entry that stands below the place is listed with its last name.
    rintro ⟨node, there⟩
    have stands : (location ++ [name], node) ∈ tree.entries := by
      unfold node? at there
      split at there
      · rename_i empty
        simp at empty
      · exact Keyed.mem_of_get? there
    exact List.mem_filterMap.mpr ⟨_, stands, by simp⟩

/-- A way down from a directory, the nearest directory first.

It goes through the directories below and through links to directories that it has not come through. -/
inductive Descent (tree : Tree α) (root : Path) : Trail → Prop
  | start {location : Location} (leads : tree.locate root = .ok location)
      (directory : tree.node? location = some .directory) : Descent tree root [(root, location)]
  | enter {path : Path} {location : Location} {above : Trail} {name : String}
      (descent : Descent tree root ((path, location) :: above))
      (directory : tree.node? (location ++ [name]) = some .directory) :
      Descent tree root ((path.join ⟨name⟩, location ++ [name]) :: (path, location) :: above)
  | follow {path : Path} {location : Location} {above : Trail} {name : String} {link : Path}
      {target : Location} (descent : Descent tree root ((path, location) :: above))
      (stands : tree.node? (location ++ [name]) = some (.link link))
      (leads : tree.locate (path.join ⟨name⟩) = .ok target)
      (directory : tree.node? target = some .directory)
      (new : ∀ step ∈ (path, location) :: above, step.2 ≠ target) :
      Descent tree root ((path.join ⟨name⟩, target) :: (path, location) :: above)

/-- A file, or a link to one, has a name in the last directory of a way down from another one. -/
def LiesBelow (tree : Tree α) (root path : Path) : Prop :=
  ∃ base location above name, Descent tree root ((base, location) :: above) ∧
    name ∈ tree.names location ∧ path = base.join ⟨name⟩ ∧ tree.isFile path = true

section Descent

variable {root path base : Path} {above trail : Trail} {name : String}

/-- What has a name in a directory is found under the path of the directory with the name. -/
theorem locate_join (formed : WellFormed tree) (plain : Plain tree)
    (found : tree.locate base = .ok location) (directory : tree.node? location = some .directory)
    {node : Node α} (stands : tree.node? (location ++ [name]) = some node) :
    (base.join ⟨name⟩).isAbsolute = true ∧
      (base.join ⟨name⟩).components = base.components ++ [.name name] ∧
      ((∀ link, node ≠ .link link) → tree.locate (base.join ⟨name⟩) = .ok (location ++ [name])) := by
  have last : name ∈ location ++ [name] := List.mem_append_right _ (List.mem_singleton_self _)
  have named : IsName name := formed.named _ _ stands name last
  have apart : name ≠ ".." := fun same => plain _ _ stands (same ▸ last)
  obtain ⟨absolute, walked⟩ := walk_of_locate found
  have steps := Path.components_join base ⟨named, apart⟩
  have also : (base.join ⟨name⟩).isAbsolute = true := by
    rw [Path.isAbsolute_iff, steps, List.head?_append, (Path.isAbsolute_iff base).mp absolute]
    rfl
  refine ⟨also, steps, fun direct => ?_⟩
  obtain ⟨left, further⟩ := walk_append walked directory
  rw [locate, if_pos also, stepsOf_join base named, steps, further]
  -- A directory and a file are walked to in one step.
  cases node with
  | directory => rw [walk_directory stands, walk]
  | file content =>
    rw [walk_file stands]
    rfl
  | link link => exact absurd rfl (direct link)

/-- The last directory of a way down is found under its path, whose steps go on from those at the start. -/
theorem Descent.last (formed : WellFormed tree) (plain : Plain tree)
    (descent : Descent tree root ((path, location) :: above)) :
    tree.locate path = .ok location ∧ tree.node? location = some .directory ∧
      ∃ names : List String, path.components = root.components ++ names.map .name := by
  -- The induction follows the way, each of whose steps adds a name.
  generalize here : (path, location) :: above = trail at descent
  induction descent generalizing path location above with
  | start leads directory =>
    cases here
    exact ⟨leads, directory, [], by simp⟩
  | @enter _ _ _ name descent directory ih =>
    cases here
    obtain ⟨leads, inside, names, steps⟩ := ih rfl
    obtain ⟨_, joined, found⟩ := locate_join formed plain leads inside directory
    exact ⟨found nofun, directory, names ++ [name], by rw [joined, steps]; simp⟩
  | @follow _ _ _ name _ _ descent stands leads directory new ih =>
    cases here
    obtain ⟨found, inside, names, steps⟩ := ih rfl
    obtain ⟨_, joined, _⟩ := locate_join formed plain found inside stands
    exact ⟨leads, directory, names ++ [name], by rw [joined, steps]; simp⟩

/-- What lies below a directory has a path that starts with that of the directory. -/
theorem LiesBelow.startsWith (formed : WellFormed tree) (plain : Plain tree)
    (below : LiesBelow tree root path) : path.startsWith root = true := by
  obtain ⟨base, location, above, name, descent, listed, rfl, _⟩ := below
  -- The trail adds names to the root, and the file adds one more.
  obtain ⟨leads, directory, names, steps⟩ := descent.last formed plain
  obtain ⟨node, stands⟩ := mem_names.mp listed
  obtain ⟨_, joined, _⟩ := locate_join formed plain leads directory stands
  rw [Path.startsWith_iff, joined, steps, List.append_assoc]
  exact List.prefix_append _ _

/-- What lies below a directory is a file. -/
theorem LiesBelow.file (below : LiesBelow tree root path) : tree.isFile path = true := by
  -- A descent ends at a file.
  obtain ⟨_, _, _, _, _, _, _, file⟩ := below
  exact file

/-- What a child of the last directory of a way down is: a file, a fault or a longer way. -/
theorem Descent.enter_cases (formed : WellFormed tree) (plain : Plain tree)
    (descent : Descent tree root ((base, location) :: above)) (listed : name ∈ tree.names location) :
    (tree.enter ((base, location) :: above) (base.join ⟨name⟩) (location ++ [name]) =
        .inl (.file (base.join ⟨name⟩)) ∧ tree.isFile (base.join ⟨name⟩) = true) ∨
      (∃ fault, tree.enter ((base, location) :: above) (base.join ⟨name⟩) (location ++ [name]) =
        .inl (.fault fault) ∧ tree.isFile (base.join ⟨name⟩) = false) ∨
      (∃ place, tree.enter ((base, location) :: above) (base.join ⟨name⟩) (location ++ [name]) =
        .inr ((base.join ⟨name⟩, place) :: (base, location) :: above) ∧
          Descent tree root ((base.join ⟨name⟩, place) :: (base, location) :: above) ∧
            tree.isFile (base.join ⟨name⟩) = false) := by
  obtain ⟨leads, directory, _⟩ := descent.last formed plain
  obtain ⟨node, stands⟩ := mem_names.mp listed
  obtain ⟨_, _, found⟩ := locate_join formed plain leads directory stands
  -- Whether a file is found is seen from what is at the location.
  unfold Tree.enter
  rw [stands]
  cases node with
  | directory =>
    refine .inr (.inr ⟨_, rfl, .enter descent stands, ?_⟩)
    rw [isFile, find?_of_locate (found nofun), stands]
  | file content =>
    refine .inl ⟨rfl, ?_⟩
    rw [isFile, find?_of_locate (found nofun), stands]
  | link link =>
    -- A link counts as what it leads to, as long as that is not where the way has come through.
    dsimp only
    cases reached : tree.locate (base.join ⟨name⟩) with
    | error fault =>
      refine .inr (.inl ⟨_, rfl, ?_⟩)
      rw [isFile, find?, reached]
    | ok target =>
      obtain ⟨_, walked⟩ := walk_of_locate reached
      rcases walk_stands formed rfl walked with directory | ⟨content, file⟩
      · have inside : tree.isDirectoryAt target = true := isDirectoryAt_iff.mpr directory
        have other : tree.isFile (base.join ⟨name⟩) = false := by
          rw [isFile, find?_of_locate reached, directory]
        simp only [inside, if_true]
        cases met : List.find? (fun step => decide (step.2 = target)) ((base, location) :: above) with
        | some step => exact .inr (.inl ⟨_, rfl, other⟩)
        | none =>
          have new : ∀ step ∈ (base, location) :: above, step.2 ≠ target := by
            simpa using List.find?_eq_none.mp met
          exact .inr (.inr ⟨_, rfl, .follow descent stands reached directory new, other⟩)
      · have outside : tree.isDirectoryAt target = false := by
          rw [isDirectoryAt, file]
        simp only [outside, Bool.false_eq_true, if_false]
        exact .inl ⟨trivial, by rw [isFile, find?_of_locate reached, file]⟩

/-- The files that a scan meets at the end of a way down lie below where the way has started. -/
theorem Descent.liesBelow (formed : WellFormed tree) (plain : Plain tree) {levels : Nat}
    (descent : Descent tree root trail) (met : .file path ∈ tree.scanBelow levels trail) :
    LiesBelow tree root path := by
  -- The induction follows the levels, on each of which the way may get longer.
  fun_induction tree.scanBelow levels trail with
  | case1 => cases met
  | case2 => cases met
  | case3 levels base location above trail ih =>
    rcases List.mem_cons.mp met with here | deeper
    · cases here
    obtain ⟨name, listed, met⟩ := List.mem_flatMap.mp deeper
    rcases descent.enter_cases formed plain listed with
      ⟨entered, file⟩ | ⟨fault, entered, _⟩ | ⟨place, entered, longer, _⟩
    · rw [entered] at met
      cases List.mem_singleton.mp met
      exact ⟨base, location, above, name, descent, listed, rfl, file⟩
    · rw [entered] at met
      cases List.mem_singleton.mp met
    · rw [entered] at met
      exact ih _ longer met

/-- A way down that is continued is what a scan continues it to. -/
theorem enter_eq_inr_of_directory (directory : tree.node? (location ++ [name]) = some .directory) :
    tree.enter trail path (location ++ [name]) = .inr ((path, location ++ [name]) :: trail) := by
  -- A directory in the tree is no link, so it cannot lead back.
  rw [Tree.enter, directory]

/-- A way down that is continued through a link is what a scan continues it to. -/
theorem enter_eq_inr_of_link {link : Path} {target : Location}
    (stands : tree.node? (location ++ [name]) = some (.link link))
    (leads : tree.locate path = .ok target) (directory : tree.node? target = some .directory)
    (new : ∀ step ∈ trail, step.2 ≠ target) :
    tree.enter trail path (location ++ [name]) = .inr ((path, target) :: trail) := by
  -- The scan leaves out only links that lead to a place on the trail.
  have unmet : trail.find? (fun step => decide (step.2 = target)) = none := by
    simpa [List.find?_eq_none] using new
  rw [Tree.enter, stands]
  simp only [leads, isDirectoryAt_iff.mpr directory, if_true, unmet]

/-- What a scan meets on a longer way it meets on the way before it, one level further. -/
theorem mem_scanBelow_of_enter {finding : Finding} {levels : Nat} {longer : Trail}
    (listed : name ∈ tree.names location)
    (entered : tree.enter ((base, location) :: above) (base.join ⟨name⟩) (location ++ [name]) =
      .inr longer) (met : finding ∈ tree.scanBelow levels longer) :
    finding ∈ tree.scanBelow (levels + 1) ((base, location) :: above) := by
  -- What is met below a directory is met through one of its names.
  refine List.mem_cons_of_mem _ (List.mem_flatMap.mpr ⟨name, listed, ?_⟩)
  rw [entered]
  exact met

/-- What a scan meets at the end of a way down it meets at the start of the way, more levels deep. -/
theorem Descent.mem_scanBelow_start (descent : Descent tree root trail) {finding : Finding}
    {levels : Nat} (met : finding ∈ tree.scanBelow levels trail) :
    ∃ location, tree.locate root = .ok location ∧ tree.node? location = some .directory ∧
      finding ∈ tree.scanBelow (levels + trail.length - 1) [(root, location)] := by
  -- The induction follows the way back to its start.
  induction descent generalizing levels with
  | start leads directory => exact ⟨_, leads, directory, met⟩
  | enter descent directory ih =>
    have listed := mem_names.mpr ⟨_, directory⟩
    obtain ⟨place, leads, stands, met⟩ :=
      ih (mem_scanBelow_of_enter listed (enter_eq_inr_of_directory directory) met)
    refine ⟨place, leads, stands, ?_⟩
    rwa [List.length_cons, ← Nat.add_assoc, Nat.add_right_comm]
  | follow descent stands leads directory new ih =>
    have listed := mem_names.mpr ⟨_, stands⟩
    obtain ⟨place, leads, stands, met⟩ :=
      ih (mem_scanBelow_of_enter listed (enter_eq_inr_of_link stands leads directory new) met)
    refine ⟨place, leads, stands, ?_⟩
    rwa [List.length_cons, ← Nat.add_assoc, Nat.add_right_comm]

/-- A scan with more levels meets no less. -/
theorem scanBelow_mono {finding : Finding} {levels : Nat} (more : Nat)
    (met : finding ∈ tree.scanBelow levels trail) :
    finding ∈ tree.scanBelow (levels + more) trail := by
  fun_induction tree.scanBelow levels trail with
  | case1 => cases met
  | case2 => cases met
  | case3 levels base location above trail ih =>
    -- With more levels the scan meets the directory itself and all it met below it.
    rw [Nat.succ_add, scanBelow]
    refine (List.mem_cons.mp met).elim (fun here => here ▸ List.mem_cons_self) fun inside => ?_
    obtain ⟨name, listed, met⟩ := List.mem_flatMap.mp inside
    refine List.mem_cons_of_mem _ (List.mem_flatMap.mpr ⟨name, listed, ?_⟩)
    split at met
    · rename_i entered
      rw [entered]
      exact met
    · rename_i entered
      rw [entered]
      exact ih _ met

end Descent

section Levels

/-- What is at or above an entry is an entry as well. -/
theorem stands_of_prefix (formed : WellFormed tree) {place : Location} {node : Node α}
    (stands : tree.node? location = some node) (above : place <+: location) :
    ∃ held, tree.node? place = some held := by
  -- The induction goes up from the entry.
  induction location using List.reverseRecOn generalizing node with
  | nil =>
    rw [List.prefix_nil.mp above]
    exact ⟨_, rfl⟩
  | append_singleton front name ih =>
    rcases List.prefix_concat_iff.mp above with here | higher
    · exact ⟨node, here ▸ stands⟩
    · have directory := formed.parent _ _ stands
      rw [List.dropLast_concat] at directory
      exact ih directory higher

/-- No entry lies deeper than there are entries. -/
theorem length_le_entries (formed : WellFormed tree) {node : Node α}
    (stands : tree.node? location = some node) : location.length ≤ tree.entries.length := by
  -- The location and those above it are different locations of entries.
  let places := (List.range location.length).map fun depth => location.take (depth + 1)
  have different : places.Nodup := by
    refine List.Nodup.map_on (fun first member second other same => ?_) List.nodup_range
    have lengths := congrArg List.length same
    rw [List.mem_range] at member other
    simp only [List.length_take] at lengths
    omega
  have entered : places ⊆ tree.entries.map Prod.fst := by
    intro place member
    obtain ⟨depth, within, rfl⟩ := List.mem_map.mp member
    rw [List.mem_range] at within
    obtain ⟨held, there⟩ := stands_of_prefix formed stands (List.take_prefix (depth + 1) location)
    unfold node? at there
    split at there
    · rename_i empty
      have lengths := congrArg List.length empty
      simp only [List.length_take, List.length_nil] at lengths
      omega
    · exact List.mem_map_of_mem (Keyed.mem_of_get? there)
  have fewer := (different.subperm entered).length_le
  simpa [places] using fewer

/-- The locations that a way down has not come through. -/
def unseen (tree : Tree α) (trail : Trail) : Finset Location :=
  ([] :: tree.entries.map Prod.fst).toFinset \ (trail.map Prod.snd).toFinset

/-- A way down that comes to a new location has fewer left. -/
theorem card_unseen_cons {trail : Trail} {path : Path} {node : Node α}
    (stands : tree.node? location = some node) (new : ∀ step ∈ trail, step.2 ≠ location) :
    (tree.unseen ((path, location) :: trail)).card < (tree.unseen trail).card := by
  -- The place stands in the tree and has not been passed, so it was still unseen.
  have place : location ∈ [] :: tree.entries.map Prod.fst := by
    unfold node? at stands
    split at stands
    · exact List.mem_cons_self
    · exact List.mem_cons_of_mem _ (List.mem_map_of_mem (Keyed.mem_of_get? stands))
  refine Finset.card_lt_card (Finset.ssubset_iff_of_subset (fun other => ?_) |>.mpr
    ⟨location, ?_, ?_⟩)
  · simp only [unseen, Finset.mem_sdiff, List.mem_toFinset, List.map_cons, List.mem_cons, not_or]
    exact fun ⟨present, _, left⟩ => ⟨present, left⟩
  · simp only [unseen, Finset.mem_sdiff, List.mem_toFinset]
    refine ⟨place, fun member => ?_⟩
    obtain ⟨step, passed, same⟩ := List.mem_map.mp member
    exact new step passed same
  · simp [unseen]

/-- A way down that goes on never has more left. -/
theorem card_unseen_le (step : Path × Location) (trail : Trail) :
    (tree.unseen (step :: trail)).card ≤ (tree.unseen trail).card := by
  -- One step more on the trail can only take a place away.
  refine Finset.card_le_card fun other => ?_
  simp only [unseen, Finset.mem_sdiff, List.mem_toFinset, List.map_cons, List.mem_cons, not_or]
  exact fun ⟨present, _, left⟩ => ⟨present, left⟩

/-- A way down is short enough for the levels of a scan.

Each link takes it to a new location, and between two links it only gets deeper. -/
theorem Descent.length_le (formed : WellFormed tree) {root path : Path} {above : Trail}
    (descent : Descent tree root ((path, location) :: above)) :
    above.length + 1 + (tree.unseen ((path, location) :: above)).card * (tree.entries.length + 1) +
      (tree.entries.length - location.length) ≤ (tree.entries.length + 1) * (tree.entries.length + 1) := by
  -- The induction follows the descent: a directory entered is one level deeper, and a link
  -- followed leaves one place fewer to be seen, which pays for starting at any depth again.
  generalize here : (path, location) :: above = trail at descent
  induction descent generalizing path location above with
  | @start location leads directory =>
    cases here
    -- The root is seen first, so one place of at most all entries and the top is gone.
    have less : (tree.unseen [(root, location)]).card < (tree.unseen []).card :=
      card_unseen_cons directory nofun
    have most : (tree.unseen []).card ≤ tree.entries.length + 1 := by
      refine (Finset.card_le_card Finset.sdiff_subset).trans ?_
      simpa using List.toFinset_card_le ([] :: tree.entries.map Prod.fst)
    have left : (tree.unseen [(root, location)]).card ≤ tree.entries.length := by omega
    have product := Nat.mul_le_mul_right (tree.entries.length + 1) left
    have square : (tree.entries.length + 1) * (tree.entries.length + 1) =
        tree.entries.length * (tree.entries.length + 1) + (tree.entries.length + 1) :=
      Nat.succ_mul _ _
    simp only [List.length_nil]
    omega
  | @enter path location above name descent directory ih =>
    cases here
    have bound := ih rfl
    -- Entering a directory keeps what is unseen at most and adds one to the depth.
    have deep := length_le_entries formed directory
    have left : (tree.unseen ((path.join ⟨name⟩, location ++ [name]) :: (path, location) ::
        above)).card ≤ (tree.unseen ((path, location) :: above)).card :=
      card_unseen_le _ _
    have product := Nat.mul_le_mul_right (tree.entries.length + 1) left
    simp only [List.length_append, List.length_cons, List.length_nil] at deep ⊢
    omega
  | @follow path location above name link target descent stands leads directory new ih =>
    cases here
    have bound := ih rfl
    -- The target was unseen, and its place makes up for whatever depth the scan goes on at.
    have left : (tree.unseen ((path.join ⟨name⟩, target) :: (path, location) :: above)).card <
        (tree.unseen ((path, location) :: above)).card := card_unseen_cons directory new
    have product := Nat.mul_le_mul_right (tree.entries.length + 1) left
    rw [Nat.succ_mul] at product
    simp only [List.length_cons]
    omega

end Levels

/-- A scan of a directory meets exactly the files that lie below it. -/
theorem mem_scan_iff (formed : WellFormed tree) (plain : Plain tree) {root path : Path}
    (directory : tree.isDirectory root = true) :
    .file path ∈ tree.scan root ↔ LiesBelow tree root path := by
  obtain ⟨location, leads, stands⟩ := isDirectory_iff.mp directory
  have scanned : tree.scan root = tree.scanBelow tree.levelLimit [(root, location)] := by
    simp only [scan, leads, isDirectoryAt_iff.mpr stands, if_true]
  rw [scanned]
  refine ⟨(Descent.start leads stands).liesBelow formed plain, ?_⟩
  rintro ⟨base, place, above, name, descent, listed, rfl, file⟩
  -- The file is met on the first level below the end of the way.
  have met : .file (base.join ⟨name⟩) ∈ tree.scanBelow 1 ((base, place) :: above) := by
    refine List.mem_cons_of_mem _ (List.mem_flatMap.mpr ⟨name, listed, ?_⟩)
    rcases descent.enter_cases formed plain listed with
      ⟨entered, _⟩ | ⟨fault, _, other⟩ | ⟨place, _, _, other⟩
    · rw [entered]
      exact List.mem_singleton_self _
    · rw [other] at file
      cases file
    · rw [other] at file
      cases file
  obtain ⟨start, found, _, met⟩ := descent.mem_scanBelow_start met
  cases leads.symm.trans found
  have bound := descent.length_le formed
  have enough : 1 + (above.length + 1) - 1 ≤ tree.levelLimit := by
    have larger : (tree.entries.length + 1) * (tree.entries.length + 1) ≤ tree.levelLimit :=
      Nat.mul_le_mul (Nat.le_succ _) (Nat.le_succ _)
    omega
  have more := scanBelow_mono (tree.levelLimit - (1 + (above.length + 1) - 1)) met
  rwa [List.length_cons, Nat.add_sub_cancel' enough] at more

section Spelling

variable {root other path : Path}

/-- A way down is there from every path that has the steps of its start. -/
theorem Descent.respell (formed : WellFormed tree) (plain : Plain tree)
    (same : root.components = other.components) {above : Trail}
    (descent : Descent tree root ((path, location) :: above)) :
    ∃ spelled trail, Descent tree other ((spelled, location) :: trail) ∧
      path.components = spelled.components ∧ trail.map Prod.snd = above.map Prod.snd := by
  -- The induction follows the way, each of whose steps adds the same name to both paths.
  generalize here : (path, location) :: above = trail at descent
  induction descent generalizing path location above with
  | start leads directory =>
    cases here
    exact ⟨other, [], .start (locate_directory same leads directory) directory, same, rfl⟩
  | @enter base place _ name descent directory ih =>
    cases here
    obtain ⟨spelled, trail, also, steps, passed⟩ := ih rfl
    obtain ⟨leads, inside, _⟩ := descent.last formed plain
    obtain ⟨found, _, _⟩ := also.last formed plain
    obtain ⟨_, joined, _⟩ := locate_join formed plain leads inside directory
    obtain ⟨_, continued, _⟩ := locate_join formed plain found inside directory
    exact ⟨_, _, also.enter directory, by rw [joined, continued, steps], by simp [passed]⟩
  | @follow base place before name _ target descent stands leads directory new ih =>
    cases here
    obtain ⟨spelled, trail, also, steps, passed⟩ := ih rfl
    obtain ⟨there, inside, _⟩ := descent.last formed plain
    obtain ⟨found, _, _⟩ := also.last formed plain
    obtain ⟨_, joined, _⟩ := locate_join formed plain there inside stands
    obtain ⟨_, continued, _⟩ := locate_join formed plain found inside stands
    have equal : (base.join ⟨name⟩).components = (spelled.join ⟨name⟩).components := by
      rw [joined, continued, steps]
    have unmet : ∀ step ∈ (spelled, place) :: trail, step.2 ≠ target := by
      intro step member
      have along : ((spelled, place) :: trail).map Prod.snd = ((base, place) :: before).map Prod.snd := by
        simp [passed]
      obtain ⟨earlier, stood, equal⟩ := List.mem_map.mp (along ▸ List.mem_map_of_mem member)
      exact equal ▸ new earlier stood
    exact ⟨_, _, also.follow stands (locate_directory equal leads directory) directory unmet, equal,
      by simp [passed]⟩

/-- What lies below a directory lies below every path that has the steps of the directory. -/
theorem LiesBelow.respell (formed : WellFormed tree) (plain : Plain tree)
    (same : root.components = other.components) (below : LiesBelow tree root path) :
    ∃ spelled, path.components = spelled.components ∧ LiesBelow tree other spelled := by
  obtain ⟨base, place, above, name, descent, listed, rfl, file⟩ := below
  obtain ⟨spelled, trail, also, steps, _⟩ := descent.respell formed plain same
  obtain ⟨leads, directory, _⟩ := descent.last formed plain
  obtain ⟨found, _, _⟩ := also.last formed plain
  obtain ⟨node, stands⟩ := mem_names.mp listed
  obtain ⟨_, joined, _⟩ := locate_join formed plain leads directory stands
  obtain ⟨_, continued, _⟩ := locate_join formed plain found directory stands
  have equal : (base.join ⟨name⟩).components = (spelled.join ⟨name⟩).components := by
    rw [joined, continued, steps]
  -- Both paths end with a name, and so lead to the same file.
  have firm : Firm tree (spelled.join ⟨name⟩) :=
    .inr (stepsOf_join spelled (isName_of_mem_names formed listed))
  obtain ⟨target, content, reached, contained⟩ := locate_of_isFile file
  refine ⟨_, equal, spelled, place, trail, name, also, listed, rfl, ?_⟩
  rw [isFile, find?_of_locate (firm.locate equal.symm reached), contained]

end Spelling

end Tree

end SolverHub
