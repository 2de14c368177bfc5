import Mathlib.Data.List.Lex
import Mathlib.Data.String.Basic
import SolverHub.Files.Change
import SolverHub.Proofs.Files.Names
import SolverHub.Proofs.Guard
import SolverHub.Proofs.Keyed

/-! Writing a file puts a content at one location, and all paths that led somewhere lead there still. -/

namespace SolverHub

/-- A node without the content of its file. -/
def Node.shape {α : Type} : Node α → Node Unit
  | .directory => .directory
  | .file _ => .file ()
  | .link target => .link target

namespace Tree

variable {α : Type} {tree next : Tree α} {location other : Location}

/-- A tree keeps the entries of another one, but for the contents of files. -/
def Keeps (tree next : Tree α) : Prop :=
  ∀ location node, tree.node? location = some node →
    ∃ later, next.node? location = some later ∧ later.shape = node.shape

/-- A tree has all entries of another one as they are there. -/
def Extends (tree next : Tree α) : Prop :=
  ∀ location node, tree.node? location = some node → next.node? location = some node

/-- What is extended is kept, also where contents change later. -/
theorem Extends.keeps {last : Tree α} (longer : Extends tree next) (keeps : Keeps next last) :
    Keeps tree last := fun location node found => keeps location node (longer location node found)

/-- A directory that is kept is a directory. -/
theorem Keeps.directory (keeps : Keeps tree next) (found : tree.node? location = some .directory) :
    next.node? location = some .directory := by
  -- No other kind of node has the same shape.
  obtain ⟨later, there, same⟩ := keeps location _ found
  cases later <;> simp_all [Node.shape]

/-- A link that is kept has its target. -/
theorem Keeps.link {target : Path} (keeps : Keeps tree next)
    (found : tree.node? location = some (.link target)) :
    next.node? location = some (.link target) := by
  -- The kind of what stands there is kept, and for a link the kind has its target.
  obtain ⟨later, there, same⟩ := keeps location _ found
  cases later <;> simp_all [Node.shape]

/-- A file that is kept has some content. -/
theorem Keeps.file {content : α} (keeps : Keeps tree next)
    (found : tree.node? location = some (.file content)) :
    ∃ later, next.node? location = some (.file later) := by
  -- The kind of what stands there is kept, but not what a file holds.
  obtain ⟨later, there, same⟩ := keeps location _ found
  cases later <;> simp_all [Node.shape]

/-- Putting an entry somewhere leaves the entries elsewhere. -/
theorem node?_put {node : Node α} (below : location ≠ []) (other : Location) :
    (tree.put location node).node? other =
      if other = location then some node else tree.node? other := by
  -- The top is always a directory, and every other place is an entry.
  cases other with
  | nil => rw [if_neg below.symm]; rfl
  | cons name rest => exact Keyed.get?_put location (name :: rest) node tree.entries

/-- The root is no place to put anything. -/
theorem ne_nil_of_node? (other : tree.node? location ≠ some .directory) : location ≠ [] := by
  -- A directory stands at the top.
  rintro rfl
  exact other rfl

/-- An entry that is put where nothing is leaves all others. -/
theorem extends_put {node : Node α} (vacant : tree.node? location = none) :
    Extends tree (tree.put location node) := by
  intro place held found
  have below : location ≠ [] := ne_nil_of_node? (by rw [vacant]; nofun)
  -- What is found somewhere is not at the place where nothing is.
  have elsewhere : place ≠ location := by
    rintro rfl
    rw [vacant] at found
    cases found
  rw [node?_put below, if_neg elsewhere, found]

/-- A content that is put into a file leaves all entries. -/
theorem keeps_put_file {content earlier : α} (held : tree.node? location = some (.file earlier)) :
    Keeps tree (tree.put location (.file content)) := by
  intro place node found
  have below : location ≠ [] := ne_nil_of_node? (by rw [held]; nofun)
  rw [node?_put below]
  by_cases here : place = location
  · -- The file is still one, with another content.
    subst here
    rw [held] at found
    cases found
    exact ⟨_, if_pos rfl, rfl⟩
  · exact ⟨node, by rw [if_neg here, found], rfl⟩

/-- The entries of a tree are in order, and each one lies in a directory and has a name there. -/
structure WellFormed (tree : Tree α) : Prop where
  sorted : Keyed.Sorted tree.entries
  parent : ∀ location node, tree.node? location = some node →
    tree.node? location.dropLast = some .directory
  named : ∀ location node, tree.node? location = some node → ∀ name ∈ location, IsName name

/-- A tree without entries is well formed. -/
theorem wellFormed_empty : WellFormed (empty : Tree α) := by
  -- The root is the only entry that is found.
  have root {location : Location} {node : Node α} (found : empty.node? location = some node) :
      location = [] := by
    cases location with
    | nil => rfl
    | cons name rest => cases found
  refine ⟨List.Pairwise.nil, fun location node found => ?_, fun location node found => ?_⟩
  · rw [root found]
    rfl
  · rw [root found]
    nofun

/-- An entry that is put under a name in a directory leaves a tree well formed. -/
theorem WellFormed.put (formed : WellFormed tree) {node : Node α} {name : String}
    (above : tree.node? location = some .directory) (named : IsName name)
    (free : tree.node? (location ++ [name]) ≠ some .directory) :
    WellFormed (tree.put (location ++ [name]) node) := by
  have below : location ++ [name] ≠ [] := List.append_ne_nil_of_right_ne_nil _ (List.cons_ne_nil _ _)
  -- The new entry stands in the place of no directory, so all directories stay.
  have directory {place : Location} (found : tree.node? place = some .directory) :
      (tree.put (location ++ [name]) node).node? place = some .directory := by
    have elsewhere : place ≠ location ++ [name] := fun same => free (same ▸ found)
    rw [node?_put below, if_neg elsewhere, found]
  refine ⟨Keyed.sorted_alter formed.sorted _ _, fun place held found => ?_,
    fun place held found => ?_⟩
  · rw [node?_put below] at found
    split at found
    · rename_i here
      -- The new entry lies in the directory that it was put into.
      rw [here, List.dropLast_concat]
      exact directory above
    · exact directory (formed.parent place held found)
  · rw [node?_put below] at found
    split at found
    · rename_i here
      intro part member
      rw [here, List.mem_append, List.mem_singleton] at member
      rcases member with earlier | last
      · exact formed.named location _ above part earlier
      · exact last ▸ named
    · exact formed.named place held found

section Walk

variable {vacant : Bool} {links : Nat} {done : Location} {name : String} {rest : List Component}

/-- A walk goes on below a directory. -/
theorem walk_directory (here : tree.node? (done ++ [name]) = some .directory) :
    tree.walk vacant links done (.name name :: rest) =
      tree.walk vacant links (done ++ [name]) rest := by
  -- The walk turns into the directory of the name.
  rw [walk.eq_def]
  simp only [here]

/-- A walk ends at a file. -/
theorem walk_file {content : α} (here : tree.node? (done ++ [name]) = some (.file content)) :
    tree.walk vacant links done (.name name :: rest) =
      if rest.isEmpty then .ok (done ++ [name]) else .error .notDirectory := by
  -- A file ends the walk, so nothing may be left of the path.
  rw [walk.eq_def]
  simp only [here]

/-- A walk goes on along the target of a link. -/
theorem walk_link {target : Path} (here : tree.node? (done ++ [name]) = some (.link target)) :
    tree.walk vacant (links + 1) done (.name name :: rest) =
      tree.walk vacant links done (target.components ++ rest) := by
  -- The target takes the place of the name, for one of the links that may be followed.
  rw [walk.eq_def]
  simp only [here]

/-- A walk fails at one link too many. -/
theorem walk_link_zero {target : Path} (here : tree.node? (done ++ [name]) = some (.link target)) :
    tree.walk vacant 0 done (.name name :: rest) = .error .tooManyLinks := by
  -- No more links may be followed.
  rw [walk.eq_def]
  simp only [here]

/-- A walk ends where nothing is, which may be allowed at its last step. -/
theorem walk_none (here : tree.node? (done ++ [name]) = none) :
    tree.walk vacant links done (.name name :: rest) =
      if vacant && rest.isEmpty then .ok (done ++ [name]) else .error .missing := by
  -- An absent last name is a place only for what is still to be made.
  rw [walk.eq_def]
  simp only [here]

/-- The names along a path are those of its steps. -/
theorem mem_components_of_stepsOf {path : Path} (member : .name name ∈ stepsOf path) :
    .name name ∈ path.components := by
  -- The step that may be added stands for staying and is no name.
  unfold stepsOf at member
  split at member
  all_goals simpa using member

/-- A walk from a directory ends at a directory, or at a name in a directory that no link has. -/
theorem walk_lands (formed : WellFormed tree) {steps : List Component}
    (start : tree.node? done = some .directory)
    (named : ∀ name, .name name ∈ steps → IsName name)
    (found : tree.walk vacant links done steps = .ok location) :
    tree.node? location = some .directory ∨
      ∃ parent name, location = parent ++ [name] ∧ tree.node? parent = some .directory ∧
        IsName name ∧ (tree.node? location = none ∨ ∃ content, tree.node? location = some (.file content)) := by
  -- The walk stays in directories until it ends at its last step.
  fun_induction tree.walk vacant links done steps with
  | case1 =>
    cases found
    exact .inl start
  | case2 links done rest ih => exact ih rfl (fun name member => named name (.tail _ member)) found
  | case3 links done rest ih => exact ih start (fun name member => named name (.tail _ member)) found
  | case4 links done rest ih =>
    exact ih (formed.parent _ _ start) (fun name member => named name (.tail _ member)) found
  | case5 done name rest child links directory ih =>
    exact ih directory (fun name member => named name (.tail _ member)) found
  | case6 links done name rest child content file last =>
    have same : done ++ [name] = location := Except.ok.inj found
    exact .inr ⟨done, name, same.symm, start, named name (.head _), .inr ⟨content, same ▸ file⟩⟩
  | case9 done name rest child target links link ih =>
    -- The names along the target of a link are names as well.
    refine ih start (fun name member => ?_) found
    rcases List.mem_append.mp member with inside | behind
    · exact Path.isName_of_mem inside
    · exact named name (.tail _ behind)
  | case10 links done name rest child none last =>
    have same : done ++ [name] = location := Except.ok.inj found
    exact .inr ⟨done, name, same.symm, start, named name (.head _), .inl (same ▸ none)⟩
  | case7 | case8 | case11 => cases found

/-- Steps that led to a place lead there as long as the entries are kept.

Where the place was vacant a file has to be there by now. -/
theorem walk_of_keeps (keeps : Keeps tree next) {steps : List Component}
    (found : tree.walk vacant links done steps = .ok location)
    (filled : vacant = true → ∃ content, next.node? location = some (.file content)) :
    next.walk false links done steps = .ok location := by
  -- The cases are those of the walk, which meets the same kinds of entries in the later tree.
  fun_induction tree.walk vacant links done steps with
  | case1 => simpa only [walk] using found
  | case2 _ _ _ ih | case3 _ _ _ ih | case4 _ _ _ ih =>
    rw [walk]
    exact ih found
  | case5 done name rest child links directory ih =>
    rw [walk_directory (keeps.directory directory)]
    exact ih found
  | case6 links done name rest child content file last =>
    obtain ⟨later, there⟩ := keeps.file file
    rw [walk_file there, if_pos last]
    exact found
  | case9 done name rest child target links link ih =>
    rw [walk_link (keeps.link link)]
    exact ih found
  | case10 links done name rest child none last =>
    -- Nothing was at the last place, which has been filled since.
    obtain ⟨allowed, last⟩ := Bool.and_eq_true_iff.mp last
    obtain ⟨content, there⟩ := filled allowed
    have same : done ++ [name] = location := Except.ok.inj found
    rw [← same] at there
    rw [walk_file there, if_pos last]
    exact found
  | case7 | case8 | case11 => cases found

end Walk

/-- A path that led somewhere leads there as long as the entries are kept. -/
theorem locate_of_keeps {path : Path} (keeps : Keeps tree next)
    (found : tree.locate path = .ok location) : next.locate path = .ok location := by
  unfold locate at found ⊢
  -- Only an absolute path leads anywhere, and its walk is kept.
  split at found
  · rename_i absolute
    rw [if_pos absolute]
    exact walk_of_keeps keeps found nofun
  · cases found

/-- A directory is at a location where one is found. -/
theorem isDirectoryAt_iff :
    tree.isDirectoryAt location = true ↔ tree.node? location = some .directory := by
  -- A directory is the only thing that counts as one.
  unfold isDirectoryAt
  split <;> simp_all

/-- The location for an entry is that of a name in a directory. -/
theorem locateEntry_ok {path : Path} (found : tree.locateEntry path = .ok location) :
    ∃ parent name, location = parent ++ [name] ∧ tree.node? parent = some .directory ∧ IsName name := by
  -- A relative path has no location, and neither has an absolute one whose last step is no name.
  unfold locateEntry at found
  cases absolute : path.isAbsolute with
  | false =>
    simp only [absolute, Bool.not_false, if_true] at found
    split at found <;> cases found
  | true =>
    simp only [absolute, Bool.not_true, Bool.false_eq_true, if_false] at found
    split at found
    · rename_i name last
      obtain ⟨parent, _, found⟩ := bind_eq_ok.mp found
      split at found
      · rename_i directory
        cases found
        have member := Path.isName_of_mem (List.mem_of_getLast? last)
        exact ⟨parent, name, rfl, isDirectoryAt_iff.mp directory, member⟩
      · cases found
    · cases found

/-- Directories that are made leave all entries, and a well-formed tree so. -/
def Grows (tree next : Tree α) : Prop :=
  Extends tree next ∧ (WellFormed tree → WellFormed next)

/-- A tree grows to itself. -/
theorem Grows.refl (tree : Tree α) : Grows tree tree := ⟨fun _ _ found => found, id⟩

/-- A tree that grows twice grows. -/
theorem Grows.trans {last : Tree α} (first : Grows tree next) (second : Grows next last) :
    Grows tree last :=
  -- What stays in the first step stays in the second one.
  ⟨fun place node found => second.1 place node (first.1 place node found), second.2 ∘ first.2⟩

/-- A directory that is made is put where nothing was. -/
theorem grows_makeDirectory {path : Path} {touches : List Touch}
    (made : tree.makeDirectory path = .ok (next, touches)) : Grows tree next := by
  unfold makeDirectory at made
  obtain ⟨location, located, made⟩ := bind_eq_ok.mp made
  obtain ⟨parent, name, rfl, above, named⟩ := locateEntry_ok located
  -- A directory is made only where nothing stands, below a directory.
  split at made
  · cases made
  · rename_i vacant
    have vacant : tree.node? (parent ++ [name]) = none := by simpa using vacant
    cases made
    exact ⟨extends_put vacant, fun formed => formed.put above named (by rw [vacant]; nofun)⟩

/-- A tree grows to one in which a directory is there. -/
theorem grows_ensureDirectory {path : Path} {touches : List Touch}
    (made : tree.ensureDirectory path = .ok (next, touches)) : Grows tree next := by
  unfold ensureDirectory at made
  split at made
  · rename_i found
    cases made
    exact grows_makeDirectory found
  · split at made
    · -- The directory was there before.
      cases made
      exact .refl tree
    · cases made

/-- A tree grows to one in which some directories are there. -/
theorem grows_ensureAll {paths : List Path} {touches : List Touch}
    (made : tree.ensureAll paths = .ok (next, touches)) : Grows tree next := by
  -- The induction follows the paths, each of which the tree grows for.
  induction paths generalizing tree touches with
  | nil =>
    cases made
    exact .refl _
  | cons path rest ih =>
    obtain ⟨⟨first, _⟩, ensured, made⟩ := bind_eq_ok.mp made
    obtain ⟨⟨last, _⟩, others, made⟩ := bind_eq_ok.mp made
    cases made
    exact (grows_ensureDirectory ensured).trans (ih others)

/-- A tree grows to one in which a directory is there with all those above it. -/
theorem grows_makeDirectories {path : Path} {touches : List Touch}
    (made : tree.makeDirectories path = .ok (next, touches)) : Grows tree next := by
  -- Either the directory alone or all that lead to it are made.
  unfold makeDirectories at made
  split at made
  · exact grows_ensureAll made
  · exact grows_ensureDirectory made

/-- A file gets a content in a tree in which directories have been made for it. -/
def deposit (path : Path) (content : α) (prepared : Tree α × List Touch) :
    Except Fault (Tree α × List Touch) := do
  let location ← prepared.1.locateTarget path
  let filled := prepared.1.put location (.file content)
  match prepared.1.node? location with
  | some .directory => throw .isDirectory
  | some _ => return (filled, prepared.2 ++ [.modified location])
  | none => return (filled, prepared.2 ++ [.created location])

/-- What follows the directories is the same whether the path has a parent or not. -/
theorem write_eq_deposit (tree : Tree α) (path : Path) (content : α) :
    tree.write path content =
      path.parent?.elim (.ok (tree, [])) tree.makeDirectories >>= deposit path content := by
  -- Before the file itself come the directories above it, if it has a parent.
  rw [write]
  cases path.parent? <;> rfl

/-- Writing makes directories first, and then puts the content where no directory is. -/
theorem write_steps {path : Path} {content : α} {touches : List Touch}
    (written : tree.write path content = .ok (next, touches)) :
    ∃ made location, Grows tree made ∧ made.locateTarget path = .ok location ∧
      made.node? location ≠ some .directory ∧ next = made.put location (.file content) := by
  rw [write_eq_deposit] at written
  obtain ⟨⟨made, earlier⟩, prepared, placed⟩ := bind_eq_ok.mp written
  -- Directories are made only for a path that has a parent.
  have grows : Grows tree made := by
    cases above : path.parent? with
    | none =>
      rw [above] at prepared
      cases prepared
      exact .refl tree
    | some parent =>
      rw [above] at prepared
      exact grows_makeDirectories prepared
  obtain ⟨location, located, placed⟩ := bind_eq_ok.mp placed
  refine ⟨made, location, grows, located, ?_⟩
  -- What is in the way is a directory, another entry or nothing.
  split at placed
  · cases placed
  · rename_i node other found
    cases placed
    exact ⟨fun same => other (Option.some.inj (found.symm.trans same)), rfl⟩
  · rename_i vacant
    cases placed
    exact ⟨by rw [vacant]; nofun, rfl⟩

/-- Writing to a path changes the file at one location, which the path leads to from then on. -/
structure Writes (tree next : Tree α) (path : Path) (content : α) (location : Location) : Prop where
  formed : WellFormed next
  keeps : Keeps tree next
  located : next.locate path = .ok location
  content : next.node? location = some (.file content)
  elsewhere : ∀ other node, other ≠ location → tree.node? other = some node →
    next.node? other = some node

/-- A well-formed tree that is written to gets the content at the location of the path. -/
theorem writes_of_write (formed : WellFormed tree) {path : Path} {content : α} {touches : List Touch}
    (written : tree.write path content = .ok (next, touches)) :
    ∃ location, Writes tree next path content location := by
  obtain ⟨made, location, ⟨grows, stays⟩, located, free, rfl⟩ := write_steps written
  have formed := stays formed
  unfold locateTarget at located
  split at located
  · rename_i absolute
    have names (name : String) (member : .name name ∈ stepsOf path) : IsName name :=
      Path.isName_of_mem (mem_components_of_stepsOf member)
    -- The walk has not ended at a directory, so it has ended at a name in one.
    obtain ⟨parent, name, rfl, above, named, vacant⟩ :=
      (walk_lands formed rfl names located).resolve_left free
    have below : parent ++ [name] ≠ [] := ne_nil_of_node? free
    have filled : (made.put (parent ++ [name]) (.file content)).node? (parent ++ [name]) =
        some (.file content) := by
      rw [node?_put below, if_pos rfl]
    -- The content comes to a place where nothing was or into a file, so all entries are kept.
    have keeps : Keeps made (made.put (parent ++ [name]) (.file content)) := by
      rcases vacant with vacant | ⟨held, file⟩
      · exact (extends_put vacant).keeps fun _ node found => ⟨node, found, rfl⟩
      · exact keeps_put_file file
    refine ⟨parent ++ [name], formed.put above named free, grows.keeps keeps, ?_, filled,
      fun other node apart found => ?_⟩
    · rw [locate, if_pos absolute]
      exact walk_of_keeps keeps located fun _ => ⟨content, filled⟩
    · rw [node?_put below, if_neg apart, grows other node found]
  · cases located

end Tree

end SolverHub
