import SolverHub.Proofs.Files.Built

/-! No entry of a file tree is called by two dots, which stand for the directory above. -/

namespace SolverHub

namespace Path

/-- No step of a path is a name of two dots. -/
theorem dots_not_mem (path : Path) : .name ".." ∉ path.components := by
  intro member
  rcases List.mem_append.mp member with lead | step
  · unfold lead? at lead
    split at lead <;> simp at lead
  · -- Two dots between slashes are the step upwards.
    obtain ⟨field, _, named⟩ := List.mem_filterMap.mp step
    unfold Component.ofField? at named
    split at named
    · cases named
    · split at named
      · cases named
      · rename_i plain
        have same : String.ofList field = ".." := by simpa using named
        exact plain (by simpa using congrArg String.toList same)

end Path

namespace Tree

variable {α : Type} {tree next : Tree α} {location : Location}

/-- No entry of a tree is called by two dots. -/
def Plain (tree : Tree α) : Prop :=
  ∀ location node, tree.node? location = some node → ".." ∉ location

/-- A walk comes by two dots nowhere where its steps have no such name. -/
theorem plain_walk {vacant : Bool} {links : Nat} {done : Location} {steps : List Component}
    (start : ".." ∉ done) (named : .name ".." ∉ steps)
    (found : tree.walk vacant links done steps = .ok location) : ".." ∉ location := by
  -- A name comes from the steps or from the target of a link.
  fun_induction tree.walk vacant links done steps with
  | case1 =>
    cases found
    exact start
  | case2 links done rest ih => exact ih List.not_mem_nil (fun member => named (.tail _ member)) found
  | case3 links done rest ih => exact ih start (fun member => named (.tail _ member)) found
  | case4 links done rest ih =>
    exact ih (fun member => start (List.dropLast_subset _ member))
      (fun member => named (.tail _ member)) found
  | case5 done name rest child links directory ih =>
    have deeper : ".." ∉ done ++ [name] := by
      simp only [List.mem_append, List.mem_singleton, not_or]
      exact ⟨start, fun same => named (same ▸ .head _)⟩
    exact ih deeper (fun member => named (.tail _ member)) found
  | case6 links done name rest child content file last
  | case10 links done name rest child none last =>
    have same : done ++ [name] = location := Except.ok.inj found
    rw [← same]
    simp only [List.mem_append, List.mem_singleton, not_or]
    exact ⟨start, fun same => named (same ▸ .head _)⟩
  | case9 done name rest child target links link ih =>
    refine ih start (fun member => ?_) found
    rcases List.mem_append.mp member with inside | behind
    · exact target.dots_not_mem inside
    · exact named (.tail _ behind)
  | case7 | case8 | case11 => cases found

/-- The location for an entry comes by two dots nowhere. -/
theorem plain_locateEntry {path : Path} (found : tree.locateEntry path = .ok location) :
    ".." ∉ location := by
  unfold locateEntry at found
  -- The names of an entry are those the walk has passed and the last name of the path.
  cases absolute : path.isAbsolute with
  | false =>
    simp only [absolute, Bool.not_false, if_true] at found
    split at found <;> cases found
  | true =>
    simp only [absolute, Bool.not_true, Bool.false_eq_true, if_false] at found
    split at found
    · rename_i name last
      obtain ⟨parent, walked, found⟩ := bind_eq_ok.mp found
      split at found
      · cases found
        have above : ".." ∉ parent := plain_walk (by simp)
          (fun member => path.dots_not_mem (List.dropLast_subset _ member)) walked
        simp only [List.mem_append, List.mem_singleton, not_or]
        exact ⟨above, fun same => path.dots_not_mem (same ▸ List.mem_of_getLast? last)⟩
      · cases found
    · cases found

/-- The location at which a path is written comes by two dots nowhere. -/
theorem plain_locateTarget {path : Path} (found : tree.locateTarget path = .ok location) :
    ".." ∉ location := by
  -- A walk from the top passes plain names only.
  unfold locateTarget at found
  split at found
  · exact plain_walk (by simp) (fun member => path.dots_not_mem (mem_components_of_stepsOf member))
      found
  · cases found

/-- An entry that is put at a plain location leaves a tree plain. -/
theorem Plain.put (plain : Plain tree) {node : Node α} (named : ".." ∉ location) :
    Plain (tree.put location node) := by
  intro place held found
  by_cases root : place = []
  · simp [root]
  by_cases below : location = []
  · -- The root stays a directory, whatever is put there.
    subst below
    obtain ⟨name, rest, rfl⟩ := List.exists_cons_of_ne_nil root
    have same : (tree.put [] node).node? (name :: rest) = tree.node? (name :: rest) :=
      (Keyed.get?_put [] (name :: rest) node tree.entries).trans (if_neg (List.cons_ne_nil _ _))
    exact plain _ held (same ▸ found)
  · rw [node?_put below] at found
    split at found
    · rename_i here
      exact here ▸ named
    · exact plain place held found

/-- Removing an entry leaves a tree plain. -/
theorem Plain.erase (plain : Plain tree) (below : location ≠ []) : Plain (tree.erase location) := by
  -- What is left stood in the tree before.
  intro place held found
  rw [node?_erase below] at found
  split at found
  · cases found
  · exact plain place held found

/-- Moving an entry to a plain location leaves a tree plain. -/
theorem Plain.move (plain : Plain tree) (formed : WellFormed tree) {source target : Location}
    (below : source ≠ []) (named : ".." ∉ target) : Plain (tree.move source target) := by
  intro place held found
  by_cases root : place = []
  · simp [root]
  obtain ⟨location, there, _, _, rfl⟩ := exists_of_node?_move formed below root found
  -- What has moved stands below the target, with the names it had behind the source.
  rw [relocated]
  split
  · simp only [List.mem_append, not_or]
    exact ⟨named, fun member => plain location held there (List.mem_of_mem_drop member)⟩
  · exact plain location held there

/-- A directory that is made leaves a tree plain. -/
theorem Plain.makeDirectory (plain : Plain tree) {path : Path} {touches : List Touch}
    (made : tree.makeDirectory path = .ok (next, touches)) : Plain next := by
  obtain ⟨location, located, made⟩ := bind_eq_ok.mp made
  -- The new directory stands where its path leads.
  split at made
  · cases made
  · cases made
    exact plain.put (plain_locateEntry located)

/-- A directory that may be there already leaves a tree plain. -/
theorem Plain.ensureDirectory (plain : Plain tree) {path : Path} {touches : List Touch}
    (made : tree.ensureDirectory path = .ok (next, touches)) : Plain next := by
  unfold Tree.ensureDirectory at made
  -- Where a directory stands already the tree stays as it is.
  split at made
  · rename_i found
    cases made
    exact plain.makeDirectory found
  · split at made
    · cases made
      exact plain
    · cases made

/-- Directories that may be there already leave a tree plain. -/
theorem Plain.ensureAll {paths : List Path} (plain : Plain tree) {touches : List Touch}
    (made : tree.ensureAll paths = .ok (next, touches)) : Plain next := by
  -- The induction follows the paths, from the tree with the first directory.
  induction paths generalizing tree touches with
  | nil =>
    cases made
    exact plain
  | cons path rest ih =>
    obtain ⟨⟨first, _⟩, ensured, made⟩ := bind_eq_ok.mp made
    obtain ⟨⟨last, _⟩, others, made⟩ := bind_eq_ok.mp made
    cases made
    exact ih (plain.ensureDirectory ensured) others

/-- A directory that is made with those above it leaves a tree plain. -/
theorem Plain.makeDirectories (plain : Plain tree) {path : Path} {touches : List Touch}
    (made : tree.makeDirectories path = .ok (next, touches)) : Plain next := by
  -- Either the directory alone or all that lead to it are made.
  unfold Tree.makeDirectories at made
  split at made
  · exact plain.ensureAll made
  · exact plain.ensureDirectory made

/-- A file that is written leaves a tree plain. -/
theorem Plain.write (plain : Plain tree) {path : Path} {content : α} {touches : List Touch}
    (written : tree.write path content = .ok (next, touches)) : Plain next := by
  rw [write_eq_deposit] at written
  obtain ⟨⟨made, earlier⟩, prepared, placed⟩ := bind_eq_ok.mp written
  have plain : Plain made := by
    cases above : path.parent? with
    | none =>
      rw [above] at prepared
      cases prepared
      exact plain
    | some parent =>
      rw [above] at prepared
      exact plain.makeDirectories prepared
  obtain ⟨location, located, placed⟩ := bind_eq_ok.mp placed
  -- Wherever the content comes to stand, its location has been walked to.
  have filled : Plain (made.put location (.file content)) :=
    plain.put (plain_locateTarget located)
  split at placed <;> cases placed <;> exact filled

/-- No entry is called by two dots in a tree that comes about by changes. -/
theorem Built.plain (built : Built tree) : Plain tree := by
  -- The induction follows the changes, each of which names entries by the steps of paths.
  induction built with
  | empty =>
    intro location node found
    cases location with
    | nil => simp
    | cons name rest => cases found
  | makeDirectory _ made plain => exact plain.makeDirectory made
  | makeDirectories _ made plain => exact plain.makeDirectories made
  | write _ written plain => exact plain.write written
  | remove _ removed plain =>
    obtain ⟨location, located, removed⟩ := bind_eq_ok.mp removed
    obtain ⟨parent, name, rfl, _⟩ := locateEntry_ok located
    split at removed
    · cases removed
    · cases removed
      exact plain.erase (List.append_ne_nil_of_right_ne_nil _ (List.cons_ne_nil _ _))
  | makeLink _ linked plain =>
    unfold Tree.makeLink at linked
    dsimp only at linked
    split at linked
    · cases linked
    · obtain ⟨location, located, linked⟩ := bind_eq_ok.mp linked
      split at linked
      · cases linked
      · cases linked
        exact plain.put (plain_locateEntry located)
  | rename built renamed plain =>
    obtain ⟨source, located, renamed⟩ := bind_eq_ok.mp renamed
    obtain ⟨goal, aimed, renamed⟩ := bind_eq_ok.mp renamed
    obtain ⟨_, _, rfl, _⟩ := locateEntry_ok located
    dsimp only at renamed
    split at renamed
    · split at renamed
      · cases renamed
      · cases renamed
        exact plain
    · split at renamed
      · cases renamed
      · split at renamed
        · cases renamed
        · obtain ⟨_, _, renamed⟩ := bind_eq_ok.mp renamed
          cases renamed
          exact plain.move built.wellFormed
            (List.append_ne_nil_of_right_ne_nil _ (List.cons_ne_nil _ _)) (plain_locateEntry aimed)

end Tree

end SolverHub
