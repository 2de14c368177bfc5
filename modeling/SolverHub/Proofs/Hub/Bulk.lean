import Mathlib
import SolverHub.Proofs.Hub.Merged
import SolverHub.Proofs.Hub.Serial
import SolverHub.Proofs.Loader.Sources

/-! Loading everything merges what compiles, in the order of the paths, and doing so again shows nothing new. -/

namespace SolverHub.Hub

/-- The paths whose files compile, each with its sets. -/
def compiled (hub : Hub) (paths : List Path) : List (Path × List ProblemSet) :=
  paths.filterMap fun path =>
    (hub.compiler.compile path (hub.tree.read? path)).toOption.map (path, ·)

/-- A file that does not compile adds nothing to those that do. -/
theorem compiled_cons_error {hub : Hub} {path : Path} {error : CompileError}
    (wrong : hub.compile path = .error error) (rest : List Path) :
    hub.compiled (path :: rest) = hub.compiled rest := by
  -- There are no sets to go with the path.
  have outcome : hub.compiler.compile path (hub.tree.read? path) = .error error := wrong
  simp [compiled, outcome, Except.toOption]

/-- A file that compiles comes with its sets in front of those behind it. -/
theorem compiled_cons_ok {hub : Hub} {path : Path} {sets : List ProblemSet}
    (right : hub.compile path = .ok sets) (rest : List Path) :
    hub.compiled (path :: rest) = (path, sets) :: hub.compiled rest := by
  -- The sets are those that the compiler makes of the content at the path.
  have outcome : hub.compiler.compile path (hub.tree.read? path) = .ok sets := right
  simp [compiled, outcome, Except.toOption]

/-- Hubs in which files compile to the same have the same files that compile. -/
theorem compiled_eq {hub other : Hub} {paths : List Path}
    (same : ∀ path ∈ paths, other.compile path = hub.compile path) :
    other.compiled paths = hub.compiled paths :=
  -- Whether a file is among those that compile depends on its own outcome only.
  List.filterMap_congr fun path member =>
    congrArg (fun outcome => outcome.toOption.map (path, ·)) (same path member)

/-- Only the files that compile matter to which files compile. -/
theorem compiled_filter_isOk (hub : Hub) (paths : List Path) :
    hub.compiled (paths.filter fun path => (hub.compile path).isOk) = hub.compiled paths := by
  rw [compiled, compiled, List.filterMap_filter]
  refine List.filterMap_congr fun path _ => ?_
  -- What does not compile is left out on both sides.
  unfold compile
  cases hub.compiler.compile path (hub.tree.read? path) <;> rfl

section Loading

variable (hub : Hub) {paths : List Path}

/-- Loading covered files merges those that compile. -/
theorem foldl_afterFile (covered : ∀ path ∈ paths, hub.scope.covers path = true) :
    paths.foldl afterFile hub = hub.mergeFiles (hub.compiled paths) := by
  -- The induction follows the paths, each of which is compiled as it would be at first.
  induction paths generalizing hub with
  | nil => rfl
  | cons path rest ih =>
    obtain ⟨first, others⟩ := List.forall_mem_cons.mp covered
    rw [List.foldl_cons]
    cases outcome : hub.compile path with
    | error error => rw [afterFile_error outcome, compiled_cons_error outcome, ih hub others]
    | ok sets =>
      have scope := scope_mergeFile hub path sets
      rw [afterFile_ok first outcome, compiled_cons_ok outcome,
        ih _ fun path member => by rw [scope, others path member]]
      rfl

/-- What a bulk load reports on some files: those that compile, those that do not, and all merge counts. -/
def reportOf (hub : Hub) (paths : List Path) : LoadReport where
  loaded := (hub.compiled paths).length
  failed := (paths.filter fun path => !(hub.compile path).isOk).length
  merged := (hub.hall.collections.map fun collection =>
    (collection.merges (batches hub.hall.numbered (hub.compiled paths))).2.sum).sum

/-- One more file that does not compile is counted as such, and changes nothing else. -/
theorem loadNext_error {path : Path} {error : CompileError} (covered : hub.scope.covers path = true)
    (wrong : hub.compile path = .error error) (report : LoadReport) :
    (loadNext (hub, report) path).value =
      (hub, { report with failed := report.failed + 1 }) := by
  -- The error is what loading the file comes to.
  rw [loadNext, loadFile, covered, wrong]
  rfl

/-- One more file that compiles is merged and counted with what it has merged. -/
theorem loadNext_ok {path : Path} {sets : List ProblemSet} (covered : hub.scope.covers path = true)
    (right : hub.compile path = .ok sets) (report : LoadReport) :
    (loadNext (hub, report) path).value = ((hub.mergeFile path sets).value.1,
      { report with
        loaded := report.loaded + 1
        merged := report.merged + (hub.mergeFile path sets).value.2 }) := by
  -- The merge count is what loading the file comes to.
  rw [loadNext, loadFile, covered, right]
  rfl

/-- Loading covered files one after another reports on all of them. -/
theorem foldl_loadNext (covered : ∀ path ∈ paths, hub.scope.covers path = true)
    (report : LoadReport) :
    (paths.foldl (fun state path => (loadNext state path).value) (hub, report)).2 =
      ⟨report.loaded + (hub.reportOf paths).loaded, report.failed + (hub.reportOf paths).failed,
        report.merged + (hub.reportOf paths).merged⟩ := by
  -- The induction follows the paths, with the hub and the report that the first one leads to.
  induction paths generalizing hub report with
  | nil => simp [reportOf, compiled, batches, Collection.merges]
  | cons path rest ih =>
    obtain ⟨first, others⟩ := List.forall_mem_cons.mp covered
    rw [List.foldl_cons]
    cases outcome : hub.compile path with
    | error error =>
      have wrong : (hub.compile path).isOk = false := by rw [outcome]; rfl
      rw [loadNext_error hub first outcome, ih hub others]
      simp [reportOf, compiled_cons_error outcome, wrong]
      omega
    | ok sets =>
      have left := compiled_cons_ok outcome rest
      have right : (hub.compile path).isOk = true := by rw [outcome]; rfl
      have scope := scope_mergeFile hub path sets
      have merged := hub.count_mergeFile path sets
      rw [loadNext_ok hub first outcome, ih _ fun path member => by rw [scope, others path member]]
      -- The first file counts in each collection before the others do.
      have sums : ((hub.mergeFile path sets).value.1.reportOf rest).merged +
          (hub.mergeFile path sets).value.2 = (hub.reportOf (path :: rest)).merged := by
        show (List.map _ (hub.mergeFile path sets).value.1.hall.collections).sum + _ =
          (List.map _ hub.hall.collections).sum
        rw [collections_mergeFile, numbered_mergeFile, merged, left, List.map_map, ← List.sum_map_add]
        refine congrArg List.sum (List.map_congr_left fun collection _ => ?_)
        exact Nat.add_comm _ _
      have counted : (hub.reportOf (path :: rest)).loaded =
          ((hub.mergeFile path sets).value.1.reportOf rest).loaded + 1 := by
        show (hub.compiled (path :: rest)).length = _
        rw [left]
        rfl
      have failed : (hub.reportOf (path :: rest)).failed =
          ((hub.mergeFile path sets).value.1.reportOf rest).failed := by
        show (List.filter _ (path :: rest)).length = _
        rw [List.filter_cons_of_neg (by simp [right])]
        rfl
      rw [← sums, counted, failed]
      simp only [LoadReport.mk.injEq, true_and]
      omega

/-- A bulk load loads its sources, all of which are covered. -/
theorem covers_of_mem_sources : ∀ path ∈ hub.scope.sources hub.tree, hub.scope.covers path = true := by
  -- Sources are filtered by what the scope covers.
  intro path source
  obtain ⟨_, _, among⟩ := List.mem_flatMap.mp (Path.mem_of_mem_sorted source)
  exact (List.mem_filter.mp among).2

/-- A bulk load merges the sources that compile. -/
theorem loadAll_fst : hub.loadAll.value.1 = hub.mergeFiles (hub.compiled (hub.scope.sources hub.tree)) := by
  rw [value_loadAll, foldl_afterFile hub hub.covers_of_mem_sources]

/-- A bulk load reports on its sources. -/
theorem loadAll_snd : hub.loadAll.value.2 = hub.reportOf (hub.scope.sources hub.tree) := by
  -- The report starts at zero and counts along the sources.
  simp only [loadAll, Logged.value_bind, Logged.value_foldlM, Logged.value_pure]
  exact (foldl_loadNext hub hub.covers_of_mem_sources ⟨0, 0, 0⟩).trans (by simp)

/-- As many files come with sets as compile. -/
theorem length_compiled (paths : List Path) :
    (hub.compiled paths).length = (paths.filter fun path => (hub.compile path).isOk).length := by
  -- The induction follows the paths, each of which counts on both sides or on none.
  induction paths with
  | nil => rfl
  | cons path rest ih =>
    cases outcome : hub.compile path with
    | error error =>
      rw [compiled_cons_error outcome, ih, List.filter_cons_of_neg (by rw [outcome]; nofun)]
    | ok sets =>
      rw [compiled_cons_ok outcome, List.filter_cons_of_pos (by rw [outcome]; rfl), List.length_cons,
        List.length_cons, ih]

/-- Every file either compiles or does not. -/
theorem loaded_add_failed (paths : List Path) :
    (hub.reportOf paths).loaded + (hub.reportOf paths).failed = paths.length := by
  -- Those that compile and those that do not are all of them together.
  show (hub.compiled paths).length + _ = _
  rw [length_compiled]
  exact (List.length_eq_length_filter_add _).symm

/-- Trees whose sources compile to the same load the same, whatever else fails to compile. -/
theorem hall_loadAll_of_sources {other : Tree Image}
    (kept : ∀ path ∈ hub.scope.sources other,
      path ∈ hub.scope.sources hub.tree ∧ other.read? path = hub.tree.read? path)
    (left : ∀ path ∈ hub.scope.sources hub.tree, path ∉ hub.scope.sources other →
      ∃ error, hub.compile path = .error error) :
    ({ hub with tree := other } : Hub).loadAll.value.1.hall = hub.loadAll.value.1.hall := by
  let elsewhere : Hub := { hub with tree := other }
  have same : ∀ path ∈ hub.scope.sources other, elsewhere.compile path = hub.compile path := by
    intro path source
    show hub.compiler.compile path (other.read? path) = _
    rw [(kept path source).2]
    rfl
  -- The sources that compile are the same in both trees, and in the same order.
  have sources : (hub.scope.sources other).filter (fun path => (hub.compile path).isOk) =
      (hub.scope.sources hub.tree).filter fun path => (hub.compile path).isOk := by
    refine eq_of_strictly_ordered ((hub.scope.pairwise_sources other).filter _)
      ((hub.scope.pairwise_sources hub.tree).filter _) fun path => ?_
    rw [List.mem_filter, List.mem_filter]
    refine ⟨fun ⟨source, right⟩ => ⟨(kept path source).1, right⟩, fun ⟨source, right⟩ => ⟨?_, right⟩⟩
    by_contra missing
    obtain ⟨error, wrong⟩ := left path source missing
    rw [wrong] at right
    cases right
  have files : elsewhere.compiled (hub.scope.sources other) =
      hub.compiled (hub.scope.sources hub.tree) := by
    rw [compiled_eq same, ← hub.compiled_filter_isOk (hub.scope.sources hub.tree), ← sources,
      compiled_filter_isOk]
  have loaded := elsewhere.loadAll_fst
  have first : elsewhere.loadAll.value.1.hall =
      (elsewhere.mergeFiles (hub.compiled (hub.scope.sources hub.tree))).hall := by
    rw [loaded, ← files]
    rfl
  rw [hub.loadAll_fst]
  exact first.trans (hub.hall_mergeFiles _ rfl)

/-- Loading everything again shows what loading it once has shown. -/
theorem loadAll_again (mirrors : Hall.Mirrors [] hub.hall) :
    let once := hub.loadAll.value.1
    let twice := once.loadAll.value.1
    twice.hall.collections.map Collection.info = once.hall.collections.map Collection.info ∧
      twice.hall.registries.map (fun registry => (registry.number, registry.index.identifiers)) =
        once.hall.registries.map fun registry => (registry.number, registry.index.identifiers) := by
  intro once twice
  have first : once = hub.mergeFiles (hub.compiled (hub.scope.sources hub.tree)) := hub.loadAll_fst
  -- The second load finds the same sources, which compile to the same sets.
  have scope : once.scope = hub.scope := by rw [first, scope_mergeFiles]
  have tree : once.tree = hub.tree := by rw [first, mergeFiles_eq]
  have compiler : once.compiler = hub.compiler := by rw [first, mergeFiles_eq]
  have files : once.compiled (once.scope.sources once.tree) =
      hub.compiled (hub.scope.sources hub.tree) := by
    rw [scope, tree]
    exact compiled_eq fun path _ => by rw [compile, compile, tree, compiler]
  have second : twice = once.mergeFiles (hub.compiled (hub.scope.sources hub.tree)) := by
    rw [← files]
    exact once.loadAll_fst
  have mirrored : Hall.Mirrors [] once.hall := by
    rw [first]
    exact mirrors_mergeFiles _ mirrors
  have again : Hall.Mirrors [] twice.hall := by
    rw [second]
    exact mirrors_mergeFiles _ mirrored
  have shown : twice.hall.collections.map Collection.info =
      once.hall.collections.map Collection.info := by
    rw [second, collections_mergeFiles, first, collections_mergeFiles, List.map_map, List.map_map,
      List.map_map]
    refine List.map_congr_left fun collection member => ?_
    obtain ⟨shelf, stands, rfl⟩ := List.mem_map.mp member
    obtain ⟨position, _, here⟩ := List.getElem_of_mem stands
    obtain ⟨pairs, holds⟩ := mirrors.merged position shelf (List.getElem?_eq_some_iff.mpr ⟨_, here⟩)
    exact Collection.info_merges_again holds (described_batches _ _ _)
  refine ⟨shown, ?_⟩
  -- The registries are the same, and each leads on what its collections show.
  have roster : twice.hall.roster.1 = once.hall.roster.1 := by rw [second, roster_mergeFiles]
  have lengths : twice.hall.registries.length = once.hall.registries.length := by
    simpa [Hall.roster] using congrArg List.length roster
  refine List.ext_getElem (by simpa using lengths) fun place within also => ?_
  rw [List.getElem_map, List.getElem_map]
  rw [List.length_map] at within also
  have entry : ((twice.hall.registries[place]).number, (twice.hall.registries[place]).members) =
      ((once.hall.registries[place]).number, (once.hall.registries[place]).members) := by
    have there := congrArg (fun list => list[place]?) roster
    simpa [Hall.roster, List.getElem?_eq_getElem within, List.getElem?_eq_getElem also] using there
  obtain ⟨number, members⟩ := Prod.mk.inj entry
  rw [number, mirrored.identifiers_eq again shown (List.getElem_mem also) (List.getElem_mem within)
    members]

end Loading

/-- A bulk load compiles each source once, in order, and merges what compiles into every collection.

The sources are the paths of the accepted files below the collection directories that exist, however
many of these contain them. Paths with the same steps are one source, and a file that two paths with
other steps lead to is two. Files that do not compile make no difference to the collections and their
registries, and loading everything again shows nothing new. -/
theorem loaded_loadAll (places : List (String × Year × String × Path)) (actions : List Hall.Action)
    (numbered : Nat) (notices : List Notice) (compiler : Compiler Image) {tree : Tree Image}
    (built : tree.Built) (watch : Option Watch) :
    let hall := { Hall.after places actions with numbered := numbered, notices := notices }
    let hub : Hub := ⟨hall, compiler, tree, watch⟩
    let sources := hub.scope.sources tree
    let once := hub.loadAll.value.1
    let report := hub.loadAll.value.2
    let merged := batches numbered (hub.compiled sources)
    (sources.Pairwise (fun first second => first.order second = .lt) ∧
      (∀ path ∈ sources, compiler.accepts path = true ∧ tree.isFile path = true ∧
        ∃ collection ∈ hall.collections, tree.isDirectory collection.directory = true ∧
          tree.LiesBelow collection.directory path) ∧
      (∀ collection ∈ hall.collections, tree.isDirectory collection.directory = true →
        ∀ path, tree.LiesBelow collection.directory path →
          (∀ spelled : Path, spelled.same path → compiler.accepts spelled = true) →
            ∃ source ∈ sources, source.same path) ∧
      ∃ count,
        let last := (Loading.start hub).play (.scan sources :: List.replicate count (.next .bulk))
        last.hub = once ∧ last.readings = sources.map hub.reading) ∧
    (once = hub.mergeFiles (hub.compiled sources) ∧
      once.hall.collections = hall.collections.map fun collection => (collection.merges merged).1) ∧
    (∀ other : Tree Image,
      (∀ path ∈ hub.scope.sources other,
        path ∈ sources ∧ other.read? path = tree.read? path) →
      (∀ path ∈ sources, path ∉ hub.scope.sources other →
        ∃ error, compiler.compile path (tree.read? path) = .error error) →
      ({ hub with tree := other } : Hub).loadAll.value.1.hall = once.hall) ∧
    (report.loaded + report.failed = sources.length ∧
      report.loaded =
        (sources.filter fun path => (compiler.compile path (tree.read? path)).isOk).length ∧
      report.failed =
        (sources.filter fun path => !(compiler.compile path (tree.read? path)).isOk).length ∧
      report.merged =
        (hall.collections.map fun collection => (collection.merges merged).2.sum).sum) ∧
    let twice := once.loadAll.value.1
    once.tree = tree ∧
      twice.hall.collections.map Collection.info = once.hall.collections.map Collection.info ∧
      twice.hall.registries.map (fun registry => (registry.number, registry.index.identifiers)) =
        once.hall.registries.map fun registry => (registry.number, registry.index.identifiers) := by
  intro hall hub sources once report merged
  have formed := built.wellFormed
  have plain := built.plain
  have mirrors : Hall.Mirrors [] hall := by
    have earlier := Hall.mirrors_after places actions
    exact ⟨earlier.merged, earlier.distinct, earlier.opened, earlier.listens, earlier.current⟩
  -- All that follows is about merging the files that compile and about counting them.
  have loaded : once = hub.mergeFiles (hub.compiled sources) := hub.loadAll_fst
  have reported : report = hub.reportOf sources := hub.loadAll_snd
  refine ⟨⟨hub.scope.pairwise_sources tree, fun path source => ?_,
    fun collection member exist path below accepted => ?_, ?_⟩, ⟨loaded, ?_⟩,
    fun other kept left => hub.hall_loadAll_of_sources kept left, ⟨?_, ?_, ?_, ?_⟩, ?_,
    hub.loadAll_again mirrors⟩
  · -- Whatever a scan finds lies below the directory in which it started.
    obtain ⟨covered, directory, listed, exist, below⟩ :=
      Scope.below_of_mem_sources formed plain source
    obtain ⟨collection, member, rfl⟩ := List.mem_map.mp listed
    have accepted : compiler.accepts path = true := (Bool.and_eq_true_iff.mp covered).1
    obtain ⟨_, _, _, _, _, _, _, file⟩ := id below
    exact ⟨accepted, file, collection, member, exist, below⟩
  · -- What lies below the directory of a collection is met by the scan of that directory.
    have listed : collection.directory ∈ hub.scope.directories := List.mem_map_of_mem member
    exact Scope.exists_source formed plain listed exist below accepted
  · exact Loading.exists_play_loadAll hub
  · rw [loaded]
    exact hub.collections_mergeFiles _
  · rw [reported]
    exact hub.loaded_add_failed sources
  · -- Each file that compiles is counted as one.
    rw [reported]
    exact hub.length_compiled sources
  · rw [reported]
    rfl
  · rw [reported]
    rfl
  · rw [loaded, mergeFiles_eq]

/-- A library with one set of one problem. -/
def singleLibrary : Image :=
  .library ⟨some 1, some [⟨"Day 1", Instant.epoch, [⟨"Part 1", none, fun _ _ => ⟨[], .ok ()⟩⟩], false, 0⟩]⟩

/-- The description of the set in the library, under an author. -/
def singleInfo (author : String) : SetInfo :=
  ⟨"Day 1", author, Instant.epoch, [⟨"Part 1", none⟩]⟩

/-- A library two directories below the root. -/
def nestedTree : Tree Image :=
  ⟨[(["a"], .directory), (["a", "b"], .directory), (["a", "b", "day.so"], .file singleLibrary)]⟩

/-- Collections over the root and over the directory below it. -/
def nestedPlaces : List (String × Year × String × Path) :=
  [("Advent of Code", 2023, "aoc", ⟨"/"⟩), ("Advent of Code", 2024, "aoc", ⟨"/a"⟩)]

/-- A hub with these collections and this tree. -/
def nestedHub : Hub :=
  ⟨{ Hall.after nestedPlaces [] with numbered := 0, notices := [] }, Library.compiler, nestedTree, none⟩

/-- A library below two collection directories is loaded once, into both, and loading it again shows nothing new. -/
theorem loaded_loadAll_nested :
    nestedTree.Built ∧
      let once := nestedHub.loadAll.value.1
      let report := nestedHub.loadAll.value.2
      nestedHub.scope.sources nestedTree = [⟨"/a/b/day.so"⟩] ∧
        (report.loaded = 1 ∧ report.failed = 0 ∧ report.merged = 2) ∧
        once.hall.collections.map (·.info.authors) =
          [[("a", [singleInfo "a"])], [("b", [singleInfo "b"])]] ∧
        once.loadAll.value.1.hall.collections.map Collection.info =
          once.hall.collections.map Collection.info := by
  have written : (Tree.empty : Tree Image).write ⟨"/a/b/day.so"⟩ singleLibrary =
      .ok (nestedTree, [.created ["a"], .created ["a", "b"], .created ["a", "b", "day.so"]]) := by cbv
  have built : nestedTree.Built := Tree.Built.empty.write written
  obtain ⟨_, ⟨_, merged⟩, _, ⟨_, loaded, failed, counted⟩, _, shown, _⟩ :=
    loaded_loadAll nestedPlaces [] 0 [] Library.compiler built none
  -- The library is one source, and each of the collections finds an author for its set.
  have single : nestedHub.scope.sources nestedTree = [⟨"/a/b/day.so"⟩] := by cbv
  change _ = nestedHub.hall.collections.map fun collection => (collection.merges
    (batches 0 (nestedHub.compiled (nestedHub.scope.sources nestedTree)))).1 at merged
  change _ = List.length (List.filter _ (nestedHub.scope.sources nestedTree)) at loaded failed
  change _ = List.sum (nestedHub.hall.collections.map fun collection => (collection.merges
    (batches 0 (nestedHub.compiled (nestedHub.scope.sources nestedTree)))).2.sum) at counted
  rw [single] at merged loaded failed counted
  refine ⟨built, single, ⟨loaded.trans ?_, failed.trans ?_, counted.trans ?_⟩, ?_, shown⟩
  · cbv
  · cbv
  · cbv
  · exact (congrArg (List.map (·.info.authors)) merged).trans (by cbv)

/-- A library in a directory, beside another directory. -/
def respelledTree : Tree Image :=
  ⟨[(["c"], .directory), (["c", "amy"], .directory), (["c", "amy", "day.so"], .file singleLibrary),
    (["d"], .directory)]⟩

/-- Collections over the same directory, of which the second one is written with a detour. -/
def respelledHub : Hub :=
  { ofCollections [.empty "Advent of Code" 2023 "aoc" ⟨"/c"⟩,
      .empty "Advent of Code" 2024 "aoc" ⟨"/d/../c"⟩] Library.compiler with tree := respelledTree }

/-- The scan from each of the directories meets the file below the directory as it is written. -/
theorem sources_respelled :
    respelledHub.scope.sources respelledTree = [⟨"/c/amy/day.so"⟩, ⟨"/d/../c/amy/day.so"⟩] := by
  have plain : respelledTree.locate ⟨"/c"⟩ = .ok ["c"] := by cbv
  have detour : respelledTree.locate ⟨"/d/../c"⟩ = .ok ["c"] := by cbv
  have first : respelledHub.scope.sourcesAmong (respelledTree.scan ⟨"/c"⟩) = [⟨"/c/amy/day.so"⟩] := by
    rw [Tree.scan, plain]
    decide +kernel
  have second : respelledHub.scope.sourcesAmong (respelledTree.scan ⟨"/d/../c"⟩) =
      [⟨"/d/../c/amy/day.so"⟩] := by
    rw [Tree.scan, detour]
    decide +kernel
  -- The directories come in order, and so do the paths of the file.
  have roots : respelledHub.scope.roots = [⟨"/c"⟩, ⟨"/d/../c"⟩] :=
    Path.sorted_of_pairwise (by decide +kernel)
  have present : ∀ root ∈ [⟨"/c"⟩, ⟨"/d/../c"⟩], respelledTree.isDirectory root = true :=
    List.forall_mem_cons.mpr ⟨Tree.isDirectory_iff.mpr ⟨_, plain, rfl⟩,
      List.forall_mem_singleton.mpr (Tree.isDirectory_iff.mpr ⟨_, detour, rfl⟩)⟩
  rw [Scope.sources, roots, List.filter_eq_self.mpr present, List.flatMap_cons, List.flatMap_cons, first, second]
  exact Path.sorted_of_pairwise (by decide +kernel)

/-- The file is loaded once for each of its paths. -/
theorem loaded_respelled : respelledHub.loadAll.value.2.loaded = 2 := by
  -- Both paths of the file compile, so both are counted as loaded.
  rw [loadAll_snd]
  show (respelledHub.compiled (respelledHub.scope.sources respelledTree)).length = 2
  rw [sources_respelled]
  cbv

/-- The only file is compiled and counted twice where two paths with different steps lead to it. -/
theorem not_loaded_loadAll_respelled :
    respelledTree.Built ∧
      respelledTree.entries.countP (fun entry => entry.2 matches .file _) = 1 ∧
      respelledTree.locate ⟨"/c/amy/day.so"⟩ = respelledTree.locate ⟨"/d/../c/amy/day.so"⟩ ∧
      respelledHub.scope.sources respelledTree = [⟨"/c/amy/day.so"⟩, ⟨"/d/../c/amy/day.so"⟩] ∧
      respelledHub.loadAll.value.2.loaded = 2 := by
  -- The tree is built by writing one file and making one directory.
  have written : (Tree.empty : Tree Image).write ⟨"/c/amy/day.so"⟩ singleLibrary =
      .ok (⟨[(["c"], .directory), (["c", "amy"], .directory),
        (["c", "amy", "day.so"], .file singleLibrary)]⟩,
        [.created ["c"], .created ["c", "amy"], .created ["c", "amy", "day.so"]]) := by cbv
  have made : Tree.makeDirectory ⟨[(["c"], .directory), (["c", "amy"], .directory),
      (["c", "amy", "day.so"], .file singleLibrary)]⟩ ⟨"/d"⟩ =
        .ok (respelledTree, [.created ["d"]]) := by cbv
  have built : respelledTree.Built := (Tree.Built.empty.write written).makeDirectory made
  exact ⟨built, by cbv, by cbv, sources_respelled, loaded_respelled⟩

end SolverHub.Hub
