import Mathlib.Data.String.Basic
import SolverHub.Catalogue.Snapshot
import SolverHub.Proofs.Catalogue.Advertised
import SolverHub.Proofs.Json.Fields
import SolverHub.Proofs.Time.Rfc3339

/-! A snapshot is read back from the text that it travels as, with all its release times. -/

namespace SolverHub

/-- A list stays as it is exactly if each of its items does. -/
theorem map_eq_self_iff {α : Type} {form : α → α} {items : List α} :
    items.map form = items ↔ ∀ item ∈ items, form item = item := by
  -- Staying as it is means to be changed as by nothing.
  have same := List.map_inj_left (l := items) (f := form) (g := id)
  rwa [List.map_id] at same

namespace ProblemInfo

/-- The description of a problem is read back from its JSON form. -/
theorem ofJson?_toJson (problem : ProblemInfo) : ofJson? problem.toJson = some problem := by
  simp [ofJson?, toJson, Json.fieldsOf?]

/-- The JSON form of a problem's description is plain. -/
theorem isPlain_toJson (problem : ProblemInfo) : Json.IsPlain problem.toJson := by
  simp [toJson]

end ProblemInfo

namespace SetInfo

/-- The description of a set whose release time is settled. -/
def settled (set : SetInfo) : SetInfo :=
  { set with released := set.released.settled }

/-- The description of a set is read back from its JSON form with a settled release time. -/
theorem ofJson?_toJson (set : SetInfo) : ofJson? set.toJson = some set.settled := by
  -- Everything but the release time is read back as it is.
  have problems : Json.itemsOf? ProblemInfo.ofJson? (.list (set.problems.map ProblemInfo.toJson)) =
      some set.problems := Json.itemsOf?_map fun problem _ => problem.ofJson?_toJson
  simp [ofJson?, toJson, Json.fieldsOf?, set.released.read?_render, problems, settled]

/-- The description of a set is settled already exactly if its release time is. -/
theorem settled_eq_self_iff {set : SetInfo} : set.settled = set ↔ set.released.Timely := by
  rw [← Instant.settled_eq_self_iff]
  -- Nothing but the release time changes.
  exact ⟨fun same => congrArg released same, fun same => by rw [settled, same]⟩

/-- The JSON form of a set's description is plain. -/
theorem isPlain_toJson (set : SetInfo) : Json.IsPlain set.toJson := by
  simp [toJson, ProblemInfo.isPlain_toJson]

end SetInfo

namespace CollectionInfo

/-- The sets of an author with settled release times. -/
def settledEntry (entry : String × List SetInfo) : String × List SetInfo :=
  (entry.1, entry.2.map SetInfo.settled)

/-- The description of a collection whose release times are settled. -/
def settled (collection : CollectionInfo) : CollectionInfo :=
  { collection with authors := collection.authors.map settledEntry }

/-- The description of a collection is read back from its JSON form with settled release times. -/
theorem ofJson?_toJson {collection : CollectionInfo} (sorted : Keyed.Sorted collection.authors) :
    ofJson? collection.toJson = some collection.settled := by
  have each : (collection.authors.map fun entry =>
      (entry.1, Json.list (entry.2.map SetInfo.toJson))).mapM authorSets? =
        some (collection.authors.map settledEntry) := by
    refine Json.mapM_map_of fun entry _ => ?_
    have sets : Json.itemsOf? SetInfo.ofJson? (.list (entry.2.map SetInfo.toJson)) =
        some (entry.2.map SetInfo.settled) := Json.itemsOf?_map_of fun set _ => set.ofJson?_toJson
    simp [authorSets?, sets, settledEntry]
  -- Settling leaves the names of the authors, so they stay in order.
  have ordered : Keyed.Sorted (collection.authors.map settledEntry) := List.pairwise_map.mpr sorted
  simp [ofJson?, toJson, Json.fieldsOf?, authorsOf?, Json.entries?, each,
    Keyed.ofPairs_of_sorted ordered, settled]

/-- The release times of the sets in a collection. -/
def releases (collection : CollectionInfo) : List Instant :=
  collection.authors.flatMap fun author => author.2.map SetInfo.released

/-- The description of a collection is settled already exactly if all its release times are. -/
theorem settled_eq_self_iff {collection : CollectionInfo} :
    collection.settled = collection ↔ ∀ released ∈ collection.releases, released.Timely := by
  have settles : collection.settled = collection ↔
      collection.authors.map settledEntry = collection.authors :=
    ⟨fun same => congrArg authors same, fun same => by rw [settled, same]⟩
  rw [settles, map_eq_self_iff, releases, List.forall_mem_flatMap]
  -- Each author keeps the name, and each set of the author is settled on its own.
  refine forall₂_congr fun author _ => ?_
  rw [settledEntry, Prod.ext_iff, and_iff_right rfl, map_eq_self_iff, List.forall_mem_map]
  exact forall₂_congr fun set _ => SetInfo.settled_eq_self_iff

/-- The JSON form of a collection's description is plain. -/
theorem isPlain_toJson (collection : CollectionInfo) : Json.IsPlain collection.toJson := by
  -- Everything but the sets is a text or a number.
  have each : ∀ entry ∈ collection.authors, Json.IsPlain (.list (entry.2.map SetInfo.toJson)) := by
    simp [SetInfo.isPlain_toJson]
  simp only [toJson, Json.isPlain_object, List.forall_mem_cons, List.forall_mem_map]
  exact ⟨trivial, trivial, each, List.forall_mem_nil _⟩

end CollectionInfo

namespace Snapshot

/-- Years come in order, and so do the authors of each collection. -/
structure InOrder (snapshot : Snapshot) : Prop where
  years : Keyed.Sorted snapshot.collections
  authors : ∀ entry ∈ snapshot.collections, ∀ collection ∈ entry.2, Keyed.Sorted collection.authors

/-- A year is read back from the name that it has in an object. -/
theorem yearOfKey?_yearText (year : Year) : yearOfKey? (yearText year) = some year := by
  -- The key is the shortest numeral of the year, and no year reaches the bound.
  have small := year.toNat_lt
  simp [yearOfKey?, yearText, Text.natText, Text.digitsValue?_natDigits, small]

/-- The JSON form of a snapshot is plain. -/
theorem isPlain_toJson (snapshot : Snapshot) : Json.IsPlain snapshot.toJson := by
  -- The years are written as keys, which are no values.
  have each : ∀ entry ∈ snapshot.collections,
      Json.IsPlain (.list (entry.2.map CollectionInfo.toJson)) := by
    simp [CollectionInfo.isPlain_toJson]
  simp only [toJson, Json.isPlain_object, List.forall_mem_cons, List.forall_mem_map]
  exact ⟨each, List.forall_mem_nil _⟩

/-- The collections of a year with settled release times. -/
def settledEntry (entry : Year × List CollectionInfo) : Year × List CollectionInfo :=
  (entry.1, entry.2.map CollectionInfo.settled)

/-- The snapshot whose release times are settled. -/
def settled (snapshot : Snapshot) : Snapshot :=
  ⟨snapshot.collections.map settledEntry⟩

/-- The release times of all sets in a snapshot. -/
def releases (snapshot : Snapshot) : List Instant :=
  snapshot.collections.flatMap fun year => year.2.flatMap CollectionInfo.releases

/-- A snapshot is settled already exactly if all its release times are. -/
theorem settled_eq_self_iff {snapshot : Snapshot} :
    snapshot.settled = snapshot ↔ ∀ released ∈ snapshot.releases, released.Timely := by
  have settles : snapshot.settled = snapshot ↔
      snapshot.collections.map settledEntry = snapshot.collections :=
    ⟨fun same => congrArg collections same, fun same => by rw [settled, same]⟩
  rw [settles, map_eq_self_iff, releases, List.forall_mem_flatMap]
  -- Each entry keeps its year, and each collection of the year is settled on its own.
  refine forall₂_congr fun year _ => ?_
  rw [settledEntry, Prod.ext_iff, and_iff_right rfl, map_eq_self_iff, List.forall_mem_flatMap]
  exact forall₂_congr fun collection _ => CollectionInfo.settled_eq_self_iff

/-- A snapshot is read back from its JSON form with settled release times. -/
theorem ofJson?_toJson {snapshot : Snapshot} (ordered : snapshot.InOrder) :
    ofJson? snapshot.toJson = some snapshot.settled := by
  have each : (snapshot.collections.map fun entry =>
      (yearText entry.1, Json.list (entry.2.map CollectionInfo.toJson))).mapM yearCollections? =
        some (snapshot.collections.map settledEntry) := by
    refine Json.mapM_map_of fun entry member => ?_
    have infos : Json.itemsOf? CollectionInfo.ofJson? (.list (entry.2.map CollectionInfo.toJson)) =
        some (entry.2.map CollectionInfo.settled) := Json.itemsOf?_map_of fun collection inside =>
      CollectionInfo.ofJson?_toJson (ordered.authors entry member collection inside)
    simp [yearCollections?, yearOfKey?_yearText, infos, settledEntry]
  -- Settling leaves the years, so they stay in order.
  have years : Keyed.Sorted (snapshot.collections.map settledEntry) :=
    List.pairwise_map.mpr ordered.years
  simp [ofJson?, toJson, Json.fieldsOf?, yearsOf?, each, Keyed.ofPairs_of_sorted years, settled]

/-- The text of a snapshot is read as its JSON form. -/
theorem parse?_encode (snapshot : Snapshot) : Json.parse? snapshot.encode = some snapshot.toJson :=
  Json.parse?_render snapshot.isPlain_toJson

/-- A snapshot is read back from its text with settled release times. -/
theorem decode?_encode_settled {snapshot : Snapshot} (ordered : snapshot.InOrder) :
    decode? snapshot.encode = some snapshot.settled := by
  -- The text is the JSON text of one object, which holds the snapshot.
  rw [decode?, parse?_encode]
  exact ofJson?_toJson ordered

/-- The text of a snapshot is the JSON text of one object, from which the snapshot is read back.

This is so exactly if no release time lies in a leap second within a minute: such a time is written
as the second behind it and read back as that one. Every release time is written in the RFC form
that names it, and is read from any text of that form. -/
theorem decode?_encode_of_inOrder {snapshot : Snapshot} (ordered : snapshot.InOrder) :
    Json.parse? snapshot.encode = some snapshot.toJson ∧
      decode? snapshot.encode = some snapshot.settled ∧
      (decode? snapshot.encode = some snapshot ↔
        ∀ released ∈ snapshot.releases, released.Timely) ∧
      ∀ instant : Instant,
        (∃ stamp : Instant.Stamp, stamp.Names instant ∧
          instant.render = String.ofList stamp.text) ∧
        (∀ stamp : Instant.Stamp, stamp.Names instant →
          Instant.read? (String.ofList stamp.text) = some instant.settled) ∧
        Instant.read? instant.render = some instant.settled ∧
        (instant.settled = instant ↔ instant.Timely) := by
  have decoded := decode?_encode_settled ordered
  refine ⟨snapshot.parse?_encode, decoded, ?_, fun instant => ⟨?_, fun _ names =>
    Instant.read?_text names, instant.read?_render, Instant.settled_eq_self_iff⟩⟩
  · -- What is read back is the snapshot itself where nothing has to be settled.
    rw [decoded, Option.some.injEq]
    exact settled_eq_self_iff
  · exact ⟨instant.stamp, instant.names_stamp, by rw [Instant.render, Instant.form_eq_text]⟩

/-- A snapshot with a leap second, and release times in the first and the last year there are. -/
def farApart : Snapshot where
  collections := [
    (7, [⟨"Advent \"of\" Code", 2023, [
      ("amy", [⟨"Day \u00e9", "amy", ⟨2016, 12, 31, 86399, 1999999999, by decide⟩,
        [⟨"first\n", none⟩, ⟨"second", some "\\"⟩]⟩]),
      ("bo", [])]⟩]),
    (65535, [⟨"", 0, [
      ("zed", [⟨"", "amy", ⟨-262143, 2, 28, 0, 1000, by decide⟩, []⟩,
        ⟨"", "zed", ⟨262142, 2, 28, 3723, 120000000, by decide⟩, []⟩])]⟩, ⟨"", 0, []⟩])]

/-- The snapshot with years far apart is read back from its text. -/
theorem decode?_encode_of_inOrder_farApart :
    farApart.InOrder ∧ Json.parse? farApart.encode = some farApart.toJson ∧
      decode? farApart.encode = some farApart := by
  have years : Keyed.Sorted farApart.collections := by unfold Keyed.Sorted; decide
  have authors : ∀ entry ∈ farApart.collections, ∀ collection ∈ entry.2,
      Keyed.Sorted collection.authors := by unfold Keyed.Sorted; decide
  have ordered : farApart.InOrder := ⟨years, authors⟩
  obtain ⟨parsed, _, decoded, _⟩ := decode?_encode_of_inOrder ordered
  -- The only leap second is the last second of a day.
  exact ⟨ordered, parsed, decoded.mpr (by decide)⟩

/-- A snapshot of one set that was released in a leap second in the middle of a minute. -/
def leaping : Snapshot where
  collections := [(2016, [⟨"Advent of Code", 2016,
    [("amy", [⟨"Day 1", "amy", ⟨2016, 12, 1, 18030, 1500000000, by decide⟩, []⟩])]⟩])]

/-- A leap second in the middle of a minute is read back as the second behind it. -/
theorem not_decode?_encode_leaping :
    leaping.InOrder ∧ leaping.releases.map Instant.render = ["2016-12-01T05:00:31.500Z"] ∧
      decode? leaping.encode ≠ some leaping := by
  have ordered : leaping.InOrder := ⟨List.pairwise_singleton _ _, by unfold Keyed.Sorted; decide⟩
  refine ⟨ordered, by decide +kernel, fun same => ?_⟩
  rw [decode?_encode_settled ordered, Option.some.injEq] at same
  -- The instant would have its leap second at the end of a minute.
  exact absurd (settled_eq_self_iff.mp same) (by decide)

end Snapshot

namespace Hall

/-- A registry that mirrors its collections describes them in order, so its snapshots travel unchanged. -/
theorem Mirrors.inOrder_snapshot {waiting : List Listener} {hall : Hall}
    (mirrors : Mirrors waiting hall) (registry : Registry) : (registry.snapshot hall).InOrder := by
  refine ⟨Keyed.sorted_foldl_join Collection.year Collection.info (hall.membersOf registry)
    List.Pairwise.nil, fun entry listed info held => ?_⟩
  -- Each description is that of a member, whose authors are in order.
  rw [(Registry.mem_snapshot.mp listed).1] at held
  obtain ⟨collection, member, rfl⟩ := List.mem_map.mp held
  obtain ⟨_, latest⟩ := mirrors.holdsLatest (List.mem_of_mem_filter member)
  exact List.pairwise_map.mpr latest.sorted

/-- What a registry describes of its collections is read back from its text, with settled release times. -/
theorem Mirrors.decode?_encode_snapshot {waiting : List Listener} {hall : Hall}
    (mirrors : Mirrors waiting hall) (registry : Registry) :
    Snapshot.decode? (registry.snapshot hall).encode = some (registry.snapshot hall).settled :=
  -- The descriptions of a registry are in order whatever has been merged.
  Snapshot.decode?_encode_settled (mirrors.inOrder_snapshot registry)

end Hall

end SolverHub
