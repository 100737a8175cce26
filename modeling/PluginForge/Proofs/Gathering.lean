/-
Groups gathered source by source. Every source is put into the group at the place that is noted for
its root, and a root that is new gets a group at the end. What a group tells of its sources grows
with each of them. The groups are those of the partition, in which each group is made of all of its
sources at once: how the sources of different roots are mixed decides only where the groups stand.
-/
import Mathlib.Data.List.Sort
import Mathlib.Data.String.Basic
import PluginForge.Proofs.Grouping

namespace PluginForge.CompilationGroup

/-! ## Names in order -/

theorem mem_insertName {n m : String} {names : List String} :
    m ∈ insertName n names ↔ m = n ∨ m ∈ names := by
  induction names with
  | nil => simp [insertName]
  | cons a rest ih =>
    unfold insertName
    split
    · rename_i same
      simp [same]
    · split
      · exact List.mem_cons
      · rw [List.mem_cons, ih, List.mem_cons, or_left_comm]

theorem pairwise_insertName {names : List String} (h : names.Pairwise (· < ·)) (n : String) :
    (insertName n names).Pairwise (· < ·) := by
  induction names with
  | nil => exact List.pairwise_singleton _ _
  | cons a rest ih =>
    obtain ⟨first, others⟩ := List.pairwise_cons.1 h
    unfold insertName
    split
    · exact h
    · rename_i other
      split
      · rename_i lower
        refine List.pairwise_cons.2 ⟨fun m hm => ?_, h⟩
        rcases List.mem_cons.1 hm with rfl | hm
        · exact lower
        · exact lower.trans (first m hm)
      · rename_i notLower
        refine List.pairwise_cons.2 ⟨fun m hm => ?_, ih others⟩
        rcases mem_insertName.1 hm with rfl | hm
        · exact lt_of_le_of_ne (not_lt.1 notLower) (Ne.symm other)
        · exact first m hm

theorem mem_foldr_insertName {m : String} {names : List String} :
    m ∈ names.foldr insertName [] ↔ m ∈ names := by
  induction names with
  | nil => rfl
  | cons n rest ih => rw [List.foldr_cons, mem_insertName, ih, List.mem_cons]

theorem pairwise_foldr_insertName (names : List String) :
    (names.foldr insertName []).Pairwise (· < ·) := by
  induction names with
  | nil => exact .nil
  | cons n rest ih => exact pairwise_insertName ih n

/-- Names may be put in from either end. -/
theorem foldr_insertName_concat (names : List String) (n : String) :
    (names ++ [n]).foldr insertName [] = insertName n (names.foldr insertName []) := by
  refine List.Pairwise.eq_of_mem_iff (pairwise_foldr_insertName _)
    (pairwise_insertName (pairwise_foldr_insertName names) n) fun m => ?_
  rw [mem_foldr_insertName, mem_insertName, mem_foldr_insertName, List.mem_append,
    List.mem_singleton, or_comm]

theorem dedup_eq (names : List String) : dedup names = names.eraseDups :=
  foldl_takeNew_eq names

/-! ## One source after the other -/

/-- The group that a source with a new root opens; no source is in it yet. -/
def opened (u : ParsedUnit) : CompilationGroup where
  key := u.rootName
  fullNamespace := u.namespaceName
  units := []
  subNamespaces := []
  visibleTypes := []
  pluginName := none

/-- A group with one more source. -/
def add (baseType : String) (g : CompilationGroup) (u : ParsedUnit) : CompilationGroup where
  key := g.key
  fullNamespace := g.fullNamespace
  units := g.units ++ [u]
  subNamespaces := insertName u.namespaceName g.subNamespaces
  visibleTypes := u.visibleTypes.foldl (fun acc n => if n ∈ acc then acc else acc ++ [n])
    g.visibleTypes
  pluginName := g.pluginName.or (u.tree.pluginName? baseType)

/-- The groups so far, and where the group of each root stands among them. -/
structure Gathered where
  groups : List CompilationGroup
  place? : String → Option Nat

namespace Gathered

/-- The place of the group of a source, which is opened at the end where there is none. -/
def placeOf (s : Gathered) (u : ParsedUnit) : Nat × Gathered :=
  match s.place? u.rootName with
  | some i => (i, s)
  | none => (s.groups.length,
    ⟨s.groups ++ [opened u],
      fun root => if root = u.rootName then some s.groups.length else s.place? root⟩)

def add (baseType : String) (s : Gathered) (u : ParsedUnit) : Gathered :=
  let (i, s) := s.placeOf u
  { s with groups := s.groups.modify i (CompilationGroup.add baseType · u) }

end Gathered

/-- The groups of some sources, gathered from the first source to the last. -/
def gather (baseType : String) (units : List ParsedUnit) : List CompilationGroup :=
  (units.foldl (Gathered.add baseType) ⟨[], fun _ => none⟩).groups

variable {baseType : String}

theorem ofUnits_singleton (u : ParsedUnit) :
    ofUnits baseType u.rootName [u] = (opened u).add baseType u := by
  simp [ofUnits, opened, add, dedup, insertName]

theorem ofUnits_concat {key : String} {us : List ParsedUnit} (ne : us ≠ []) (u : ParsedUnit) :
    ofUnits baseType key (us ++ [u]) = (ofUnits baseType key us).add baseType u := by
  obtain ⟨first, rest, rfl⟩ := List.exists_cons_of_ne_nil ne
  simp only [ofUnits, add, List.map_append, List.map_singleton, foldr_insertName_concat,
    List.flatMap_append, List.flatMap_singleton, dedup, List.foldl_append, List.findSome?_append]
  simp

theorem modify_concat {α : Type} (l : List α) (a : α) (f : α → α) :
    (l ++ [a]).modify l.length f = l ++ [f a] := by
  induction l with
  | nil => rfl
  | cons b rest ih => exact congrArg (b :: ·) ih

/-- The group of all the sources with a root. -/
def whole (baseType : String) (g : String × List ParsedUnit) : CompilationGroup :=
  ofUnits baseType g.1 g.2

theorem map_whole_of_known {u : ParsedUnit} {gs : List (String × List ParsedUnit)} {i : Nat}
    (nodup : (gs.map Prod.fst).Nodup) (nonempty : ∀ g ∈ gs, g.2 ≠ [])
    (at_i : (gs.map Prod.fst)[i]? = some u.rootName) :
    (putIntoGroup u.rootName u gs).map (whole baseType) =
      (gs.map (whole baseType)).modify i (CompilationGroup.add baseType · u) := by
  induction gs generalizing i with
  | nil => simp at at_i
  | cons g rest ih =>
    obtain ⟨root, us⟩ := g
    obtain ⟨here, nodup⟩ := List.nodup_cons.1 nodup
    obtain ⟨ne, nonempty⟩ := List.forall_mem_cons.1 nonempty
    cases i with
    | zero =>
      obtain rfl : root = u.rootName := by simpa using at_i
      simp only [putIntoGroup, if_true, List.map_cons, List.modify_zero_cons, whole,
        ofUnits_concat ne]
    | succ i =>
      have later : (rest.map Prod.fst)[i]? = some u.rootName := by simpa using at_i
      have other : root ≠ u.rootName := fun same => here (same ▸ List.mem_of_getElem? later)
      simp only [putIntoGroup, if_neg other, List.map_cons, List.modify_succ_cons,
        ih nodup nonempty later]

theorem map_whole_of_new {u : ParsedUnit} {gs : List (String × List ParsedUnit)}
    (new : u.rootName ∉ gs.map Prod.fst) :
    (putIntoGroup u.rootName u gs).map (whole baseType) =
      gs.map (whole baseType) ++ [(opened u).add baseType u] := by
  induction gs with
  | nil => simp [putIntoGroup, whole, ofUnits_singleton]
  | cons g rest ih =>
    obtain ⟨root, us⟩ := g
    simp only [List.map_cons, List.mem_cons, not_or] at new
    simp only [putIntoGroup, if_neg (Ne.symm new.1), List.map_cons, List.cons_append, ih new.2]

/-- The roots of some sources, each where it is first seen. -/
def roots (units : List ParsedUnit) : List String :=
  (units.map ParsedUnit.rootName).eraseDups

theorem roots_concat (units : List ParsedUnit) (u : ParsedUnit) :
    roots (units ++ [u]) =
      if u.rootName ∈ roots units then roots units else roots units ++ [u.rootName] := by
  simp only [roots, List.map_append, List.map_singleton, eraseDups_concat, List.mem_eraseDups]

theorem keys_partition (baseType : String) (units : List ParsedUnit) :
    (partition baseType units).map key = roots units := by
  rw [partition, List.map_map]
  exact keys_groupBy ParsedUnit.rootName units

theorem partition_concat (units : List ParsedUnit) (u : ParsedUnit) :
    partition baseType (units ++ [u]) =
      (putIntoGroup u.rootName u (groupBy ParsedUnit.rootName units)).map (whole baseType) := by
  simp [partition, groupBy, whole]

theorem getElem?_concat_eq_some_iff {α : Type} [DecidableEq α] {l : List α} {x y : α} {i : Nat}
    (new : x ∉ l) : (l ++ [x])[i]? = some y ↔ if y = x then l.length = i else l[i]? = some y := by
  rcases Nat.lt_trichotomy i l.length with before | rfl | behind
  · rw [List.getElem?_append_left before]
    split
    · rename_i same
      subst same
      exact iff_of_false (fun h => new (List.mem_of_getElem? h)) (Nat.ne_of_gt before)
    · rfl
  · rw [List.getElem?_concat_length]
    simp [eq_comm]
  · have past : (l ++ [x]).length ≤ i := by simpa using Nat.succ_le_of_lt behind
    rw [List.getElem?_eq_none past, List.getElem?_eq_none (Nat.le_of_lt behind)]
    simp [Nat.ne_of_lt behind]

/-- The groups of the sources so far, and where each of them stands. -/
structure Gathered.Holds (baseType : String) (units : List ParsedUnit) (s : Gathered) : Prop where
  groups : s.groups = partition baseType units
  place? : ∀ root i, s.place? root = some i ↔ (roots units)[i]? = some root

theorem Gathered.Holds.add {units : List ParsedUnit} {s : Gathered}
    (h : s.Holds baseType units) (u : ParsedUnit) :
    (s.add baseType u).Holds baseType (units ++ [u]) := by
  have grouped := grouped_groupBy ParsedUnit.rootName units
  have keys : (groupBy ParsedUnit.rootName units).map Prod.fst = roots units :=
    keys_groupBy ParsedUnit.rootName units
  cases place : s.place? u.rootName with
  | some i =>
    have at_i := (h.place? _ _).1 place
    have added : s.add baseType u =
        { s with groups := s.groups.modify i (CompilationGroup.add baseType · u) } := by
      simp only [Gathered.add, placeOf, place]
    rw [added]
    refine ⟨?_, fun root j => ?_⟩
    · rw [partition_concat, map_whole_of_known grouped.nodup grouped.nonempty (keys ▸ at_i),
        h.groups]
      rfl
    · rw [roots_concat, if_pos (List.mem_of_getElem? at_i)]
      exact h.place? root j
  | none =>
    have new : u.rootName ∉ roots units := by
      intro known
      obtain ⟨i, at_i⟩ := List.mem_iff_getElem?.1 known
      rw [(h.place? _ _).2 at_i] at place
      cases place
    have length : s.groups.length = (roots units).length := by
      rw [h.groups, ← keys_partition baseType, List.length_map]
    have added : s.add baseType u = ⟨s.groups ++ [(opened u).add baseType u],
        fun root => if root = u.rootName then some s.groups.length else s.place? root⟩ := by
      simp only [Gathered.add, placeOf, place, modify_concat]
    rw [added]
    refine ⟨?_, fun root j => ?_⟩
    · rw [partition_concat, map_whole_of_new (keys ▸ new), h.groups]
      rfl
    · rw [roots_concat, if_neg new, getElem?_concat_eq_some_iff new, ← length, ← h.place?]
      by_cases same : root = u.rootName <;> simp [same]

theorem gather_eq_partition (baseType : String) (units : List ParsedUnit) :
    gather baseType units = partition baseType units := by
  have holds : Gathered.Holds baseType units
      (units.foldl (Gathered.add baseType) ⟨[], fun _ => none⟩) := by
    induction units using List.reverseRecOn with
    | nil => exact ⟨rfl, by simp [roots]⟩
    | append_singleton units u ih =>
      rw [List.foldl_append]
      exact ih.add u
  exact holds.groups

/-! ## What a group tells of its sources -/

/-- What a group tells of its sources, which are those given. -/
structure TellsOf (baseType : String) (us : List ParsedUnit) (g : CompilationGroup) : Prop where
  units : g.units = us
  fullNamespace : us.head?.map ParsedUnit.namespaceName = some g.fullNamespace
  inOrder : g.subNamespaces.Pairwise (· < ·)
  mem_subNamespaces : ∀ n, n ∈ g.subNamespaces ↔ ∃ u ∈ us, u.namespaceName = n
  visibleTypes : g.visibleTypes = (us.flatMap ParsedUnit.visibleTypes).eraseDups
  pluginName : g.pluginName = us.findSome? fun u => u.tree.pluginName? baseType

theorem tellsOf_ofUnits (key : String) {us : List ParsedUnit} (ne : us ≠ []) :
    TellsOf baseType us (ofUnits baseType key us) where
  units := rfl
  fullNamespace := by
    obtain ⟨first, rest, rfl⟩ := List.exists_cons_of_ne_nil ne
    rfl
  inOrder := pairwise_foldr_insertName _
  mem_subNamespaces n := by
    rw [ofUnits, mem_foldr_insertName, List.mem_map]
  visibleTypes := dedup_eq _
  pluginName := rfl

theorem tellsOf_of_mem_partition {units : List ParsedUnit} {g : CompilationGroup}
    (hg : g ∈ partition baseType units) :
    TellsOf baseType (units.filter fun u => u.rootName = g.key) g := by
  obtain ⟨members, ne⟩ := units_of_mem_partition hg
  obtain ⟨⟨root, us⟩, -, rfl⟩ := List.mem_map.1 hg
  rw [← members]
  exact tellsOf_ofUnits root ne

/-- Two orders of the same sources in which those of each root come in the same order. -/
def SameWithinRoots (units units' : List ParsedUnit) : Prop :=
  ∀ root, units'.filter (fun u => u.rootName = root) = units.filter fun u => u.rootName = root

theorem SameWithinRoots.partition_perm {units units' : List ParsedUnit}
    (h : SameWithinRoots units units') :
    (partition baseType units').Perm (partition baseType units) :=
  (groupBy_perm h).map _

/-- Gathering sources one by one gives one group for each root, in the order in which the roots are
first seen. A group tells its first source's namespace, the namespaces of all of its sources, their
visible types where each is first seen, and the first plugin name that any of them has. In another
order that keeps the order within each root, the groups are the same, but they may stand in another
order. -/
theorem gather_tellsOf (baseType : String) (units : List ParsedUnit) :
    gather baseType units = partition baseType units ∧
    (partition baseType units).map key = (units.map ParsedUnit.rootName).eraseDups ∧
    (∀ g ∈ partition baseType units,
      TellsOf baseType (units.filter fun u => u.rootName = g.key) g) ∧
    ∀ units', SameWithinRoots units units' →
      (partition baseType units').Perm (partition baseType units) :=
  ⟨gather_eq_partition baseType units, keys_partition baseType units,
    fun _ hg => tellsOf_of_mem_partition hg, fun _ same => same.partition_perm⟩

/-- A source between two others with a root of their own comes before both instead. -/
theorem gather_tellsOf_two_roots :
    let unit (path space : String) (types : List String) : ParsedUnit :=
      ⟨⟨path⟩, "", ⟨⟨path⟩, [], []⟩, space, rootNamespace space, types⟩
    let a := unit "/a.cs" "Foo.A" ["Main"]
    let b := unit "/b.cs" "Bar" []
    let c := unit "/c.cs" "Foo.C" ["Shape", "Main"]
    SameWithinRoots [a, b, c] [b, a, c] ∧
    (partition "Plugin" [b, a, c]).Perm (partition "Plugin" [a, b, c]) ∧
    ∃ g ∈ partition "Plugin" [a, b, c], g.key = "Foo" ∧ TellsOf "Plugin" [a, c] g := by
  intro unit a b c
  have foo : a.rootName = "Foo" ∧ c.rootName = "Foo" := by decide +kernel
  have bar : b.rootName = "Bar" := by decide +kernel
  have same : SameWithinRoots [a, b, c] [b, a, c] := by
    intro root
    simp only [List.filter_cons, List.filter_nil, foo, bar, decide_eq_true_iff]
    by_cases isFoo : "Foo" = root
    · subst isFoo
      simp
    · simp [isFoo]
  obtain ⟨-, -, tells, reordered⟩ := gather_tellsOf "Plugin" [a, b, c]
  have made : ofUnits "Plugin" "Foo" [a, c] ∈ partition "Plugin" [a, b, c] := by
    simp [partition, groupBy, putIntoGroup, foo, bar]
  have members : [a, b, c].filter (fun u => u.rootName = "Foo") = [a, c] := by
    simp [foo, bar]
  exact ⟨same, reordered _ same, _, made, rfl, members ▸ tells _ made⟩

end PluginForge.CompilationGroup
