/-
The listings of a file system in memory and of one with a tree of directories that hold the same
files. They list the same paths. The one in memory lists them in the order of their texts, the other
in that of their steps, so the listings differ just if two of the listed paths cross; and where they
do not differ, sources are taken in alike.
-/
import Mathlib.Data.List.Pairwise
import PluginForge.Proofs.Agreement
import PluginForge.Proofs.DiskTree

namespace PluginForge

open PluginForge.Path (IsPlain spell names ofPlace ofDirPlace Crosses)

/-! ## Directories -/

namespace Path

variable {place more : List String}

theorem endsPlain_spell (h : IsPlain place) (hne : place ≠ []) :
    MemoryStore.EndsPlain (spell place) := by
  obtain ⟨front, n, rfl⟩ := (List.eq_nil_or_concat' place).resolve_left hne
  obtain ⟨name, backslash⟩ := h n (by simp)
  have nonempty : n.toList ≠ [] := by
    intro e
    have step := name.step
    rw [e] at step
    cases step
  have own : MemoryStore.EndsPlain n.toList := .of_plain nonempty fun c hc =>
    ⟨fun e => name.plain (e ▸ hc), fun e => backslash (e ▸ hc)⟩
  have split : spell (front ++ [n]) = (spell front ++ ['/']) ++ n.toList := by simp [spell]
  rw [split]
  exact own.append _

theorem map_slashed_spell (h : IsPlain place) :
    (spell place).map MemoryStore.slashed = spell place := by
  refine (List.map_congr_left fun c hc => MemoryStore.slashed_of_ne ?_).trans (List.map_id _)
  rintro rfl
  obtain ⟨n, hn, hc⟩ := List.mem_flatMap.1 hc
  rcases List.mem_cons.1 hc with e | hc
  · cases e
  · exact (h n hn).2 hc

/-- What the names below a directory start with. -/
theorem below_ofDirPlace (h : IsPlain place) :
    MemoryStore.below (MemoryStore.normalize (ofDirPlace place)) = spell place ++ ['/'] := by
  unfold ofDirPlace
  split
  · rename_i hp
    subst hp
    decide
  · rename_i hp
    have ends : MemoryStore.EndsPlain (ofPlace place).text.toList := by
      rw [toList_ofPlace]
      exact endsPlain_spell h hp
    rw [MemoryStore.below_normalize ends, toList_ofPlace, map_slashed_spell h]

theorem join_ofDirPlace (h : IsPlain place) {n : String} (hn : IsName n.toList) :
    (ofDirPlace place).join n = ofPlace (place ++ [n]) := by
  have head : n.toList.head? ≠ some '/' := fun hc => hn.plain (List.mem_of_head? hc)
  have text : ((ofDirPlace place).join n).text.toList = spell (place ++ [n]) := by
    unfold ofDirPlace
    split
    · rename_i hp
      subst hp
      simp [join, head, spell]
    · rename_i hp
      have ends : MemoryStore.EndsPlain (ofPlace place).text.toList := by
        rw [toList_ofPlace]
        exact endsPlain_spell h hp
      rw [MemoryStore.toList_join ends head, toList_ofPlace]
      simp [spell]
  have same := String.toList_injective (text.trans (toList_ofPlace _).symm)
  cases hj : (ofDirPlace place).join n
  rw [hj] at same
  rw [ofPlace] at same ⊢
  exact congrArg Path.mk same

theorem foldl_join_ofDirPlace (h : IsPlain (place ++ more)) :
    more.foldl join (ofDirPlace place) = ofDirPlace (place ++ more) := by
  induction more generalizing place with
  | nil => rw [List.append_nil, List.foldl_nil]
  | cons n more ih =>
    have front : IsPlain place := fun m hm => h m (List.mem_append_left _ hm)
    have step : (ofDirPlace place).join n = ofDirPlace (place ++ [n]) := by
      rw [join_ofDirPlace front (h n (by simp)).1, ofDirPlace, if_neg (by simp)]
    have rest : place ++ n :: more = place ++ [n] ++ more := by simp
    rw [List.foldl_cons, step, rest]
    rw [rest] at h
    exact ih h

end Path

/-! ## The same files -/

/-- Files under plain absolute paths: their places and contents. -/
structure PlainFiles where
  files : List (List String × Bytes)
  plain : ∀ f ∈ files, IsPlain f.1
  below : ∀ f ∈ files, f.1 ≠ []

namespace PlainFiles

variable (F : PlainFiles)

/-- A file system in memory that holds these files and no others. -/
structure In (m : MemoryStore) : Prop where
  reachable : m.Reachable
  mem_iff : ∀ f, f ∈ m.files ↔ ∃ g ∈ F.files, f = ((ofPlace g.1).text, g.2)

/-- A file system with a tree of directories that holds these files and no others. -/
structure On (d : DiskStore) : Prop where
  reachable : d.Reachable
  mem_iff : ∀ place content, (place, some content) ∈ d.entries ↔ (place, content) ∈ F.files

/-- The file at a place is listed for a directory. -/
def Lists (dir : List String) (extension : String) (recursive : Bool) (place : List String) :
    Prop :=
  place ∈ F.files.map (·.1) ∧ (ofPlace place).hasExtension extension = true ∧
    ∃ n more, place = dir ++ n :: more ∧ (recursive = true ∨ more = [])

variable {F} {dir : List String} {extension : String} {recursive : Bool} {m : MemoryStore}
  {d : DiskStore} {ps qs : List Path}

theorem isListed_ofPlace (hd : IsPlain dir) {place : List String} (hp : IsPlain place) :
    MemoryStore.isListed (MemoryStore.below (MemoryStore.normalize (ofDirPlace dir))) extension
        recursive (ofPlace place).text = true ↔
      (ofPlace place).hasExtension extension = true ∧
        ∃ n more, place = dir ++ n :: more ∧ (recursive = true ∨ more = []) := by
  rw [Path.below_ofDirPlace hd]
  unfold MemoryStore.isListed
  cases ha : Chars.after? (spell dir ++ ['/']) (ofPlace place).text.toList with
  | none =>
    refine ⟨nofun, ?_⟩
    rintro ⟨-, n, more, rfl, -⟩
    have found : Chars.after? (spell dir ++ ['/']) (ofPlace (dir ++ n :: more)).text.toList =
        some (n.toList ++ spell more) :=
      Chars.after?_eq_some_iff.2 (by simp [spell])
    rw [found] at ha
    cases ha
  | some rest =>
    rw [Chars.after?_eq_some_iff, Path.toList_ofPlace, List.append_assoc, List.singleton_append,
      Path.spell_eq_append_iff hd.noSeparator hp.noSeparator] at ha
    obtain ⟨n, more, rfl, rfl⟩ := ha
    have flat : (n.toList ++ spell more).contains '/' = false ↔ more = [] := by
      have name : '/' ∉ n.toList := hp.noSeparator n (by simp)
      cases more with
      | nil => simp [spell, name]
      | cons n' more => simp [spell]
    dsimp only
    rw [Bool.and_eq_true, Bool.or_eq_true, Bool.not_eq_true', flat, and_comm]
    refine and_congr_right fun _ => ?_
    constructor
    · exact fun h => ⟨n, more, rfl, h⟩
    · rintro ⟨n', more', e, h⟩
      obtain ⟨-, rfl⟩ := List.cons.inj (List.append_cancel_left e)
      exact h

theorem In.mem_list (hm : F.In m) (hd : IsPlain dir)
    (h : MemoryStore.fileSystem.list (ofDirPlace dir) extension recursive m = .ok ps) {p : Path} :
    p ∈ ps ↔ ∃ place, F.Lists dir extension recursive place ∧ p = ofPlace place := by
  rw [MemoryStore.eq_listed h, MemoryStore.mem_listed, MemoryStore.find?_ne_none_iff]
  constructor
  · rintro ⟨listed, there⟩
    obtain ⟨f, hf, hn⟩ := List.mem_map.1 there
    obtain ⟨g, hg, rfl⟩ := (hm.mem_iff f).1 hf
    rw [← hn, isListed_ofPlace hd (F.plain g hg)] at listed
    refine ⟨g.1, ⟨List.mem_map_of_mem hg, listed⟩, ?_⟩
    cases p
    exact congrArg Path.mk hn.symm
  · rintro ⟨place, ⟨there, listed⟩, rfl⟩
    obtain ⟨g, hg, rfl⟩ := List.mem_map.1 there
    refine ⟨(isListed_ofPlace hd (F.plain g hg)).2 listed, ?_⟩
    exact List.mem_map.2 ⟨_, (hm.mem_iff _).2 ⟨g, hg, rfl⟩, rfl⟩

/-- A file system in memory lists in the order of texts. -/
theorem In.pairwise_list (hm : F.In m)
    (h : MemoryStore.fileSystem.list (ofDirPlace dir) extension recursive m = .ok ps) :
    ps.Pairwise fun p q => p.text < q.text := by
  have sorted := hm.reachable.sorted
  rw [MemoryStore.eq_listed h, MemoryStore.listed, List.pairwise_map]
  refine List.Pairwise.filter _ ?_
  rw [List.pairwise_map]
  exact sorted

theorem follow_names (here place : List String) :
    DiskStore.follow here (names place) = here ++ place := by
  induction place generalizing here with
  | nil => rw [List.append_nil]; rfl
  | cons n place ih =>
    have step : DiskStore.follow here (names (n :: place)) =
        DiskStore.follow (here ++ [.ofList n.toList]) (names place) := rfl
    rw [step, ih, String.ofList_toList]
    simp

/-- A directory that is listed is there, and its listing is sorted by steps. -/
theorem On.list_eq_ok (hF : F.On d) (hd : IsPlain dir)
    (h : DiskStore.fileSystem.list (ofDirPlace dir) extension recursive d = .ok qs) :
    d.spot (ofDirPlace dir) = .dir dir ∧ d.at? dir = some none ∧
      qs = ((d.filesBelow (ofDirPlace dir) dir recursive).filter
        (·.hasExtension extension)).mergeSort fun p q => (p.compare q).isLE := by
  change d.list (ofDirPlace dir) extension recursive = .ok qs at h
  unfold DiskStore.list at h
  cases hs : d.spot (ofDirPlace dir) with
  | dir place =>
    have led : (d.spot (ofDirPlace dir)).place? = some place := by rw [hs]; rfl
    have own : place = dir := by
      rw [← DiskStore.place_eq_of_spot led, DiskStore.place, Path.components_ofDirPlace hd]
      exact follow_names [] dir
    subst own
    have there := (hF.reachable.isTree.of_leads (DiskStore.leads_of_spot led).1 rfl).1 place hs
    rw [hs] at h
    exact ⟨rfl, there, (Except.ok.inj h).symm⟩
  | file | vacant | missing | refused =>
    rw [hs] at h
    cases h

/-- What an entry gives to the files below a directory. -/
def fileBelow? (dir : Path) (place : List String) (recursive : Bool)
    (e : List String × Option Bytes) : Option Path :=
  match e.2 with
  | none => none
  | some _ =>
    if place.isPrefixOf e.1 && (recursive || e.1.length == place.length + 1) then
      some ((e.1.drop place.length).foldl Path.join dir)
    else none

theorem filesBelow_eq (dir : Path) (place : List String) :
    d.filesBelow dir place recursive = d.entries.filterMap (fileBelow? dir place recursive) := rfl

theorem On.fileBelow?_eq_some_iff (hF : F.On d) (there : d.at? dir = some none)
    {e : List String × Option Bytes} (he : e ∈ d.entries) {p : Path} :
    fileBelow? (ofDirPlace dir) dir recursive e = some p ↔
      ∃ n more content, e = (dir ++ n :: more, some content) ∧ (recursive = true ∨ more = []) ∧
        p = ofPlace (dir ++ n :: more) := by
  obtain ⟨place, entry⟩ := e
  cases entry with
  | none => exact ⟨nofun, by rintro ⟨n, more, content, e, -⟩; cases e⟩
  | some content =>
    have own := (hF.mem_iff place content).1 he
    have path {n : String} {more : List String} (hp : place = dir ++ n :: more) :
        (n :: more).foldl Path.join (ofDirPlace dir) = ofPlace (dir ++ n :: more) := by
      rw [Path.foldl_join_ofDirPlace (hp ▸ F.plain _ own), ofDirPlace, if_neg (by simp)]
    unfold fileBelow?
    dsimp only
    constructor
    · intro hp
      split at hp
      · rename_i hb
        rw [Bool.and_eq_true, List.isPrefixOf_iff_prefix, Bool.or_eq_true, beq_iff_eq] at hb
        obtain ⟨⟨rest, rfl⟩, hl⟩ := hb
        rw [List.drop_left] at hp
        cases rest with
        | nil =>
          -- There is a directory at this place, and one entry only.
          rw [List.append_nil] at own he
          have file := hF.reachable.isTree.at?_eq he
          rw [there] at file
          cases file
        | cons n more =>
          have hp := Option.some.inj hp
          rw [path rfl] at hp
          exact ⟨n, more, content, rfl, hl.imp_right fun hl => by simpa using hl, hp.symm⟩
      · cases hp
    · rintro ⟨n, more, content', e, hr, rfl⟩
      obtain ⟨rfl, -⟩ := Prod.mk.inj e
      have fits : (dir.isPrefixOf (dir ++ n :: more) &&
          (recursive || (dir ++ n :: more).length == dir.length + 1)) = true := by
        rw [Bool.and_eq_true, List.isPrefixOf_iff_prefix, Bool.or_eq_true, beq_iff_eq]
        exact ⟨List.prefix_append _ _, hr.imp_right fun e => by simp [e]⟩
      rw [if_pos fits, List.drop_left, path rfl]

theorem On.mem_filesBelow (hF : F.On d) (there : d.at? dir = some none) {p : Path} :
    p ∈ d.filesBelow (ofDirPlace dir) dir recursive ↔
      ∃ n more content, (dir ++ n :: more, content) ∈ F.files ∧ (recursive = true ∨ more = []) ∧
        p = ofPlace (dir ++ n :: more) := by
  rw [filesBelow_eq, List.mem_filterMap]
  constructor
  · rintro ⟨e, he, hp⟩
    obtain ⟨n, more, content, rfl, hr, hp⟩ := (hF.fileBelow?_eq_some_iff there he).1 hp
    exact ⟨n, more, content, (hF.mem_iff _ _).1 he, hr, hp⟩
  · rintro ⟨n, more, content, own, hr, hp⟩
    have he := (hF.mem_iff _ _).2 own
    exact ⟨_, he, (hF.fileBelow?_eq_some_iff there he).2 ⟨n, more, content, rfl, hr, hp⟩⟩

theorem On.mem_list (hF : F.On d) (hd : IsPlain dir)
    (h : DiskStore.fileSystem.list (ofDirPlace dir) extension recursive d = .ok qs) {p : Path} :
    p ∈ qs ↔ ∃ place, F.Lists dir extension recursive place ∧ p = ofPlace place := by
  obtain ⟨-, there, rfl⟩ := hF.list_eq_ok hd h
  rw [(List.mergeSort_perm _ _).mem_iff, List.mem_filter, hF.mem_filesBelow there]
  constructor
  · rintro ⟨⟨n, more, content, own, hr, rfl⟩, hx⟩
    exact ⟨_, ⟨List.mem_map_of_mem own, hx, n, more, rfl, hr⟩, rfl⟩
  · rintro ⟨place, ⟨own, hx, n, more, rfl, hr⟩, rfl⟩
    obtain ⟨g, hg, hp⟩ := List.mem_map.1 own
    exact ⟨⟨n, more, g.2, hp ▸ hg, hr, rfl⟩, hx⟩

theorem Lists.plain {place : List String} (h : F.Lists dir extension recursive place) :
    IsPlain place ∧ place ≠ [] := by
  obtain ⟨g, hg, rfl⟩ := List.mem_map.1 h.1
  exact ⟨F.plain g hg, F.below g hg⟩

theorem ofPlace_injective {a b : List String} (ha : IsPlain a) (hb : IsPlain b)
    (h : ofPlace a = ofPlace b) : a = b := by
  have text := congrArg (fun p : Path => p.text.toList) h
  rw [Path.toList_ofPlace, Path.toList_ofPlace] at text
  exact Path.spell_injective ha hb text

theorem On.nodup_list (hF : F.On d) (hd : IsPlain dir)
    (h : DiskStore.fileSystem.list (ofDirPlace dir) extension recursive d = .ok qs) :
    qs.Nodup := by
  obtain ⟨-, there, rfl⟩ := hF.list_eq_ok hd h
  rw [(List.mergeSort_perm _ _).nodup_iff]
  refine List.Nodup.filter _ ?_
  rw [filesBelow_eq, List.Nodup, List.pairwise_filterMap]
  refine (List.pairwise_map.1 hF.reachable.isTree.distinct).imp_of_mem ?_
  intro e e' he he' apart p hp q hq same
  obtain ⟨n, more, content, rfl, -, rfl⟩ := (hF.fileBelow?_eq_some_iff there he).1 hp
  obtain ⟨n', more', content', rfl, -, rfl⟩ := (hF.fileBelow?_eq_some_iff there he').1 hq
  have plain := F.plain _ ((hF.mem_iff _ _).1 he)
  have plain' := F.plain _ ((hF.mem_iff _ _).1 he')
  exact apart (ofPlace_injective plain plain' same)

/-! ## The listings compared -/

section

variable (hm : F.In m) (hF : F.On d) (hd : IsPlain dir)
  (lm : MemoryStore.fileSystem.list (ofDirPlace dir) extension recursive m = .ok ps)
  (ld : DiskStore.fileSystem.list (ofDirPlace dir) extension recursive d = .ok qs)

include hm hF hd lm ld

theorem perm_lists : ps.Perm qs := by
  have nodup : ps.Nodup := (hm.pairwise_list lm).imp fun {p q} lower e => by
    rw [e] at lower
    exact lt_irrefl _ lower
  refine (List.perm_ext_iff_of_nodup nodup (hF.nodup_list hd ld)).2 fun p => ?_
  rw [hm.mem_list hd lm, hF.mem_list hd ld]

omit hm lm in
/-- A file system with a tree of directories lists in the order of steps. -/
theorem pairwise_list : qs.Pairwise fun p q => p.compare q = .lt := by
  have sorted : qs.Pairwise fun p q => (p.compare q).isLE = true := by
    obtain ⟨-, -, rfl⟩ := hF.list_eq_ok hd ld
    exact Path.compare_pairwise_mergeSort _
  refine (sorted.and (hF.nodup_list hd ld)).imp_of_mem ?_
  rintro p q hp hq ⟨le, apart⟩
  obtain ⟨a, ha, rfl⟩ := (hF.mem_list hd ld).1 hp
  obtain ⟨b, hb, rfl⟩ := (hF.mem_list hd ld).1 hq
  cases hc : (ofPlace a).compare (ofPlace b) with
  | lt => rfl
  | gt =>
    rw [hc] at le
    cases le
  | eq =>
    rw [Path.compare_ofPlace ha.plain.1 hb.plain.1 ha.plain.2 hb.plain.2] at hc
    have same := Path.eq_of_names_eq (Std.LawfulEqCmp.eq_of_compare hc)
    exact absurd (congrArg ofPlace same) apart

omit hF ld in
/-- The texts of two listed paths decide on the order of steps, if the separator comes first. -/
theorem compare_of_precedes {p q : Path} (hp : p ∈ ps) (hq : q ∈ ps)
    (h : Path.Precedes p.text.toList q.text.toList) : p.compare q = .lt := by
  obtain ⟨a, ha, rfl⟩ := (hm.mem_list hd lm).1 hp
  obtain ⟨b, hb, rfl⟩ := (hm.mem_list hd lm).1 hq
  rw [Path.toList_ofPlace, Path.toList_ofPlace] at h
  rw [Path.compare_ofPlace ha.plain.1 hb.plain.1 ha.plain.2 hb.plain.2]
  exact Path.compare_names_of_precedes ha.plain.1 hb.plain.1 h

/-- The listings differ just if two of the listed paths cross. -/
theorem lists_eq_iff :
    ps = qs ↔ ∀ p ∈ ps, ∀ q ∈ ps, ¬ Crosses p.text.toList q.text.toList := by
  have texts := hm.pairwise_list lm
  have steps := pairwise_list hF hd ld
  constructor
  · rintro rfl p hp q hq crosses
    have lower : p.text < q.text := String.lt_iff_toList_lt.2 crosses.lt.1
    have back := compare_of_precedes hm hd lm hq hp crosses.lt.2
    have ordered : ps.Pairwise fun p q =>
        p.text < q.text ∧ p.compare q = .lt ∨ q.text < p.text ∧ q.compare p = .lt :=
      (texts.and steps).imp .inl
    have apart : p ≠ q := fun e => lt_irrefl q.text (e ▸ lower)
    have : Std.Symm fun p q : Path =>
        p.text < q.text ∧ p.compare q = .lt ∨ q.text < p.text ∧ q.compare p = .lt :=
      ⟨fun _ _ => Or.symm⟩
    rcases ordered.forall hp hq apart with ⟨-, before⟩ | ⟨upper, -⟩
    · rw [Std.OrientedCmp.gt_of_lt back] at before
      cases before
    · exact lt_asymm lower upper
  · intro apart
    have steps' : ps.Pairwise fun p q => p.compare q = .lt := by
      refine texts.imp_of_mem fun {p q} hp hq lower => ?_
      refine compare_of_precedes hm hd lm hp hq ?_
      exact Path.precedes_of_lt (String.lt_iff_toList_lt.1 lower) (apart p hp q hq)
    exact List.Pairwise.eq_of_mem_iff steps' steps fun p => (perm_lists hm hF hd lm ld).mem_iff

/-- The files of one directory are listed alike. -/
theorem lists_eq_of_flat (flat : recursive = false) : ps = qs := by
  refine (lists_eq_iff hm hF hd lm ld).2 fun p hp q hq => ?_
  obtain ⟨a, ⟨-, -, n, more, rfl, hn⟩, rfl⟩ := (hm.mem_list hd lm).1 hp
  obtain ⟨b, hb, rfl⟩ := (hm.mem_list hd lm).1 hq
  have plain := hb.plain.1
  obtain ⟨-, -, k, more', rfl, hk⟩ := hb
  rw [flat] at hn hk
  obtain rfl := hn.resolve_left Bool.false_ne_true
  obtain rfl := hk.resolve_left Bool.false_ne_true
  rw [Path.toList_ofPlace, Path.toList_ofPlace]
  exact Path.not_crosses_siblings dir n (plain.noSeparator k (by simp))

end

end PlainFiles

/-! ## Intakes compared -/

/-- Sources that two file systems list alike, and that can be read alike, are taken in alike. -/
theorem Intake.ingest_congr {φ ψ σ ρ : Type} {S : FileSystem φ} {T : FileSystem ψ} {files : φ}
    {files' : ψ} {settings : Settings} {root : Path} {paths : List Path}
    (listed : Listed S settings root files paths) (listed' : Listed T settings root files' paths)
    (sizes : ∀ p ∈ paths, T.size p files' = S.size p files)
    (reads : ∀ p ∈ paths, T.read p files' = S.read p files) (service : CompileService σ ρ)
    (state : σ) :
    (ingest T service settings root files' state).1 =
        (ingest S service settings root files state).1 ∧
      (ingest T service settings root files' state).2.2 =
        (ingest S service settings root files state).2.2 := by
  have units : ∀ p ∈ paths, readUnit T p files' = readUnit S p files := fun p hp => by
    unfold readUnit
    rw [sizes p hp, reads p hp]
  unfold ingest
  rw [listed.discover, listed'.discover, totalSize_congr sizes]
  by_cases many : settings.maxFiles.toNat < paths.length
  · rw [if_pos many, if_pos many]
    exact ⟨rfl, rfl⟩
  rw [if_neg many, if_neg many]
  cases totalSize S files paths with
  | error e => exact ⟨rfl, rfl⟩
  | ok total =>
    dsimp only
    by_cases large : settings.maxSizeMB.toNat < total.toNat / mebibyte
    · rw [if_pos large, if_pos large]
      exact ⟨rfl, rfl⟩
    · rw [if_neg large, if_neg large]
      dsimp only
      rw [ingestAll_congr service settings units]
      exact ⟨rfl, rfl⟩

namespace PlainFiles

variable {σ ρ : Type} {F : PlainFiles} {dir : List String} {m : MemoryStore} {d : DiskStore}

theorem In.find? (hm : F.In m) {place : List String} {content : Bytes}
    (own : (place, content) ∈ F.files) :
    MemoryStore.find? (ofPlace place).text m.files = some content :=
  hm.reachable.sorted.find?_eq_some_iff.2 ((hm.mem_iff _).2 ⟨_, own, rfl⟩)

/-- A file in memory is read under the path to its place. -/
theorem In.read (hm : F.In m) {place : List String} {content : Bytes}
    (own : (place, content) ∈ F.files) :
    MemoryStore.fileSystem.read (ofPlace place) m = .ok content := by
  have found := hm.find? own
  have normal : MemoryStore.normalize (ofPlace place) = (ofPlace place).text :=
    hm.reachable.normal.normalize_of_find? (by simp [found])
  change m.read (ofPlace place) = _
  rw [MemoryStore.read, normal, found]

/-- A file in a tree is found under the path to its place, unless that cannot be walked. -/
theorem On.spot (hF : F.On d) {place : List String} {content : Bytes}
    (own : (place, content) ∈ F.files) (walkable : DiskStore.IsWalkable (ofPlace place)) :
    d.spot (ofPlace place) = .file place content :=
  hF.reachable.isTree.spot_ofPlace (F.plain _ own) (F.below _ own) walkable
    (hF.reachable.isTree.at?_eq ((hF.mem_iff _ _).2 own))

section

variable (hd : IsPlain dir) {n : String} {more : List String} {content : Bytes}
  (own : (dir ++ n :: more, content) ∈ F.files) (extension : String) (recursive : Bool)

include hd own

/-- A directory that a file is below is listed in memory. -/
theorem In.exists_list (hm : F.In m) : ∃ ps,
    MemoryStore.fileSystem.list (ofDirPlace dir) extension recursive m = .ok ps := by
  have listed : MemoryStore.isListed (MemoryStore.below (MemoryStore.normalize (ofDirPlace dir))) ""
      true (ofPlace (dir ++ n :: more)).text = true :=
    (isListed_ofPlace hd (F.plain _ own)).2 ⟨rfl, n, more, rfl, .inl rfl⟩
  have found : MemoryStore.find? (ofPlace (dir ++ n :: more)).text m.files ≠ none := by
    simp [hm.find? own]
  exact ⟨_, MemoryStore.list_ok (MemoryStore.isDirName_of_isListed listed found)⟩

/-- A directory that a file is below is listed in a tree, unless its path cannot be walked. -/
theorem On.exists_list (hF : F.On d) (walkable : DiskStore.IsWalkable (ofDirPlace dir)) : ∃ qs,
    DiskStore.fileSystem.list (ofDirPlace dir) extension recursive d = .ok qs := by
  have tree := hF.reachable.isTree
  have there := tree.way (tree.at?_eq ((hF.mem_iff _ _).2 own))
  have spot := tree.spot_ofDirPlace hd walkable there.2
  change ∃ qs, d.list (ofDirPlace dir) extension recursive = .ok qs
  rw [DiskStore.list, spot]
  exact ⟨_, rfl⟩

end

/-- Sources that are listed alike are taken in alike, unless a path cannot be walked. -/
theorem ingest_alike (hm : F.In m) (hF : F.On d) (hd : IsPlain dir) {settings : Settings}
    {ps : List Path}
    (lm : MemoryStore.fileSystem.list (ofDirPlace dir) Intake.sourceExtension
      settings.includeSubdirectories m = .ok ps)
    (ld : DiskStore.fileSystem.list (ofDirPlace dir) Intake.sourceExtension
      settings.includeSubdirectories d = .ok ps)
    (walkable : ∀ p ∈ ps, DiskStore.IsWalkable p) (service : CompileService σ ρ) (state : σ) :
    (Intake.ingest DiskStore.fileSystem service settings (ofDirPlace dir) d state).1 =
        (Intake.ingest MemoryStore.fileSystem service settings (ofDirPlace dir) m state).1 ∧
      (Intake.ingest DiskStore.fileSystem service settings (ofDirPlace dir) d state).2.2 =
        (Intake.ingest MemoryStore.fileSystem service settings (ofDirPlace dir) m state).2.2 := by
  have inMemory : MemoryStore.fileSystem.isDir (ofDirPlace dir) m = true := by
    by_contra missing
    rw [MemoryStore.list_error missing] at lm
    cases lm
  have inTree : DiskStore.fileSystem.isDir (ofDirPlace dir) d = true := by
    change d.isDir (ofDirPlace dir) = true
    rw [DiskStore.isDir, (hF.list_eq_ok hd ld).1]
  -- What is listed is a file of both, and it holds the same in both.
  have held : ∀ p ∈ ps, ∃ content, MemoryStore.fileSystem.read p m = .ok content ∧
      ∃ place, d.spot p = .file place content := by
    intro p hp
    obtain ⟨place, ⟨there, -⟩, rfl⟩ := (hm.mem_list hd lm).1 hp
    obtain ⟨g, own, rfl⟩ := List.mem_map.1 there
    exact ⟨g.2, hm.read own, g.1, hF.spot own (walkable _ hp)⟩
  refine Intake.ingest_congr ⟨inMemory, lm⟩ ⟨inTree, ld⟩ (fun p hp => ?_) (fun p hp => ?_) service
    state
  · obtain ⟨content, read, place, spot⟩ := held p hp
    change d.size p = (MemoryStore.fileSystem.read p m).map List.length
    rw [read, DiskStore.size, spot]
    rfl
  · obtain ⟨content, read, place, spot⟩ := held p hp
    change d.read p = _
    rw [read, DiskStore.read, spot]

/-- Take the same files in memory and in a tree. A directory that files are below is listed in both,
unless its path cannot be walked. Where it is listed, both listings have the same paths, the one in
memory in the order of their texts, the other in that of their steps. They are the same listing just
if no two of the paths cross, so always for the files of one directory; and then the sources are
taken in alike. -/
theorem listings_compared (hm : F.In m) (hF : F.On d) (hd : IsPlain dir) (extension : String)
    (recursive : Bool) :
    ((∃ f ∈ F.files, ∃ n more, f.1 = dir ++ n :: more) → DiskStore.IsWalkable (ofDirPlace dir) →
      ∃ ps qs, MemoryStore.fileSystem.list (ofDirPlace dir) extension recursive m = .ok ps ∧
        DiskStore.fileSystem.list (ofDirPlace dir) extension recursive d = .ok qs) ∧
    ∀ ps qs, MemoryStore.fileSystem.list (ofDirPlace dir) extension recursive m = .ok ps →
      DiskStore.fileSystem.list (ofDirPlace dir) extension recursive d = .ok qs →
      ps.Perm qs ∧
      ps.Pairwise (fun p q => p.text < q.text) ∧
      qs.Pairwise (fun p q => p.compare q = .lt) ∧
      (ps = qs ↔ ∀ p ∈ ps, ∀ q ∈ ps, ¬ Crosses p.text.toList q.text.toList) ∧
      (recursive = false → ps = qs) ∧
      ∀ (σ ρ : Type) (service : CompileService σ ρ) (settings : Settings) (state : σ),
        extension = Intake.sourceExtension → settings.includeSubdirectories = recursive →
        ps = qs → (∀ p ∈ ps, DiskStore.IsWalkable p) →
        (Intake.ingest DiskStore.fileSystem service settings (ofDirPlace dir) d state).1 =
            (Intake.ingest MemoryStore.fileSystem service settings (ofDirPlace dir) m state).1 ∧
          (Intake.ingest DiskStore.fileSystem service settings (ofDirPlace dir) d state).2.2 =
            (Intake.ingest MemoryStore.fileSystem service settings (ofDirPlace dir) m
              state).2.2 := by
  constructor
  · rintro ⟨⟨place, content⟩, own, n, more, rfl⟩ walkable
    obtain ⟨ps, lm⟩ := In.exists_list hd own extension recursive hm
    obtain ⟨qs, ld⟩ := On.exists_list hd own extension recursive hF walkable
    exact ⟨ps, qs, lm, ld⟩
  · intro ps qs lm ld
    refine ⟨perm_lists hm hF hd lm ld, hm.pairwise_list lm, pairwise_list hF hd ld,
      lists_eq_iff hm hF hd lm ld, lists_eq_of_flat hm hF hd lm ld, ?_⟩
    rintro σ ρ service settings state rfl rfl rfl walkable
    exact ingest_alike hm hF hd lm ld walkable service state

/-! ## Two files -/

/-- A state in memory with these files. -/
def inMemory (F : PlainFiles) : MemoryStore :=
  .withFiles (F.files.map fun f => (ofPlace f.1, f.2))

/-- A state with a tree of directories with these files. -/
def inTree (F : PlainFiles) : DiskStore :=
  .withFiles (F.files.map fun f => ofDirPlace f.1.dropLast)
    (F.files.map fun f => (ofPlace f.1, f.2))

theorem in_inMemory
    (h : F.inMemory.files = F.files.map fun f => ((ofPlace f.1).text, f.2)) : F.In F.inMemory where
  reachable := MemoryStore.reachable_withFiles _
  mem_iff f := by
    rw [h, List.mem_map]
    exact exists_congr fun g => and_congr_right fun _ => eq_comm

theorem on_inTree
    (h : F.inTree.entries.filterMap (fun e => e.2.map fun content => (e.1, content)) = F.files) :
    F.On F.inTree where
  reachable := DiskStore.reachable_withFiles _ _
  mem_iff place content := by
    rw [← h, List.mem_filterMap]
    constructor
    · exact fun he => ⟨_, he, rfl⟩
    · rintro ⟨⟨place', entry⟩, he, own⟩
      cases entry with
      | none => cases own
      | some content' =>
        cases own
        exact he

/-- The file `/src/a.cs`, and one in the directory `/src/b`. -/
def nested : PlainFiles where
  files := [(["src", "a.cs"], []), (["src", "b", "c.cs"], [])]
  plain := by decide +kernel
  below := by decide

/-- These two are listed alike, so every compiler takes them in alike. -/
theorem listings_compared_nested :
    MemoryStore.fileSystem.list ⟨"/src"⟩ "cs" true nested.inMemory =
        .ok [⟨"/src/a.cs"⟩, ⟨"/src/b/c.cs"⟩] ∧
      DiskStore.fileSystem.list ⟨"/src"⟩ "cs" true nested.inTree =
        .ok [⟨"/src/a.cs"⟩, ⟨"/src/b/c.cs"⟩] ∧
      ∀ (σ ρ : Type) (service : CompileService σ ρ) (settings : Settings) (state : σ),
        settings.includeSubdirectories = true →
        (Intake.ingest DiskStore.fileSystem service settings ⟨"/src"⟩ nested.inTree state).1 =
          (Intake.ingest MemoryStore.fileSystem service settings ⟨"/src"⟩ nested.inMemory
            state).1 := by
  have hm : nested.In nested.inMemory := in_inMemory (by decide +kernel)
  have hF : nested.On nested.inTree := on_inTree (by decide +kernel)
  have hd : IsPlain ["src"] := by decide +kernel
  have root : ofDirPlace ["src"] = ⟨"/src"⟩ := by decide +kernel
  have lm : MemoryStore.fileSystem.list ⟨"/src"⟩ "cs" true nested.inMemory =
      .ok [⟨"/src/a.cs"⟩, ⟨"/src/b/c.cs"⟩] := by rfl
  obtain ⟨listed, compared⟩ := listings_compared hm hF hd "cs" true
  rw [root] at listed compared
  obtain ⟨ps, qs, lm', ld⟩ := listed ⟨_, .head _, "a.cs", [], rfl⟩ ⟨by decide, by decide +kernel⟩
  cases lm.symm.trans lm'
  obtain ⟨-, -, -, same, -, ingests⟩ := compared _ qs lm ld
  have alike := same.2 (by decide +kernel)
  have walkable : ∀ p ∈ [Path.mk "/src/a.cs", ⟨"/src/b/c.cs"⟩], DiskStore.IsWalkable p := by
    simp only [List.forall_mem_cons]
    exact ⟨⟨by decide, by decide +kernel⟩, ⟨by decide, by decide +kernel⟩, nofun⟩
  refine ⟨lm, alike ▸ ld, fun σ ρ service settings state deep => ?_⟩
  exact (ingests σ ρ service settings state rfl deep alike walkable).1

/-- The file `/src/a.cs`, and one in the directory `/src/a`. -/
def namesake : PlainFiles where
  files := [(["src", "a.cs"], []), (["src", "a", "b.cs"], [])]
  plain := by decide +kernel
  below := by decide

/-- These two are listed in one order in memory, and in the other in a tree. -/
theorem listed_apart :
    namesake.In namesake.inMemory ∧ namesake.On namesake.inTree ∧
      MemoryStore.fileSystem.list ⟨"/src"⟩ "cs" true namesake.inMemory =
        .ok [⟨"/src/a.cs"⟩, ⟨"/src/a/b.cs"⟩] ∧
      DiskStore.fileSystem.list ⟨"/src"⟩ "cs" true namesake.inTree =
        .ok [⟨"/src/a/b.cs"⟩, ⟨"/src/a.cs"⟩] ∧
      Path.compare ⟨"/src/a.cs"⟩ ⟨"/src/a/b.cs"⟩ = .gt := by
  have hm : namesake.In namesake.inMemory := in_inMemory (by decide +kernel)
  have hF : namesake.On namesake.inTree := on_inTree (by decide +kernel)
  have hd : IsPlain ["src"] := by decide +kernel
  have root : ofDirPlace ["src"] = ⟨"/src"⟩ := by decide +kernel
  have lm : MemoryStore.fileSystem.list ⟨"/src"⟩ "cs" true namesake.inMemory =
      .ok [⟨"/src/a.cs"⟩, ⟨"/src/a/b.cs"⟩] := by rfl
  have own : (["src"] ++ "a.cs" :: [], []) ∈ namesake.files := .head _
  obtain ⟨qs, ld⟩ := On.exists_list hd own "cs" true hF ⟨by decide +kernel, by decide +kernel⟩
  refine ⟨hm, hF, lm, ?_, by decide +kernel⟩
  rw [← root] at lm ⊢
  have perm := perm_lists hm hF hd lm ld
  have swapped : [Path.mk "/src/a/b.cs", ⟨"/src/a.cs"⟩].Pairwise fun p q => p.compare q = .lt := by
    decide +kernel
  have same : qs = [⟨"/src/a/b.cs"⟩, ⟨"/src/a.cs"⟩] := by
    refine List.Pairwise.eq_of_mem_iff (pairwise_list hF hd ld) swapped fun p => ?_
    rw [← perm.mem_iff]
    simp [or_comm]
  rw [← same, ld]

end PlainFiles
end PluginForge
