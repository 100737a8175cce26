/-
The states of a file system with a tree of directories. Each entry has a place of its own, in a
directory that is there, and no call breaks this up. So the path to a place where a file or a
directory is leads to it, unless the path cannot be walked at all.
-/
import PluginForge.Proofs.PathOrder

namespace PluginForge.DiskStore

open PluginForge.Path (Component IsPlain names ofDirPlace ofPlace spell)

/-- The states that the operations lead to from the empty one. -/
inductive Reachable : DiskStore → Prop
  | empty : Reachable .empty
  | write {d} (p : Path) (content : Bytes) (h : Reachable d) : Reachable (d.write p content).2
  | remove {d} (p : Path) (h : Reachable d) : Reachable (d.remove p).2
  | makeDir {d} (p : Path) (h : Reachable d) : Reachable (d.makeDir p).2

variable {d d' : DiskStore} {pl q here : List String} {entry : Option Bytes} {content : Bytes}

/-- A place for an entry: its name can be walked, and it lies in a directory that is there. -/
def Holds (d : DiskStore) (pl : List String) : Prop :=
  ∃ dir n, pl = dir ++ [n] ∧ IsShort n.toList ∧ d.at? dir = some none

theorem Holds.of_dirs (h : d.Holds pl) (dirs : ∀ q, d.at? q = some none → d'.at? q = some none) :
    d'.Holds pl := by
  obtain ⟨dir, n, hp, short, there⟩ := h
  exact ⟨dir, n, hp, short, dirs dir there⟩

theorem Holds.ne_nil (h : d.Holds pl) : pl ≠ [] := by
  obtain ⟨dir, n, rfl, -⟩ := h
  simp

theorem mem_of_at? (hp : pl ≠ []) (h : d.at? pl = some entry) : (pl, entry) ∈ d.entries := by
  rw [at?_of_ne_nil hp] at h
  obtain ⟨e, found, rfl⟩ := Option.map_eq_some_iff.1 h
  have own : e.1 = pl := by simpa using List.find?_some found
  rw [← own]
  exact List.mem_of_find?_eq_some found

/-- Each entry has a place of its own, in a directory that is there. -/
structure IsTree (d : DiskStore) : Prop where
  distinct : (d.entries.map (·.1)).Nodup
  holds : ∀ e ∈ d.entries, d.Holds e.1

namespace IsTree

theorem at?_eq (h : d.IsTree) (he : (pl, entry) ∈ d.entries) : d.at? pl = some entry := by
  rw [at?_of_ne_nil (h.holds _ he).ne_nil, find?_key_of_nodup h.distinct he, Option.map_some]

theorem holds_of_at? (h : d.IsTree) (hp : pl ≠ []) (there : d.at? pl = some entry) : d.Holds pl :=
  h.holds _ (mem_of_at? hp there)

theorem put (h : d.IsTree) (hp : d.Holds pl)
    (dirs : ∀ q, d.at? q = some none → (d.put pl entry).at? q = some none) :
    (d.put pl entry).IsTree where
  distinct := by
    have kept : ((d.entries.filter fun e => e.1 ≠ pl).map (·.1)).Nodup :=
      h.distinct.sublist (List.filter_sublist.map _)
    unfold DiskStore.put
    rw [List.map_append, List.map_singleton]
    refine List.nodup_append.2 ⟨kept, List.nodup_singleton _, ?_⟩
    intro a ha b hb
    obtain ⟨e, he, rfl⟩ := List.mem_map.1 ha
    rw [List.mem_singleton.1 hb]
    exact of_decide_eq_true (List.mem_filter.1 he).2
  holds e he := by
    rcases List.mem_append.1 he with he | he
    · exact (h.holds e (List.mem_filter.1 he).1).of_dirs dirs
    · rw [List.mem_singleton.1 he]
      exact hp.of_dirs dirs

theorem erase (h : d.IsTree) (file : d.at? pl = some (some content)) : (d.erase pl).IsTree where
  distinct := h.distinct.sublist (List.filter_sublist.map _)
  holds e he := by
    have hp : pl ≠ [] := by
      rintro rfl
      cases file
    refine (h.holds e (List.mem_filter.1 he).1).of_dirs fun q dir => ?_
    rw [at?_erase hp, if_neg, dir]
    rintro rfl
    rw [file] at dir
    cases dir

/-- What a directory is in is a directory. -/
theorem dropLast (h : d.IsTree) (there : d.at? q = some none) : d.at? q.dropLast = some none := by
  by_cases hq : q = []
  · subst hq
    rfl
  · obtain ⟨dir, n, rfl, -, above⟩ := h.holds_of_at? hq there
    rwa [List.dropLast_concat]

/-- A walk from a directory ends at one, or where there is a place for an entry. -/
theorem of_leads {cs : List Component} {spot : Spot} (h : d.IsTree) (leads : d.Leads here cs spot)
    (there : d.at? here = some none) :
    (∀ pl, spot = .dir pl → d.at? pl = some none) ∧ ∀ pl, spot = .vacant pl → d.Holds pl := by
  induction leads with
  | done =>
    refine ⟨fun pl e => ?_, nofun⟩
    cases e
    exact there
  | root _ ih => exact ih rfl
  | here _ ih => exact ih there
  | up _ ih => exact ih (h.dropLast there)
  | enter _ dir _ ih => exact ih dir
  | file => exact ⟨nofun, nofun⟩
  | @vacant here n short =>
    refine ⟨nofun, fun pl e => ?_⟩
    cases e
    exact ⟨here, _, rfl, by rwa [String.toList_ofList], there⟩

theorem makeWalk {cs : List Component} (h : d.IsTree) (there : d.at? here = some none) :
    (d.makeWalk here cs).2.IsTree := by
  induction cs generalizing here d with
  | nil => exact h
  | cons c cs ih =>
    cases c with
    | root => exact ih h rfl
    | here => exact ih h there
    | up => exact ih h (h.dropLast there)
    | name n =>
      unfold DiskStore.makeWalk
      dsimp only
      split
      · exact h
      · rename_i short
        have hp : here ++ [String.ofList n] ≠ [] := by simp
        split
        · rename_i dir
          exact ih h dir
        · exact h
        · rename_i absent
          refine ih (h.put ⟨here, _, rfl, by rwa [String.toList_ofList], there⟩ ?_) ?_
          · intro q dir
            rw [at?_put _ hp, dir]
            split <;> rfl
          · rw [at?_put _ hp, if_pos rfl]

theorem write (h : d.IsTree) (p : Path) (content : Bytes) : (d.write p content).2.IsTree := by
  rcases write_cases p content d with ⟨pl, free, hw⟩ | ⟨err, hw⟩
  · obtain ⟨hp, nodir⟩ := at?_of_writable free
    have own : d.Holds pl := by
      rcases free with ⟨old, file⟩ | ⟨vacant, -⟩
      · exact h.holds_of_at? hp (at?_of_spot_file file).2
      · have led : (d.spot p).place? = some pl := by rw [vacant]; rfl
        exact (h.of_leads (leads_of_spot led).1 rfl).2 pl vacant
    rw [hw]
    exact h.put own fun q => at?_of_put nodir hp
  · rw [hw]
    exact h

theorem remove (h : d.IsTree) (p : Path) : (d.remove p).2.IsTree := by
  rcases remove_cases p d with ⟨pl, old, file, hr⟩ | ⟨err, hr⟩
  · rw [hr]
    exact h.erase (at?_of_spot_file file).2
  · rw [hr]
    exact h

theorem makeDir (h : d.IsTree) (p : Path) : (d.makeDir p).2.IsTree := by
  rcases makeDir_snd p d with same | ⟨cs, -, same⟩
  · rw [same]
    exact h
  · rw [same]
    exact h.makeWalk rfl

end IsTree

theorem Reachable.isTree (h : d.Reachable) : d.IsTree := by
  induction h with
  | empty => exact ⟨List.nodup_nil, nofun⟩
  | write p content _ ih => exact ih.write p content
  | remove p _ ih => exact ih.remove p
  | makeDir p _ ih => exact ih.makeDir p

/-- The state with some files, after some directories have been made. -/
def withFiles (dirs : List Path) (files : List (Path × Bytes)) : DiskStore :=
  files.foldl (fun d f => (d.write f.1 f.2).2) (dirs.foldl (fun d p => (d.makeDir p).2) .empty)

theorem reachable_withFiles (dirs : List Path) (files : List (Path × Bytes)) :
    Reachable (withFiles dirs files) := by
  have made : Reachable (dirs.foldl (fun d p => (d.makeDir p).2) .empty) :=
    List.foldlRecOn dirs _ .empty fun _ h p _ => h.makeDir p
  exact List.foldlRecOn files _ made fun _ h f _ => h.write f.1 f.2

/-! ## The path to a place -/

namespace IsTree

/-- The way to an entry leads through directories that are there, by names that can be walked. -/
theorem way (h : d.IsTree) {above more : List String} {n : String}
    (there : d.at? (above ++ n :: more) = some entry) :
    IsShort n.toList ∧ d.at? above = some none := by
  induction more using List.reverseRecOn generalizing entry with
  | nil =>
    obtain ⟨dir, m, hp, short, dirThere⟩ := h.holds_of_at? (by simp) there
    obtain ⟨rfl, hn⟩ := List.append_inj' hp rfl
    exact ⟨(List.cons.inj hn).1 ▸ short, dirThere⟩
  | append_singleton more m ih =>
    obtain ⟨dir, m', hp, -, dirThere⟩ := h.holds_of_at? (by simp) there
    have hp : (above ++ n :: more) ++ [m] = dir ++ [m'] := by simpa using hp
    obtain ⟨rfl, -⟩ := List.append_inj' hp rfl
    exact ih dirThere

end IsTree

/-- Where a walk to an entry ends. -/
def Spot.ofEntry (pl : List String) : Option Bytes → Spot
  | none => .dir pl
  | some content => .file pl content

theorem IsTree.leads_entry (h : d.IsTree) {pl : List String} (hp : pl ≠ [])
    (there : d.at? (here ++ pl) = some entry) :
    d.Leads here (names pl) (.ofEntry (here ++ pl) entry) := by
  induction pl generalizing here with
  | nil => exact absurd rfl hp
  | cons n pl ih =>
    obtain ⟨short, -⟩ := h.way there
    have own : here ++ [n] = here ++ [String.ofList n.toList] := by rw [String.ofList_toList]
    cases pl with
    | nil =>
      rw [own] at there ⊢
      cases entry with
      | none => exact .enter short there .done
      | some content => exact .file short there
    | cons m more =>
      have rest : here ++ n :: m :: more = here ++ [n] ++ m :: more := by simp
      rw [rest] at there ⊢
      obtain ⟨-, dir⟩ := h.way there
      have further := ih (List.cons_ne_nil m more) there
      rw [own] at dir further ⊢
      exact .enter short dir further

theorem asksForDir_ofPlace (h : IsPlain pl) (hp : pl ≠ []) : asksForDir (ofPlace pl) = false := by
  obtain ⟨front, n, rfl⟩ := (List.eq_nil_or_concat' pl).resolve_left hp
  have name := (h n (by simp)).1
  have text : (ofPlace (front ++ [n])).text.toList.reverse =
      n.toList.reverse ++ '/' :: (spell front).reverse := by simp [spell]
  have plain : '/' ∉ n.toList.reverse := fun hc => name.plain (List.mem_reverse.1 hc)
  have step := name.step
  rw [← List.reverse_reverse n.toList] at step
  rw [asksForDir, text]
  generalize n.toList.reverse = s at plain step ⊢
  split
  · rename_i hs
    cases s with
    | nil => cases step
    | cons c s =>
      obtain ⟨rfl, -⟩ := List.cons.inj hs
      exact absurd List.mem_cons_self plain
  · rename_i hs
    cases s with
    | nil => cases step
    | cons c s =>
      obtain ⟨rfl, rest⟩ := List.cons.inj hs
      cases s with
      | nil => cases step
      | cons c s =>
        obtain ⟨rfl, -⟩ := List.cons.inj rest
        exact absurd (by simp) plain
  · rfl

/-- The path to the place of a file leads to the file. -/
theorem IsTree.spot_ofPlace (h : d.IsTree) (plain : IsPlain pl) (hp : pl ≠ [])
    (walkable : IsWalkable (ofPlace pl)) (there : d.at? pl = some (some content)) :
    d.spot (ofPlace pl) = .file pl content := by
  have leads : d.Leads [] (ofPlace pl).components (.file pl content) := by
    rw [Path.components_ofPlace plain hp]
    exact .root (@leads_entry d [] (some content) h pl hp there)
  rw [spot_of_isWalkable walkable, leads.walk_eq]
  simp [asksForDir_ofPlace plain hp]

theorem IsTree.spot_ofDirPlace (h : d.IsTree) (plain : IsPlain pl)
    (walkable : IsWalkable (ofDirPlace pl)) (there : d.at? pl = some none) :
    d.spot (ofDirPlace pl) = .dir pl := by
  have leads : d.Leads [] (ofDirPlace pl).components (.dir pl) := by
    rw [Path.components_ofDirPlace plain]
    by_cases hp : pl = []
    · subst hp
      exact .root .done
    · exact .root (@leads_entry d [] none h pl hp there)
  rw [spot_of_isWalkable walkable, leads.walk_eq]

end PluginForge.DiskStore
