/-
How a file system with a tree of directories keeps its files: at the places that the steps of paths
lead to, whatever is there (`place`). A walk ends at the place of its path if it gets there, and it
gets to a file in a later state if no directory on its way has gone, which no call takes away.
-/
import PluginForge.Proofs.Layout
import PluginForge.Store.Disk

namespace PluginForge

open PluginForge.Path (Component IsName)

/-! ## Steps -/

namespace Path

theorem isName_of_ofSegment? {s n : List Char} (hs : '/' ∉ s)
    (h : Component.ofSegment? s = some (.name n)) : IsName n := by
  have same : s = n := by
    unfold Component.ofSegment? at h
    split at h
    · cases h
    · split at h
      · cases h
      · cases h
        rfl
  exact ⟨same ▸ hs, same ▸ h⟩

theorem not_mem_of_mem_segments {s seg : List Char} (h : seg ∈ segments s) : '/' ∉ seg := by
  induction s generalizing seg with
  | nil =>
    rw [List.mem_singleton.1 h]
    exact List.not_mem_nil
  | cons c s ih =>
    rw [segments, List.splitOn_cons_eq_if_modifyHead] at h
    split at h
    · rcases List.mem_cons.1 h with rfl | h
      · exact List.not_mem_nil
      · exact ih h
    · rename_i hc
      obtain ⟨first, rest, hs⟩ := List.exists_cons_of_ne_nil (List.splitOn_ne_nil '/' s)
      rw [segments, hs] at ih
      rw [hs] at h
      rcases List.mem_cons.1 h with rfl | h
      · rw [List.mem_cons, not_or]
        exact ⟨fun e => hc (beq_iff_eq.2 e.symm), ih List.mem_cons_self⟩
      · exact ih (List.mem_cons_of_mem _ h)

theorem isName_of_mem_components {p : Path} {n : List Char} (h : .name n ∈ p.components) :
    IsName n := by
  have named {segs : List (List Char)} (hs : ∀ seg ∈ segs, '/' ∉ seg)
      (h : .name n ∈ segs.filterMap Component.ofSegment?) : IsName n := by
    obtain ⟨seg, hm, hn⟩ := List.mem_filterMap.1 h
    exact isName_of_ofSegment? (hs seg hm) hn
  unfold components at h
  split at h
  · cases h
  · exact named (fun seg => not_mem_of_mem_segments) ((List.mem_cons.1 h).resolve_left nofun)
  · split at h
    · rename_i rest hr
      refine named (fun seg hm => ?_) ((List.mem_cons.1 h).resolve_left nofun)
      exact not_mem_of_mem_segments (hr ▸ List.mem_cons_of_mem _ hm)
    · exact named (fun seg => not_mem_of_mem_segments) h

theorem components_of_head {p : Path} (hn : p.text.toList ≠ [])
    (hc : p.text.toList.head? ≠ some '/') : p.components =
      match segments p.text.toList with
      | ['.'] :: rest => .here :: rest.filterMap Component.ofSegment?
      | all => all.filterMap Component.ofSegment? := by
  unfold components
  generalize p.text.toList = s at hn hc ⊢
  split
  · exact absurd rfl hn
  · exact absurd rfl hc
  · rfl

/-- A name that follows a separator at the end of a path is its last step, and the others are those of
what is before the separator. -/
theorem components_append_name {p dir : Path} {name : List Char}
    (hp : p.text.toList = dir.text.toList ++ '/' :: name) (hd : dir.text.toList ≠ [])
    (h : IsName name) : p.components = dir.components ++ [.name name] := by
  cases hc : decide (dir.text.toList.head? = some '/') with
  | true =>
    obtain ⟨s, hs⟩ := List.head?_eq_some_iff.1 (of_decide_eq_true hc)
    rw [hs, List.cons_append] at hp
    have steps : p.components = .root :: (segments (s ++ '/' :: name)).filterMap
        Component.ofSegment? := by
      rw [components, hp]
      rfl
    have steps' : dir.components = .root :: (segments s).filterMap Component.ofSegment? := by
      rw [components, hs]
      rfl
    rw [steps, steps', segments_append h.plain, filterMap_ofSegment?_append h, List.cons_append]
  | false =>
    have hc := of_decide_eq_false hc
    have same : p.text.toList.head? = dir.text.toList.head? := by
      rw [hp, List.head?_append_of_ne_nil _ hd]
    rw [components_of_head (by simp [hp]) (same ▸ hc), components_of_head hd hc, hp,
      segments_append h.plain]
    obtain ⟨first, rest, he⟩ := List.exists_cons_of_ne_nil (List.splitOn_ne_nil '/' dir.text.toList)
    have he : segments dir.text.toList = first :: rest := he
    rw [he, List.cons_append]
    by_cases dot : first = ['.']
    · subst dot
      exact congrArg (Component.here :: ·) (filterMap_ofSegment?_append h rest)
    · split
      · rename_i hf
        exact absurd (List.cons.inj hf).1 dot
      · split
        · rename_i hf
          exact absurd (List.cons.inj hf).1 dot
        · rw [← List.cons_append, filterMap_ofSegment?_append h]

end Path

namespace DiskStore

variable {d d' : DiskStore} {p : Path} {pl q : List String}

/-! ## Places -/

/-- Where steps lead from a place, whatever is there. -/
def follow (here : List String) : List Component → List String
  | [] => here
  | .root :: rest => follow [] rest
  | .here :: rest => follow here rest
  | .up :: rest => follow here.dropLast rest
  | .name n :: rest => follow (here ++ [.ofList n]) rest

/-- The place that a path stands for. -/
def place (p : Path) : List String :=
  follow [] p.components

theorem follow_append (here : List String) (cs cs' : List Component) :
    follow here (cs ++ cs') = follow (follow here cs) cs' := by
  induction cs generalizing here with
  | nil => rfl
  | cons c cs ih => cases c <;> exact ih _

theorem place_of_components {cs : List Component} {name : List Char}
    (h : p.components = cs ++ [.name name]) : place p = follow [] cs ++ [.ofList name] := by
  rw [place, h, follow_append]
  rfl

theorem isName_of_mem_follow {here : List String} {cs : List Component}
    (hh : ∀ n ∈ here, IsName n.toList) (hc : ∀ n, .name n ∈ cs → IsName n) :
    ∀ n ∈ follow here cs, IsName n.toList := by
  induction cs generalizing here with
  | nil => exact hh
  | cons c cs ih =>
    have others : ∀ n, .name n ∈ cs → IsName n := fun n hn => hc n (List.mem_cons_of_mem _ hn)
    cases c with
    | root => exact ih (by simp) others
    | here => exact ih hh others
    | up => exact ih (fun n hn => hh n (List.dropLast_subset _ hn)) others
    | name n =>
      refine ih (fun m hm => ?_) others
      rcases List.mem_append.1 hm with hm | hm
      · exact hh m hm
      · rw [List.mem_singleton.1 hm, String.toList_ofList]
        exact hc n List.mem_cons_self

theorem isName_of_mem_place {n : String} (h : n ∈ place p) : IsName n.toList :=
  isName_of_mem_follow (by simp) (fun _ => Path.isName_of_mem_components) n h

/-! ## Entries -/

theorem at?_of_ne_nil (h : q ≠ []) :
    d.at? q = (d.entries.find? fun e => e.1 = q).map (·.2) := by
  obtain ⟨n, rest, rfl⟩ := List.exists_cons_of_ne_nil h
  rfl

theorem at?_put (entry : Option Bytes) (hp : pl ≠ []) :
    (d.put pl entry).at? q = if q = pl then some entry else d.at? q := by
  by_cases hq : q = []
  · rw [hq, if_neg hp.symm]
    rfl
  · rw [at?_of_ne_nil hq, at?_of_ne_nil hq, put, List.find?_append, find?_key_filter_ne]
    by_cases h : pl = q
    · simp [h]
    · simp [h, Ne.symm h]

theorem at?_erase (hp : pl ≠ []) :
    (d.erase pl).at? q = if q = pl then none else d.at? q := by
  by_cases hq : q = []
  · rw [hq, if_neg hp.symm]
    rfl
  · rw [at?_of_ne_nil hq, at?_of_ne_nil hq, erase, find?_key_filter_ne]
    by_cases h : pl = q
    · simp [h]
    · simp [h, Ne.symm h]

/-! ## Walks -/

/-- The place where a walk ends, if it gets there. -/
def Spot.place? : Spot → Option (List String)
  | .file pl _ | .dir pl | .vacant pl => some pl
  | .missing | .refused _ => none

/-- A name that can be walked. -/
def IsShort (n : List Char) : Prop :=
  ¬ (String.ofList n).utf8ByteSize > maxNameSize

/-- A walk from a place that gets where its steps lead. -/
inductive Leads (d : DiskStore) : List String → List Component → Spot → Prop
  | done {here} : Leads d here [] (.dir here)
  | root {here cs spot} (rest : Leads d [] cs spot) : Leads d here (.root :: cs) spot
  | here {here cs spot} (rest : Leads d here cs spot) : Leads d here (.here :: cs) spot
  | up {here cs spot} (rest : Leads d here.dropLast cs spot) : Leads d here (.up :: cs) spot
  | enter {here n cs spot} (short : IsShort n) (dir : d.at? (here ++ [.ofList n]) = some none)
      (rest : Leads d (here ++ [.ofList n]) cs spot) : Leads d here (.name n :: cs) spot
  | file {here n content} (short : IsShort n)
      (file : d.at? (here ++ [.ofList n]) = some (some content)) :
      Leads d here [.name n] (.file (here ++ [.ofList n]) content)
  | vacant {here n} (short : IsShort n) (none : d.at? (here ++ [.ofList n]) = none) :
      Leads d here [.name n] (.vacant (here ++ [.ofList n]))

theorem leads_walk {here : List String} {cs : List Component}
    (h : (d.walk here cs).place? = some pl) : d.Leads here cs (d.walk here cs) := by
  induction cs generalizing here with
  | nil => exact .done
  | cons c cs ih =>
    cases c with
    | root => exact .root (ih h)
    | here => exact .here (ih h)
    | up => exact .up (ih h)
    | name n =>
      unfold walk at h ⊢
      dsimp only at h ⊢
      split at h
      · cases h
      · rename_i short
        rw [if_neg short]
        split at h
        · rename_i dir
          exact .enter short dir (ih h)
        · exact .file short ‹_›
        · cases h
        · exact .vacant short ‹_›
        · cases h

namespace Leads

variable {here : List String} {cs : List Component} {spot : Spot} {content content' : Bytes}

theorem walk_eq (h : d.Leads here cs spot) : d.walk here cs = spot := by
  induction h with
  | done => rfl
  | root _ ih | here _ ih | up _ ih => exact ih
  | enter short dir _ ih =>
    unfold walk
    dsimp only
    rw [if_neg short, dir]
    exact ih
  | file short file =>
    unfold walk
    dsimp only
    rw [if_neg short, file]
  | vacant short none =>
    unfold walk
    dsimp only
    rw [if_neg short, none]

theorem place?_eq (h : d.Leads here cs spot) : spot.place? = some (follow here cs) := by
  induction h with
  | done | file | vacant => rfl
  | root _ ih | here _ ih | up _ ih | enter _ _ _ ih => exact ih

theorem ne_nil (h : d.Leads here cs spot)
    (hs : (∃ old, spot = .file pl old) ∨ spot = .vacant pl) : pl ≠ [] := by
  induction h with
  | done => simp at hs
  | root _ ih | here _ ih | up _ ih | enter _ _ _ ih => exact ih hs
  | file | vacant =>
    rcases hs with ⟨_, hs⟩ | hs
    all_goals cases hs
    exact List.append_ne_nil_of_right_ne_nil _ (List.cons_ne_nil _ _)

theorem at?_file (h : d.Leads here cs (.file pl content)) : d.at? pl = some (some content) := by
  generalize hs : Spot.file pl content = spot at h
  induction h with
  | root _ ih | here _ ih | up _ ih | enter _ _ _ ih => exact ih hs
  | file _ file => cases hs; exact file
  | done | vacant => cases hs

theorem at?_vacant (h : d.Leads here cs (.vacant pl)) : d.at? pl = none := by
  generalize hs : Spot.vacant pl = spot at h
  induction h with
  | root _ ih | here _ ih | up _ ih | enter _ _ _ ih => exact ih hs
  | vacant _ none => cases hs; exact none
  | done | file => cases hs

/-- A walk to a directory goes the same way where no directory has gone. -/
theorem dir_of_dirs (h : d.Leads here cs (.dir pl))
    (dirs : ∀ q, d.at? q = some none → d'.at? q = some none) : d'.Leads here cs (.dir pl) := by
  generalize hs : Spot.dir pl = spot at h ⊢
  induction h with
  | done => exact .done
  | root _ ih => exact .root (ih hs)
  | here _ ih => exact .here (ih hs)
  | up _ ih => exact .up (ih hs)
  | enter short dir _ ih => exact .enter short (dirs _ dir) (ih hs)
  | file | vacant => cases hs

/-- A walk to a file, or to where one is made, gets to the file that is there where no directory has
gone. -/
theorem file_of_dirs (h : d.Leads here cs spot)
    (hs : (∃ old, spot = .file pl old) ∨ spot = .vacant pl)
    (dirs : ∀ q, d.at? q = some none → d'.at? q = some none)
    (there : d'.at? pl = some (some content')) : d'.Leads here cs (.file pl content') := by
  induction h with
  | done => simp at hs
  | root _ ih => exact .root (ih hs)
  | here _ ih => exact .here (ih hs)
  | up _ ih => exact .up (ih hs)
  | enter short dir _ ih => exact .enter short (dirs _ dir) (ih hs)
  | file short | vacant short =>
    rcases hs with ⟨_, hs⟩ | hs
    all_goals cases hs
    exact .file short there

end Leads

/-! ## Spots -/

/-- A path that can be walked. -/
structure IsWalkable (p : Path) : Prop where
  text : p.text ≠ ""
  allowed : refusal? p = none

theorem spot_of_isWalkable (h : IsWalkable p) : d.spot p =
    match d.walk [] p.components with
    | .file pl content => if asksForDir p then .refused blockedError else .file pl content
    | s => s := by
  rw [spot, if_neg h.text, h.allowed]
  cases d.walk [] p.components <;> rfl

theorem isWalkable_of_place? (h : (d.spot p).place? = some pl) : IsWalkable p := by
  unfold spot at h
  split at h
  · cases h
  · rename_i text
    refine ⟨text, ?_⟩
    cases hr : refusal? p with
    | none => rfl
    | some e =>
      rw [hr] at h
      cases h

theorem leads_of_spot (h : (d.spot p).place? = some pl) :
    d.Leads [] p.components (d.spot p) ∧
      ∀ content, d.spot p = .file pl content → asksForDir p = false := by
  have walkable := isWalkable_of_place? h
  have leads := fun pl => @leads_walk d pl [] p.components
  rw [spot_of_isWalkable walkable] at h ⊢
  generalize d.walk [] p.components = spot at h leads ⊢
  cases spot with
  | file pl' content =>
    cases asks : asksForDir p with
    | true => simp [asks, Spot.place?] at h
    | false => exact ⟨leads pl' rfl, fun _ _ => rfl⟩
  | dir pl' | vacant pl' => exact ⟨leads pl' rfl, nofun⟩
  | missing | refused e => cases h

theorem place_eq_of_spot (h : (d.spot p).place? = some pl) : place p = pl :=
  Option.some.inj ((leads_of_spot h).1.place?_eq.symm.trans h)

/-- A path to a directory leads there where no directory has gone. -/
theorem spot_dir_of_dirs (h : d.spot p = .dir pl)
    (dirs : ∀ q, d.at? q = some none → d'.at? q = some none) : d'.spot p = .dir pl := by
  have there : (d.spot p).place? = some pl := by rw [h]; rfl
  have leads := (leads_of_spot there).1
  rw [h] at leads
  rw [spot_of_isWalkable (isWalkable_of_place? there), (leads.dir_of_dirs dirs).walk_eq]

/-- A path to a file, or to where one is made, leads to the file that is there where no directory has
gone. -/
theorem spot_file_of_dirs {content : Bytes}
    (h : (∃ old, d.spot p = .file pl old) ∨ d.spot p = .vacant pl ∧ asksForDir p = false)
    (dirs : ∀ q, d.at? q = some none → d'.at? q = some none)
    (there : d'.at? pl = some (some content)) : d'.spot p = .file pl content := by
  have place : (d.spot p).place? = some pl := by
    rcases h with ⟨old, h⟩ | ⟨h, -⟩ <;> rw [h] <;> rfl
  obtain ⟨leads, asks⟩ := leads_of_spot place
  have asks : asksForDir p = false := h.elim (fun ⟨old, h⟩ => asks old h) And.right
  rw [spot_of_isWalkable (isWalkable_of_place? place),
    (leads.file_of_dirs (h.imp_right And.left) dirs there).walk_eq]
  simp [asks]

theorem at?_of_spot_file {content : Bytes} (h : d.spot p = .file pl content) :
    pl ≠ [] ∧ d.at? pl = some (some content) := by
  have led : (d.spot p).place? = some pl := by rw [h]; rfl
  have leads := (leads_of_spot led).1
  rw [h] at leads
  exact ⟨leads.ne_nil (.inl ⟨content, rfl⟩), leads.at?_file⟩

theorem at?_of_spot_vacant (h : d.spot p = .vacant pl) : pl ≠ [] ∧ d.at? pl = none := by
  have led : (d.spot p).place? = some pl := by rw [h]; rfl
  have leads := (leads_of_spot led).1
  rw [h] at leads
  exact ⟨leads.ne_nil (.inr rfl), leads.at?_vacant⟩

theorem isFile_iff : isFile p d = true ↔ ∃ pl content, d.spot p = .file pl content := by
  unfold isFile
  cases d.spot p <;> simp

/-! ## Calls -/

/-- A write puts the file at the place of its path, or it changes nothing. -/
theorem write_cases (p : Path) (content : Bytes) (d : DiskStore) :
    (∃ pl, ((∃ old, d.spot p = .file pl old) ∨ d.spot p = .vacant pl ∧ asksForDir p = false) ∧
      d.write p content = (.ok (), d.put pl (some content))) ∨
    ∃ err, d.write p content = (.error err, d) := by
  unfold write
  cases hs : d.spot p with
  | file pl old => exact .inl ⟨pl, .inl ⟨old, rfl⟩, rfl⟩
  | vacant pl =>
    dsimp only
    split
    · exact .inr ⟨_, rfl⟩
    · split
      · exact .inr ⟨_, rfl⟩
      · rename_i asks
        exact .inl ⟨pl, .inr ⟨rfl, by simpa using asks⟩, rfl⟩
  | dir pl | missing | refused e => exact .inr ⟨_, rfl⟩

/-- A removal takes away the file at the place of its path, or it changes nothing. -/
theorem remove_cases (p : Path) (d : DiskStore) :
    (∃ pl old, d.spot p = .file pl old ∧ d.remove p = (.ok (), d.erase pl)) ∨
    ∃ err, d.remove p = (.error err, d) := by
  unfold remove
  cases hs : d.spot p with
  | file pl old => exact .inl ⟨pl, old, rfl, rfl⟩
  | vacant pl | dir pl | missing | refused e => exact .inr ⟨_, rfl⟩

theorem at?_makeWalk {here : List String} {cs : List Component} {entry : Option Bytes}
    (h : d.at? q = some entry) : (d.makeWalk here cs).2.at? q = some entry := by
  induction cs generalizing here d with
  | nil => exact h
  | cons c cs ih =>
    cases c with
    | root | here | up => exact ih h
    | name n =>
      unfold makeWalk
      dsimp only
      split
      · exact h
      · split
        · exact ih h
        · exact h
        · rename_i absent
          refine ih ?_
          rw [at?_put none (List.append_ne_nil_of_right_ne_nil _ (List.cons_ne_nil _ _)), if_neg, h]
          rintro rfl
          rw [absent] at h
          cases h

/-- What making a directory does to the tree, one walk does. -/
theorem makeDir_snd (p : Path) (d : DiskStore) :
    (d.makeDir p).2 = d ∨ ∃ cs, (∀ c ∈ cs, c ∈ p.components) ∧ (d.makeDir p).2 = (d.makeWalk [] cs).2 := by
  unfold makeDir
  split
  · exact .inl rfl
  · split
    · refine .inr ⟨p.components.dropLast, fun c hc => List.dropLast_subset _ hc, ?_⟩
      generalize d.makeWalk [] p.components.dropLast = r
      obtain ⟨r, d'⟩ := r
      cases r with
      | error err => rfl
      | ok u => dsimp only; split <;> rfl
    · exact .inr ⟨p.components, fun c hc => hc, rfl⟩

theorem at?_makeDir {entry : Option Bytes} (h : d.at? q = some entry) :
    (d.makeDir p).2.at? q = some entry := by
  rcases makeDir_snd p d with same | ⟨cs, -, same⟩
  · rw [same, h]
  · rw [same, at?_makeWalk h]

theorem at?_of_put {content : Bytes} (h : d.at? pl ≠ some none) (hp : pl ≠ []) {q : List String}
    (hq : d.at? q = some none) : (d.put pl (some content)).at? q = some none := by
  rw [at?_put _ hp, if_neg, hq]
  rintro rfl
  exact h hq

/-- Where a file can be written there is no directory. -/
theorem at?_of_writable {pl : List String}
    (h : (∃ old, d.spot p = .file pl old) ∨ d.spot p = .vacant pl ∧ asksForDir p = false) :
    pl ≠ [] ∧ d.at? pl ≠ some none := by
  rcases h with ⟨old, h⟩ | ⟨h, -⟩
  · obtain ⟨hp, file⟩ := at?_of_spot_file h
    exact ⟨hp, by simp [file]⟩
  · obtain ⟨hp, absent⟩ := at?_of_spot_vacant h
    exact ⟨hp, by simp [absent]⟩

theorem isFile_of_read {content : Bytes} (h : d.read p = .ok content) : isFile p d = true := by
  unfold DiskStore.read at h
  cases hs : d.spot p with
  | file pl old => exact isFile_iff.2 ⟨pl, old, hs⟩
  | dir | vacant | missing | refused => rw [hs] at h; cases h

theorem read_write {content : Bytes} (h : fileSystem.write p content d = (.ok (), d')) :
    isFile p d' = true ∧ d'.read p = .ok content := by
  change d.write p content = _ at h
  rcases write_cases p content d with ⟨pl, free, hw⟩ | ⟨err, hw⟩
  · rw [hw] at h
    cases h
    obtain ⟨hp, nodir⟩ := at?_of_writable free
    have spot : (d.put pl (some content)).spot p = .file pl content :=
      spot_file_of_dirs free (fun q => at?_of_put nodir hp) (by rw [at?_put _ hp, if_pos rfl])
    exact ⟨isFile_iff.2 ⟨pl, content, spot⟩, by rw [read, spot]⟩
  · rw [hw] at h
    cases h

/-- No call takes a directory away, or touches a file at another place than its own. -/
theorem at?_of_does {c : StoreChange} (h : fileSystem.Does d c d') :
    (∀ q, d.at? q = some none → d'.at? q = some none) ∧
      ∀ q content, (∀ p, c.target? = some p → place p ≠ q) → d.at? q = some (some content) →
        d'.at? q = some (some content) := by
  cases h with
  | @write p content s r s' h =>
    rcases write_cases p content d with ⟨pl, free, hw⟩ | ⟨err, hw⟩
    · cases hw.symm.trans h
      obtain ⟨hp, nodir⟩ := at?_of_writable free
      have own : place p = pl := place_eq_of_spot (d := d) (by
        rcases free with ⟨old, h⟩ | ⟨h, -⟩ <;> rw [h] <;> rfl)
      refine ⟨fun q => at?_of_put nodir hp, fun q content' other there => ?_⟩
      rw [at?_put _ hp, if_neg fun e => other p rfl (own.trans e.symm), there]
    · cases hw.symm.trans h
      exact ⟨fun _ => id, fun _ _ _ => id⟩
  | @remove p s r s' h =>
    rcases remove_cases p d with ⟨pl, old, file, hr⟩ | ⟨err, hr⟩
    · cases hr.symm.trans h
      obtain ⟨hp, there⟩ := at?_of_spot_file file
      have own : place p = pl := place_eq_of_spot (d := d) (by rw [file]; rfl)
      refine ⟨fun q dir => ?_, fun q content other there => ?_⟩
      · rw [at?_erase hp, if_neg, dir]
        rintro rfl
        rw [there] at dir
        cases dir
      · rw [at?_erase hp, if_neg fun e => other p rfl (own.trans e.symm), there]
    · cases hr.symm.trans h
      exact ⟨fun _ => id, fun _ _ _ => id⟩
  | @makeDir p s r s' h =>
    obtain rfl : (d.makeDir p).2 = d' := congrArg Prod.snd h
    exact ⟨fun q => at?_makeDir, fun q content _ => at?_makeDir⟩

theorem does_spares {c : StoreChange} (h : fileSystem.Does d c d') (there : isFile p d = true)
    (hc : ∀ q, c.target? = some q → place q ≠ place p) :
    isFile p d' = true ∧ d'.read p = d.read p := by
  obtain ⟨dirs, files⟩ := at?_of_does h
  obtain ⟨pl, content, spot⟩ := isFile_iff.1 there
  have own : place p = pl := place_eq_of_spot (d := d) (by rw [spot]; rfl)
  have spot' : d'.spot p = .file pl content := by
    refine spot_file_of_dirs (.inl ⟨content, spot⟩) dirs ?_
    exact files pl content (fun q hq => own ▸ hc q hq) (at?_of_spot_file spot).2
  exact ⟨isFile_iff.2 ⟨pl, content, spot'⟩, by rw [read, read, spot, spot']⟩

/-! ## Names of entries -/

/-- The entries have names that paths can have. -/
def Named (d : DiskStore) : Prop :=
  ∀ entry ∈ d.entries, ∀ n ∈ entry.1, IsName n.toList

namespace Named

theorem put (h : d.Named) (hp : ∀ n ∈ pl, IsName n.toList) (entry : Option Bytes) :
    (d.put pl entry).Named := by
  intro x hx
  rcases List.mem_append.1 hx with hx | hx
  · exact h x (List.mem_filter.1 hx).1
  · rw [List.mem_singleton.1 hx]
    exact hp

theorem write (h : d.Named) (p : Path) (content : Bytes) : (d.write p content).2.Named := by
  rcases write_cases p content d with ⟨pl, free, hw⟩ | ⟨err, hw⟩
  · have own : place p = pl := place_eq_of_spot (d := d) (by
      rcases free with ⟨old, h⟩ | ⟨h, -⟩ <;> rw [h] <;> rfl)
    rw [hw]
    exact h.put (fun n hn => isName_of_mem_place (own ▸ hn)) _
  · rw [hw]
    exact h

theorem remove (h : d.Named) (p : Path) : (d.remove p).2.Named := by
  rcases remove_cases p d with ⟨pl, old, file, hr⟩ | ⟨err, hr⟩
  · rw [hr]
    exact fun x hx => h x (List.mem_filter.1 hx).1
  · rw [hr]
    exact h

theorem makeWalk (h : d.Named) {here : List String} {cs : List Component}
    (hh : ∀ n ∈ here, IsName n.toList) (hc : ∀ n, .name n ∈ cs → IsName n) :
    (d.makeWalk here cs).2.Named := by
  induction cs generalizing here d with
  | nil => exact h
  | cons c cs ih =>
    have others : ∀ n, .name n ∈ cs → IsName n := fun n hn => hc n (List.mem_cons_of_mem _ hn)
    cases c with
    | root => exact ih h (by simp) others
    | here => exact ih h hh others
    | up => exact ih h (fun n hn => hh n (List.dropLast_subset _ hn)) others
    | name n =>
      have hn : ∀ m ∈ here ++ [String.ofList n], IsName m.toList := by
        intro m hm
        rcases List.mem_append.1 hm with hm | hm
        · exact hh m hm
        · rw [List.mem_singleton.1 hm, String.toList_ofList]
          exact hc n List.mem_cons_self
      unfold DiskStore.makeWalk
      dsimp only
      split
      · exact h
      · split
        · exact ih h hn others
        · exact h
        · exact ih (h.put hn none) hn others

theorem makeDir (h : d.Named) (p : Path) : (d.makeDir p).2.Named := by
  rcases makeDir_snd p d with same | ⟨cs, hc, same⟩
  · rw [same]
    exact h
  · rw [same]
    exact h.makeWalk (by simp) fun n hn => Path.isName_of_mem_components (hc _ hn)

end Named

/-! ## Listings -/

theorem mem_filesBelow_iff {dir : Path} : p ∈ d.filesBelow dir pl false ↔
    ∃ n content, (pl ++ [n], some content) ∈ d.entries ∧ p = dir.join n := by
  unfold filesBelow
  rw [List.mem_filterMap]
  constructor
  · rintro ⟨⟨at_, entry⟩, hm, hp⟩
    cases entry with
    | none => cases hp
    | some content =>
      dsimp only at hp
      split at hp
      · rename_i hb
        rw [Bool.and_eq_true, List.isPrefixOf_iff_prefix, Bool.false_or, beq_iff_eq] at hb
        obtain ⟨⟨names, rfl⟩, hl⟩ := hb
        rw [List.length_append, Nat.add_left_cancel_iff] at hl
        obtain ⟨n, rfl⟩ := List.length_eq_one_iff.1 hl
        rw [List.drop_left] at hp
        exact ⟨n, content, hm, (Option.some.inj hp).symm⟩
      · cases hp
  · rintro ⟨n, content, hm, rfl⟩
    exact ⟨_, hm, by simp⟩

theorem lists_iff {dir : Path} {wanted : String} :
    fileSystem.Lists dir wanted d p ↔ ∃ pl, d.spot dir = .dir pl ∧ p.hasExtension wanted = true ∧
      ∃ n content, (pl ++ [n], some content) ∈ d.entries ∧ p = dir.join n := by
  have sorted {pl : List String} {paths : List Path} (hs : d.spot dir = .dir pl) :
      d.list dir wanted false = .ok paths ↔ ((d.filesBelow dir pl false).filter
        (·.hasExtension wanted)).mergeSort (fun p q => (p.compare q).isLE) = paths := by
    unfold DiskStore.list
    rw [hs, Except.ok.injEq]
  constructor
  · rintro ⟨paths, hl, hp⟩
    change d.list dir wanted false = .ok paths at hl
    cases hs : d.spot dir with
    | dir pl =>
      rw [← (sorted hs).1 hl, (List.mergeSort_perm _ _).mem_iff, List.mem_filter] at hp
      exact ⟨pl, rfl, hp.2, mem_filesBelow_iff.1 hp.1⟩
    | file | vacant | missing | refused =>
      unfold DiskStore.list at hl
      rw [hs] at hl
      cases hl
  · rintro ⟨pl, hs, hx, there⟩
    refine ⟨_, (sorted hs).2 rfl, ?_⟩
    rw [(List.mergeSort_perm _ _).mem_iff, List.mem_filter]
    exact ⟨mem_filesBelow_iff.2 there, hx⟩

theorem place_join {dir : Path} {n : String} (hd : MemoryStore.EndsPlain dir.text.toList)
    (hn : IsName n.toList) : place (dir.join n) = place dir ++ [n] := by
  have head : n.toList.head? ≠ some '/' := fun h => hn.plain (List.mem_of_head? h)
  have nonempty : dir.text.toList ≠ [] := by
    obtain ⟨t, c, ht, -⟩ := hd
    simp [ht]
  rw [place_of_components (Path.components_append_name (MemoryStore.toList_join hd head) nonempty hn),
    String.ofList_toList]
  rfl

theorem lists_of_remove (h : d.Named) {dir p q : Path} {wanted : String}
    (hd : MemoryStore.EndsPlain dir.text.toList) (hr : fileSystem.remove p d = (.ok (), d'))
    (hl : fileSystem.Lists dir wanted d' q) :
    fileSystem.Lists dir wanted d q ∧ place q ≠ place p := by
  obtain ⟨pl, spot, hx, n, content, hm, rfl⟩ := lists_iff.1 hl
  rcases remove_cases p d with ⟨gone, old, file, hr'⟩ | ⟨err, hr'⟩
  · cases hr'.symm.trans hr
    obtain ⟨hp, -⟩ := at?_of_spot_file file
    obtain ⟨hm, other⟩ := List.mem_filter.1 hm
    have dirs (q : List String) (hq : (d.erase gone).at? q = some none) : d.at? q = some none := by
      rw [at?_erase hp] at hq
      split at hq
      · cases hq
      · exact hq
    have name : IsName n.toList := h _ hm n (List.mem_append_right _ (List.mem_singleton_self n))
    have own : place p = gone := place_eq_of_spot (d := d) (by rw [file]; rfl)
    have there : place dir = pl := place_eq_of_spot (d := d.erase gone) (by rw [spot]; rfl)
    refine ⟨lists_iff.2 ⟨pl, spot_dir_of_dirs spot dirs, hx, n, content, hm, rfl⟩, ?_⟩
    rw [place_join hd name, there, own]
    exact of_decide_eq_true other
  · cases hr'.symm.trans hr

/-! ## The layout -/

/-- The extension of the file at a place, in small letters. -/
def smallExtension? (place : List String) : Option (List Char) :=
  place.getLast?.bind fun n => (Path.splitExtension n.toList).2.map Chars.lowerAscii

theorem smallExtension?_place {ext : List Char} (h : p.smallExtension? = some ext) :
    smallExtension? (place p) = some ext := by
  unfold Path.smallExtension? Path.extension? Path.fileNameChars? at h
  cases hc : p.components.getLast? with
  | none => rw [hc] at h; cases h
  | some c =>
    rw [hc] at h
    cases c with
    | root | here | up => cases h
    | name n =>
      obtain ⟨cs, hcs⟩ := List.getLast?_eq_some_iff.1 hc
      rw [smallExtension?, place_of_components hcs, List.getLast?_concat, Option.bind_some,
        String.toList_ofList, ← h, Option.bind_some, Option.map_map]
      exact congrArg (Option.map · _) (funext fun e => by simp)

theorem smallExtension?_join {dir : Path} {file : String} {stem ext : List Char}
    (hd : MemoryStore.EndsPlain dir.text.toList) (hf : IsFileName file.toList stem ext) :
    smallExtension? (place (dir.join file)) = some (Chars.lowerAscii ext) := by
  rw [place_join hd hf.isName, smallExtension?, List.getLast?_concat, Option.bind_some, hf.eq,
    Path.splitExtension_append hf.stem_ne_nil hf.noDot, Option.map_some]

/-- A file system with a tree of directories keeps its files at the places that paths lead to. -/
def layout : fileSystem.Layout where
  Sound := Named
  keeps := ⟨fun p content _ h => h.write p content, fun p _ h => h.remove p,
    fun p _ h => h.makeDir p⟩
  Place := List String
  place := place
  extension? := smallExtension?
  name_inj hd hd' hf hf' h := by
    rw [place_join hd hf.isName, place_join hd' hf'.isName] at h
    exact (List.cons.inj (List.append_inj' h rfl).2).1
  extension?_join := smallExtension?_join
  extension?_of_lists _ hw hl := by
    obtain ⟨_, _, hx, _⟩ := lists_iff.1 hl
    exact smallExtension?_place (Path.smallExtension?_of_hasExtension hw hx)
  isDir_iff {dir wanted d} := by
    change isDir dir d = true ↔ ∃ paths, d.list dir wanted false = .ok paths
    unfold isDir DiskStore.list
    cases d.spot dir <;> simp
  lists_of_remove h := lists_of_remove h
  isFile_of_read := isFile_of_read
  read_write := read_write
  spares := does_spares

end DiskStore
end PluginForge
