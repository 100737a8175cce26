/-
Groups by key: what a list of groups must be like to be the groups of some items (`Grouped`), and
that putting the items in one by one makes it so. No item is lost or doubled, the groups come in the
order of their first items, and the items of a group are those with its key in their own order.
-/
import Mathlib.Data.List.Induction
import Mathlib.Data.List.Nodup
import PluginForge.Grouping
import PluginForge.Proofs.FirstOccurrences

namespace PluginForge

variable {α κ : Type} [DecidableEq κ] {key : α → κ}

/-! ## One more item -/

theorem keys_putIntoGroup {k : κ} {x : α} {groups : List (κ × List α)} :
    (putIntoGroup k x groups).map Prod.fst =
      if k ∈ groups.map Prod.fst then groups.map Prod.fst else groups.map Prod.fst ++ [k] := by
  induction groups with
  | nil => rfl
  | cons g rest ih =>
    obtain ⟨l, items⟩ := g
    unfold putIntoGroup
    by_cases hl : l = k
    · simp [hl]
    · rw [if_neg hl, List.map_cons, ih]
      have hk : ¬ k = l := fun e => hl e.symm
      simp only [List.map_cons, List.mem_cons, hk, false_or]
      split <;> rfl

/-- A group after one more item was put in. -/
theorem mem_putIntoGroup {k : κ} {x : α} {groups : List (κ × List α)}
    (hn : (groups.map Prod.fst).Nodup) {g : κ × List α} (hg : g ∈ putIntoGroup k x groups) :
    g ∈ groups ∧ g.1 ≠ k ∨ (∃ items, (k, items) ∈ groups ∧ g = (k, items ++ [x])) ∨
      k ∉ groups.map Prod.fst ∧ g = (k, [x]) := by
  induction groups with
  | nil => exact .inr (.inr ⟨by simp, by simpa [putIntoGroup] using hg⟩)
  | cons h rest ih =>
    obtain ⟨l, items⟩ := h
    simp only [List.map_cons, List.nodup_cons] at hn
    unfold putIntoGroup at hg
    split at hg
    · rename_i hl
      subst hl
      rcases List.mem_cons.1 hg with rfl | hg
      · exact .inr (.inl ⟨items, by simp, rfl⟩)
      · exact .inl ⟨List.mem_cons_of_mem _ hg, fun e => hn.1 (e ▸ List.mem_map_of_mem hg)⟩
    · rename_i hl
      rcases List.mem_cons.1 hg with rfl | hg
      · exact .inl ⟨List.mem_cons_self, hl⟩
      · rcases ih hn.2 hg with ⟨hm, hk⟩ | ⟨ys, hm, he⟩ | ⟨hk, he⟩
        · exact .inl ⟨List.mem_cons_of_mem _ hm, hk⟩
        · exact .inr (.inl ⟨ys, List.mem_cons_of_mem _ hm, he⟩)
        · refine .inr (.inr ⟨?_, he⟩)
          simpa using ⟨fun e => hl e.symm, by simpa using hk⟩

theorem heads_putIntoGroup {k : κ} {x : α} {groups : List (κ × List α)}
    (hne : ∀ g ∈ groups, g.2 ≠ []) :
    (putIntoGroup k x groups).filterMap (·.2.head?) =
      if k ∈ groups.map Prod.fst then groups.filterMap (·.2.head?)
      else groups.filterMap (·.2.head?) ++ [x] := by
  induction groups with
  | nil => rfl
  | cons g rest ih =>
    obtain ⟨l, items⟩ := g
    obtain ⟨y, ys, rfl⟩ := List.exists_cons_of_ne_nil (hne _ List.mem_cons_self)
    unfold putIntoGroup
    by_cases hl : l = k
    · simp [hl]
    · have hk : ¬ k = l := fun e => hl e.symm
      rw [if_neg hl]
      simp only [List.filterMap_cons, List.head?_cons, List.map_cons, List.mem_cons, hk, false_or]
      rw [ih fun g hg => hne g (List.mem_cons_of_mem _ hg)]
      split <;> rfl

theorem putIntoGroup_perm (k : κ) (x : α) (groups : List (κ × List α)) :
    ((putIntoGroup k x groups).flatMap Prod.snd).Perm (groups.flatMap Prod.snd ++ [x]) := by
  induction groups with
  | nil => exact .refl _
  | cons g rest ih =>
    obtain ⟨l, items⟩ := g
    unfold putIntoGroup
    split
    · simp only [List.flatMap_cons, List.append_assoc]
      exact List.perm_append_comm.append_left items
    · simp only [List.flatMap_cons, List.append_assoc]
      exact ih.append_left items

/-! ## All items -/

/-- What the groups of some items are like. -/
structure Grouped (key : α → κ) (items : List α) (groups : List (κ × List α)) : Prop where
  nodup : (groups.map Prod.fst).Nodup
  keys : ∀ x ∈ items, key x ∈ groups.map Prod.fst
  members : ∀ g ∈ groups, g.2 = items.filter fun x => key x = g.1
  nonempty : ∀ g ∈ groups, g.2 ≠ []
  heads : List.Sublist (groups.filterMap (·.2.head?)) items
  perm : (groups.flatMap Prod.snd).Perm items

theorem Grouped.putIntoGroup {items : List α} {groups : List (κ × List α)}
    (h : Grouped key items groups) (x : α) :
    Grouped key (items ++ [x]) (putIntoGroup (key x) x groups) where
  nodup := by
    rw [keys_putIntoGroup]
    split
    · exact h.nodup
    · rename_i hk
      exact List.nodup_append.2 ⟨h.nodup, List.nodup_singleton _, fun a ha b hb e => by
        rw [List.mem_singleton] at hb
        exact hk (hb ▸ e ▸ ha)⟩
  keys := by
    intro y hy
    rw [keys_putIntoGroup]
    rcases List.mem_append.1 hy with hy | hy
    · split
      · exact h.keys y hy
      · exact List.mem_append_left _ (h.keys y hy)
    · rw [List.mem_singleton.1 hy]
      split
      · assumption
      · exact List.mem_append_right _ List.mem_cons_self
  members := by
    intro g hg
    rw [List.filter_append]
    rcases mem_putIntoGroup h.nodup hg with ⟨hm, hk⟩ | ⟨ys, hm, rfl⟩ | ⟨hk, rfl⟩
    · simp [h.members g hm, hk.symm]
    · simpa using h.members _ hm
    · have hnone : items.filter (fun y => key y = key x) = [] := by
        rw [List.filter_eq_nil_iff]
        intro y hy he
        exact hk (of_decide_eq_true he ▸ h.keys y hy)
      simp [hnone]
  nonempty := by
    intro g hg
    rcases mem_putIntoGroup h.nodup hg with ⟨hm, _⟩ | ⟨ys, _, rfl⟩ | ⟨_, rfl⟩
    · exact h.nonempty g hm
    · simp
    · simp
  heads := by
    rw [heads_putIntoGroup h.nonempty]
    split
    · exact h.heads.trans (List.sublist_append_left _ _)
    · exact h.heads.append (List.Sublist.refl _)
  perm := (putIntoGroup_perm _ _ _).trans (h.perm.append_right _)

theorem grouped_groupBy (key : α → κ) (items : List α) :
    Grouped key items (groupBy key items) := by
  induction items using List.reverseRecOn with
  | nil => constructor <;> simp [groupBy]
  | append_singleton items x ih =>
    have hs : groupBy key (items ++ [x]) = putIntoGroup (key x) x (groupBy key items) := by
      simp [groupBy]
    rw [hs]
    exact ih.putIntoGroup x

/-- The groups come in the order in which their keys are first seen. -/
theorem keys_groupBy (key : α → κ) (items : List α) :
    (groupBy key items).map Prod.fst = (items.map key).eraseDups := by
  induction items using List.reverseRecOn with
  | nil => rfl
  | append_singleton items x ih =>
    have hs : groupBy key (items ++ [x]) = putIntoGroup (key x) x (groupBy key items) := by
      simp [groupBy]
    rw [hs, keys_putIntoGroup, ih, List.map_append, List.map_singleton, eraseDups_concat]
    simp only [List.mem_eraseDups]

/-- The groups are the items with each key, for the keys in the order in which they are first seen. -/
theorem groupBy_eq (key : α → κ) (items : List α) :
    groupBy key items =
      (items.map key).eraseDups.map fun k => (k, items.filter fun x => key x = k) := by
  rw [← keys_groupBy, List.map_map]
  have whole : ∀ g ∈ groupBy key items, (g.1, items.filter fun x => key x = g.1) = g :=
    fun g hg => Prod.ext rfl ((grouped_groupBy key items).members g hg).symm
  exact (List.map_id _).symm.trans (List.map_congr_left fun g hg => (whole g hg).symm)

/-- Items fall into one group if and only if they have one key. -/
theorem exists_group_iff {items : List α} {x y : α} (hx : x ∈ items) (hy : y ∈ items) :
    (∃ g ∈ groupBy key items, x ∈ g.2 ∧ y ∈ g.2) ↔ key x = key y := by
  have grouped := grouped_groupBy key items
  constructor
  · rintro ⟨g, hg, hxg, hyg⟩
    rw [grouped.members g hg, List.mem_filter, decide_eq_true_iff] at hxg hyg
    exact hxg.2.trans hyg.2.symm
  · intro same
    obtain ⟨g, hg, hk⟩ := List.mem_map.1 (grouped.keys x hx)
    refine ⟨g, hg, ?_, ?_⟩ <;>
      rw [grouped.members g hg, List.mem_filter, decide_eq_true_iff]
    · exact ⟨hx, hk.symm⟩
    · exact ⟨hy, same.symm.trans hk.symm⟩

theorem mem_groupBy_iff {items : List α} {g : κ × List α} :
    g ∈ groupBy key items ↔ g.2 = items.filter (fun x => key x = g.1) ∧ g.2 ≠ [] := by
  have grouped := grouped_groupBy key items
  refine ⟨fun hg => ⟨grouped.members g hg, grouped.nonempty g hg⟩, fun ⟨members, nonempty⟩ => ?_⟩
  obtain ⟨x, hx⟩ := List.exists_mem_of_ne_nil _ nonempty
  rw [members, List.mem_filter, decide_eq_true_iff] at hx
  obtain ⟨g', hg', same⟩ := List.mem_map.1 (grouped.keys x hx.1)
  obtain ⟨k, ys⟩ := g'
  obtain ⟨l, zs⟩ := g
  obtain rfl : k = l := same.trans hx.2
  obtain rfl : ys = zs := (grouped.members _ hg').trans members.symm
  exact hg'

/-- Items in another order, but with those of each key in the same order, fall into the same
groups. -/
theorem groupBy_perm {items items' : List α}
    (h : ∀ k, items'.filter (fun x => key x = k) = items.filter fun x => key x = k) :
    (groupBy key items').Perm (groupBy key items) := by
  have nodup (xs : List α) : (groupBy key xs).Nodup := (grouped_groupBy key xs).nodup.of_map _
  refine (List.perm_ext_iff_of_nodup (nodup _) (nodup _)).2 fun g => ?_
  rw [mem_groupBy_iff, mem_groupBy_iff, h]

/-! ## Sources by root namespace -/

namespace CompilationGroup

variable (baseType : String) (units : List ParsedUnit)

theorem partition_keys_nodup : ((partition baseType units).map CompilationGroup.key).Nodup := by
  rw [partition, List.map_map]
  exact (grouped_groupBy ParsedUnit.rootName units).nodup

theorem partition_perm :
    ((partition baseType units).flatMap CompilationGroup.units).Perm units := by
  rw [partition, List.flatMap_map]
  exact (grouped_groupBy ParsedUnit.rootName units).perm

/-- The groups come in the order of their first units. -/
theorem partition_firsts : ∃ firsts : List ParsedUnit,
    (partition baseType units).map (·.units.head?) = firsts.map some ∧
      List.Sublist firsts units := by
  have hg := grouped_groupBy ParsedUnit.rootName units
  refine ⟨_, ?_, hg.heads⟩
  rw [List.map_filterMap_some_eq_filter_map_isSome, partition, List.map_map]
  refine (List.filter_eq_self.2 fun o ho => ?_).symm
  obtain ⟨g, hm, rfl⟩ := List.mem_map.1 ho
  exact List.isSome_head?.2 (hg.nonempty g hm)

variable {baseType units} {g : CompilationGroup}

theorem units_of_mem_partition (hg : g ∈ partition baseType units) :
    g.units = units.filter (fun u => u.rootName = g.key) ∧ g.units ≠ [] := by
  obtain ⟨⟨k, us⟩, hm, rfl⟩ := List.mem_map.1 hg
  have hgr := grouped_groupBy ParsedUnit.rootName units
  exact ⟨hgr.members _ hm, hgr.nonempty _ hm⟩

end CompilationGroup
end PluginForge
