/-
Written records and the values in them, as they are read again: a record whose members have
different names gives every member its own value, and lists, numbers and values that may be absent
are read as what was written.
-/
import PluginForge.Proofs.JsonTexts

namespace PluginForge.Json

namespace Draft

/-! ## Records -/

/-- Members that have names. -/
def named (members : List (String × Draft)) : List (Option String × Draft) :=
  members.map fun m => (some m.1, m.2)

theorem ofMembers_eq_named (members : List (String × Json)) :
    ofMembers members = named (members.map fun m => (m.1, ofJson m.2)) := by
  induction members with
  | nil => rfl
  | cons m rest ih => simpa [ofMembers, named] using ih

theorem seenMembers_eq_named (depth : Nat) (members : List (String × Json)) :
    seenMembers depth members = named (members.map fun m => (m.1, seen depth m.2)) := by
  induction members with
  | nil => rfl
  | cons m rest ih => simpa [seenMembers, named] using ih

theorem mapM_eq_some_map {α β : Type} {f : α → Option β} {g : α → β} {l : List α}
    (h : ∀ a ∈ l, f a = some (g a)) : l.mapM f = some (l.map g) := by
  induction l with
  | nil => rfl
  | cons a l ih =>
    have hl := ih fun b hb => h b (List.mem_cons_of_mem _ hb)
    simp [List.mapM_cons, h a List.mem_cons_self, hl]

theorem membersNamed_eq_nil {k : String} {members : List (String × Draft)}
    (h : k ∉ members.map (·.1)) : membersNamed k (named members) = [] := by
  induction members with
  | nil => rfl
  | cons m rest ih =>
    simp only [List.map_cons, List.mem_cons, not_or] at h
    have hr := ih h.2
    have hm : m.1 ≠ k := fun e => h.1 e.symm
    simpa [membersNamed, named, hm] using hr

theorem member?_named {members : List (String × Draft)} (hn : (members.map (·.1)).Nodup)
    {m : String × Draft} (hm : m ∈ members) : member? (named members) m.1 = some (some m.2) := by
  have single : membersNamed m.1 (named members) = [m.2] := by
    induction members with
    | nil => cases hm
    | cons f rest ih =>
      simp only [List.map_cons, List.nodup_cons] at hn
      rcases List.mem_cons.1 hm with rfl | hm
      · have hr := membersNamed_eq_nil hn.1
        simpa [membersNamed, named] using hr
      · have hr := ih hn.2 hm
        have hne : f.1 ≠ m.1 := fun e => hn.1 (e ▸ List.mem_map_of_mem hm)
        simpa [membersNamed, named, hne] using hr
  rw [member?, single]

/-- A record whose members have different names gives each of them. -/
theorem record?_named {names : List String} {members : List (String × Draft)}
    (hm : members.map (·.1) = names) (hn : names.Nodup) :
    record? names (.obj (named members)) = some (members.map fun m => some m.2) := by
  subst hm
  have all : (named members).all (fun m => m.1.isSome) = true := by simp [named]
  rw [record?, if_pos all, List.mapM_map]
  exact mapM_eq_some_map fun m hm => member?_named hn hm

/-- A written record gives each of its members. -/
theorem record?_ofJson {names : List String} {members : List (String × Json)}
    (hm : members.map (·.1) = names) (hn : names.Nodup) :
    record? names (ofJson (.obj members)) = some (members.map fun m => some (ofJson m.2)) := by
  have hm' : (members.map fun m => (m.1, ofJson m.2)).map (·.1) = names := by
    rw [← hm, List.map_map]
    rfl
  rw [ofJson, ofMembers_eq_named, record?_named hm' hn, List.map_map]
  rfl

/-- What is seen of a written record gives what is seen of its members. -/
theorem record?_seen {names : List String} {members : List (String × Json)} {depth : Nat}
    (shallow : depth < maxDepth) (hm : members.map (·.1) = names) (hn : names.Nodup) :
    record? names (seen depth (.obj members)) =
      some (members.map fun m => some (seen (depth + 1) m.2)) := by
  have hm' : (members.map fun m => (m.1, seen (depth + 1) m.2)).map (·.1) = names := by
    rw [← hm, List.map_map]
    rfl
  rw [seen, atDepth, if_pos shallow, seenMembers_eq_named, record?_named hm' hn, List.map_map]
  rfl

section

variable {α : Type} {f : Draft → Option α} {g : α → Json}

@[simp] theorem required_some (d : Draft) : required f (some d) = f d := by
  rw [required, Option.bind_some]

@[simp] theorem optional_some (default : α) (d : Draft) : optional f default (some d) = f d := by
  rw [optional]

/-! ## Values -/

@[simp] theorem bool?_ofJson (b : Bool) : bool? (ofJson (.bool b)) = some b := rfl

@[simp] theorem string?_ofJson (s : String) : string? (ofJson (.str s)) = some s := rfl

theorem ofItems_map (l : List α) : ofItems (l.map g) = l.map fun a => ofJson (g a) := by
  induction l with
  | nil => rfl
  | cons a l ih => simp [ofItems, ih]

theorem list?_ofJson {l : List α} (h : ∀ a ∈ l, f (ofJson (g a)) = some a) :
    list? f (ofJson (.arr (l.map g))) = some l := by
  rw [ofJson, list?, ofItems_map, List.mapM_map]
  exact (mapM_eq_some_map (g := id) h).trans (by rw [List.map_id])

theorem option?_ofJson {o : Option α} (h : ∀ a ∈ o, f (ofJson (g a)) = some a ∧ g a ≠ .null) :
    option? f (ofJson (.ofOption g o)) = some o := by
  cases o with
  | none => rfl
  | some a =>
    obtain ⟨hf, hne⟩ := h a rfl
    have present : option? f (ofJson (g a)) = (f (ofJson (g a))).map some := by
      cases hg : g a <;> first | exact absurd hg hne | rfl
    rw [ofOption, present, hf, Option.map_some]

/-- A list is not read where something in it cannot be used that its items must be. -/
theorem list?_eq_none (h : ∀ d : Draft, d.toJson? = none → f d = none) {ds : List Draft}
    (hd : itemsToJson? ds = none) : list? f (.arr ds) = none := by
  rw [list?]
  induction ds with
  | nil => cases hd
  | cons d ds ih =>
    rw [List.mapM_cons]
    cases hj : d.toJson? with
    | none => simp [h d hj]
    | some j =>
      have hr : itemsToJson? ds = none := by
        cases hr : itemsToJson? ds with
        | none => rfl
        | some js => simp [itemsToJson?, hj, hr] at hd
      simp [ih hr]

end

@[simp] theorem list?_strings (l : List String) : list? string? (ofJson (.strings l)) = some l :=
  list?_ofJson fun _ _ => rfl

@[simp] theorem option?_string (o : Option String) :
    option? string? (ofJson (.ofOption .str o)) = some o :=
  option?_ofJson fun _ _ => ⟨rfl, by simp⟩

theorem natBelow?_ofNat {limit n : Nat} (h : n < limit) :
    natBelow? limit (ofJson (.ofNat n)) = some n := by
  have hn : 0 ≤ (n : Int) ∧ (n : Int) < limit := by omega
  rw [ofNat, ofJson, natBelow?, if_pos hn, Int.toNat_natCast]

@[simp] theorem uint8?_ofNat (n : UInt8) : uint8? (ofJson (.ofNat n.toNat)) = some n := by
  simp [uint8?, natBelow?_ofNat n.toNat_lt]

@[simp] theorem uint32?_ofNat (n : UInt32) : uint32? (ofJson (.ofNat n.toNat)) = some n := by
  simp [uint32?, natBelow?_ofNat n.toNat_lt]

@[simp] theorem uint64?_ofNat (n : UInt64) : uint64? (ofJson (.ofNat n.toNat)) = some n := by
  simp [uint64?, natBelow?_ofNat n.toNat_lt]

/-! ## Readers that take only what is written -/

/-- A reader that takes a value only if it is what `g` writes for the result. -/
def Faithful {α : Type} (f : Draft → Option α) (g : α → Json) : Prop :=
  ∀ d a, f d = some a → d = ofJson (g a)

theorem faithful_bool? : Faithful bool? .bool := by
  intro d b h
  cases d with
  | bool => cases h; rfl
  | _ => cases h

theorem faithful_string? : Faithful string? .str := by
  intro d s h
  cases d with
  | str => cases h; rfl
  | _ => cases h

theorem natBelow?_eq_some {limit n : Nat} {d : Draft} (h : natBelow? limit d = some n) :
    d = ofJson (.ofNat n) ∧ n < limit := by
  cases d with
  | int k =>
    simp only [natBelow?] at h
    split at h
    · rename_i bounds
      cases h
      refine ⟨?_, by omega⟩
      simp only [Json.ofNat, ofJson, Int.toNat_of_nonneg bounds.1]
    · cases h
  | _ => cases h

theorem faithful_uint32? : Faithful uint32? fun n => .ofNat n.toNat := by
  intro d n h
  obtain ⟨k, hk, rfl⟩ := Option.map_eq_some_iff.1 h
  obtain ⟨hd, bound⟩ := natBelow?_eq_some hk
  have same : (UInt32.ofNat k).toNat = k := UInt32.toNat_ofNat_of_lt' bound
  simp only [hd, same]

theorem faithful_uint64? : Faithful uint64? fun n => .ofNat n.toNat := by
  intro d n h
  obtain ⟨k, hk, rfl⟩ := Option.map_eq_some_iff.1 h
  obtain ⟨hd, bound⟩ := natBelow?_eq_some hk
  have same : (UInt64.ofNat k).toNat = k := UInt64.toNat_ofNat_of_lt' bound
  simp only [hd, same]

section

variable {α : Type} {f : Draft → Option α} {g : α → Json}

theorem Faithful.list? (h : Faithful f g) : Faithful (Draft.list? f) fun l => .arr (l.map g) := by
  intro d l hl
  cases d with
  | arr items =>
    simp only [Draft.list?] at hl
    rw [ofJson, ofItems_map]
    congr 1
    induction items generalizing l with
    | nil => cases hl; rfl
    | cons d items ih =>
      simp only [List.mapM_cons, Option.pure_def, Option.bind_eq_bind,
        Option.bind_eq_some_iff] at hl
      obtain ⟨a, ha, as, has, e⟩ := hl
      cases e
      rw [List.map_cons, ← h d a ha, ← ih as has]
  | _ => cases hl

/-- A member that is there is what is written for what was read of it. -/
theorem Faithful.optional (h : Faithful f g) {default a : α} {v : Option Draft}
    (hv : Draft.optional f default v = some a) : ∀ d ∈ v, d = ofJson (g a) := by
  rintro d rfl
  rw [optional_some] at hv
  exact h d a hv

end

end Draft

/-! ## Exact values -/

theorem exact_ofNat {n : Nat} (h : n < UInt64.size) : Exact (.ofNat n) :=
  .int ⟨by omega, by omega⟩

theorem exact_list {α : Type} {g : α → Json} {l : List α} (h : ∀ a ∈ l, Exact (g a)) :
    Exact (.arr (l.map g)) := by
  refine .arr fun j hj => ?_
  obtain ⟨a, ha, rfl⟩ := List.mem_map.1 hj
  exact h a ha

theorem exact_strings (l : List String) : Exact (.strings l) :=
  exact_list fun s _ => .str s

theorem exact_ofOption {α : Type} {g : α → Json} (h : ∀ a, Exact (g a)) (o : Option α) :
    Exact (.ofOption g o) := by
  cases o with
  | none => exact .null
  | some a => exact h a

/-! ## Nesting -/

theorem nestingOfItems_map_le {α : Type} {g : α → Json} {l : List α} {n : Nat}
    (h : ∀ a ∈ l, (g a).nesting ≤ n) : nestingOfItems (l.map g) ≤ n := by
  induction l with
  | nil => exact Nat.zero_le n
  | cons a l ih =>
    rw [List.map_cons, nestingOfItems]
    exact Nat.max_le.2 ⟨h a List.mem_cons_self, ih fun b hb => h b (List.mem_cons_of_mem _ hb)⟩

theorem nesting_list_le {α : Type} {g : α → Json} {l : List α} {n : Nat}
    (h : ∀ a ∈ l, (g a).nesting ≤ n) : (Json.arr (l.map g)).nesting ≤ n + 1 := by
  rw [nesting]
  exact Nat.succ_le_succ (nestingOfItems_map_le h)

theorem nesting_strings_le (l : List String) : (Json.strings l).nesting ≤ 1 :=
  nesting_list_le fun _ _ => Nat.le_refl 0

theorem nesting_ofOption_le {α : Type} {g : α → Json} {n : Nat} (h : ∀ a, (g a).nesting ≤ n)
    (o : Option α) : (Json.ofOption g o).nesting ≤ n := by
  cases o with
  | none => exact Nat.zero_le n
  | some a => exact h a

theorem nesting_obj_le {members : List (String × Json)} {n : Nat}
    (h : ∀ m ∈ members, m.2.nesting ≤ n) : (Json.obj members).nesting ≤ n + 1 := by
  rw [nesting]
  refine Nat.succ_le_succ ?_
  induction members with
  | nil => exact Nat.zero_le n
  | cons m rest ih =>
    rw [nestingOfMembers]
    exact Nat.max_le.2 ⟨h m List.mem_cons_self, ih fun k hk => h k (List.mem_cons_of_mem _ hk)⟩

/-- An item nests less deep than its array. -/
theorem nesting_lt_of_mem_items {items : List Json} {j : Json} (h : j ∈ items) :
    j.nesting < (Json.arr items).nesting := by
  rw [nesting, Nat.lt_succ_iff]
  induction items with
  | nil => cases h
  | cons i rest ih =>
    rw [nestingOfItems]
    rcases List.mem_cons.1 h with rfl | h
    · exact Nat.le_max_left _ _
    · exact Nat.le_trans (ih h) (Nat.le_max_right _ _)

/-- A member nests less deep than its object. -/
theorem nesting_lt_of_mem_members {members : List (String × Json)} {m : String × Json}
    (h : m ∈ members) : m.2.nesting < (Json.obj members).nesting := by
  rw [nesting, Nat.lt_succ_iff]
  induction members with
  | nil => cases h
  | cons i rest ih =>
    rw [nestingOfMembers]
    rcases List.mem_cons.1 h with rfl | h
    · exact Nat.le_max_left _ _
    · exact Nat.le_trans (ih h) (Nat.le_max_right _ _)

/-! ## Texts of values -/

/-- Reading the compact text of a value. -/
theorem read?_render {j : Json} (h : Exact j) : Draft.read? j.render = some (.seen 0 j) :=
  Draft.read?_of_spells (spells_write h)

/-- Reading the text of a value over several lines. -/
theorem read?_pretty {j : Json} (h : Exact j) : Draft.read? j.pretty = some (.seen 0 j) :=
  Draft.read?_of_spells (spells_writePretty h 0)

end PluginForge.Json
