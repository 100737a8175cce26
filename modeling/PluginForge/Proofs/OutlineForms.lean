/-
The JSON form of syntax trees, which nests as deep as the source does. A tree is read back from its
written text just if its form stays within the reader's limit. What was read of a text that nests
less deep than the limit stays within it; a text that reaches the limit may give a tree that does
not, since members that were left out are written as empty lists.
-/
import PluginForge.Proofs.WireForms

namespace PluginForge

open Json

namespace Json.Draft

/-! ## Tagged values -/

/-- A written value gives its case, and the members behind the tag. -/
theorem tagged?_ofJson {tag : String} {names : List String} (nested : Bool) {kind : String}
    {members : List (String × Json)} (hk : kind ∈ names) (hm : tag ∉ members.map (·.1)) :
    tagged? tag names nested (ofJson (.obj ((tag, .str kind) :: members))) =
      some (kind, ofJson (.obj members)) := by
  have others : ∀ m ∈ ofMembers members, m.1 ≠ some tag := by
    intro m h
    rw [ofMembers_eq_named, named, List.map_map, List.mem_map] at h
    obtain ⟨a, ha, rfl⟩ := h
    intro e
    exact hm (List.mem_map.2 ⟨a, ha, Option.some.inj e⟩)
  have behind : (ofMembers members).filter (fun m => m.1 ≠ some tag) = ofMembers members :=
    List.filter_eq_self.2 fun m h => by simpa using others m h
  have before : (ofMembers members).filter (fun m => m.1 = some tag) = [] :=
    List.filter_eq_nil_iff.2 fun m h => by simpa using others m h
  have own : membersNamed tag ((some tag, .str kind) :: ofMembers members) = [.str kind] := by
    simp [membersNamed, before]
  simp only [ofJson, ofMembers, tagged?, own]
  have skipped : ((some tag, Draft.str kind) :: ofMembers members).filter
      (fun m => m.1 ≠ some tag) = ofMembers members := by
    rw [List.filter_cons_of_neg (by simp), behind]
  rw [skipped]
  cases nested with
  | true => simp [caseOf?, hk]
  | false => simp [string?, hk]

end Json.Draft

theorem Expression.lawful : LawfulForm toJson ofDraft? 1 where
  exact e := by
    cases e <;> exact .obj (by simp [Exact.str])
  nesting_le e := by
    cases e <;> exact Nat.le_refl 1
  back e := by
    cases e <;> simp [ofDraft?, toJson, Draft.record?_ofJson] <;> rfl

namespace PropertyValue

theorem lawful (nested : Bool) : LawfulForm toJson (ofUsable? nested) 2 := by
  have returns := Expression.lawful.option (fun e => by cases e <;> simp [Expression.toJson])
  refine ⟨fun v => ?_, fun v => ?_, fun v => ?_⟩
  · cases v <;> refine .obj ?_ <;> simp [Exact.str, Expression.lawful.exact, returns.exact]
  · cases v with
    | expressionBody e =>
      refine nesting_obj_le ?_
      simp only [List.forall_mem_cons]
      exact ⟨Nat.zero_le 1, Expression.lawful.nesting_le e, List.forall_mem_nil _⟩
    | getter e =>
      refine nesting_obj_le ?_
      simp only [List.forall_mem_cons]
      exact ⟨Nat.zero_le 1, returns.nesting_le e, List.forall_mem_nil _⟩
    | auto => exact Nat.le_succ 1
  · cases v with
    | expressionBody e =>
      simp [ofUsable?, toJson, Draft.tagged?_ofJson, caseNames, Draft.record?_ofJson,
        Expression.lawful.back]
    | getter e =>
      simp [ofUsable?, toJson, Draft.tagged?_ofJson, caseNames, Draft.record?_ofJson, returns.back]
    | auto =>
      simp [ofUsable?, toJson, Draft.tagged?_ofJson, caseNames]
      rfl

end PropertyValue

namespace OutlineNode

/-! ## Nodes -/

theorem listToJson_eq_map (ns : List OutlineNode) : listToJson ns = ns.map toJson := by
  induction ns with
  | nil => rfl
  | cons n ns ih => rw [listToJson, ih, List.map_cons]

mutual

theorem exact_toJson : (n : OutlineNode) → Exact n.toJson
  | .directive _ _ _ alias? => by
    have h := exact_ofOption Exact.str alias?
    exact .obj (by simp [Exact.str, Exact.bool, h])
  | .scope _ _ members => by
    have h : Exact (.arr (listToJson members)) := .arr (exact_listToJson members)
    exact .obj (by simp [Exact.str, Exact.bool, h])
  | .typeDecl _ _ modifiers bases members => by
    have h : Exact (.arr (listToJson members)) := .arr (exact_listToJson members)
    exact .obj (by simp [Exact.str, exact_strings, h])
  | .property _ value => .obj (by simp [Exact.str, (PropertyValue.lawful false).exact value])
  | .other => .obj (by simp [Exact.str])

theorem exact_listToJson : (ns : List OutlineNode) → ∀ j ∈ listToJson ns, Exact j
  | [] => nofun
  | n :: rest => List.forall_mem_cons.2 ⟨n.exact_toJson, exact_listToJson rest⟩

end

/-- A node in a list nests less deep than the list. -/
theorem nesting_lt_of_mem {ns : List OutlineNode} {n : OutlineNode} (h : n ∈ ns) :
    n.toJson.nesting < (Json.arr (listToJson ns)).nesting := by
  rw [listToJson_eq_map]
  exact nesting_lt_of_mem_items (List.mem_map_of_mem h)

/-- The part of a form that may nest deep: the members of a node, or its value. -/
def core : OutlineNode → Json
  | .scope _ _ members | .typeDecl _ _ _ _ members => .arr (listToJson members)
  | .property _ value => value.toJson
  | .directive .. | .other => .null

theorem nesting_core_lt (n : OutlineNode) : n.core.nesting < n.toJson.nesting := by
  cases n with
  | directive | other => exact Nat.succ_pos _
  | scope | typeDecl => exact nesting_lt_of_mem_members (m := ("members", _)) (by simp)
  | property name value =>
    exact nesting_lt_of_mem_members (m := ("value", value.toJson)) (by simp)

/-- The rest of a form nests one level deep at most: names, and the texts of modifiers and bases. -/
theorem nesting_le_of_core {n : OutlineNode} {k : Nat} (pos : 0 < k) (h : n.core.nesting ≤ k) :
    n.toJson.nesting ≤ k + 1 := by
  have text (s : String) : (Json.str s).nesting ≤ k := Nat.zero_le k
  have flag (b : Bool) : (Json.bool b).nesting ≤ k := Nat.zero_le k
  have texts (l : List String) : (Json.arr (l.map .str)).nesting ≤ k :=
    Nat.le_trans (nesting_strings_le l) pos
  cases n with
  | directive target all isGlobal alias? =>
    have leaf : (Json.ofOption .str alias?).nesting ≤ 0 :=
      nesting_ofOption_le (fun _ => Nat.le_refl 0) alias?
    refine nesting_obj_le ?_
    simp only [List.forall_mem_cons]
    exact ⟨text _, text _, text _, flag _, Nat.le_trans leaf (Nat.zero_le k), List.forall_mem_nil _⟩
  | scope name fileScoped members =>
    refine nesting_obj_le ?_
    simp only [List.forall_mem_cons]
    exact ⟨text _, text _, flag _, h, List.forall_mem_nil _⟩
  | typeDecl kind name modifiers bases members =>
    refine nesting_obj_le ?_
    simp only [List.forall_mem_cons]
    exact ⟨text _, text _, text _, texts modifiers, texts bases, h, List.forall_mem_nil _⟩
  | property name value =>
    refine nesting_obj_le ?_
    simp only [List.forall_mem_cons]
    exact ⟨text _, text _, h, List.forall_mem_nil _⟩
  | other =>
    refine nesting_obj_le ?_
    simp only [List.forall_mem_cons]
    exact ⟨text _, List.forall_mem_nil _⟩

/-- A node is read back from its form, whose depth is enough fuel. -/
theorem ofUsable?_toJson {nested : Bool} {fuel : Nat} {n : OutlineNode}
    (enough : n.toJson.nesting ≤ fuel) : ofUsable? nested fuel (.ofJson n.toJson) = some n := by
  induction fuel generalizing nested n with
  | zero => cases n <;> simp [toJson, nesting] at enough
  | succ fuel ih =>
    have inner : n.core.nesting ≤ fuel := by
      have := n.nesting_core_lt
      omega
    have list {ms : List OutlineNode} (h : (Json.arr (listToJson ms)).nesting ≤ fuel) :
        Draft.list? (ofUsable? true fuel) (.ofJson (.arr (listToJson ms))) = some ms := by
      rw [listToJson_eq_map]
      refine Draft.list?_ofJson fun m hm => ih ?_
      have := nesting_lt_of_mem hm
      omega
    cases n with
    | directive target text isGlobal alias? =>
      simp [ofUsable?, toJson, Draft.tagged?_ofJson, caseNames, Draft.record?_ofJson]
    | scope name fileScoped members =>
      simp [ofUsable?, toJson, Draft.tagged?_ofJson, caseNames, Draft.record?_ofJson, list inner]
    | typeDecl kind name modifiers bases members =>
      simp [ofUsable?, toJson, Draft.tagged?_ofJson, caseNames, Draft.record?_ofJson, list inner]
    | property name value =>
      simp [ofUsable?, toJson, Draft.tagged?_ofJson, caseNames, Draft.record?_ofJson,
        (PropertyValue.lawful true).back]
    | other =>
      simp [ofUsable?, toJson, Draft.tagged?_ofJson, caseNames]
      rfl

theorem ofDraft?_toJson {n : OutlineNode} (h : n.toJson.nesting ≤ Draft.maxDepth) :
    ofDraft? (.ofJson n.toJson) = some n := by
  rw [ofDraft?, if_pos (Draft.usable_ofJson _), ofUsable?_toJson (Nat.le_succ_of_le h)]

/-- A node is read only where all of it can be used. -/
theorem ofDraft?_eq_none {d : Draft} (h : d.toJson? = none) : ofDraft? d = none := by
  have unusable : ¬ d.usable = true := by simp [Draft.usable, h]
  rw [ofDraft?, if_neg unusable]

end OutlineNode

namespace SyntaxTree

/-! ## Trees -/

variable {t : SyntaxTree}

theorem exact_toJson (t : SyntaxTree) : Exact t.toJson := by
  have outline : Exact (.arr (OutlineNode.listToJson t.outline)) :=
    .arr (OutlineNode.exact_listToJson t.outline)
  refine .obj ?_
  simp [Path.lawful.exact, outline, Diagnostic.lawful.list.exact]

theorem nesting_outline_lt (t : SyntaxTree) :
    (Json.arr (OutlineNode.listToJson t.outline)).nesting < t.toJson.nesting :=
  nesting_lt_of_mem_members (m := ("outline", _)) (by simp)

/-- A tree is read back where its form stays within the reader's limit. -/
theorem decode?_render_of_le (h : t.toJson.nesting ≤ Draft.maxDepth) :
    decode? ofDraft? t.toJson.render = some t := by
  have outline : Draft.list? OutlineNode.ofDraft?
      (.ofJson (.arr (OutlineNode.listToJson t.outline))) = some t.outline := by
    rw [OutlineNode.listToJson_eq_map]
    refine Draft.list?_ofJson fun n hn => OutlineNode.ofDraft?_toJson ?_
    have inner := OutlineNode.nesting_lt_of_mem hn
    have outer := t.nesting_outline_lt
    omega
  refine decode?_render t.exact_toJson h ?_
  simp [ofDraft?, toJson, Draft.record?_ofJson, Path.lawful.back, outline,
    Diagnostic.lawful.list.back]

/-- A tree is not read where its form exceeds the limit: then its outline does. -/
theorem decode?_render_of_lt (h : Draft.maxDepth < t.toJson.nesting) :
    decode? ofDraft? t.toJson.render = none := by
  have deep : Draft.maxDepth < 2 + nestingOfItems (OutlineNode.listToJson t.outline) := by
    by_contra shallow
    have diagnostics := Diagnostic.lawful.list.nesting_le t.diagnostics
    have all : t.toJson.nesting ≤ Draft.maxDepth - 1 + 1 := by
      refine nesting_obj_le ?_
      simp only [List.forall_mem_cons]
      refine ⟨Nat.zero_le _, ?_, Nat.le_trans diagnostics (by decide), List.forall_mem_nil _⟩
      rw [nesting]
      omega
    omega
  have outline : Draft.list? OutlineNode.ofDraft?
      (.seen 1 (.arr (OutlineNode.listToJson t.outline))) = none := by
    rw [Draft.seen, Draft.atDepth, if_pos (by decide)]
    exact Draft.list?_eq_none (fun d => OutlineNode.ofDraft?_eq_none)
      (Draft.itemsToJson?_seenItems (by decide) _ deep)
  have record : Draft.record? ["path", "outline", "diagnostics"] (.seen 0 t.toJson) =
      some [some (.seen 1 t.path.toJson), some (.seen 1 (.arr (OutlineNode.listToJson t.outline))),
        some (.seen 1 (.arr (t.diagnostics.map Diagnostic.toJson)))] :=
    Draft.record?_seen (by decide) rfl (by simp)
  rw [decode?, read?_render t.exact_toJson, Option.bind_some, ofDraft?, record]
  simp [outline]

end SyntaxTree

/-! ## Trees of texts

A form grows by one level at most when what was read is written again: a list that was left out. -/

namespace Json.Draft

mutual

/-- How deep the arrays and objects of a draft nest. -/
def nesting : Draft → Nat
  | .arr items => nestingOfItems items + 1
  | .obj members => nestingOfMembers members + 1
  | _ => 0

def nestingOfItems : List Draft → Nat
  | [] => 0
  | d :: rest => max d.nesting (nestingOfItems rest)

def nestingOfMembers : List (Option String × Draft) → Nat
  | [] => 0
  | (_, d) :: rest => max d.nesting (nestingOfMembers rest)

end

theorem nestingOfItems_le_iff {items : List Draft} {n : Nat} :
    nestingOfItems items ≤ n ↔ ∀ d ∈ items, d.nesting ≤ n := by
  induction items with
  | nil => simp [nestingOfItems]
  | cons d rest ih => rw [nestingOfItems, Nat.max_le, ih, List.forall_mem_cons]

theorem nestingOfMembers_le_iff {members : List (Option String × Draft)} {n : Nat} :
    nestingOfMembers members ≤ n ↔ ∀ m ∈ members, m.2.nesting ≤ n := by
  induction members with
  | nil => simp [nestingOfMembers]
  | cons m rest ih => rw [nestingOfMembers, Nat.max_le, ih, List.forall_mem_cons]

theorem nesting_member?_le {members : List (Option String × Draft)} {k : String} {d : Draft}
    (h : member? members k = some (some d)) : d.nesting ≤ nestingOfMembers members := by
  have mem : d ∈ membersNamed k members := by
    unfold member? at h
    split at h
    · cases h
    · rename_i one
      cases h
      rw [one]
      exact List.mem_singleton_self d
    · cases h
  obtain ⟨m, hm, rfl⟩ := List.mem_map.1 mem
  exact nestingOfMembers_le_iff.1 (Nat.le_refl _) m (List.mem_of_mem_filter hm)

theorem exists_of_mem_mapM {α β : Type} {f : α → Option β} {l : List α} {l' : List β} {b : β}
    (h : l.mapM f = some l') (hb : b ∈ l') : ∃ a ∈ l, f a = some b := by
  induction l generalizing l' with
  | nil =>
    cases h
    cases hb
  | cons a l ih =>
    simp only [List.mapM_cons, Option.pure_def, Option.bind_eq_bind, Option.bind_eq_some_iff] at h
    obtain ⟨b', hb', bs, hbs, e⟩ := h
    cases e
    rcases List.mem_cons.1 hb with rfl | hb
    · exact ⟨a, List.mem_cons_self, hb'⟩
    · obtain ⟨a', ha', h'⟩ := ih hbs hb
      exact ⟨a', List.mem_cons_of_mem a ha', h'⟩

/-- The members of a record nest less deep than the record. -/
theorem nesting_lt_of_record? {names : List String} {d : Draft} {values : List (Option Draft)}
    (h : record? names d = some values) :
    0 < d.nesting ∧ ∀ v ∈ values, ∀ x ∈ v, x.nesting < d.nesting := by
  cases d with
  | obj members =>
    rw [nesting]
    refine ⟨Nat.succ_pos _, fun v hv x hx => Nat.lt_succ_of_le ?_⟩
    rw [record?] at h
    split at h
    · obtain ⟨k, -, hk⟩ := exists_of_mem_mapM h hv
      cases hx
      exact nesting_member?_le hk
    · cases h
  | arr items =>
    rw [nesting]
    refine ⟨Nat.succ_pos _, fun v hv x hx => Nat.lt_succ_of_le ?_⟩
    rw [record?] at h
    split at h
    · cases h
      cases hx
      have mem : x ∈ items := by simpa using hv
      exact nestingOfItems_le_iff.1 (Nat.le_refl _) x mem
    · cases h
  | _ => cases h

theorem nesting_tagged? {tag : String} {names : List String} {nested : Bool} {d d' : Draft}
    {kind : String} (h : tagged? tag names nested d = some (kind, d')) :
    0 < d.nesting ∧ d'.nesting ≤ d.nesting := by
  cases d with
  | obj members =>
    simp only [tagged?] at h
    split at h
    · obtain ⟨k, -, e⟩ := Option.map_eq_some_iff.1 h
      cases e
      simp only [nesting, Nat.succ_pos, Nat.succ_le_succ_iff, true_and]
      refine nestingOfMembers_le_iff.2 fun m hm => ?_
      exact nestingOfMembers_le_iff.1 (Nat.le_refl _) m (List.mem_of_mem_filter hm)
    · cases h
  | arr items =>
    cases items with
    | nil => cases h
    | cons first items =>
      simp only [tagged?] at h
      obtain ⟨k, -, e⟩ := Option.map_eq_some_iff.1 h
      cases e
      simp only [nesting, nestingOfItems, Nat.succ_pos, Nat.succ_le_succ_iff, true_and]
      exact Nat.le_max_right _ _
  | _ => cases h

/-- A reader whose results are written at most one level deeper than what it read. -/
def Grows {α : Type} (f : Draft → Option α) (g : α → Json) : Prop :=
  ∀ d a, f d = some a → (g a).nesting ≤ d.nesting + 1

section

variable {α : Type} {f : Draft → Option α} {g : α → Json}

theorem Grows.list? (h : Grows f g) : Grows (Draft.list? f) fun l => .arr (l.map g) := by
  intro d l hl
  cases d with
  | arr items =>
    rw [nesting]
    refine nesting_list_le fun a ha => ?_
    obtain ⟨x, hx, hf⟩ := exists_of_mem_mapM hl ha
    exact Nat.le_trans (h x a hf) (Nat.succ_le_succ (nestingOfItems_le_iff.1 (Nat.le_refl _) x hx))
  | _ => cases hl

/-- What is written for a member nests no deeper than the record did that it was read of. -/
theorem Grows.required (h : Grows f g) {v : Option Draft} {a : α} {n : Nat}
    (hv : Draft.required f v = some a) (hn : ∀ x ∈ v, x.nesting < n) : (g a).nesting ≤ n := by
  obtain ⟨x, rfl, hx⟩ := Option.bind_eq_some_iff.1 hv
  exact Nat.le_trans (h x a hx) (hn x rfl)

theorem Grows.optional (h : Grows f g) {default : α} {v : Option Draft} {a : α} {n : Nat}
    (hv : Draft.optional f default v = some a) (hn : ∀ x ∈ v, x.nesting < n)
    (hd : (g default).nesting ≤ n) : (g a).nesting ≤ n := by
  cases v with
  | none =>
    cases hv
    exact hd
  | some x =>
    rw [optional_some] at hv
    exact Nat.le_trans (h x a hv) (hn x rfl)

end

end Json.Draft

theorem PropertyValue.grows (nested : Bool) : Draft.Grows (ofUsable? nested) toJson := by
  intro d v h
  simp only [ofUsable?, Option.bind_eq_bind, Option.bind_eq_some_iff] at h
  obtain ⟨⟨kind, d'⟩, tag, -⟩ := h
  have pos := (Draft.nesting_tagged? tag).1
  have shallow := (lawful nested).nesting_le v
  omega

theorem OutlineNode.grows (nested : Bool) (fuel : Nat) :
    Draft.Grows (ofUsable? nested fuel) toJson := by
  intro d n h
  induction fuel generalizing nested d n with
  | zero => cases h
  | succ fuel ih =>
    have list : Draft.Grows (Draft.list? (ofUsable? true fuel)) fun l => .arr (l.map toJson) :=
      Draft.Grows.list? fun d n => ih true d n
    simp only [ofUsable?, Option.bind_eq_bind, Option.bind_eq_some_iff] at h
    obtain ⟨⟨kind, d'⟩, tag, h⟩ := h
    obtain ⟨pos, le⟩ := Draft.nesting_tagged? tag
    dsimp only at h
    -- The fields of a record that was behind the tag nest less deep than the draft.
    have fields {names : List String} {values : List (Option Draft)}
        (record : Draft.record? names d' = some values) :
        ∀ v ∈ values, ∀ x ∈ v, x.nesting < d.nesting := fun v hv x hx =>
      Nat.lt_of_lt_of_le ((Draft.nesting_lt_of_record? record).2 v hv x hx) le
    refine nesting_le_of_core pos ?_
    split at h
    · split at h
      · simp only [Option.pure_def, Option.bind_eq_some_iff] at h
        obtain ⟨_, -, _, -, _, -, alias?, -, e⟩ := h
        cases e
        exact Nat.zero_le _
      · cases h
    · split at h
      · rename_i record
        simp only [Option.pure_def, Option.bind_eq_some_iff] at h
        obtain ⟨_, -, _, -, members, hm, e⟩ := h
        cases e
        have inner := list.optional hm (fields record _ (by simp)) pos
        rwa [← listToJson_eq_map] at inner
      · cases h
    · split at h
      · rename_i record
        simp only [Option.pure_def, Option.bind_eq_some_iff] at h
        obtain ⟨_, -, _, -, modifiers, -, bases, -, members, hm, e⟩ := h
        cases e
        have inner := list.optional hm (fields record _ (by simp)) pos
        rwa [← listToJson_eq_map] at inner
      · cases h
    · split at h
      · rename_i record
        simp only [Option.pure_def, Option.bind_eq_some_iff] at h
        obtain ⟨_, -, value, hv, e⟩ := h
        cases e
        exact (PropertyValue.grows true).required hv (fields record _ (by simp))
      · cases h
    · split at h
      · cases h
        exact Nat.zero_le _
      · cases h

theorem SyntaxTree.grows : Draft.Grows ofDraft? toJson := by
  have nodes : Draft.Grows OutlineNode.ofDraft? OutlineNode.toJson := by
    intro d n h
    unfold OutlineNode.ofDraft? at h
    split at h
    · exact OutlineNode.grows false _ d n h
    · cases h
  have diagnostics : Draft.Grows Diagnostic.ofDraft? Diagnostic.toJson := fun d a _ =>
    Nat.le_trans (Diagnostic.lawful.nesting_le a) (Nat.le_add_left 1 _)
  intro d t h
  unfold ofDraft? at h
  split at h
  · rename_i record
    obtain ⟨pos, fields⟩ := Draft.nesting_lt_of_record? record
    simp only [Option.pure_def, Option.bind_eq_bind, Option.bind_eq_some_iff] at h
    obtain ⟨_, -, outline, ho, ds, hd, e⟩ := h
    cases e
    have inner := nodes.list?.optional ho (fields _ (by simp)) pos
    rw [← OutlineNode.listToJson_eq_map] at inner
    have messages := diagnostics.list?.optional hd (fields _ (by simp)) pos
    refine nesting_obj_le ?_
    simp only [List.forall_mem_cons]
    exact ⟨Nat.zero_le _, inner, messages, List.forall_mem_nil _⟩
  · cases h

/-- Every diagnostic, request and result is read back from its text, and so is what was read of any
text. A syntax tree is read back just if its form nests no deeper than the reader's limit, as it
does if it was read of a text that nests less deep than that. -/
theorem wireForms_settle :
    (Restores Diagnostic.toJson Diagnostic.ofDraft? ∧
      Settles Diagnostic.toJson Diagnostic.ofDraft?) ∧
    (Restores EmitOutput.toJson EmitOutput.ofDraft? ∧
      Settles EmitOutput.toJson EmitOutput.ofDraft?) ∧
    (Restores EmitRequest.toJson EmitRequest.ofDraft? ∧
      Settles EmitRequest.toJson EmitRequest.ofDraft?) ∧
    (Restores ScriptRequest.toJson ScriptRequest.ofDraft? ∧
      Settles ScriptRequest.toJson ScriptRequest.ofDraft?) ∧
    (∀ t : SyntaxTree, decode? SyntaxTree.ofDraft? t.toJson.render =
      if t.toJson.nesting ≤ Draft.maxDepth then some t else none) ∧
    (∀ text doc t, Draft.read? text = some doc → SyntaxTree.ofDraft? doc = some t →
      doc.nesting < Draft.maxDepth → decode? SyntaxTree.ofDraft? t.toJson.render = some t) := by
  have flat {α : Type} {toJson : α → Json} {ofDraft? : Draft → Option α}
      (h : LawfulForm toJson ofDraft? 3) :
      Restores toJson ofDraft? ∧ Settles toJson ofDraft? :=
    have restores := h.restores (by decide)
    ⟨restores, restores.settles⟩
  refine ⟨flat (Diagnostic.lawful.mono (by decide)), flat EmitOutput.lawful,
    flat EmitRequest.lawful, flat (ScriptRequest.lawful.mono (by decide)), fun t => ?_,
    fun text doc t hd ht shallow => ?_⟩
  · split
    · rename_i within
      exact SyntaxTree.decode?_render_of_le within
    · rename_i beyond
      exact SyntaxTree.decode?_render_of_lt (Nat.not_le.1 beyond)
  · have grown := SyntaxTree.grows doc t ht
    exact SyntaxTree.decode?_render_of_le (by omega)

/-! ## At the limit -/

namespace OutlineNode

/-- Namespaces one inside the other, of which the innermost does not mention its members. -/
def terse : Nat → Json
  | 0 => .obj [("node", .str "namespace"), ("name", .str "N"), ("fileScoped", .bool false)]
  | n + 1 => .obj [("node", .str "namespace"), ("name", .str "N"), ("fileScoped", .bool false),
      ("members", .arr [terse n])]

/-- The node that such namespaces are read as. -/
def chain : Nat → OutlineNode
  | 0 => .scope "N" false []
  | n + 1 => .scope "N" false [chain n]

theorem exact_terse (n : Nat) : Exact (terse n) := by
  induction n with
  | zero => exact .obj (by simp [Exact.str, Exact.bool])
  | succ n ih =>
    have inner : Exact (.arr [terse n]) := .arr (by simp [ih])
    exact .obj (by simp [Exact.str, Exact.bool, inner])

theorem nesting_terse (n : Nat) : (terse n).nesting = 2 * n + 1 := by
  induction n with
  | zero => rfl
  | succ n ih => simp [terse, nesting, nestingOfMembers, nestingOfItems, ih]; omega

theorem nesting_chain (n : Nat) : (chain n).toJson.nesting = 2 * n + 2 := by
  induction n with
  | zero => rfl
  | succ n ih =>
    simp [chain, toJson, listToJson, nesting, nestingOfMembers, nestingOfItems, ih]
    omega

theorem ofUsable?_terse {nested : Bool} {fuel n : Nat} (h : n < fuel) :
    ofUsable? nested fuel (.ofJson (terse n)) = some (chain n) := by
  induction n generalizing nested fuel with
  | zero =>
    obtain ⟨fuel, rfl⟩ : ∃ k, fuel = k + 1 := ⟨fuel - 1, by omega⟩
    simp [ofUsable?, terse, Draft.tagged?_ofJson, caseNames]
    rfl
  | succ n ih =>
    obtain ⟨fuel, rfl⟩ : ∃ k, fuel = k + 1 := ⟨fuel - 1, by omega⟩
    have inner : Draft.list? (ofUsable? true fuel) (.ofJson (.arr [terse n])) = some [chain n] := by
      simp [Draft.ofJson, Draft.ofItems, Draft.list?, ih (Nat.lt_of_succ_lt_succ h)]
    simp [ofUsable?, terse, chain, Draft.tagged?_ofJson, caseNames, Draft.record?_ofJson, inner]

end OutlineNode

namespace SyntaxTree

/-- A form of a tree that holds such namespaces. -/
def terse (n : Nat) : Json :=
  .obj [("path", .str "a.cs"), ("outline", .arr [OutlineNode.terse n]), ("diagnostics", .arr [])]

def chain (n : Nat) : SyntaxTree :=
  ⟨⟨"a.cs"⟩, [.chain n], []⟩

theorem read?_terse {n : Nat} (h : 2 * n + 3 ≤ Draft.maxDepth) :
    Draft.read? (terse n).render = some (.ofJson (terse n)) := by
  have inner : Exact (.arr [OutlineNode.terse n]) := .arr (by simp [OutlineNode.exact_terse])
  have nothing : Exact (.arr []) := .arr nofun
  have exact : Exact (terse n) := .obj (by simp [Exact.str, inner, nothing])
  have deep : (terse n).nesting ≤ Draft.maxDepth := by
    simp [terse, nesting, nestingOfMembers, nestingOfItems, OutlineNode.nesting_terse]
    omega
  rw [read?_render exact, Draft.seen_eq_ofJson _ (by omega)]

theorem ofDraft?_terse {n : Nat} (h : n ≤ Draft.maxDepth) :
    ofDraft? (.ofJson (terse n)) = some (chain n) := by
  have node : OutlineNode.ofDraft? (.ofJson (OutlineNode.terse n)) = some (.chain n) := by
    rw [OutlineNode.ofDraft?, if_pos (Draft.usable_ofJson _),
      OutlineNode.ofUsable?_terse (Nat.lt_succ_of_le h)]
  have outline : Draft.list? OutlineNode.ofDraft? (.ofJson (.arr [OutlineNode.terse n])) =
      some [.chain n] := by
    simp [Draft.ofJson, Draft.ofItems, Draft.list?, node]
  have diagnostics : Draft.list? Diagnostic.ofDraft? (.ofJson (.arr [])) = some [] := rfl
  have path : Path.ofDraft? (.ofJson (.str "a.cs")) = some ⟨"a.cs"⟩ := rfl
  simp [ofDraft?, terse, chain, Draft.record?_ofJson, outline, diagnostics, path]

theorem nesting_chain (n : Nat) : (chain n).toJson.nesting = 2 * n + 4 := by
  simp [chain, toJson, OutlineNode.listToJson, nesting, nestingOfMembers, nestingOfItems,
    OutlineNode.nesting_chain, Path.toJson]

end SyntaxTree

/-- Four namespaces are read of a text that leaves their members out, and read again from what is
written for them. -/
theorem wireForms_settle_chain :
    decode? SyntaxTree.ofDraft? (SyntaxTree.terse 3).render = some (.chain 3) ∧
      decode? SyntaxTree.ofDraft? (SyntaxTree.chain 3).toJson.render = some (.chain 3) := by
  have read := SyntaxTree.read?_terse (n := 3) (by decide)
  have tree := SyntaxTree.ofDraft?_terse (n := 3) (by decide)
  obtain ⟨-, -, -, -, -, settles⟩ := wireForms_settle
  refine ⟨?_, settles _ _ _ read tree (by decide)⟩
  rw [decode?, read, Option.bind_some, tree]

/-- Of 63 namespaces such a text stays within the limit, and what is written for them does not. -/
theorem not_settles_syntaxTree : ¬ Settles SyntaxTree.toJson SyntaxTree.ofDraft? := by
  intro settles
  have read : decode? SyntaxTree.ofDraft? (SyntaxTree.terse 62).render = some (.chain 62) := by
    rw [decode?, SyntaxTree.read?_terse (by decide), Option.bind_some,
      SyntaxTree.ofDraft?_terse (by decide)]
  have again := settles _ _ read
  have lost : decode? SyntaxTree.ofDraft? (SyntaxTree.chain 62).toJson.render = none := by
    refine SyntaxTree.decode?_render_of_lt ?_
    rw [SyntaxTree.nesting_chain]
    decide
  rw [lost] at again
  cases again

end PluginForge
