/-
Which names the errors about missing symbols point at. A message says so in one of three shapes; the
first place of a message that has a shape decides, and of the shapes the one that tells the namespace
comes first. The names are those of all the messages, each where it is first mentioned.

Type arguments are cut off a name that could not be found, but not off one that does not exist in its
namespace.
-/
import Mathlib.Data.List.Forall2
import PluginForge.Proofs.FirstOccurrences
import PluginForge.Proofs.Marks
import PluginForge.Repair.MissingSymbol

namespace PluginForge.MissingSymbol

open Chars

/-! ## Shapes of messages -/

/-- A shape that a part of a message has: how the part reads for each thing it may tell, and what
can be told. -/
structure Shape (α : Type) where
  text : α → List Char
  Tells : α → Prop

namespace Shape

variable {α : Type} (F : Shape α)

/-- A part of the message has the shape. -/
def OccursIn (message : List Char) : Prop :=
  ∃ a, F.Tells a ∧ F.text a <:+: message

/-- The first part of the message that has the shape tells `a`. -/
structure FirstIn (message : List Char) (a : α) : Prop where
  tells : F.Tells a
  first : ∃ front rest, message = front ++ (F.text a ++ rest) ∧
    ∀ b front' rest', F.Tells b → message = front' ++ (F.text b ++ rest') →
      front.length ≤ front'.length

/-- A reader that finds the shape at the start of a text. -/
def ReadBy (f : List Char → Option α) : Prop :=
  ∀ s a, f s = some a ↔ F.Tells a ∧ F.text a <+: s

variable {F} {f : List Char → Option α}

theorem ReadBy.search?_eq_none_iff (hf : F.ReadBy f) {message : List Char} :
    search? f message = none ↔ ¬ F.OccursIn message := by
  induction message with
  | nil =>
    rw [search?, Option.eq_none_iff_forall_ne_some]
    simp only [ne_eq, hf _ _, OccursIn, List.infix_nil, List.prefix_nil, not_exists]
  | cons c s ih =>
    rw [search?, Option.or_eq_none_iff, ih, Option.eq_none_iff_forall_ne_some]
    simp only [ne_eq, hf _ _, OccursIn, List.infix_cons_iff, not_exists, not_and, not_or]
    constructor
    · exact fun h a ha => ⟨h.1 a ha, h.2 a ha⟩
    · exact fun h => ⟨fun a ha => (h a ha).1, fun a ha => (h a ha).2⟩

theorem ReadBy.firstIn_of_search? (hf : F.ReadBy f) {message : List Char} {a : α}
    (h : search? f message = some a) : F.FirstIn message a := by
  induction message with
  | nil =>
    obtain ⟨tells, rest, hrest⟩ := (hf _ _).1 h
    exact ⟨tells, [], rest, hrest.symm, fun _ _ _ _ _ => Nat.zero_le _⟩
  | cons c s ih =>
    rw [search?, Option.or_eq_some_iff] at h
    rcases h with here | ⟨notHere, later⟩
    · obtain ⟨tells, rest, hrest⟩ := (hf _ _).1 here
      exact ⟨tells, [], rest, hrest.symm, fun _ _ _ _ _ => Nat.zero_le _⟩
    · obtain ⟨tells, front, rest, rfl, least⟩ := ih later
      refine ⟨tells, c :: front, rest, rfl, fun b front' rest' hb he => ?_⟩
      cases front' with
      | nil =>
        have found := (hf _ b).2 ⟨hb, rest', he.symm⟩
        rw [notHere] at found
        cases found
      | cons d front' =>
        obtain ⟨-, he⟩ := List.cons.inj he
        exact Nat.succ_le_succ (least b front' rest' hb he)

theorem FirstIn.occursIn {message : List Char} {a : α} (h : F.FirstIn message a) :
    F.OccursIn message := by
  obtain ⟨tells, front, rest, rfl, -⟩ := h
  exact ⟨a, tells, front, rest, by simp⟩

/-- At one place a reader finds one thing, so the first part tells one thing. -/
theorem ReadBy.firstIn_unique (hf : F.ReadBy f) {message : List Char} {a b : α}
    (ha : F.FirstIn message a) (hb : F.FirstIn message b) : a = b := by
  obtain ⟨tellsA, front, rest, rfl, leastA⟩ := ha
  obtain ⟨tellsB, front', rest', he, leastB⟩ := hb
  have alike : front.length = front'.length :=
    Nat.le_antisymm (leastA b front' rest' tellsB he) (leastB a front rest tellsA rfl)
  obtain ⟨-, hs⟩ := List.append_inj he alike
  have readA := (hf _ a).2 ⟨tellsA, List.prefix_append (F.text a) rest⟩
  have readB := (hf _ b).2 ⟨tellsB, List.prefix_append (F.text b) rest'⟩
  rw [hs, readB] at readA
  exact (Option.some.inj readA).symm

theorem ReadBy.search?_eq_some_iff (hf : F.ReadBy f) {message : List Char} {a : α} :
    search? f message = some a ↔ F.FirstIn message a := by
  refine ⟨hf.firstIn_of_search?, fun h => ?_⟩
  cases hs : search? f message with
  | none => exact absurd h.occursIn (hf.search?_eq_none_iff.1 hs)
  | some b => rw [hf.firstIn_unique (hf.firstIn_of_search? hs) h]

end Shape

/-! ## The three shapes -/

/-- A name that can stand in quotes. -/
def IsQuotable (name : List Char) : Prop :=
  name ≠ [] ∧ '\'' ∉ name

/-- A name in quotes. -/
def quoted (name : List Char) : List Char :=
  '\'' :: (name ++ ['\''])

/-- What a message says of a name that is missing. -/
def said (name : List Char) (complaint : String) : List Char :=
  "The type or namespace name ".toList ++ (quoted name ++ complaint.toList)

/-- A name could not be found. -/
def missing : Shape (List Char) where
  text name := said name " could not be found"
  Tells := IsQuotable

/-- A name could not be found in the global namespace. -/
def missingGlobally : Shape (List Char) where
  text name := said name " could not be found in the global namespace"
  Tells := IsQuotable

/-- A name does not exist in a namespace; the name is told first. -/
def missingInside : Shape (List Char × List Char) where
  text told := said told.1 " does not exist in the namespace " ++ quoted told.2
  Tells told := IsQuotable told.1 ∧ IsQuotable told.2

theorem quoted?_eq_some_iff {s name rest : List Char} :
    quoted? s = some (name, rest) ↔ IsQuotable name ∧ s = quoted name ++ rest := by
  constructor
  · intro h
    unfold quoted? at h
    split at h
    · rename_i r
      split at h
      · cases h
      · rename_i ne
        obtain ⟨unquoted, rfl⟩ := eq_append_of_cut? h
        exact ⟨⟨fun e => ne rest (e ▸ h), unquoted⟩, by simp [quoted]⟩
    · cases h
  · rintro ⟨⟨ne, unquoted⟩, rfl⟩
    have cut : cut? '\'' (name ++ '\'' :: rest) = some (name, rest) := cut?_append unquoted rest
    obtain ⟨c, r, rfl⟩ := List.exists_cons_of_ne_nil ne
    simp only [quoted, List.cons_append, List.append_assoc, List.nil_append] at cut ⊢
    simp only [quoted?, cut]

theorem subject?_eq_some_iff {complaint : String} {s name rest : List Char} :
    subject? complaint s = some (name, rest) ↔
      IsQuotable name ∧ s = said name complaint ++ rest := by
  unfold subject? said
  generalize "The type or namespace name ".toList = opening
  generalize complaint.toList = complaint
  simp only [Option.bind_eq_bind, Option.bind_eq_some_iff, after?_eq_some_iff, Prod.exists,
    quoted?_eq_some_iff, Option.pure_def, Option.some.injEq, Prod.mk.injEq, List.append_assoc]
  constructor
  · rintro ⟨_, rfl, name, _, ⟨quotable, rfl⟩, rest, rfl, rfl, rfl⟩
    exact ⟨quotable, rfl⟩
  · rintro ⟨quotable, rfl⟩
    exact ⟨_, rfl, name, _, ⟨quotable, rfl⟩, rest, rfl, rfl, rfl⟩

theorem readBy_subject (complaint : String) :
    Shape.ReadBy ⟨fun name => said name complaint, IsQuotable⟩
      fun s => (subject? complaint s).map (·.1) := by
  intro s name
  simp only [Option.map_eq_some_iff, Prod.exists, subject?_eq_some_iff]
  constructor
  · rintro ⟨_, rest, ⟨quotable, rfl⟩, rfl⟩
    exact ⟨quotable, List.prefix_append _ _⟩
  · rintro ⟨quotable, rest, rfl⟩
    exact ⟨name, rest, ⟨quotable, rfl⟩, rfl⟩

theorem notFound?_eq_some_iff {message name : List Char} :
    notFound? message = some name ↔ missing.FirstIn message name :=
  (readBy_subject _).search?_eq_some_iff

theorem notFound?_eq_none_iff {message : List Char} :
    notFound? message = none ↔ ¬ missing.OccursIn message :=
  (readBy_subject _).search?_eq_none_iff

theorem notFoundGlobally?_eq_some_iff {message name : List Char} :
    notFoundGlobally? message = some name ↔ missingGlobally.FirstIn message name :=
  (readBy_subject _).search?_eq_some_iff

theorem notFoundGlobally?_eq_none_iff {message : List Char} :
    notFoundGlobally? message = none ↔ ¬ missingGlobally.OccursIn message :=
  (readBy_subject _).search?_eq_none_iff

theorem readBy_inside : missingInside.ReadBy fun s => do
    let (name, r) ← subject? " does not exist in the namespace " s
    let (space, _) ← quoted? r
    return (name, space) := by
  rintro s ⟨name, space⟩
  simp only [missingInside, Option.bind_eq_bind, Option.bind_eq_some_iff, Prod.exists,
    subject?_eq_some_iff, quoted?_eq_some_iff, Option.pure_def, Option.some.injEq, Prod.mk.injEq]
  constructor
  · rintro ⟨_, _, ⟨quotable, rfl⟩, _, rest, ⟨quotable', rfl⟩, rfl, rfl⟩
    exact ⟨⟨quotable, quotable'⟩, rest, by simp⟩
  · rintro ⟨⟨quotable, quotable'⟩, rest, rfl⟩
    exact ⟨name, quoted space ++ rest, ⟨quotable, by simp⟩, space, rest, ⟨quotable', rfl⟩, rfl, rfl⟩

theorem notInNamespace?_eq_some_iff {message name space : List Char} :
    notInNamespace? message = some (name, space) ↔ missingInside.FirstIn message (name, space) :=
  readBy_inside.search?_eq_some_iff

theorem notInNamespace?_eq_none_iff {message : List Char} :
    notInNamespace? message = none ↔ ¬ missingInside.OccursIn message :=
  readBy_inside.search?_eq_none_iff

theorem said_append (name : List Char) (complaint more : String) :
    said name (complaint ++ more) = said name complaint ++ more.toList := by
  unfold said
  generalize "The type or namespace name ".toList = opening
  simp only [String.toList_append, List.append_assoc]

theorem occursIn_of_globally {message : List Char} (h : missingGlobally.OccursIn message) :
    missing.OccursIn message := by
  obtain ⟨name, quotable, found⟩ := h
  have longer : missing.text name <+: missingGlobally.text name :=
    ⟨_, (said_append name " could not be found" " in the global namespace").symm⟩
  exact ⟨name, quotable, longer.isInfix.trans found⟩

/-! ## Names that a message mentions -/

/-- The part of a name in front of its type arguments. -/
structure IsBare (name bare : List Char) : Prop where
  unmarked : '<' ∉ bare
  cut : bare = name ∨ ∃ arguments, name = bare ++ '<' :: arguments

/-- The name that could not be found, first of all in the global namespace. -/
inductive TellsMissing (message : List Char) : List Char → Prop
  | globally {name : List Char} (h : missingGlobally.FirstIn message name) :
      TellsMissing message name
  | anywhere {name : List Char} (hg : ¬ missingGlobally.OccursIn message)
      (h : missing.FirstIn message name) : TellsMissing message name

/-- The names that a message mentions, the full name first. A name that could not be found is
mentioned without its type arguments, and so is what it lies in. A name that does not exist in a
namespace is mentioned as it is, behind its namespace. -/
inductive Mentions (message : List Char) : List (List Char) → Prop
  | inside {name space : List Char} (h : missingInside.FirstIn message (name, space)) :
      Mentions message [space ++ '.' :: name]
  | below {name parent last : List Char} (hi : ¬ missingInside.OccursIn message)
      (h : TellsMissing message name) (hb : IsBare name (parent ++ '.' :: last))
      (hl : '.' ∉ last) : Mentions message [parent ++ '.' :: last, parent]
  | alone {name bare : List Char} (hi : ¬ missingInside.OccursIn message)
      (h : TellsMissing message name) (hb : IsBare name bare) (hd : '.' ∉ bare) :
      Mentions message [bare]
  | nothing (hi : ¬ missingInside.OccursIn message) (h : ¬ missing.OccursIn message) :
      Mentions message []

theorem isBare_takeWhile (name : List Char) : IsBare name (name.takeWhile (· ≠ '<')) where
  unmarked := fun hm => by simpa using List.mem_takeWhile_imp hm
  cut := by
    have whole := List.takeWhile_append_dropWhile (p := (· ≠ '<')) (l := name)
    cases hd : name.dropWhile (· ≠ '<') with
    | nil =>
      rw [hd, List.append_nil] at whole
      exact .inl whole
    | cons c arguments =>
      obtain rfl : c = '<' := by simpa using eq_false_of_dropWhile_eq_cons hd
      rw [hd] at whole
      exact .inr ⟨arguments, whole.symm⟩

theorem IsBare.takeWhile_eq {name bare : List Char} (h : IsBare name bare) :
    name.takeWhile (· ≠ '<') = bare := by
  have keep : ∀ c ∈ bare, decide (c ≠ '<') = true := fun c hc =>
    decide_eq_true fun (e : c = '<') => h.unmarked (e ▸ hc)
  rcases h.cut with rfl | ⟨arguments, rfl⟩
  · exact List.takeWhile_eq_self_iff.2 keep
  · rw [List.takeWhile_append_of_pos keep]
    simp

/-- The name that a message tells could not be found. -/
def told? (message : List Char) : Option (List Char) :=
  (notFoundGlobally? message).or (notFound? message)

theorem told?_eq_some_iff {message name : List Char} :
    told? message = some name ↔ TellsMissing message name := by
  rw [told?, Option.or_eq_some_iff, notFoundGlobally?_eq_some_iff, notFoundGlobally?_eq_none_iff,
    notFound?_eq_some_iff]
  constructor
  · rintro (h | ⟨hg, h⟩)
    · exact .globally h
    · exact .anywhere hg h
  · rintro (h | ⟨hg, h⟩)
    · exact .inl h
    · exact .inr ⟨hg, h⟩

theorem told?_eq_none_iff {message : List Char} :
    told? message = none ↔ ¬ missing.OccursIn message := by
  rw [told?, Option.or_eq_none_iff, notFoundGlobally?_eq_none_iff, notFound?_eq_none_iff]
  exact ⟨And.right, fun h => ⟨mt occursIn_of_globally h, h⟩⟩

theorem namesIn_of_not_inside {message : List Char} (h : ¬ missingInside.OccursIn message) :
    namesIn message = (told? message).elim [] withParent := by
  rw [namesIn, notInNamespace?_eq_none_iff.2 h, told?]
  cases (notFoundGlobally? message).or (notFound? message) <;> rfl

theorem Mentions.namesIn_eq {message : List Char} {names : List (List Char)}
    (h : Mentions message names) : namesIn message = names := by
  cases h with
  | inside h => simp only [namesIn, notInNamespace?_eq_some_iff.2 h]
  | below hi h hb hl =>
    rw [namesIn_of_not_inside hi, told?_eq_some_iff.2 h]
    simp only [Option.elim_some, withParent, hb.takeWhile_eq, cutLast?_append hl]
  | alone hi h hb hd =>
    rw [namesIn_of_not_inside hi, told?_eq_some_iff.2 h]
    simp only [Option.elim_some, withParent, hb.takeWhile_eq, cutLast?_eq_none hd]
  | nothing hi h =>
    rw [namesIn_of_not_inside hi, told?_eq_none_iff.2 h]
    rfl

theorem exists_mentions (message : List Char) : ∃ names, Mentions message names := by
  cases hi : notInNamespace? message with
  | some found => exact ⟨_, .inside (notInNamespace?_eq_some_iff.1 hi)⟩
  | none =>
    have outside := notInNamespace?_eq_none_iff.1 hi
    cases ht : told? message with
    | none => exact ⟨_, .nothing outside (told?_eq_none_iff.1 ht)⟩
    | some name =>
      have told := told?_eq_some_iff.1 ht
      have bare := isBare_takeWhile name
      by_cases dotted : '.' ∈ name.takeWhile (· ≠ '<')
      · obtain ⟨parent, last, split, hl⟩ := exists_last_split dotted
        exact ⟨_, .below outside told (split ▸ bare) hl⟩
      · exact ⟨_, .alone outside told bare dotted⟩

theorem mentions_namesIn (message : List Char) : Mentions message (namesIn message) := by
  obtain ⟨names, mentions⟩ := exists_mentions message
  rwa [← mentions.namesIn_eq] at mentions

/-- A message in one of the shapes mentions a full name. -/
theorem Mentions.exists_full {message : List Char} {names : List (List Char)}
    (h : Mentions message names)
    (shaped : missing.OccursIn message ∨ missingInside.OccursIn message) :
    ∃ full more, names = full :: more := by
  cases h with
  | inside => exact ⟨_, _, rfl⟩
  | below => exact ⟨_, _, rfl⟩
  | alone => exact ⟨_, _, rfl⟩
  | nothing hi h => exact (shaped.elim h hi).elim

/-- Type arguments are left only in a name that does not exist in its namespace. -/
theorem Mentions.inside_of_marked {message name : List Char} {names : List (List Char)}
    (h : Mentions message names) (hn : name ∈ names) (marked : '<' ∈ name) :
    ∃ member space, missingInside.FirstIn message (member, space) ∧
      name = space ++ '.' :: member ∧ ('<' ∈ space ∨ '<' ∈ member) := by
  cases h with
  | @inside member space h =>
    obtain rfl := List.mem_singleton.1 hn
    exact ⟨member, space, h, rfl, by simpa using marked⟩
  | @below _ parent last _ _ hb _ =>
    have whole : '<' ∈ parent ++ '.' :: last := by
      rcases List.mem_pair.1 hn with rfl | rfl
      · exact marked
      · exact List.mem_append_left _ marked
    exact absurd whole hb.unmarked
  | alone _ _ hb _ =>
    obtain rfl := List.mem_singleton.1 hn
    exact absurd marked hb.unmarked
  | nothing => cases hn

/-! ## Offending names -/

theorem foldl_addName_eq (names : List String) :
    names.foldl addName [] = (names.filter (· ≠ "")).eraseDups := by
  have skip : addName = fun acc n => if n ≠ "" then if n ∈ acc then acc else acc ++ [n] else acc := by
    funext acc n
    unfold addName
    by_cases hn : n = "" <;> simp [hn]
  have taken := foldl_takeNew_eq (names.filter (· ≠ ""))
  rw [List.foldl_filter] at taken
  simpa [skip] using taken

theorem offendingNames_eq (ds : List Diagnostic) :
    offendingNames ds =
      (((ds.filter reports).map fun d => namesIn d.message.toList).flatten.map
        String.ofList |>.filter (· ≠ "")).eraseDups := by
  rw [offendingNames, foldl_addName_eq, List.map_flatten, List.map_map, List.flatMap_def]
  rfl

theorem mem_offendingNames {ds : List Diagnostic} {name : String} :
    name ∈ offendingNames ds ↔
      name ≠ "" ∧ ∃ d ∈ ds, reports d = true ∧ name.toList ∈ namesIn d.message.toList := by
  rw [offendingNames_eq, List.mem_eraseDups]
  simp only [List.mem_filter, List.mem_map, List.mem_flatten]
  constructor
  · rintro ⟨⟨chars, ⟨_, ⟨d, hd, rfl⟩, hn⟩, rfl⟩, nonempty⟩
    exact ⟨by simpa using nonempty, d, hd.1, hd.2, by simpa using hn⟩
  · rintro ⟨nonempty, d, hd, hr, hn⟩
    exact ⟨⟨name.toList, ⟨_, ⟨d, ⟨hd, hr⟩, rfl⟩, hn⟩, String.ofList_toList⟩, by simpa using nonempty⟩

theorem isError_of_reports {d : Diagnostic} (h : reports d = true) : d.isError = true := by
  rw [reports, Bool.and_eq_true] at h
  exact h.1

/-- The names that some errors point at. They are those that the messages of the errors about
missing symbols mention, each where it is first mentioned, without the empty one. Type arguments are
left only in a name that does not exist in its namespace. Of every such message that has one of the
shapes the full name is there, unless it is empty. -/
theorem offendingNames_mentioned (ds : List Diagnostic) :
    (∃ mentions : List (List (List Char)),
      List.Forall₂ (fun d names => Mentions d.message.toList names) (ds.filter reports) mentions ∧
      offendingNames ds = ((mentions.flatten.map String.ofList).filter (· ≠ "")).eraseDups) ∧
    (offendingNames ds).Nodup ∧
    (∀ name ∈ offendingNames ds, name ≠ "" ∧
      ∃ d ∈ ds, d.isError = true ∧ reports d = true ∧
        (∃ names, Mentions d.message.toList names ∧ name.toList ∈ names) ∧
        ('<' ∈ name.toList → ∃ member space,
          missingInside.FirstIn d.message.toList (member, space) ∧
          name.toList = space ++ '.' :: member ∧ ('<' ∈ space ∨ '<' ∈ member))) ∧
    (∀ d ∈ ds, reports d = true →
      missing.OccursIn d.message.toList ∨ missingInside.OccursIn d.message.toList →
      ∀ names, Mentions d.message.toList names → ∃ full more, names = full :: more ∧
        (full ≠ [] → String.ofList full ∈ offendingNames ds)) := by
  refine ⟨⟨_, ?_, offendingNames_eq ds⟩, ?_, fun name hn => ?_,
    fun d hd hr shaped names mentions => ?_⟩
  · rw [List.forall₂_map_right_iff, List.forall₂_same]
    exact fun d _ => mentions_namesIn d.message.toList
  · rw [offendingNames_eq]
    exact nodup_eraseDups _
  · obtain ⟨nonempty, d, hd, hr, mentioned⟩ := mem_offendingNames.1 hn
    have mentions := mentions_namesIn d.message.toList
    exact ⟨nonempty, d, hd, isError_of_reports hr, hr, ⟨_, mentions, mentioned⟩,
      mentions.inside_of_marked mentioned⟩
  · obtain ⟨full, more, rfl⟩ := mentions.exists_full shaped
    refine ⟨full, more, rfl, fun nonempty => mem_offendingNames.2 ⟨fun e => ?_, d, hd, hr, ?_⟩⟩
    · exact nonempty (by simpa using congrArg String.toList e)
    · rw [mentions.namesIn_eq, String.toList_ofList]
      exact List.mem_cons_self

/-- The complaint that a generic type does not exist in its namespace. -/
def gridComplaint : Diagnostic where
  severity := .error
  code := some "CS0234"
  message := "The type or namespace name 'Grid<>' does not exist in the namespace 'Legacy.Ui'"
  sourceFile := none
  line := none

theorem offendingNames_mentioned_grid :
    let ds := [{ gridComplaint with severity := .warning }, gridComplaint,
      { gridComplaint with message := "The type or namespace name 'Kit.Row<T>' could not be found" }]
    offendingNames ds = ["Legacy.Ui.Grid<>", "Kit.Row", "Kit"] ∧ (offendingNames ds).Nodup ∧
    (∃ d ∈ ds, reports d = true ∧ ∃ member space,
      missingInside.FirstIn d.message.toList (member, space) ∧
      "Legacy.Ui.Grid<>".toList = space ++ '.' :: member ∧ ('<' ∈ space ∨ '<' ∈ member)) ∧
    ∃ full more, Mentions gridComplaint.message.toList (full :: more) ∧
      String.ofList full ∈ offendingNames ds := by
  intro ds
  have names : offendingNames ds = ["Legacy.Ui.Grid<>", "Kit.Row", "Kit"] := by decide +kernel
  have shaped : missingInside.FirstIn gridComplaint.message.toList
      ("Grid<>".toList, "Legacy.Ui".toList) :=
    notInNamespace?_eq_some_iff.1 (by decide +kernel)
  obtain ⟨-, nodup, comes, complete⟩ := offendingNames_mentioned ds
  refine ⟨names, nodup, ?_, ?_⟩
  · obtain ⟨-, d, hd, -, hr, -, inside⟩ := comes "Legacy.Ui.Grid<>" (by rw [names]; decide)
    exact ⟨d, hd, hr, inside (by decide)⟩
  · have mentions := Mentions.inside shaped
    obtain ⟨full, more, he, contributes⟩ := complete gridComplaint (by simp [ds]) (by decide +kernel)
      (.inr shaped.occursIn) _ mentions
    obtain ⟨rfl, rfl⟩ := List.cons.inj he
    exact ⟨_, [], mentions, contributes (by decide)⟩

/-- No offending name has type arguments. -/
def NamesAreBare : Prop :=
  ∀ ds : List Diagnostic, ∀ name ∈ offendingNames ds, '<' ∉ name.toList

/-- Type arguments stay in the name of a type that does not exist in its namespace. -/
theorem not_namesAreBare : ¬ NamesAreBare := by
  intro bare
  have found : "Legacy.Ui.Grid<>" ∈ offendingNames [gridComplaint] := by decide +kernel
  exact bare _ _ found (by decide)

end PluginForge.MissingSymbol
