/-
What is left of a source in the texts that are compiled. Removing imports and pruning take out whole
lines and leave the others as they are, and adding default imports puts lines in front. So a text
that is compiled is what is left of some default imports and, behind it, what is left of the source
as it was read, and the lines that are gone from the latter are configured imports and directives.

Pruning goes through both parts at once. They can be told apart all the same because the lines of the
default imports are ended, and it is this that the invariant carries from one attempt to the next.
-/
import PluginForge.Proofs.Failures
import PluginForge.Proofs.Withholding

namespace PluginForge

namespace Import

open Chars

/-! ## Lines taken out -/

/-- A text without some of its lines, each of which may go. The others are kept as they are and in
their order. -/
def WithoutLines (mayGo : List Char → Prop) (text kept : String) : Prop :=
  ∃ keep : List Char → Bool, rawLines kept.toList = (rawLines text.toList).filter keep ∧
    ∀ line ∈ rawLines text.toList, keep line = false → mayGo line

namespace WithoutLines

variable {mayGo mayGo' : List Char → Prop} {a b c : String}

theorem refl (mayGo : List Char → Prop) (a : String) : WithoutLines mayGo a a :=
  ⟨fun _ => true, (List.filter_true _).symm, nofun⟩

theorem trans (h : WithoutLines mayGo a b) (h' : WithoutLines mayGo b c) :
    WithoutLines mayGo a c := by
  obtain ⟨keep, hb, hgo⟩ := h
  obtain ⟨keep', hc, hgo'⟩ := h'
  refine ⟨fun line => keep' line && keep line, ?_, fun line hl hk => ?_⟩
  · rw [hc, hb, List.filter_filter]
  · rcases Bool.and_eq_false_iff.1 hk with hk' | hk'
    · cases kept : keep line with
      | false => exact hgo line hl kept
      | true => exact hgo' line (hb ▸ List.mem_filter.2 ⟨hl, kept⟩) hk'
    · exact hgo line hl hk'

theorem mono (h : WithoutLines mayGo a b) (hm : ∀ line, mayGo line → mayGo' line) :
    WithoutLines mayGo' a b := by
  obtain ⟨keep, hb, hgo⟩ := h
  exact ⟨keep, hb, fun line hl hk => hm line (hgo line hl hk)⟩

theorem ended (h : WithoutLines mayGo a b) (ha : Ended a.toList) : Ended b.toList := by
  obtain ⟨keep, hb, -⟩ := h
  intro line hl
  rw [hb] at hl
  exact ha line (List.mem_filter.1 hl).1

/-- A line that is not there any more is one that may go. -/
theorem gone (h : WithoutLines mayGo a b) {line : List Char} (ha : line ∈ rawLines a.toList)
    (hb : line ∉ rawLines b.toList) : mayGo line := by
  obtain ⟨keep, hk, hgo⟩ := h
  refine hgo line ha (Bool.eq_false_iff.2 fun kept => hb ?_)
  rw [hk]
  exact List.mem_filter.2 ⟨ha, kept⟩

end WithoutLines

/-! ## The three changes -/

/-- A line that may go from a source: a configured import, without the blanks around it or as a
statement, or else any import directive. -/
def Removable (removed : List String) (line : List Char) : Prop :=
  (∃ r ∈ removed, Text.isBlank r = false ∧
    (bareLine line = (Text.trim r).toList ∨ bareLine line = (statement r).toList)) ∨
  isDirective line = true

/-- The spellings of configured imports are those of the imports that say something. -/
theorem spelled_of_mem {removed : List String} (hs : ∀ r ∈ removed, SingleLine r) {form : String}
    (h : form ∈ spellings removed) :
    ∃ r ∈ removed, Text.isBlank r = false ∧ (form = Text.trim r ∨ form = statement r) := by
  obtain ⟨token, ht, hf⟩ := List.mem_flatMap.1 h
  obtain ⟨⟨r, hr, rfl⟩, hne⟩ := mem_tokens.1 ht
  have hne : trim r.toList ≠ [] := fun he => hne (by rw [Text.trim, he])
  have hn : '\n' ∉ trim r.toList := by simpa [SingleLine, Text.trim] using hs r hr
  refine ⟨r, hr, all_isBlank_eq_false hne, ?_⟩
  unfold forms at hf
  rw [statement_trim (tight_trim hne hn)] at hf
  split at hf
  · exact .inl (List.mem_singleton.1 hf)
  · simpa using hf

/-- What is left when imports are removed: only lines on which an import stands alone are gone, as it
is configured or as a statement. -/
theorem strip_withoutLines {removed : List String} (hs : ∀ r ∈ removed, SingleLine r)
    (text : String) : WithoutLines (Removable removed) text (strip text removed) := by
  refine ⟨_, rawLines_strip hs text, fun line _ hk => ?_⟩
  obtain ⟨form, hf, hb⟩ : ∃ form ∈ spellings removed, bareLine line = form.toList := by
    simpa using hk
  obtain ⟨r, hr, hblank, he⟩ := spelled_of_mem hs hf
  refine .inl ⟨r, hr, hblank, ?_⟩
  rw [hb]
  exact he.imp (congrArg String.toList) (congrArg String.toList)

/-- What is left when directives are pruned: only directives are gone. -/
theorem pruneText_withoutLines (names : List String) (text : String) :
    WithoutLines (isDirective · = true) text (MissingSymbol.pruneText names text).1 := by
  refine ⟨_, rawLines_removeWhere text _, fun line _ hk => ?_⟩
  rw [Bool.not_eq_false'] at hk
  exact isDirective_of_selects hk

/-- Behind ended lines a text is pruned as if nothing stood in front. -/
theorem pruneText_append (names : List String) {front : String} (h : Ended front.toList)
    (rest : String) :
    (MissingSymbol.pruneText names (front ++ rest)).1 =
      (MissingSymbol.pruneText names front).1 ++ (MissingSymbol.pruneText names rest).1 := by
  unfold MissingSymbol.pruneText removeWhere
  dsimp only
  rw [String.toList_append, h.rawLines_append, List.filter_append, List.flatten_append,
    String.ofList_append]

theorem missingDefaults_sublist (present defaults : List String) :
    (missingDefaults present defaults).Sublist
      ((defaults.filter fun d => ! Text.isBlank d).map statement) := by
  induction defaults generalizing present with
  | nil => exact .slnil
  | cons d rest ih =>
    unfold missingDefaults
    dsimp only
    cases hb : Text.isBlank d with
    | true =>
      rw [if_pos rfl]
      simpa [hb] using ih present
    | false =>
      simp only [Bool.false_eq_true, if_false, List.filter_cons, hb, Bool.not_false, if_true,
        List.map_cons]
      split
      · exact (ih present).cons _
      · exact (ih _).cons_cons _

/-! ## Edited texts -/

/-- Statements of default imports, one to a line and in their order, of which some lines may have
been pruned. -/
def Prelude (defaults : List String) (front : String) : Prop :=
  ∃ statements nl, (nl = "\n" ∨ nl = "\r\n") ∧
    List.Sublist statements ((defaults.filter fun d => ! Text.isBlank d).map statement) ∧
    WithoutLines (isDirective · = true) (String.join (statements.map (· ++ nl))) front

/-- A text behind a prelude and without lines that may go. -/
def Edited (mayGo : List Char → Prop) (defaults : List String) (text text' : String) : Prop :=
  ∃ front rest, text' = front ++ rest ∧ Prelude defaults front ∧ WithoutLines mayGo text rest
section

variable {mayGo : List Char → Prop} {defaults : List String} {text text' rest front : String}

theorem ended_join {nl : String} (hnl : nl = "\n" ∨ nl = "\r\n") (statements : List String) :
    Ended (String.join (statements.map (· ++ nl))).toList := by
  obtain ⟨e, he⟩ : ∃ e, nl.toList = e ++ ['\n'] := by
    rcases hnl with rfl | rfl
    · exact ⟨[], rfl⟩
    · exact ⟨['\r'], rfl⟩
  induction statements with
  | nil => exact List.forall_mem_nil _
  | cons s rest ih =>
    have first := ended_concat (s.toList ++ e)
    rw [List.append_assoc, ← he] at first
    simpa using first.append ih

theorem Prelude.ended (h : Prelude defaults front) : Ended front.toList := by
  obtain ⟨statements, nl, hnl, -, hf⟩ := h
  exact hf.ended (ended_join hnl statements)

theorem Prelude.pruneText (h : Prelude defaults front) (names : List String) :
    Prelude defaults (MissingSymbol.pruneText names front).1 := by
  obtain ⟨statements, nl, hnl, hs, hf⟩ := h
  exact ⟨statements, nl, hnl, hs, hf.trans (pruneText_withoutLines names front)⟩

theorem WithoutLines.toEdited (h : WithoutLines mayGo text rest) (defaults : List String) :
    Edited mayGo defaults text rest :=
  ⟨"", rest, String.empty_append.symm,
    ⟨[], "\n", .inl rfl, List.nil_sublist _, .refl _ _⟩, h⟩

theorem WithoutLines.addDefaults (h : WithoutLines mayGo text rest)
    (existing defaults : List String) :
    Edited mayGo defaults text (addDefaults rest existing defaults) := by
  refine ⟨_, rest, rfl, ⟨_, newline rest, ?_, missingDefaults_sublist _ _, .refl _ _⟩, h⟩
  unfold newline
  split
  · exact .inr rfl
  · exact .inl rfl

/-- A line that is not in the edited text is one that may go. -/
theorem Edited.gone (h : Edited mayGo defaults text text') {line : List Char}
    (hl : line ∈ rawLines text.toList) (hn : line ∉ rawLines text'.toList) : mayGo line := by
  obtain ⟨front, rest, rfl, hf, hr⟩ := h
  rw [String.toList_append, hf.ended.rawLines_append, List.mem_append, not_or] at hn
  exact hr.gone hl hn.2

/-- Pruning an edited text prunes both its parts. -/
theorem Edited.pruneText (h : Edited mayGo defaults text text')
    (directives : ∀ line, isDirective line = true → mayGo line) (names : List String) :
    Edited mayGo defaults text (MissingSymbol.pruneText names text').1 := by
  obtain ⟨front, rest, rfl, hf, hr⟩ := h
  exact ⟨_, _, pruneText_append names hf.ended rest, hf.pruneText names,
    hr.trans ((pruneText_withoutLines names rest).mono directives)⟩

end

end Import

/-! ## Sources -/

namespace Intake

open Import

variable {φ ρ : Type} {fs : FileSystem φ} {settings : Settings} {files : φ} {p : Path}

theorem readUnit_eq_ok {u : SourceUnit} (h : readUnit fs p files = .ok (some u)) :
    fs.read p files = .ok u.bytes ∧ u.text = (Encoding.decode u.bytes).1 := by
  unfold readUnit at h
  cases hs : fs.size p files with
  | error err => rw [hs] at h; cases h
  | ok n =>
    rw [hs] at h
    dsimp only [bind, Except.bind] at h
    split at h
    · cases h
    · cases hr : fs.read p files with
      | error err => rw [hr] at h; cases h
      | ok bytes =>
        rw [hr] at h
        cases h
        exact ⟨rfl, rfl⟩

/-- The text of a unit is the text of its file, edited. -/
theorem FileIntake.edited (single : ∀ r ∈ settings.removedImports, SingleLine r)
    {xs : List (Exchange ρ)} {u : ParsedUnit}
    (h : FileIntake fs settings files p xs (.ok (.parsed u))) :
    ∃ bytes, fs.read u.path files = .ok bytes ∧
      Edited (Removable settings.removedImports) settings.defaultImports
        (Encoding.decode bytes).1 u.text := by
  cases h with
  | @text source _ _ hu _ hp =>
    obtain ⟨hr, ht⟩ := readUnit_eq_ok hu
    have stripped := strip_withoutLines single source.text
    refine ⟨source.bytes, ?_⟩
    rw [← ht]
    cases hp with
    | complete => exact ⟨hr, stripped.toEdited _⟩
    | parsedAgain => exact ⟨hr, stripped.addDefaults _ _⟩

end Intake

/-! ## Builds -/

namespace Engine

open Chars Import

variable {φ σ ρ : Type}

/-- In a build every source that is to be compiled is a file's text, edited. -/
def SendsEdited (e : Engine φ σ ρ) (mayGo : List Char → Prop) (root : Path)
    (clock : Nat → TimeStamp) (s : EngineState φ σ ρ) : Prop :=
  ∀ a ∈ Exchange.attempts (e.exchanges root clock s), ∀ src ∈ a.request.sources,
    ∃ bytes, e.store.read src.path (e.cleared s) = .ok bytes ∧
      Edited mayGo e.settings.defaultImports (Encoding.decode bytes).1 src.text

/-- In every attempt of every build, what is compiled is what was read, behind default imports and
without configured imports and directives. -/
theorem buildDir_edited (e : Engine φ σ ρ) (root : Path) (clock : Nat → TimeStamp)
    (s : EngineState φ σ ρ) (single : ∀ r ∈ e.settings.removedImports, SingleLine r) :
    e.SendsEdited (Removable e.settings.removedImports) root clock s := by
  have traffic := e.buildDir_traffic root clock s
  intro a ha
  generalize e.exchanges root clock s = xs at traffic ha
  cases traffic with
  | intake taken =>
    rw [taken.attempts] at ha
    cases ha
  | groups taken hruns =>
    rw [Exchange.attempts_append, taken.attempts, Exchange.attempts_map_exchange,
      List.nil_append] at ha
    obtain ⟨as, has, ha⟩ := List.mem_flatten.1 ha
    obtain ⟨g, hg, r, run⟩ := hruns as has
    refine run.forall_request (P := fun request => ∀ src ∈ request.sources, ∃ bytes,
      e.store.read src.path (e.cleared s) = .ok bytes ∧
        Edited (Removable e.settings.removedImports) e.settings.defaultImports
          (Encoding.decode bytes).1 src.text) ?_ ?_ a ha
    · intro src hsrc
      obtain ⟨u, hu, rfl⟩ := List.mem_map.1 hsrc
      rw [(CompilationGroup.units_of_mem_partition hg).1] at hu
      obtain ⟨p, ys, hf, -⟩ := taken.origin u (List.mem_filter.1 hu).1
      exact hf.edited single
    · intro request output hr src hsrc
      obtain ⟨src', hm', rfl⟩ := List.mem_map.1 hsrc
      obtain ⟨bytes, hread, edited⟩ := hr src' hm'
      exact ⟨bytes, hread, edited.pruneText (fun _ => .inr) _⟩

/-- A source that is compiled three times: a line of it is removed at once, and of its imports first
the one that was added is blamed and then its own. -/
def blamedTwice : EngineState MemoryStore (List Scripted.EmitAnswer) Scripted.Code :=
  .start (oneSource "using Old.Api;\nSystem.Net\nclass A {}") [.blameFirstImport, .blameFirstImport]

theorem buildDir_edited_blamed_twice :
    (Exchange.attempts ((withImports ["System.Net"] ["System"]).exchanges ⟨"w/source"⟩
        (fun _ => newYear) blamedTwice)).map (fun a => a.request.sources.map SourceFile.text) =
      [["using System;\nusing Old.Api;\nclass A {}"], ["using Old.Api;\nclass A {}"],
        ["class A {}"]] ∧
      (withImports ["System.Net"] ["System"]).SendsEdited (Removable ["System.Net"]) ⟨"w/source"⟩
        (fun _ => newYear) blamedTwice :=
  ⟨by decide +kernel, buildDir_edited _ _ _ _ (by decide +kernel)⟩

/-- A line that may go if configured imports are taken as they stand, but for spaces and tabs. -/
def Listed (removed : List String) (line : List Char) : Prop :=
  (∃ r ∈ removed, bareLine line = bareLine r.toList ∨ bareLine line = (statement r).toList) ∨
  isDirective line = true

/-- In every build only lines go that are listed. -/
def RemovesListed : Prop :=
  ∀ (φ σ ρ : Type) (e : Engine φ σ ρ) (root : Path) (clock : Nat → TimeStamp)
    (s : EngineState φ σ ρ), (∀ r ∈ e.settings.removedImports, '\n' ∉ r.toList) →
    e.SendsEdited (Listed e.settings.removedImports) root clock s

/-- A no-break space around a configured import does not keep it from being found. -/
theorem not_removesListed : ¬ RemovesListed := by
  intro listed
  let e := withImports ["\u00a0System.Net"] []
  let s : EngineState MemoryStore (List Scripted.EmitAnswer) Scripted.Code :=
    .start (oneSource "System.Net\nclass A {}\n") []
  have sent : (Exchange.attempts (e.exchanges ⟨"w/source"⟩ (fun _ => newYear) s)).map
      (fun a => a.request.sources.map fun src => (src.path, src.text)) =
        [[(⟨"w/source/a.cs"⟩, "class A {}\n")]] := by decide +kernel
  have source : e.store.read ⟨"w/source/a.cs"⟩ (e.cleared s) =
      .ok (Encoding.toUtf8 "System.Net\nclass A {}\n") := by decide +kernel
  obtain ⟨a, ha, he⟩ := List.map_eq_singleton_iff.1 sent
  obtain ⟨src, hs, hsrc⟩ := List.map_eq_singleton_iff.1 he
  obtain ⟨path, text⟩ := src
  cases hsrc
  obtain ⟨bytes, read, edited⟩ := listed _ _ _ e ⟨"w/source"⟩ (fun _ => newYear) s
    (by decide +kernel) a (by rw [ha]; exact List.mem_singleton_self _) _
    (by rw [hs]; exact List.mem_singleton_self _)
  obtain rfl := Except.ok.inj (source.symm.trans read)
  have there : "System.Net\n".toList ∈
      rawLines (Encoding.decode (Encoding.toUtf8 "System.Net\nclass A {}\n")).1.toList := by
    decide +kernel
  have gone := edited.gone there (by decide +kernel)
  revert gone
  unfold Listed
  decide +kernel

end Engine
end PluginForge
