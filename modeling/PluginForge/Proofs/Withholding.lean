/-
Configured imports do not reach the compiler. Of the changes that are made to a text, removing them
takes their lines out, and of those that follow, pruning only takes further lines out and adding
default imports only adds the lines of default imports. So the statement of an import that is to be
removed stands alone on no line of any text that the compiler gets in a build, unless one of the
default imports puts it there.
-/
import PluginForge.Proofs.Stripping
import PluginForge.Proofs.Traffic

namespace PluginForge

namespace Import

open Chars

/-! ## Lines of a text -/

/-- Some line of a text is `form`, without its end and the padding around it. -/
def HasLine (text form : String) : Prop :=
  ∃ line ∈ rawLines text.toList, bareLine line = form.toList

instance (text form : String) : Decidable (HasLine text form) :=
  inferInstanceAs (Decidable (∃ line ∈ rawLines text.toList, _))

variable {text form : String}

/-! ## Removing imports -/

/-- The blanks around an import do not matter to its statement. -/
theorem statement_trim {entry : String} (h : Tight (trim entry.toList)) :
    statement (Text.trim entry) = statement entry := by
  have ht : trim (Text.trim entry).toList = trim entry.toList := by
    rw [Text.trim, String.toList_ofList, trim_of_tight h]
  unfold statement
  rw [ht]

theorem statement_mem_spellings {removed : List String} {r : String} (hr : r ∈ removed)
    (hs : SingleLine r) (hb : Text.isBlank r = false) : statement r ∈ spellings removed := by
  have hne : trim r.toList ≠ [] := trim_ne_nil hb
  have htight : Tight (trim r.toList) := by
    refine tight_trim hne ?_
    rwa [SingleLine, Text.trim, String.toList_ofList] at hs
  refine List.mem_flatMap.2 ⟨Text.trim r, mem_tokens.2 ⟨⟨r, hr, rfl⟩, fun he => hne ?_⟩, ?_⟩
  · rw [← String.toList_ofList (l := trim r.toList)]
    exact congrArg String.toList he
  · unfold forms
    rw [statement_trim htight]
    split
    · rename_i he
      rw [he]
      exact List.mem_singleton_self _
    · exact List.mem_cons_of_mem _ (List.mem_singleton_self _)

/-- When imports are removed, the statement of none of them is left alone on a line. -/
theorem not_hasLine_strip {removed : List String} (hs : ∀ r ∈ removed, SingleLine r) {r : String}
    (hr : r ∈ removed) (hb : Text.isBlank r = false) (text : String) :
    ¬ HasLine (strip text removed) (statement r) := by
  rintro ⟨line, hl, he⟩
  rw [rawLines_strip hs, List.mem_filter, decide_eq_true_eq] at hl
  exact hl.2 _ (statement_mem_spellings hr (hs r hr) hb) he

/-! ## Pruning -/

theorem HasLine.of_removeWhere {remove : String → Bool}
    (h : HasLine (removeWhere text remove).1 form) : HasLine text form := by
  obtain ⟨line, hl, he⟩ := h
  rw [rawLines_removeWhere] at hl
  exact ⟨line, (List.mem_filter.1 hl).1, he⟩

/-! ## Adding default imports -/

theorem exists_of_mem_missingDefaults {present defaults : List String} {s : String}
    (h : s ∈ missingDefaults present defaults) :
    ∃ d ∈ defaults, Text.isBlank d = false ∧ s = statement d := by
  induction defaults generalizing present with
  | nil => cases h
  | cons d rest ih =>
    have hrest : ∀ {present}, s ∈ missingDefaults present rest →
        ∃ d' ∈ d :: rest, Text.isBlank d' = false ∧ s = statement d' := fun hm =>
      let ⟨d', hd, hs⟩ := ih hm
      ⟨d', List.mem_cons_of_mem _ hd, hs⟩
    unfold missingDefaults at h
    dsimp only at h
    split at h
    · exact hrest h
    · rename_i hb
      split at h
      · exact hrest h
      · rcases List.mem_cons.1 h with rfl | hm
        · exact ⟨d, List.mem_cons_self, Bool.eq_false_iff.2 hb, rfl⟩
        · exact hrest hm

theorem newline_eq (text : String) :
    ∃ e, (e = [] ∨ e = ['\r']) ∧ (newline text).toList = e ++ ['\n'] := by
  unfold newline
  split
  · exact ⟨['\r'], .inr rfl, rfl⟩
  · exact ⟨[], .inl rfl, rfl⟩

/-- Ending a line changes neither it nor the lines before it. -/
theorem hasLine_of_ended {s e : List Char} (hs : s.getLast? = some ';')
    (he : e = [] ∨ e = ['\r']) {line : List Char} (hl : line ∈ rawLines (s ++ e ++ ['\n'])) :
    ∃ line' ∈ rawLines s, bareLine line' = bareLine line := by
  have hflat := hs
  rw [← flatten_rawLines s] at hflat
  obtain ⟨init, last, hinit, hlast, hgo⟩ := (areLines_rawLines s).goOn hflat (by decide)
  have hn : '\n' ∉ e := by rcases he with rfl | rfl <;> decide
  have hr : rawLines (s ++ e ++ ['\n']) = init ++ [last ++ e ++ ['\n']] := by
    have hf : s ++ e ++ ['\n'] = (init ++ [last ++ e ++ ['\n']]).flatten := by
      rw [← flatten_rawLines s, hinit]
      simp
    rw [hf, (hgo e hn).rawLines_flatten]
  rw [hr, List.mem_append, List.mem_singleton] at hl
  rcases hl with hl | rfl
  · exact ⟨line, hinit ▸ List.mem_append_left _ hl, rfl⟩
  · refine ⟨last, hinit ▸ List.mem_append_right _ (List.mem_singleton_self _), ?_⟩
    obtain ⟨r, rfl⟩ := List.getLast?_eq_some_iff.1 hlast
    have h1 : (r ++ [';']).getLast? ≠ some '\n' := by simp
    have h2 : (r ++ [';']).getLast? ≠ some '\r' := by simp
    unfold bareLine
    rw [dropMark_concat, dropMark_of_ne h1, dropMark_of_ne h2]
    rcases he with rfl | rfl
    · rw [List.append_nil, dropMark_of_ne h2]
    · rw [dropMark_concat]

/-- The lines of a text with statements put in front are its own and those of the statements. -/
theorem HasLine.of_join {statements : List String}
    (hs : ∀ s ∈ statements, s.toList.getLast? = some ';') {nl : String} {e : List Char}
    (he : e = [] ∨ e = ['\r']) (hnl : nl.toList = e ++ ['\n'])
    (h : HasLine (String.join (statements.map (· ++ nl)) ++ text) form) :
    HasLine text form ∨ ∃ s ∈ statements, HasLine s form := by
  induction statements with
  | nil => exact .inl (by simpa using h)
  | cons s rest ih =>
    rw [List.forall_mem_cons] at hs
    have hsplit : (String.join ((s :: rest).map (· ++ nl)) ++ text).toList =
        (s.toList ++ e ++ ['\n']) ++ (String.join (rest.map (· ++ nl)) ++ text).toList := by
      simp [hnl]
    obtain ⟨line, hl, hb⟩ := h
    rw [hsplit, rawLines_append List.getLast?_concat, List.mem_append] at hl
    rcases hl with hl | hl
    · obtain ⟨line', hl', hb'⟩ := hasLine_of_ended hs.1 he hl
      exact .inr ⟨s, List.mem_cons_self, line', hl', hb'.trans hb⟩
    · rcases ih hs.2 ⟨line, hl, hb⟩ with ht | ⟨s', hm, hh⟩
      · exact .inl ht
      · exact .inr ⟨s', List.mem_cons_of_mem _ hm, hh⟩

theorem HasLine.of_addDefaults {existing defaults : List String}
    (h : HasLine (addDefaults text existing defaults) form) :
    HasLine text form ∨
      ∃ d ∈ defaults, Text.isBlank d = false ∧ HasLine (statement d) form := by
  obtain ⟨e, he, hnl⟩ := newline_eq text
  have hends : ∀ s ∈ missingDefaults (existing.map key) defaults,
      s.toList.getLast? = some ';' := by
    intro s hm
    obtain ⟨d, -, -, rfl⟩ := exists_of_mem_missingDefaults hm
    exact List.getLast?_eq_some_iff.2 (statement_eq_concat d)
  rcases HasLine.of_join hends he hnl h with ht | ⟨s, hm, hh⟩
  · exact .inl ht
  · obtain ⟨d, hd, hb, rfl⟩ := exists_of_mem_missingDefaults hm
    exact .inr ⟨d, hd, hb, hh⟩

end Import

/-! ## Builds -/

namespace Engine

open Import

variable {φ σ ρ : Type}

/-- The statement of an import that is to be removed, and that no default import brings along, is on
no line of a text that the compiler gets in a build. -/
theorem buildDir_withholds (e : Engine φ σ ρ) (root : Path) (clock : Nat → TimeStamp)
    (s : EngineState φ σ ρ) (single : ∀ r ∈ e.settings.removedImports, SingleLine r) {r : String}
    (removed : r ∈ e.settings.removedImports) (nonblank : Text.isBlank r = false)
    (apart : ∀ d ∈ e.settings.defaultImports, Text.isBlank d = false →
      ¬ HasLine (statement d) (statement r)) :
    ∀ x ∈ e.exchanges root clock s, ∀ text ∈ x.texts, ¬ HasLine text (statement r) := by
  refine (e.buildDir_traffic root clock s).forall_text (P := (¬ HasLine · (statement r)))
    (not_hasLine_strip single removed nonblank) (fun text tree ht hl => ?_)
    fun text names ht hl => ?_
  · rcases hl.of_addDefaults with hl | ⟨d, hd, hb, hl⟩
    · exact ht hl
    · exact apart d hd hb hl
  · exact ht hl.of_removeWhere

/-- An engine that removes some imports and adds others. -/
def withImports (removed added : List String) :
    Engine MemoryStore (List Scripted.EmitAnswer) Scripted.Code :=
  { inMemory with
    settings := { Settings.standard with removedImports := removed, defaultImports := added } }

/-- A source directory with one source. -/
def oneSource (text : String) : MemoryStore where
  files := [("w/assemblies/a.dll", standInLibrary), ("w/source/a.cs", Encoding.toUtf8 text)]
  dirs := []

/-- The exchanges of a build of one source. -/
def exchangesOf (removed added : List String) (text : String) : List (Exchange Scripted.Code) :=
  (withImports removed added).exchanges ⟨"w/source"⟩ (fun _ => newYear)
    (.start (oneSource text) [])

theorem buildDir_withholds_drawing :
    HasLine "using System.Drawing;\nclass A {}" (statement "System.Drawing") ∧
      (exchangesOf ["System.Drawing"] ["System"] "using System.Drawing;\nclass A {}").length = 3 ∧
      ∀ x ∈ exchangesOf ["System.Drawing"] ["System"] "using System.Drawing;\nclass A {}",
        ∀ text ∈ x.texts, ¬ HasLine text (statement "System.Drawing") :=
  ⟨by decide +kernel, by decide +kernel,
    buildDir_withholds _ _ _ _ (by decide +kernel) (List.mem_singleton_self _) (by decide +kernel)
      (by decide +kernel)⟩

/-- Of an import to be removed the compiler gets the statement if the import says nothing, or if it
is a default import too. -/
theorem not_buildDir_withholds :
    (SingleLine "" ∧
      ∃ x ∈ exchangesOf [""] [] "using ;\nclass A {}",
        ∃ text ∈ x.texts, HasLine text (statement "")) ∧
    SingleLine "System.Net" ∧
      ∃ x ∈ exchangesOf ["System.Net"] ["System.Net"] "using System.Net;\nclass A {}",
        ∃ text ∈ x.texts, HasLine text (statement "System.Net") := by
  decide +kernel

end Engine
end PluginForge
