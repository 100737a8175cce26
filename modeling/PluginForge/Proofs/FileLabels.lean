/-
The label under which an error is counted on the console. It is the name of the file alone, without
the directories it lies in, so that files of one name in several directories are counted as one. The
errors of different files are kept apart if and only if no two of these files have one label, which is
so when all of them lie in one directory.
-/
import PluginForge.Proofs.Grouping
import PluginForge.Report.Log

namespace PluginForge.Report

/-! ## Files and their labels -/

/-- Two diagnostics name the same file, or both name none. -/
def SameFile (d e : Diagnostic) : Prop :=
  d.sourceFile.map Path.components = e.sourceFile.map Path.components

instance (d e : Diagnostic) : Decidable (SameFile d e) :=
  inferInstanceAs (Decidable (_ = _))

/-- A label is that of a file, however its path is written. -/
theorem fileLabel_eq_of_sameFile {d e : Diagnostic} (h : SameFile d e) :
    fileLabel d = fileLabel e := by
  unfold SameFile at h
  unfold fileLabel
  cases hd : d.sourceFile with
  | none =>
    cases he : e.sourceFile with
    | none => rfl
    | some q =>
      rw [hd, he] at h
      cases h
  | some p =>
    cases he : e.sourceFile with
    | none =>
      rw [hd, he] at h
      cases h
    | some q =>
      rw [hd, he] at h
      have same : p.components = q.components := Option.some.inj h
      rw [Option.bind_some, Option.bind_some, Path.fileName?, Path.fileName?, Path.fileNameChars?,
        Path.fileNameChars?, same]

/-- The diagnostic is about a file that lies directly in a directory, given by its steps. -/
def LiesIn (dir : List Path.Component) (d : Diagnostic) : Prop :=
  ∃ p name, d.sourceFile = some p ∧ p.components = dir ++ [.name name]

/-- Files of one directory differ in their labels. -/
theorem sameFile_of_liesIn {dir : List Path.Component} {d e : Diagnostic} (hd : LiesIn dir d)
    (he : LiesIn dir e) (label : fileLabel d = fileLabel e) : SameFile d e := by
  obtain ⟨p, a, hp, hpc⟩ := hd
  obtain ⟨q, b, hq, hqc⟩ := he
  have named {f : Diagnostic} {r : Path} {name : List Char} (hr : f.sourceFile = some r)
      (hc : r.components = dir ++ [.name name]) : fileLabel f = .ofList name := by
    simp [fileLabel, hr, Path.fileName?, Path.fileNameChars?, hc]
  rw [named hp hpc, named hq hqc] at label
  obtain rfl : a = b := String.ofList_injective label
  rw [SameFile, hp, hq, Option.map_some, Option.map_some, hpc, hqc]

/-! ## Errors by file -/

variable (ds : List Diagnostic)

/-- Two diagnostics stand in one group of the errors by file. -/
def Together (d e : Diagnostic) : Prop :=
  ∃ g ∈ errorsByFile ds, d ∈ g.2 ∧ e ∈ g.2

/-- Errors with one label are about one file. -/
def LabelsTellApart : Prop :=
  ∀ d ∈ ds.filter Diagnostic.isError, ∀ e ∈ ds.filter Diagnostic.isError,
    fileLabel d = fileLabel e → SameFile d e

/-- The line of the console on the errors with a label. -/
def countLine (label : String) (count : Nat) : String :=
  "  " ++ label ++ ": " ++ toString count

/-- The console counts the errors label by label. -/
theorem consoleLines_eq (name : String) :
    consoleLines name ds =
      ["compile failed [" ++ name ++ "]", rule "-" 40,
        toString ((errorsByFile ds).flatMap (·.2)).length ++ " error(s)"] ++
      ((ds.filter Diagnostic.isError).map fileLabel).eraseDups.map (fun label =>
        countLine label ((ds.filter Diagnostic.isError).countP fun d => fileLabel d = label)) ++
      ["suggestions:"] ++
      hints.mapIdx (fun i hint => "  " ++ toString (i + 1) ++ ". " ++ hint) := by
  have counts : (errorsByFile ds).map (fun g => "  " ++ g.1 ++ ": " ++ toString g.2.length) =
      ((ds.filter Diagnostic.isError).map fileLabel).eraseDups.map (fun label =>
        countLine label ((ds.filter Diagnostic.isError).countP fun d => fileLabel d = label)) := by
    rw [errorsByFile, groupBy_eq, List.map_map]
    refine List.map_congr_left fun label _ => ?_
    rw [Function.comp_apply, countLine, List.countP_eq_length_filter]
  rw [← counts]
  rfl

variable {ds}

/-- Where labels tell files apart, the console has for each error the number of errors in its file. -/
theorem countLine_mem_consoleLines (name : String) (apart : LabelsTellApart ds) {d : Diagnostic}
    (hd : d ∈ ds.filter Diagnostic.isError) :
    countLine (fileLabel d) ((ds.filter Diagnostic.isError).countP fun e => SameFile e d) ∈
      consoleLines name ds := by
  have counted : (ds.filter Diagnostic.isError).countP (fun e => SameFile e d) =
      (ds.filter Diagnostic.isError).countP fun e => fileLabel e = fileLabel d :=
    List.countP_congr fun e he => by
      rw [decide_eq_true_iff, decide_eq_true_iff]
      exact ⟨fileLabel_eq_of_sameFile, apart e he d hd⟩
  have listed : fileLabel d ∈ ((ds.filter Diagnostic.isError).map fileLabel).eraseDups :=
    List.mem_eraseDups.2 (List.mem_map_of_mem hd)
  rw [consoleLines_eq, counted]
  exact List.mem_append_left _ (List.mem_append_left _ (List.mem_append_right _
    (List.mem_map_of_mem listed)))

/-- Two errors stand in one group if and only if they have one label. So the groups are the files of
the errors if and only if labels tell these apart, as they do for files of one directory; and then the
console has for each error the number of errors in its file. -/
theorem errorsByFile_labels (name : String) (ds : List Diagnostic) :
    (∀ d ∈ ds.filter Diagnostic.isError, ∀ e ∈ ds.filter Diagnostic.isError,
      Together ds d e ↔ fileLabel d = fileLabel e) ∧
    ((∀ d ∈ ds.filter Diagnostic.isError, ∀ e ∈ ds.filter Diagnostic.isError,
      Together ds d e ↔ SameFile d e) ↔ LabelsTellApart ds) ∧
    (LabelsTellApart ds → ∀ d ∈ ds.filter Diagnostic.isError,
      countLine (fileLabel d) ((ds.filter Diagnostic.isError).countP fun e => SameFile e d) ∈
        consoleLines name ds) ∧
    ∀ dir, (∀ d ∈ ds.filter Diagnostic.isError, LiesIn dir d) → LabelsTellApart ds := by
  have together : ∀ d ∈ ds.filter Diagnostic.isError, ∀ e ∈ ds.filter Diagnostic.isError,
      (Together ds d e ↔ fileLabel d = fileLabel e) :=
    fun d hd e he => exists_group_iff hd he
  refine ⟨together, ⟨fun files d hd e he label => ?_, fun apart d hd e he => ?_⟩,
    fun apart d hd => ?_, fun dir flat d hd e he label => ?_⟩
  · exact (files d hd e he).1 ((together d hd e he).2 label)
  · rw [together d hd e he]
    exact ⟨apart d hd e he, fileLabel_eq_of_sameFile⟩
  · exact countLine_mem_consoleLines name apart hd
  · exact sameFile_of_liesIn (flat d hd) (flat e he) label

/-- Errors in two files of one directory, the first one written in two ways. -/
def flatErrors : List Diagnostic := [
  ⟨.error, none, "; expected", some ⟨"/src/Main.cs"⟩, some 3⟩,
  ⟨.error, none, ") expected", some ⟨"/src/Menu.cs"⟩, some 7⟩,
  ⟨.error, none, "; expected", some ⟨"/src//Main.cs"⟩, some 9⟩]

theorem errorsByFile_labels_flatErrors :
    (∀ d ∈ flatErrors, LiesIn [.root, .name "src".toList] d) ∧ LabelsTellApart flatErrors ∧
      "  Main.cs: 2" ∈ consoleLines "It" flatErrors := by
  have flat : ∀ d ∈ flatErrors, LiesIn [.root, .name "src".toList] d := by
    intro d hd
    simp only [flatErrors, List.mem_cons, List.not_mem_nil, or_false] at hd
    rcases hd with rfl | rfl | rfl
    · exact ⟨_, "Main.cs".toList, rfl, by decide +kernel⟩
    · exact ⟨_, "Menu.cs".toList, rfl, by decide +kernel⟩
    · exact ⟨_, "Main.cs".toList, rfl, by decide +kernel⟩
  have labels := errorsByFile_labels "It" flatErrors
  have apart : LabelsTellApart flatErrors :=
    labels.2.2.2 _ fun d hd => flat d (List.mem_filter.1 hd).1
  have counted := labels.2.2.1 apart ⟨.error, none, "; expected", some ⟨"/src/Main.cs"⟩, some 3⟩
    (by decide)
  have line : countLine (fileLabel ⟨.error, none, "; expected", some ⟨"/src/Main.cs"⟩, some 3⟩)
      ((flatErrors.filter Diagnostic.isError).countP fun e =>
        SameFile e ⟨.error, none, "; expected", some ⟨"/src/Main.cs"⟩, some 3⟩) = "  Main.cs: 2" := by
    decide +kernel
  exact ⟨flat, apart, line ▸ counted⟩

/-- Errors in files of one name, in two directories. -/
def twoMains : List Diagnostic := [
  ⟨.error, none, "; expected", some ⟨"/src/a/Main.cs"⟩, some 1⟩,
  ⟨.error, none, ") expected", some ⟨"/src/b/Main.cs"⟩, some 2⟩]

/-- The errors of two files may stand in one group, and are then counted as one file's. -/
theorem not_groupsByFile :
    ¬ ∀ ds, ∀ g ∈ errorsByFile ds, ∀ d ∈ g.2, ∀ e ∈ g.2, SameFile d e := by
  intro files
  have grouped : errorsByFile twoMains = [("Main.cs", twoMains)] := by decide +kernel
  have same := files twoMains ("Main.cs", twoMains) (by rw [grouped]; exact List.mem_cons_self)
    _ List.mem_cons_self _ (List.mem_cons_of_mem _ List.mem_cons_self)
  exact absurd same (by decide +kernel)

end PluginForge.Report
