/-
Errors in reports. Both the errors by file and the errors by message are all the errors, parted by
their label; so no report loses an error or shows one twice. The totals that are printed are the
number of errors, and the failure log has one line for the place of each of them.
-/
import PluginForge.Proofs.Grouping

namespace PluginForge.Report

/-! ## Errors by label -/

/-- Groups that the errors among some diagnostics are parted into by their label. -/
structure PartsErrors (label : Diagnostic → String) (ds : List Diagnostic)
    (groups : List (String × List Diagnostic)) : Prop where
  perm : (groups.flatMap Prod.snd).Perm (ds.filter Diagnostic.isError)
  nonempty : ∀ g ∈ groups, g.2 ≠ []
  inOrder : ∀ g ∈ groups, List.Sublist g.2 (ds.filter Diagnostic.isError)
  labelled : ∀ g ∈ groups, ∀ d ∈ g.2, label d = g.1
  distinct : (groups.map Prod.fst).Nodup
  firstSeen : groups.map Prod.fst = ((ds.filter Diagnostic.isError).map label).eraseDups

theorem partsErrors_groupBy (label : Diagnostic → String) (ds : List Diagnostic) :
    PartsErrors label ds (groupBy label (ds.filter Diagnostic.isError)) := by
  have grouped := grouped_groupBy label (ds.filter Diagnostic.isError)
  refine ⟨grouped.perm, grouped.nonempty, fun g hg => ?_, fun g hg d hd => ?_, grouped.nodup,
    keys_groupBy _ _⟩
  · rw [grouped.members g hg]
    exact List.filter_sublist
  · rw [grouped.members g hg, List.mem_filter] at hd
    exact of_decide_eq_true hd.2

theorem PartsErrors.length {label : Diagnostic → String} {ds : List Diagnostic}
    {groups : List (String × List Diagnostic)} (h : PartsErrors label ds groups) :
    (groups.flatMap Prod.snd).length = Diagnostic.errorCount ds := by
  rw [h.perm.length_eq, Diagnostic.errorCount, List.countP_eq_length_filter]

/-! ## Lines of reports -/

/-- The lines of the failure log of a group, as they are written one after the other. -/
def logLines (style : LogStyle) (name : String) (ds : List Diagnostic) (t : TimeStamp) :
    List String :=
  ["Compile error log - " ++ t.readable, "Group: " ++ name,
    "Total errors: " ++ toString ((errorsByMessage ds).flatMap (·.2)).length, rule "=" 80] ++
  ((errorsByMessage ds).mapIdx fun i g => classLines style i g.1 g.2).flatten

theorem renderLog_eq (style : LogStyle) (name : String) (ds : List Diagnostic) (t : TimeStamp) :
    renderLog style name ds t = unlines (logLines style name ds t) := rfl

/-- Whether a line is set in, as those on places are. -/
def isSetIn (line : String) : Bool :=
  Text.startsWith "  " line

theorem isSetIn_locationLine (d : Diagnostic) : isSetIn (locationLine d) = true := by
  unfold locationLine
  split <;> simp [isSetIn, Text.startsWith]

/-- Lines that begin with no space are not set in. -/
theorem filter_isSetIn_eq_nil {lines : List String}
    (flush : ∀ line ∈ lines, line.toList.head? ≠ some ' ') : lines.filter isSetIn = [] := by
  refine List.filter_eq_nil_iff.2 fun line hl => ?_
  have solid := flush line hl
  unfold isSetIn Text.startsWith
  cases hc : line.toList with
  | nil => simp
  | cons c r =>
    rw [hc, List.head?_cons] at solid
    have other : ' ' ≠ c := fun e => solid (congrArg some e.symm)
    simp [List.isPrefixOf, other]

theorem head?_rule {c : String} {a : Char} (h : c.toList.head? = some a) (width : Nat) :
    (rule c (width + 1)).toList.head? = some a := by
  simp [rule, Text.repeated, List.replicate_succ, h]

/-- Of the lines on some errors those on their places are set in, and no others. -/
theorem filter_classLines (style : LogStyle) (index : Nat) (chinese : String)
    (ds : List Diagnostic) :
    (classLines style index chinese ds).filter isSetIn = ds.map locationLine := by
  have ruled : (rule "-" 80).toList.head? = some '-' := head?_rule rfl 79
  have head : (["", "[Error class " ++ toString (index + 1) ++ "] " ++ toString ds.length ++
      " occurrence(s)", rule "-" 80, "Locations:"]).filter isSetIn = [] :=
    filter_isSetIn_eq_nil fun line hl => by
      simp only [List.mem_cons, List.not_mem_nil, or_false] at hl
      rcases hl with rfl | rfl | rfl | rfl
      · simp
      · simp
      · rw [ruled]
        simp
      · simp
  have places : (ds.map locationLine).filter isSetIn = ds.map locationLine :=
    List.filter_eq_self.2 fun line hl => by
      obtain ⟨d, -, rfl⟩ := List.mem_map.1 hl
      exact isSetIn_locationLine d
  have foot : (["", "Message:"] : List String).filter isSetIn = [] :=
    filter_isSetIn_eq_nil fun line hl => by
      simp only [List.mem_cons, List.not_mem_nil, or_false] at hl
      rcases hl with rfl | rfl <;> simp
  have english : (if style.showEnglish then (ds.take 1).map fun d => "(EN): " ++ d.message
      else []).filter isSetIn = [] :=
    filter_isSetIn_eq_nil fun line hl => by
      split at hl
      · obtain ⟨d, -, rfl⟩ := List.mem_map.1 hl
        simp
      · cases hl
  have translated : (if style.showChinese && chinese ≠ "" then ["(CN): " ++ chinese]
      else []).filter isSetIn = [] :=
    filter_isSetIn_eq_nil fun line hl => by
      split at hl
      · obtain rfl := List.mem_singleton.1 hl
        simp
      · cases hl
  rw [classLines]
  simp only [List.filter_append, head, places, foot, english, translated, List.nil_append,
    List.append_nil]

/-- Of lines that are made part by part, those that are taken are taken of each part. -/
theorem filter_flatten_mapIdx {α β : Type} {p : β → Bool} {f : Nat → α → List β} {g : α → List β}
    (l : List α) (h : ∀ i a, (f i a).filter p = g a) :
    (l.mapIdx f).flatten.filter p = l.flatMap g := by
  induction l generalizing f with
  | nil => rfl
  | cons a rest ih =>
    rw [List.mapIdx_cons, List.flatten_cons, List.filter_append, h, ih fun i => h (i + 1),
      List.flatMap_cons]

/-- The lines of a log that are set in are those on the places of the errors by message. -/
theorem filter_logLines (style : LogStyle) (name : String) (ds : List Diagnostic)
    (t : TimeStamp) :
    (logLines style name ds t).filter isSetIn =
      ((errorsByMessage ds).flatMap Prod.snd).map locationLine := by
  have ruled : (rule "=" 80).toList.head? = some '=' := head?_rule rfl 79
  have head : ["Compile error log - " ++ t.readable, "Group: " ++ name,
      "Total errors: " ++ toString ((errorsByMessage ds).flatMap (·.2)).length,
      rule "=" 80].filter isSetIn = [] :=
    filter_isSetIn_eq_nil fun line hl => by
      simp only [List.mem_cons, List.not_mem_nil, or_false] at hl
      rcases hl with rfl | rfl | rfl | rfl
      · simp
      · simp
      · simp
      · rw [ruled]
        simp
  rw [logLines, List.filter_append, head, List.nil_append, List.map_flatMap]
  exact filter_flatten_mapIdx _ fun i g => filter_classLines style i g.1 g.2

/-- The errors by file and the errors by message are all the errors, parted by the label of each. So
the total in the console summary and the one in the failure log are the number of errors, and of the
lines of the log those that are set in are the places of the errors, one line for each of them. -/
theorem errors_reported (style : LogStyle) (name : String) (ds : List Diagnostic) (t : TimeStamp) :
    PartsErrors fileLabel ds (errorsByFile ds) ∧
    PartsErrors (fun d => Message.toChinese d.message) ds (errorsByMessage ds) ∧
    consoleSummary name ds = unlines (consoleLines name ds) ∧
    (consoleLines name ds)[2]? = some (toString (Diagnostic.errorCount ds) ++ " error(s)") ∧
    renderLog style name ds t = unlines (logLines style name ds t) ∧
    (logLines style name ds t)[2]? =
      some ("Total errors: " ++ toString (Diagnostic.errorCount ds)) ∧
    ((logLines style name ds t).filter isSetIn).Perm
      ((ds.filter Diagnostic.isError).map locationLine) := by
  have byFile : PartsErrors fileLabel ds (errorsByFile ds) := partsErrors_groupBy fileLabel ds
  have byMessage := partsErrors_groupBy (fun d => Message.toChinese d.message) ds
  refine ⟨byFile, byMessage, rfl, ?_, renderLog_eq style name ds t, ?_, ?_⟩
  · rw [← byFile.length]
    rfl
  · rw [← byMessage.length]
    rfl
  · rw [filter_logLines]
    exact byMessage.perm.map locationLine

end PluginForge.Report
