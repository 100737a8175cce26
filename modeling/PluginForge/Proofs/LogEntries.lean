/-
The messages in a failure log. Errors are collapsed by the Chinese form of their messages, and each
entry shows one message in English, that of its first error. So a log shows the message of an error
unless an earlier error has another message with the same form; that there are such messages is shown
by two that differ in what cleaning takes out.
-/
import PluginForge.Proofs.ErrorReports

namespace PluginForge.Report

/-! ## Lines in a text -/

/-- A text shows a line: this stands at the start or behind a line feed, and a line feed follows. -/
def Shows (text line : String) : Prop :=
  ∃ before after, text.toList = before ++ line.toList ++ '\n' :: after ∧
    (before = [] ∨ before.getLast? = some '\n')

theorem toList_unlines (lines : List String) :
    (unlines lines).toList = lines.flatMap fun line => line.toList ++ ['\n'] := by
  induction lines with
  | nil => rfl
  | cons line rest ih =>
    rw [List.flatMap_cons, ← ih]
    simp [unlines, String.join_cons]

theorem shows_unlines {lines : List String} {line : String} (h : line ∈ lines) :
    Shows (unlines lines) line := by
  obtain ⟨before, after, rfl⟩ := List.append_of_mem h
  refine ⟨before.flatMap fun l => l.toList ++ ['\n'], after.flatMap fun l => l.toList ++ ['\n'],
    ?_, ?_⟩
  · rw [toList_unlines, List.flatMap_append, List.flatMap_cons]
    simp
  · cases before using List.reverseRecOn with
    | nil => exact .inl rfl
    | append_singleton init l =>
      right
      rw [List.flatMap_append, List.flatMap_singleton, ← List.append_assoc, List.getLast?_concat]

theorem isInfix_of_shows {text line : String} (h : Shows text line) :
    line.toList <:+: text.toList := by
  obtain ⟨before, after, split, -⟩ := h
  exact ⟨before, '\n' :: after, split.symm⟩

/-! ## Entries -/

/-- The line that shows a message in English. -/
def englishLine (d : Diagnostic) : String :=
  "(EN): " ++ d.message

/-- The first error among some diagnostics whose message has the Chinese form that the message of `d`
has. -/
def standIn? (ds : List Diagnostic) (d : Diagnostic) : Option Diagnostic :=
  (ds.filter Diagnostic.isError).find? fun e =>
    Message.toChinese e.message = Message.toChinese d.message

theorem exists_standIn {ds : List Diagnostic} {d : Diagnostic} (hd : d ∈ ds)
    (error : d.isError = true) : ∃ e, standIn? ds d = some e := by
  refine Option.isSome_iff_exists.1 (List.find?_isSome.2 ⟨d, List.mem_filter.2 ⟨hd, error⟩, ?_⟩)
  exact decide_eq_true rfl

theorem form_of_find? {errors : List Diagnostic} {d e : Diagnostic}
    (h : errors.find? (fun f => Message.toChinese f.message = Message.toChinese d.message) = some e) :
    Message.toChinese e.message = Message.toChinese d.message := by
  have like := List.find?_some h
  rwa [decide_eq_true_iff] at like

/-- What stands behind an error among the diagnostics does not matter for which one stands in for
it. -/
theorem standIn?_message {before after : List Diagnostic} {d e : Diagnostic}
    (error : d.isError = true) (h : standIn? (before ++ d :: after) d = some e)
    (alike : ∀ f ∈ before, f.isError = true →
      Message.toChinese f.message = Message.toChinese d.message → f.message = d.message) :
    e.message = d.message := by
  rw [standIn?, List.filter_append, List.filter_cons_of_pos error, List.find?_append] at h
  rcases Option.or_eq_some_iff.1 h with early | ⟨-, late⟩
  · obtain ⟨hb, he⟩ := List.mem_filter.1 (List.mem_of_find?_eq_some early)
    exact alike e hb he (form_of_find? early)
  · rw [List.find?_cons_of_pos (by simp)] at late
    rw [Option.some.inj late]

/-- The log shows the message of the first error with each Chinese form. -/
theorem englishLine_mem_logLines {style : LogStyle} (english : style.showEnglish = true)
    {ds : List Diagnostic} {d e : Diagnostic} (h : standIn? ds d = some e) (name : String)
    (t : TimeStamp) : englishLine e ∈ logLines style name ds t := by
  have grouped := grouped_groupBy (fun d => Message.toChinese d.message)
    (ds.filter Diagnostic.isError)
  obtain ⟨⟨key, members⟩, hg, hk⟩ := List.mem_map.1 (grouped.keys e (List.mem_of_find?_eq_some h))
  obtain ⟨i, hi, at_i⟩ := List.mem_iff_getElem.1 hg
  have head : members.head? = some e := by
    have filtered := grouped.members _ hg
    dsimp only at filtered hk
    rw [filtered, List.head?_filter, hk, form_of_find? h]
    exact h
  have shown : englishLine e ∈ classLines style i key members := by
    obtain ⟨rest, rfl⟩ : ∃ rest, members = e :: rest := by
      cases members with
      | nil => cases head
      | cons f rest => exact ⟨rest, congrArg (· :: rest) (Option.some.inj head)⟩
    simp [classLines, english, englishLine]
  rw [logLines]
  refine List.mem_append_right _ (List.mem_flatten.2 ⟨_, List.mem_mapIdx.2 ⟨i, hi, rfl⟩, ?_⟩)
  simpa only [errorsByMessage, at_i] using shown

/-! ## Messages -/

/-- A log that shows messages in English shows for each error the message of the first error whose
message has the same Chinese form. This is its own message, unless an earlier error has another
message with that form. -/
theorem renderLog_english {style : LogStyle} (english : style.showEnglish = true)
    {ds : List Diagnostic} {d : Diagnostic} (hd : d ∈ ds) (error : d.isError = true)
    (name : String) (t : TimeStamp) :
    (∃ e, standIn? ds d = some e ∧ Shows (renderLog style name ds t) (englishLine e)) ∧
    ∀ before after, ds = before ++ d :: after →
      (∀ f ∈ before, f.isError = true →
        Message.toChinese f.message = Message.toChinese d.message → f.message = d.message) →
      Shows (renderLog style name ds t) (englishLine d) := by
  obtain ⟨e, he⟩ := exists_standIn hd error
  have shown : Shows (renderLog style name ds t) (englishLine e) :=
    shows_unlines (englishLine_mem_logLines english he name t)
  refine ⟨⟨e, he, shown⟩, fun before after split alike => ?_⟩
  have own : e.message = d.message := standIn?_message error (split ▸ he) alike
  rwa [englishLine, own] at shown

/-- Errors about one library in two cultures, which cleaning takes out. -/
def twoCultures : List Diagnostic := [
  .plainError "Lib, Culture=en is old", .plainError "Lib, Culture=fr is old"]

-- The Chinese form is made of the cleaned message, and the cleaned messages are the same.
theorem toChinese_twoCultures :
    Message.toChinese "Lib, Culture=fr is old" = Message.toChinese "Lib, Culture=en is old" := by
  have cleaned : Message.cleanChars "Lib, Culture=fr is old".toList =
      Message.cleanChars "Lib, Culture=en is old".toList := by decide +kernel
  rw [Message.toChinese, cleaned, Message.toChinese]

/-- The time of a log. -/
def noon : TimeStamp := ⟨2024, 3, 9, 12, 0, 0⟩

theorem renderLog_english_twoCultures :
    (∃ e, standIn? twoCultures (.plainError "Lib, Culture=fr is old") = some e ∧
      Shows (renderLog ⟨true, true⟩ "It" twoCultures noon) (englishLine e)) ∧
    Shows (renderLog ⟨true, true⟩ "It" twoCultures noon) "(EN): Lib, Culture=en is old" := by
  have english : (⟨true, true⟩ : LogStyle).showEnglish = true := rfl
  have first : .plainError "Lib, Culture=en is old" ∈ twoCultures := List.mem_cons_self
  have second : .plainError "Lib, Culture=fr is old" ∈ twoCultures :=
    List.mem_cons_of_mem _ List.mem_cons_self
  exact ⟨(renderLog_english english second rfl "It" noon).1,
    (renderLog_english english first rfl "It" noon).2 [] _ rfl fun f hf => nomatch hf⟩

/-- The second message is not shown: it is put into the entry of the first one. -/
theorem not_showsEachMessage :
    ¬ ∀ (style : LogStyle) (name : String) (ds : List Diagnostic) (t : TimeStamp),
      style.showEnglish = true → ∀ d ∈ ds, d.isError = true →
      Shows (renderLog style name ds t) (englishLine d) := by
  intro shows
  have second := isInfix_of_shows (shows ⟨true, false⟩ "It" twoCultures noon rfl _
    (List.mem_cons_of_mem _ List.mem_cons_self) rfl)
  have grouped : errorsByMessage twoCultures =
      [(Message.toChinese "Lib, Culture=en is old", twoCultures)] := by
    simp [errorsByMessage, twoCultures, Diagnostic.plainError, Diagnostic.isError, groupBy,
      putIntoGroup, toChinese_twoCultures]
  rw [renderLog, grouped, toList_unlines] at second
  exact absurd second (by decide +kernel)

end PluginForge.Report
