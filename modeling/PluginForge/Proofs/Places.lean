/-
Where the files of a workspace lie in a file system in memory: what is joined to the output or the
log directory under a file name lies directly in that directory, and is listed there by its
extension.
-/
import PluginForge.Proofs.FileNames
import PluginForge.Proofs.MemoryStore
import PluginForge.Settings.Workspace

namespace PluginForge

namespace MemoryStore

/-- A text that does not end in a separator, and is not empty. -/
def EndsPlain (s : List Char) : Prop :=
  ∃ t c, s = t ++ [c] ∧ c ≠ '/' ∧ c ≠ '\\'

theorem EndsPlain.append {s : List Char} (h : EndsPlain s) (t : List Char) :
    EndsPlain (t ++ s) := by
  obtain ⟨u, c, rfl, hc⟩ := h
  exact ⟨t ++ u, c, (List.append_assoc ..).symm, hc⟩

theorem EndsPlain.of_plain {s : List Char} (hne : s ≠ []) (h : ∀ c ∈ s, c ≠ '/' ∧ c ≠ '\\') :
    EndsPlain s :=
  ⟨s.dropLast, s.getLast hne, (List.dropLast_append_getLast hne).symm, h _ (List.getLast_mem hne)⟩

theorem slashed_of_ne {c : Char} (h : c ≠ '\\') : slashed c = c :=
  if_neg h

theorem normalize_of_endsPlain {p : Path} (h : EndsPlain p.text.toList) :
    (normalize p).toList = p.text.toList.map slashed := by
  obtain ⟨t, c, ht, hc⟩ := h
  rw [toList_normalize, ht, List.map_append, List.map_singleton, slashed_of_ne hc.2]
  unfold trimmed
  split
  · rfl
  · simp [Chars.trimEndOf, hc.1]

/-- What the names in a directory start with, when its path does not end in a separator. -/
theorem below_normalize {dir : Path} (h : EndsPlain dir.text.toList) :
    below (normalize dir) = dir.text.toList.map slashed ++ ['/'] := by
  have hn := normalize_of_endsPlain h
  obtain ⟨t, c, ht, hc⟩ := h
  have hl : (normalize dir).toList.getLast? ≠ some '/' := by
    rw [hn, ht, List.map_append, List.map_singleton, List.getLast?_concat, slashed_of_ne hc.2]
    exact fun he => hc.1 (Option.some.inj he)
  rw [below, if_neg hl, hn]

theorem toList_join {dir : Path} {file : String} (hd : EndsPlain dir.text.toList)
    (hf : file.toList.head? ≠ some '/') :
    (dir.join file).text.toList = dir.text.toList ++ '/' :: file.toList := by
  obtain ⟨t, c, ht, hc⟩ := hd
  have hdir : ¬ (dir.text = "" ∨ dir.text.toList.getLast? = some '/') := by
    rintro (h | h)
    · rw [h] at ht
      simp at ht
    · rw [ht, List.getLast?_concat] at h
      exact hc.1 (Option.some.inj h)
  rw [Path.join, if_neg hf, if_neg hdir]
  simp

theorem endsPlain_join (dir : Path) {file : String} (hf : EndsPlain file.toList) :
    EndsPlain (dir.join file).text.toList := by
  unfold Path.join
  split
  · exact hf
  · split
    · simpa using hf.append _
    · simpa using hf.append (dir.text.toList ++ ['/'])

variable {dir : Path} {file : String} {stem ext : List Char}

/-- A file of a directory is kept under the directory's name, a separator and its own name. -/
theorem toList_normalize_join (hd : EndsPlain dir.text.toList)
    (hf : IsFileName file.toList stem ext) :
    (normalize (dir.join file)).toList =
      dir.text.toList.map slashed ++ '/' :: file.toList := by
  have hne : file.toList ≠ [] := by
    rw [hf.eq]
    simp
  have hh : file.toList.head? ≠ some '/' := fun h => (hf.plain _ (List.mem_of_head? h)).1 rfl
  have hm : file.toList.map slashed = file.toList :=
    (List.map_congr_left fun c hc => slashed_of_ne (hf.plain c hc).2).trans (List.map_id _)
  rw [normalize_of_endsPlain (endsPlain_join dir (.of_plain hne hf.plain)), toList_join hd hh]
  simp [hm, slashed]

/-- A file of a directory has the extension of its name. -/
theorem hasExtension_join (hd : EndsPlain dir.text.toList) (hf : IsFileName file.toList stem ext)
    {wanted : String} (hw : wanted ≠ "") :
    (Path.mk (normalize (dir.join file))).hasExtension wanted = true ↔
      Chars.lowerAscii ext = Chars.lowerAscii (wanted.toList.dropWhile (· == '.')) :=
  hf.hasExtension_iff (toList_normalize_join hd hf) hw

/-- A file of a directory is listed there under its extension. -/
theorem isListed_join (hd : EndsPlain dir.text.toList) (hf : IsFileName file.toList stem ext)
    {wanted : String} (hw : wanted ≠ "") :
    isListed (below (normalize dir)) wanted false (normalize (dir.join file)) = true ↔
      Chars.lowerAscii ext = Chars.lowerAscii (wanted.toList.dropWhile (· == '.')) := by
  have ha : Chars.after? (below (normalize dir)) (normalize (dir.join file)).toList =
      some file.toList := by
    rw [Chars.after?_eq_some_iff, toList_normalize_join hd hf, below_normalize hd]
    simp
  have hs : '/' ∉ file.toList := fun h => (hf.plain '/' h).1 rfl
  rw [← hasExtension_join hd hf hw]
  simp [isListed, ha, hs]

theorem hasExtension_of_isListed {start : List Char} {ext name : String} {recursive : Bool}
    (h : isListed start ext recursive name = true) : (Path.mk name).hasExtension ext = true := by
  unfold isListed at h
  split at h
  · exact (Bool.and_eq_true_iff.1 h).2
  · cases h

end MemoryStore

namespace Workspace

open MemoryStore

theorem endsPlain_outputDir (w : Workspace) : EndsPlain w.outputDir.text.toList :=
  endsPlain_join _ ⟨"compiled outpu".toList, 't', by decide⟩

theorem endsPlain_logsDir (w : Workspace) : EndsPlain w.logsDir.text.toList :=
  endsPlain_join _ ⟨"compile log".toList, 's', by decide⟩

end Workspace

end PluginForge
