/-
The settings and their document: every settings record is read from its own document as it was
written, so a document that was read and written back says the same from then on. On a disk, loading
the settings writes such a document, and loading them again finds them and leaves them as they are.
-/
import PluginForge.CommandLine.Run
import PluginForge.Proofs.DiskStore
import PluginForge.Proofs.JsonRecords
import PluginForge.Proofs.Utf8

namespace PluginForge

open Json

/-! ## The document -/

@[simp] theorem LanguageVersion.ofDraft?_toJson (v : LanguageVersion) :
    ofDraft? (.ofJson v.toJson) = some v := by
  simp [ofDraft?, toJson, Draft.ofJson, Draft.caseName?]

theorem LanguageVersion.exact_toJson (v : LanguageVersion) : Exact v.toJson :=
  .str v.name

namespace Settings

/-- The members of the document. -/
def members (s : Settings) : List (String × Json) :=
  match s.toJson with
  | .obj members => members
  | _ => []

theorem nodup_memberNames : memberNames.Nodup := by
  simp [memberNames]

theorem exact_toJson (s : Settings) : Exact s.toJson := by
  have retries : s.retryCount.toNat < UInt64.size :=
    Nat.lt_trans s.retryCount.toNat_lt (by decide)
  refine .obj ?_
  simp [Exact.bool, Exact.str, exact_strings, exact_ofNat, retries, UInt64.toNat_lt_size,
    LanguageVersion.exact_toJson]

theorem nesting_toJson (s : Settings) : s.toJson.nesting ≤ Draft.maxDepth := by
  have h : s.toJson.nesting ≤ 2 := by
    refine nesting_obj_le ?_
    simp [nesting, nesting_strings_le, LanguageVersion.toJson, Json.ofNat]
  exact Nat.le_trans h (by decide)

theorem read?_render (s : Settings) : Draft.read? s.render = some (.ofJson s.toJson) := by
  have hn := s.nesting_toJson
  rw [render, read?_pretty s.exact_toJson, Draft.seen_eq_ofJson _ (by omega)]

theorem record?_toJson (s : Settings) : Draft.record? memberNames (.ofJson s.toJson) =
    some (s.members.map fun m => some (Draft.ofJson m.2)) :=
  Draft.record?_ofJson rfl nodup_memberNames

theorem ofDraft?_toJson (s : Settings) : ofDraft? (.ofJson s.toJson) = some s := by
  rw [ofDraft?, record?_toJson]
  simp only [members, toJson, List.map_cons, List.map_nil]
  simp only [Draft.optional_some, Draft.bool?_ofJson, Draft.string?_ofJson, Draft.list?_strings,
    Draft.uint32?_ofNat, Draft.uint64?_ofNat, LanguageVersion.ofDraft?_toJson, Option.bind_eq_bind,
    Option.bind_some, Option.pure_def]

theorem parse?_render (s : Settings) : parse? s.render = some s := by
  rw [parse?, read?_render, Option.bind_some, ofDraft?_toJson]

/-! ## What a document said -/

/-- The value given for a member is the one that is written for it. The name of a version that is
not known is the exception: it is written as the version it stands for. -/
def Keeps (s : Settings) (name : String) (given : Draft) (written : Json) : Prop :=
  given = .ofJson written ∨
    name = "languageVersion" ∧ LanguageVersion.ofDraft? given = some s.languageVersion

theorem keeps_of_faithful {α : Type} {f : Draft → Option α} {g : α → Json}
    (hf : Draft.Faithful f g) {default a : α} {given : Option Draft}
    (h : Draft.optional f default given = some a) (s : Settings) (name : String) :
    ∀ v ∈ given, s.Keeps name v (g a) :=
  fun v hv => .inl (hf.optional h v hv)

theorem keeps_languageVersion {s : Settings} {default : LanguageVersion} {given : Option Draft}
    (h : Draft.optional LanguageVersion.ofDraft? default given = some s.languageVersion) :
    ∀ v ∈ given, s.Keeps "languageVersion" v s.languageVersion.toJson := by
  rintro v rfl
  rw [Draft.optional_some] at h
  exact .inr ⟨rfl, h⟩

/-- Settings that were read have every member's value that the document gave. -/
theorem exists_record_keeps {d : Draft} {s : Settings} (h : ofDraft? d = some s) :
    ∃ given, Draft.record? memberNames d = some given ∧
      ∀ m ∈ given.zip s.members, ∀ v ∈ m.1, s.Keeps m.2.1 v m.2.2 := by
  unfold ofDraft? at h
  split at h
  · rename_i record
    obtain ⟨_, h1, h⟩ := Option.bind_eq_some_iff.1 h
    obtain ⟨_, h2, h⟩ := Option.bind_eq_some_iff.1 h
    obtain ⟨_, h3, h⟩ := Option.bind_eq_some_iff.1 h
    obtain ⟨_, h4, h⟩ := Option.bind_eq_some_iff.1 h
    obtain ⟨_, h5, h⟩ := Option.bind_eq_some_iff.1 h
    obtain ⟨_, h6, h⟩ := Option.bind_eq_some_iff.1 h
    obtain ⟨_, h7, h⟩ := Option.bind_eq_some_iff.1 h
    obtain ⟨_, h8, h⟩ := Option.bind_eq_some_iff.1 h
    obtain ⟨_, h9, h⟩ := Option.bind_eq_some_iff.1 h
    obtain ⟨_, h10, h⟩ := Option.bind_eq_some_iff.1 h
    obtain ⟨_, h11, h⟩ := Option.bind_eq_some_iff.1 h
    obtain ⟨_, h12, h⟩ := Option.bind_eq_some_iff.1 h
    obtain ⟨_, h13, h⟩ := Option.bind_eq_some_iff.1 h
    obtain ⟨_, h14, h⟩ := Option.bind_eq_some_iff.1 h
    obtain ⟨_, h15, h⟩ := Option.bind_eq_some_iff.1 h
    obtain ⟨_, h16, h⟩ := Option.bind_eq_some_iff.1 h
    cases h
    refine ⟨_, record, ?_⟩
    simp only [members, toJson, List.zip_cons_cons, List.zip_nil_right, List.forall_mem_cons]
    have booleans := @keeps_of_faithful _ _ _ Draft.faithful_bool?
    have words := @keeps_of_faithful _ _ _ Draft.faithful_uint64?
    have texts := @keeps_of_faithful _ _ _ Draft.faithful_string?
    have lists := @keeps_of_faithful _ _ _ Draft.faithful_string?.list?
    exact ⟨booleans h1 _ _, booleans h2 _ _, keeps_of_faithful Draft.faithful_uint32? h3 _ _,
      keeps_languageVersion h4, words h5 _ _, words h6 _ _, lists h7 _ _, lists h8 _ _,
      lists h9 _ _, booleans h10 _ _, booleans h11 _ _, booleans h12 _ _, texts h13 _ _,
      texts h14 _ _, lists h15 _ _, lists h16 _ _, List.forall_mem_nil _⟩
  · cases h

/-- A text and a later one that says all that it says: every value given for a recognised member
stands in the later text, and that has them all. -/
def CarriesOver (s : Settings) (text later : String) : Prop :=
  ∃ doc given, Draft.read? text = some doc ∧ Draft.record? memberNames doc = some given ∧
    Draft.read? later = some (.ofJson s.toJson) ∧ s.members.map (·.1) = memberNames ∧
    ∀ m ∈ given.zip s.members, ∀ v ∈ m.1, s.Keeps m.2.1 v m.2.2

theorem carriesOver_render {text : String} {s : Settings} (h : parse? text = some s) :
    s.CarriesOver text s.render := by
  obtain ⟨doc, hd, hs⟩ := Option.bind_eq_some_iff.1 h
  obtain ⟨given, record, kept⟩ := exists_record_keeps hs
  exact ⟨doc, given, hd, record, s.read?_render, rfl, kept⟩

end Settings

/-! ## Making a directory that is there -/

namespace DiskStore

open PluginForge.Path (Component)

variable {d d' d'' : DiskStore} {p : Path}

/-- Directories that were made need not be made again where none has gone. -/
theorem makeWalk_again {here : List String} {cs : List Component}
    (h : d.makeWalk here cs = (.ok (), d'))
    (dirs : ∀ q, d'.at? q = some none → d''.at? q = some none) :
    d''.makeWalk here cs = (.ok (), d'') := by
  induction cs generalizing here d with
  | nil => rfl
  | cons c cs ih =>
    cases c with
    | root | here | up => exact ih h
    | name n =>
      have enter {e : DiskStore} (he : e.at? (here ++ [.ofList n]) = some none)
          (hw : e.makeWalk (here ++ [.ofList n]) cs = (.ok (), d')) :
          d''.at? (here ++ [.ofList n]) = some none := by
        have kept := @at?_makeWalk e _ (here ++ [.ofList n]) cs _ he
        rw [hw] at kept
        exact dirs _ kept
      unfold makeWalk at h ⊢
      dsimp only at h ⊢
      split at h
      · cases h
      · rename_i short
        rw [if_neg short]
        split at h
        · rename_i dir
          rw [enter dir h]
          exact ih h
        · cases h
        · rename_i absent
          have made : (d.put (here ++ [.ofList n]) none).at? (here ++ [.ofList n]) = some none := by
            rw [at?_put none (by simp), if_pos rfl]
          rw [enter made h]
          exact ih h

theorem makeDir_again (h : d.makeDir p = (.ok (), d'))
    (dirs : ∀ q, d'.at? q = some none → d''.at? q = some none) :
    d''.makeDir p = (.ok (), d'') := by
  unfold makeDir at h ⊢
  split at h
  · cases h
  · split at h
    · rename_i dot
      rw [if_pos dot]
      split at h
      · cases h
      · rename_i e hw
        split at h
        · rename_i pl spot
          cases h
          rw [makeWalk_again hw dirs]
          simp only [spot_dir_of_dirs spot dirs]
        · cases h
        · cases h
        · cases h
        · cases h
    · rename_i dot
      rw [if_neg dot]
      exact makeWalk_again h dirs

theorem write_of_isFile (h : isFile p d = true) (content : Bytes) :
    ∃ d', d.write p content = (.ok (), d') := by
  obtain ⟨pl, old, spot⟩ := isFile_iff.1 h
  exact ⟨_, by rw [write, spot]⟩

end DiskStore

/-! ## Loading -/

namespace CommandLine

variable {w : Workspace} {s : Settings} {d d' : DiskStore}

/-- Settings that were saved can be read, and saved again. -/
theorem saveSettings_saved (h : saveSettings DiskStore.fileSystem w s d = (.ok (), d')) :
    DiskStore.isFile w.settingsPath d' = true ∧
      d'.read w.settingsPath = .ok (Encoding.toUtf8 s.render) ∧
      ∃ d'', saveSettings DiskStore.fileSystem w s d' = (.ok (), d'') := by
  unfold saveSettings at h
  split at h
  · cases h
  · rename_i hm
    split at h
    · cases h
    · rename_i hw
      cases h
      obtain ⟨file, content⟩ := DiskStore.read_write hw
      have dirs := (DiskStore.at?_of_does (.write hw)).1
      simp only [DiskStore.fileSystem] at hm
      have again : d'.makeDir w.settingsPath.parent = (.ok (), d') :=
        DiskStore.makeDir_again hm dirs
      obtain ⟨d'', rewritten⟩ :=
        DiskStore.write_of_isFile file (Encoding.toUtf8 s.render)
      refine ⟨file, content, d'', ?_⟩
      unfold saveSettings
      simp only [DiskStore.fileSystem, again, rewritten]

theorem readSettings_of_parse? {text : String} (file : DiskStore.isFile w.settingsPath d = true)
    (content : d.read w.settingsPath = .ok (Encoding.toUtf8 text))
    (parsed : Settings.parse? text = some s) : readSettings DiskStore.fileSystem w d = .ok s := by
  unfold readSettings
  have there : DiskStore.fileSystem.exists w.settingsPath d = true := by
    simp [FileSystem.exists, DiskStore.fileSystem, file]
  have content : DiskStore.fileSystem.read w.settingsPath d = .ok (Encoding.toUtf8 text) :=
    content
  simp only [there, if_true, content, Encoding.utf8?_toUtf8, parsed]

/-- Loading writes back what it read. -/
theorem loadSettings_of_read (read : readSettings DiskStore.fileSystem w d = .ok s)
    (saved : saveSettings DiskStore.fileSystem w s d = (.ok (), d')) :
    loadSettings DiskStore.fileSystem w d = (.ok s, d') := by
  unfold loadSettings
  rw [read]
  simp only [saved]

theorem loadSettings_saved (h : loadSettings DiskStore.fileSystem w d = (.ok s, d')) :
    saveSettings DiskStore.fileSystem w s d = (.ok (), d') := by
  unfold loadSettings at h
  split at h
  · cases h
  · split at h
    · cases h
    · rename_i saved
      cases h
      exact saved

/-- Settings that were loaded are found again, in a document that loading leaves as it is. -/
theorem loadSettings_again (h : loadSettings DiskStore.fileSystem w d = (.ok s, d')) :
    d'.read w.settingsPath = .ok (Encoding.toUtf8 s.render) ∧
      ∃ d'', loadSettings DiskStore.fileSystem w d' = (.ok s, d'') ∧
        d''.read w.settingsPath = d'.read w.settingsPath := by
  obtain ⟨file, content, d'', saved⟩ := saveSettings_saved (loadSettings_saved h)
  refine ⟨content, d'', ?_, ?_⟩
  · exact loadSettings_of_read (readSettings_of_parse? file content s.parse?_render) saved
  · rw [(saveSettings_saved saved).2.1, content]

theorem loadSettings_read (h : loadSettings DiskStore.fileSystem w d = (.ok s, d')) :
    readSettings DiskStore.fileSystem w d = .ok s := by
  unfold loadSettings at h
  split at h
  · cases h
  · rename_i read
    split at h
    · cases h
    · cases h
      exact read

/-- Settings are read from their document as they were written. A document that was read and is
written back has every value it gave for a member it should have, and says the same from then on:
so loading the settings of a workspace a second time changes neither them nor their document. -/
theorem settings_settle :
    (∀ s : Settings, Settings.parse? s.render = some s) ∧
    (∀ text s, Settings.parse? text = some s →
      s.CarriesOver text s.render ∧ Settings.parse? s.render = some s ∧
        (Settings.parse? s.render).map Settings.render = some s.render) ∧
    (∀ w d s d', loadSettings DiskStore.fileSystem w d = (.ok s, d') →
      readSettings DiskStore.fileSystem w d = .ok s ∧
        d'.read w.settingsPath = .ok (Encoding.toUtf8 s.render) ∧
        ∃ d'', loadSettings DiskStore.fileSystem w d' = (.ok s, d'') ∧
          d''.read w.settingsPath = d'.read w.settingsPath) := by
  refine ⟨Settings.parse?_render, fun text s accepted => ?_, fun w d s d' loaded => ?_⟩
  · have again := s.parse?_render
    exact ⟨Settings.carriesOver_render accepted, again, by rw [again, Option.map_some]⟩
  · obtain ⟨content, again⟩ := loadSettings_again loaded
    exact ⟨loadSettings_read loaded, content, again⟩

/-- Settings that differ from the standard ones in two members. -/
def cautious : Settings :=
  { Settings.standard with retryCount := 1, includeSubdirectories := false }

/-- A document that gives these two members only. -/
def cautiousText : String :=
  "\x7b\"retryCount\": 1, \"includeSubdirectories\": false\x7d"

/-- A workspace to which this document was written. -/
def cautiousDisk : DiskStore :=
  (DiskStore.write (Workspace.settingsPath ⟨⟨"w"⟩⟩) (Encoding.toUtf8 cautiousText)
    ⟨[(["w"], none)]⟩).2

/-- A document with two members is completed by the standard settings, and stays so. -/
theorem settings_settle_cautious :
    Settings.parse? cautiousText = some cautious ∧
      cautious.CarriesOver cautiousText cautious.render ∧
      ∃ d d', loadSettings DiskStore.fileSystem ⟨⟨"w"⟩⟩ cautiousDisk = (.ok cautious, d) ∧
        d.read (Workspace.settingsPath ⟨⟨"w"⟩⟩) = .ok (Encoding.toUtf8 cautious.render) ∧
        loadSettings DiskStore.fileSystem ⟨⟨"w"⟩⟩ d = (.ok cautious, d') ∧
        d'.read (Workspace.settingsPath ⟨⟨"w"⟩⟩) = d.read (Workspace.settingsPath ⟨⟨"w"⟩⟩) := by
  have parsed : Settings.parse? cautiousText = some cautious := by decide +kernel
  have written : DiskStore.fileSystem.write (Workspace.settingsPath ⟨⟨"w"⟩⟩)
      (Encoding.toUtf8 cautiousText) ⟨[(["w"], none)]⟩ = (.ok (), cautiousDisk) :=
    Prod.ext (by decide +kernel) rfl
  have saves : (saveSettings DiskStore.fileSystem ⟨⟨"w"⟩⟩ cautious cautiousDisk).1 = .ok () := by
    decide +kernel
  obtain ⟨d, saved⟩ :
      ∃ d, saveSettings DiskStore.fileSystem ⟨⟨"w"⟩⟩ cautious cautiousDisk = (.ok (), d) :=
    ⟨_, Prod.ext saves rfl⟩
  obtain ⟨file, content⟩ := DiskStore.read_write written
  have loaded := loadSettings_of_read (readSettings_of_parse? file content parsed) saved
  obtain ⟨-, carried, settles⟩ := settings_settle
  obtain ⟨-, settled, d', again, kept⟩ := settles ⟨⟨"w"⟩⟩ cautiousDisk cautious d loaded
  exact ⟨parsed, (carried _ _ parsed).1, d, d', loaded, settled, again, kept⟩

end CommandLine

end PluginForge
