/-
What is asked of the compiler while sources are taken in, and what becomes of each file. As for the
attempts at a group, relations say which exchanges may occur and how they end: `Parsing` for one
text, `FileIntake` for one file and `Taken` for all of them. That no file is lost is proved by
induction on `Taken`.
-/
import PluginForge.Intake.Ingest
import PluginForge.Proofs.Exchange

namespace PluginForge.Intake

variable {φ σ τ ρ : Type} {fs : FileSystem φ} {settings : Settings} {files : φ} {p : Path}

/-! ## One file -/

/-- The exchange in which the text of a file is parsed. -/
def parsing (settings : Settings) (p : Path) (text : String) (answer : Outcome SyntaxTree) :
    Exchange ρ :=
  .parse ⟨p, text⟩ settings.languageVersion answer

/-- A text with the default imports that its outline shows to be missing. -/
def completed (settings : Settings) (text : String) (tree : SyntaxTree) : String :=
  Import.addDefaults text tree.importTexts settings.defaultImports

/-- The exchanges in which a text is parsed and, if imports had to be added to it, parsed again, and
what becomes of the file. -/
inductive Parsing (settings : Settings) (p : Path) (text : String) :
    List (Exchange ρ) → Except ServiceError FileOutcome → Prop
  | fault {answer e} (h : Outcome.guarded answer = .error e) :
      Parsing settings p text [parsing settings p text answer] (.error e)
  | invalid {probe} (h : probe.errorCount ≠ 0) :
      Parsing settings p text [parsing settings p text (.answer probe)]
        (.ok (.skipped (.invalid probe.errorCount)))
  | complete {probe} (h : probe.errorCount = 0) (hc : completed settings text probe = text) :
      Parsing settings p text [parsing settings p text (.answer probe)]
        (.ok (.parsed (.ofTree p text probe)))
  | faultAgain {probe answer e} (h : probe.errorCount = 0)
      (hc : completed settings text probe ≠ text) (ha : Outcome.guarded answer = .error e) :
      Parsing settings p text
        [parsing settings p text (.answer probe),
          parsing settings p (completed settings text probe) answer] (.error e)
  | parsedAgain {probe tree} (h : probe.errorCount = 0)
      (hc : completed settings text probe ≠ text) :
      Parsing settings p text
        [parsing settings p text (.answer probe),
          parsing settings p (completed settings text probe) (.answer tree)]
        (.ok (.parsed (.ofTree p (completed settings text probe) tree)))

/-- The exchanges in which a file is taken in and what becomes of it. -/
inductive FileIntake (fs : FileSystem φ) (settings : Settings) (files : φ) (p : Path) :
    List (Exchange ρ) → Except ServiceError FileOutcome → Prop
  | unread {e} (h : readUnit fs p files = .error e) :
      FileIntake fs settings files p [] (.ok (.skipped (.readFailed e.message)))
  | empty (h : readUnit fs p files = .ok none) :
      FileIntake fs settings files p [] (.ok (.skipped .empty))
  | blank {u} (h : readUnit fs p files = .ok (some u))
      (hb : Text.isBlank (Import.strip u.text settings.removedImports) = true) :
      FileIntake fs settings files p [] (.ok (.skipped .blank))
  | text {u xs r} (h : readUnit fs p files = .ok (some u))
      (hb : Text.isBlank (Import.strip u.text settings.removedImports) = false)
      (hp : Parsing settings p (Import.strip u.text settings.removedImports) xs r) :
      FileIntake fs settings files p xs r

theorem parse_traced (service : CompileService σ ρ) (settings : Settings) (p : Path)
    (text : String) (t : Traced σ ρ) :
    ∃ answer, (parse service.traced settings p text t).1 = answer.guarded ∧
      (parse service.traced settings p text t).2.exchanges =
        t.exchanges ++ [parsing settings p text answer] :=
  ⟨_, rfl, rfl⟩

theorem parseText_parsing (service : CompileService σ ρ) (settings : Settings) (p : Path)
    (text : String) (t : Traced σ ρ) :
    ∃ xs, (parseText service.traced settings p text t).2.exchanges = t.exchanges ++ xs ∧
      Parsing settings p text xs (parseText service.traced settings p text t).1 := by
  obtain ⟨answer, ha, hx⟩ := parse_traced service settings p text t
  unfold parseText
  generalize parse service.traced settings p text t = r at ha hx ⊢
  obtain ⟨r, t'⟩ := r
  cases r with
  | error e => exact ⟨_, hx, .fault ha.symm⟩
  | ok probe =>
    obtain rfl := Outcome.guarded_eq_ok ha.symm
    dsimp only
    split
    · exact ⟨_, hx, .invalid ‹_›⟩
    · rename_i hv
      have hv : probe.errorCount = 0 := Decidable.not_not.1 hv
      split
      · rename_i hc
        exact ⟨_, hx, .complete hv hc⟩
      · rename_i hc
        obtain ⟨answer', ha', hx'⟩ := parse_traced service settings p
          (Import.addDefaults text probe.importTexts settings.defaultImports) t'
        rw [hx, List.append_assoc] at hx'
        generalize parse service.traced settings p
          (Import.addDefaults text probe.importTexts settings.defaultImports) t' = r at ha' hx' ⊢
        obtain ⟨r, t''⟩ := r
        cases r with
        | error e => exact ⟨_, hx', .faultAgain hv hc ha'.symm⟩
        | ok tree =>
          obtain rfl := Outcome.guarded_eq_ok ha'.symm
          exact ⟨_, hx', .parsedAgain hv hc⟩

theorem ingestFile_fileIntake (service : CompileService σ ρ) (fs : FileSystem φ)
    (settings : Settings) (files : φ) (p : Path) (t : Traced σ ρ) :
    ∃ xs, (ingestFile fs service.traced settings files p t).2.exchanges = t.exchanges ++ xs ∧
      FileIntake fs settings files p xs
        (ingestFile fs service.traced settings files p t).1 := by
  unfold ingestFile
  split
  · rename_i h
    exact ⟨[], (List.append_nil _).symm, .unread h⟩
  · rename_i h
    exact ⟨[], (List.append_nil _).symm, .empty h⟩
  · rename_i u h
    dsimp only
    split
    · rename_i hb
      exact ⟨[], (List.append_nil _).symm, .blank h hb⟩
    · rename_i hb
      obtain ⟨xs, hx, hp⟩ := parseText_parsing service settings p
        (Import.strip u.text settings.removedImports) t
      exact ⟨xs, hx, .text h (Bool.eq_false_iff.2 hb) hp⟩

/-- A unit comes with the tree that the compiler gave for its text. -/
theorem FileIntake.parsed {xs : List (Exchange ρ)} {u : ParsedUnit}
    (h : FileIntake fs settings files p xs (.ok (.parsed u))) :
    u = .ofTree p u.text u.tree ∧ parsing settings p u.text (.answer u.tree) ∈ xs := by
  cases h with
  | text _ _ hp =>
    cases hp with
    | complete => exact ⟨rfl, List.mem_singleton_self _⟩
    | parsedAgain => exact ⟨rfl, List.mem_cons_of_mem _ (List.mem_singleton_self _)⟩

/-- All that is asked for while a file is taken in is that its texts be parsed. -/
theorem FileIntake.isParse {xs : List (Exchange ρ)} {r : Except ServiceError FileOutcome}
    (h : FileIntake fs settings files p xs r) : ∀ x ∈ xs, x.isParse = true := by
  cases h with
  | unread | empty | blank => exact fun x hx => absurd hx List.not_mem_nil
  | text _ _ hp => cases hp <;> simp [parsing, Exchange.isParse]

/-- No text of a file is parsed twice. -/
theorem FileIntake.sources {xs : List (Exchange ρ)} {r : Except ServiceError FileOutcome}
    (h : FileIntake fs settings files p xs r) :
    (Exchange.sources xs).Nodup ∧ ∀ src ∈ Exchange.sources xs, src.path = p := by
  cases h with
  | unread | empty | blank => exact ⟨.nil, by simp [Exchange.sources]⟩
  | text _ _ hp =>
    cases hp with
    | fault | invalid | complete =>
      simp [Exchange.sources, parsing, Exchange.source?]
    | faultAgain _ hc | parsedAgain _ hc =>
      simp [Exchange.sources, parsing, Exchange.source?, hc.symm]

/-! ## All files -/

/-- What becomes of a file when its intake ends in `r`: the compiler's failures make it skipped,
unless it is out of memory. -/
def settled : Except ServiceError FileOutcome → Except ServiceError FileOutcome
  | .ok o => .ok o
  | .error e => if e.isOutOfMemory then .error e else .ok (.skipped (.parseFailed e.message))

/-- A report with one more file in front. -/
def addFile (p : Path) (o : FileOutcome) (report : IntakeReport) : IntakeReport :=
  match o with
  | .parsed u => { report with units := u :: report.units }
  | .skipped reason => { report with skipped := ⟨p, reason⟩ :: report.skipped }

/-- A report on further files behind a reversed one. -/
def behind (done report : IntakeReport) : IntakeReport :=
  ⟨done.units.reverse ++ report.units, done.skipped.reverse ++ report.skipped⟩

/-- The exchanges in which files are taken in one after the other, and the report on them. -/
inductive Taken (fs : FileSystem φ) (settings : Settings) (files : φ) :
    List Path → List (Exchange ρ) → Except ServiceError IntakeReport → Prop
  | nil : Taken fs settings files [] [] (.ok ⟨[], []⟩)
  | next {p rest xs ys r o report} (hf : FileIntake fs settings files p xs r)
      (ho : settled r = .ok o) (hr : Taken fs settings files rest ys report) :
      Taken fs settings files (p :: rest) (xs ++ ys) (report.map (addFile p o))
  | outOfMemory {p rest xs r e} (hf : FileIntake fs settings files p xs r)
      (ho : settled r = .error e) : Taken fs settings files (p :: rest) xs (.error e)

/-- One file and the remaining ones. -/
theorem ingestAll_cons (service : CompileService σ ρ) (fs : FileSystem φ) (settings : Settings)
    (files : φ) (done : IntakeReport) (p : Path) (rest : List Path) (s : σ) :
    ingestAll fs service settings files done (p :: rest) s =
      match settled (ingestFile fs service settings files p s).1 with
      | .error e => (.error (.service e), (ingestFile fs service settings files p s).2)
      | .ok o =>
        ingestAll fs service settings files (addFile p o done) rest
          (ingestFile fs service settings files p s).2 := by
  rw [ingestAll]
  rcases ingestFile fs service settings files p s with ⟨r, s'⟩
  cases r with
  | error e =>
    dsimp only [settled]
    split <;> rfl
  | ok o => cases o <;> rfl

theorem settled_eq_parsed {r : Except ServiceError FileOutcome} {u : ParsedUnit}
    (h : settled r = .ok (.parsed u)) : r = .ok (.parsed u) := by
  cases r with
  | ok o => exact h
  | error e =>
    dsimp only [settled] at h
    split at h <;> cases h

theorem behind_addFile (done : IntakeReport) (p : Path) (o : FileOutcome) (report : IntakeReport) :
    behind (addFile p o done) report = behind done (addFile p o report) := by
  cases o <;> simp [behind, addFile]

theorem ingestAll_taken (service : CompileService σ ρ) (fs : FileSystem φ) (settings : Settings)
    (files : φ) (done : IntakeReport) (paths : List Path) (t : Traced σ ρ) :
    ∃ xs r, (ingestAll fs service.traced settings files done paths t).2.exchanges =
        t.exchanges ++ xs ∧
      (ingestAll fs service.traced settings files done paths t).1 =
        (r.map (behind done)).mapError .service ∧
      Taken fs settings files paths xs r := by
  induction paths generalizing done t with
  | nil =>
    refine ⟨[], .ok ⟨[], []⟩, (List.append_nil _).symm, ?_, .nil⟩
    have hb : ⟨done.units.reverse, done.skipped.reverse⟩ = behind done ⟨[], []⟩ := by simp [behind]
    exact congrArg Except.ok hb
  | cons p rest ih =>
    obtain ⟨xs, hx, hf⟩ := ingestFile_fileIntake service fs settings files p t
    rw [ingestAll_cons]
    cases ho : settled (ingestFile fs service.traced settings files p t).1 with
    | error e => exact ⟨xs, .error e, hx, rfl, .outOfMemory hf ho⟩
    | ok o =>
      obtain ⟨ys, r, hy, hr, ht⟩ := ih (addFile p o done)
        (ingestFile fs service.traced settings files p t).2
      refine ⟨xs ++ ys, r.map (addFile p o), ?_, ?_, .next hf ho ht⟩
      · rw [hy, hx, List.append_assoc]
      · rw [hr]
        cases r with
        | error e => rfl
        | ok report => simp [Except.map, behind_addFile]

/-- What is taken in are the listed files, if there are not too many and they can be measured. -/
theorem discover_eq_ok {root : Path} {paths : List Path} {files' : φ}
    (h : discover fs settings root files = (.ok paths, files')) :
    fs.list root sourceExtension settings.includeSubdirectories files = .ok paths ∧
      files' = files := by
  unfold discover at h
  split at h
  · split at h
    · cases h
    · rename_i paths' hl
      split at h
      · cases h
      · split at h
        · cases h
        · split at h
          · cases h
          · cases h
            exact ⟨hl, rfl⟩
  · split at h <;> cases h

/-- A report on the sources below a root is one on the listed files. -/
theorem ingest_taken (service : CompileService σ ρ) {root : Path} {t t' : Traced σ ρ}
    {report : IntakeReport} {files' : φ}
    (h : ingest fs service.traced settings root files t = (.ok report, files', t')) :
    ∃ paths xs,
      fs.list root sourceExtension settings.includeSubdirectories files = .ok paths ∧
      t'.exchanges = t.exchanges ++ xs ∧ Taken fs settings files paths xs (.ok report) := by
  unfold ingest at h
  split at h
  · cases h
  · rename_i paths files'' hd
    obtain ⟨hl, rfl⟩ := discover_eq_ok hd
    obtain ⟨xs, r, hx, hr, ht⟩ := ingestAll_taken service fs settings files'' ⟨[], []⟩ paths t
    simp only [Prod.mk.injEq] at h
    obtain ⟨h, -, rfl⟩ := h
    rw [h] at hr
    cases r with
    | error e => cases hr
    | ok report' =>
      cases hr
      exact ⟨paths, xs, hl, hx, ht⟩

/-- The intake of sources that ends with a report leaves the files as they are. -/
theorem ingest_files {service : CompileService σ ρ} {root : Path} {s s' : σ} {files' : φ}
    {report : IntakeReport}
    (h : ingest fs service settings root files s = (.ok report, files', s')) : files' = files := by
  unfold ingest at h
  split at h
  · cases h
  · rename_i hd
    obtain ⟨_, rfl⟩ := discover_eq_ok hd
    simp only [Prod.mk.injEq] at h
    exact h.2.1.symm

/-! ## Reports -/

section

variable {paths : List Path} {xs : List (Exchange ρ)} {report : IntakeReport}

/-- Every file is parsed or skipped, once each, and both kinds keep their order. -/
theorem Taken.accounts (h : Taken fs settings files paths xs (.ok report)) :
    (report.skipped.map SkippedFile.path ++ report.units.map ParsedUnit.path).Perm paths ∧
      List.Sublist (report.skipped.map SkippedFile.path) paths ∧
      List.Sublist (report.units.map ParsedUnit.path) paths := by
  generalize hr : Except.ok report = r at h
  induction h generalizing report with
  | nil => cases hr; exact ⟨.refl _, .refl _, .refl _⟩
  | outOfMemory => cases hr
  | @next p rest _ _ _ o r hf ho _ ih =>
    cases r with
    | error e => cases hr
    | ok report =>
      cases hr
      obtain ⟨hp, hs, hu⟩ := ih rfl
      cases o with
      | parsed u =>
        obtain ⟨he, _⟩ := FileIntake.parsed (settled_eq_parsed ho ▸ hf)
        have hpath : u.path = p := congrArg ParsedUnit.path he
        simp only [addFile, List.map_cons, hpath]
        exact ⟨List.perm_middle.trans (hp.cons p), hs.cons p, hu.cons_cons p⟩
      | skipped reason => exact ⟨hp.cons p, hs.cons_cons p, hu.cons p⟩

/-- What became of a file is in a report. -/
def Recorded (p : Path) (o : FileOutcome) (report : IntakeReport) : Prop :=
  match o with
  | .parsed u => u ∈ report.units
  | .skipped reason => ⟨p, reason⟩ ∈ report.skipped

theorem recorded_addFile (p : Path) (o : FileOutcome) (report : IntakeReport) :
    Recorded p o (addFile p o report) := by
  cases o <;> exact List.mem_cons_self

theorem Recorded.addFile {q : Path} {o o' : FileOutcome} (h : Recorded p o report) :
    Recorded p o (addFile q o' report) := by
  cases o <;> cases o' <;> first | exact h | exact List.mem_cons_of_mem _ h

/-- What became of each file is in the report. -/
theorem Taken.outcomes (h : Taken fs settings files paths xs (.ok report)) :
    ∀ p ∈ paths, ∃ (ys : List (Exchange ρ)) (r : _) (o : _),
      FileIntake fs settings files p ys r ∧ settled r = .ok o ∧ Recorded p o report := by
  generalize hr : Except.ok report = r at h
  induction h generalizing report with
  | nil => exact fun p hp => absurd hp List.not_mem_nil
  | outOfMemory => cases hr
  | @next q rest _ _ _ o r hf ho _ ih =>
    cases r with
    | error e => cases hr
    | ok report =>
      cases hr
      intro p hp
      rcases List.mem_cons.1 hp with rfl | hp
      · exact ⟨_, _, _, hf, ho, recorded_addFile ..⟩
      · obtain ⟨ys, r, o', hf', ho', hrec⟩ := ih rfl p hp
        exact ⟨ys, r, o', hf', ho', hrec.addFile⟩

/-- Every unit was made of a file. -/
theorem Taken.origin (h : Taken fs settings files paths xs (.ok report)) :
    ∀ u ∈ report.units, ∃ p ys, FileIntake fs settings files p ys (.ok (.parsed u)) ∧ ys ⊆ xs := by
  generalize hr : Except.ok report = r at h
  induction h generalizing report with
  | nil => cases hr; simp
  | outOfMemory => cases hr
  | @next p rest xs ys _ o r hf ho _ ih =>
    cases r with
    | error e => cases hr
    | ok report =>
      cases hr
      have hold : ∀ u ∈ report.units, ∃ p zs,
          FileIntake fs settings files p zs (.ok (.parsed u)) ∧ zs ⊆ xs ++ ys := by
        intro u hu
        obtain ⟨q, zs, hf, hz⟩ := ih rfl u hu
        exact ⟨q, zs, hf, List.subset_append_of_subset_right _ hz⟩
      cases o with
      | skipped reason => exact hold
      | parsed v =>
        rw [settled_eq_parsed ho] at hf
        simp only [addFile, List.forall_mem_cons]
        exact ⟨⟨p, xs, hf, List.subset_append_left _ _⟩, hold⟩

/-- Every unit comes with the tree that the compiler gave for its text. -/
theorem Taken.units (h : Taken fs settings files paths xs (.ok report)) :
    ∀ u ∈ report.units, u = .ofTree u.path u.text u.tree ∧
      parsing settings u.path u.text (.answer u.tree) ∈ xs := by
  intro u hu
  obtain ⟨p, ys, hf, hy⟩ := h.origin u hu
  obtain ⟨he, hx⟩ := hf.parsed
  have hpath : u.path = p := congrArg ParsedUnit.path he
  exact ⟨hpath ▸ he, hpath ▸ hy hx⟩

/-- If no file is listed twice, no text of a file is parsed twice. -/
theorem Taken.sources {r : Except ServiceError IntakeReport}
    (h : Taken fs settings files paths xs r) (hn : paths.Nodup) :
    (Exchange.sources xs).Nodup ∧ ∀ src ∈ Exchange.sources xs, src.path ∈ paths := by
  induction h with
  | nil => exact ⟨.nil, by simp [Exchange.sources]⟩
  | outOfMemory hf =>
    obtain ⟨hs, hp⟩ := hf.sources
    exact ⟨hs, fun src hm => by rw [hp src hm]; exact List.mem_cons_self⟩
  | @next p rest _ _ _ _ _ hf _ _ ih =>
    obtain ⟨hs, hp⟩ := hf.sources
    obtain ⟨hpr, hn⟩ := List.nodup_cons.1 hn
    obtain ⟨hs', hp'⟩ := ih hn
    rw [Exchange.sources_append]
    refine ⟨List.nodup_append.2 ⟨hs, hs', ?_⟩, fun src hm => ?_⟩
    · rintro a ha b hb rfl
      exact hpr (hp a ha ▸ hp' a hb)
    · rcases List.mem_append.1 hm with hm | hm
      · rw [hp src hm]
        exact List.mem_cons_self
      · exact List.mem_cons_of_mem _ (hp' src hm)

theorem Taken.isParse {r : Except ServiceError IntakeReport}
    (h : Taken fs settings files paths xs r) : ∀ x ∈ xs, x.isParse = true := by
  induction h with
  | nil => exact fun x hx => absurd hx List.not_mem_nil
  | next hf _ _ ih => exact List.forall_mem_append.2 ⟨hf.isParse, ih⟩
  | outOfMemory hf => exact hf.isParse

/-- No library is asked for while files are taken in. -/
theorem Taken.attempts {r : Except ServiceError IntakeReport}
    (h : Taken fs settings files paths xs r) : Exchange.attempts xs = [] :=
  Exchange.attempts_of_isParse h.isParse

end

end PluginForge.Intake
