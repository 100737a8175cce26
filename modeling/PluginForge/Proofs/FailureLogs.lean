/-
The logs of failed groups after a build. A group has a log just if its attempts came to an end without
success; the log holds what its last attempt showed, and nothing that comes later touches it: artifacts
have other extensions, and the logs of other groups other names, whatever the times in them. Earlier
logs go together after a build without failures, if they are to go, and else not at all.
-/
import PluginForge.Proofs.Collisions
import PluginForge.Proofs.Deliveries
import PluginForge.Proofs.Layout

namespace PluginForge

open MemoryStore (EndsPlain)

variable {φ σ ρ : Type}

/-! ## Names of logs -/

namespace TimeStamp

/-- There is one underscore in the time of a file name. -/
theorem exists_compact (t : TimeStamp) :
    ∃ date time, t.compact.toList = date ++ '_' :: time ∧ '_' ∉ date ∧ '_' ∉ time := by
  have digits {width n : Nat} : '_' ∉ Chars.padded width n :=
    fun h => absurd (Chars.isDigit_of_mem_padded h) (by decide)
  have year : '_' ∉ yearChars t.year := by
    unfold yearChars
    split
    · exact digits
    · rw [List.mem_cons, not_or]
      exact ⟨by split <;> decide, digits⟩
  refine ⟨yearChars t.year ++ Chars.padded 2 t.month ++ Chars.padded 2 t.day,
    Chars.padded 2 t.hour ++ Chars.padded 2 t.minute ++ Chars.padded 2 t.second, ?_, ?_, ?_⟩
  · simp [compact, chars]
  · simp only [List.mem_append, not_or]
    exact ⟨⟨year, digits⟩, digits⟩
  · simp only [List.mem_append, not_or]
    exact ⟨⟨digits, digits⟩, digits⟩

end TimeStamp

/-- The name of a log tells the safe name of its group, whatever the time in it. -/
theorem safeName_eq_of_logFileName {key key' : String} {t t' : TimeStamp}
    (h : logFileName key t = logFileName key' t') : safeName key = safeName key' := by
  have own := isFileName_logFileName key t
  rw [h] at own
  have stem := (own.inj (isFileName_logFileName key' t')).1
  obtain ⟨date, time, ht, hd, hc⟩ := t.exists_compact
  obtain ⟨date', time', ht', hd', hc'⟩ := t'.exists_compact
  have marks {name date time : List Char} :
      name ++ "_".toList ++ (date ++ '_' :: time) = (name ++ '_' :: date) ++ '_' :: time := by
    simp
  simp only [String.toList_append, ht, ht', marks] at stem
  have front := (Chars.append_cons_inj stem (fun _ => hc') fun _ => hc).1
  exact String.toList_inj.1 (Chars.append_cons_inj front (fun _ => hd') fun _ => hd).1

/-! ## Clearing logs -/

namespace FileSystem.Layout

variable {fs : FileSystem φ} (L : fs.Layout) {dir q : Path} {wanted : String}

/-- When files are removed and no removal fails, what is listed then was listed before and is at the
place of none of them. -/
theorem lists_removeAll {paths : List Path} {r : Recorded φ} (sound : L.Sound r.state)
    (hd : EndsPlain dir.text.toList)
    (succeed : ∀ c ∈ (fs.recorded.removeAll paths r).2.changes, c.succeeds = true)
    (hl : fs.Lists dir wanted (fs.recorded.removeAll paths r).2.state q) :
    fs.Lists dir wanted r.state q ∧ ∀ p ∈ paths, L.place q ≠ L.place p := by
  induction paths generalizing r with
  | nil => exact ⟨hl, by simp⟩
  | cons p rest ih =>
    rw [MemoryStore.removeAll_cons] at succeed hl
    obtain ⟨listed, others⟩ := ih (r := (fs.recorded.remove p r).2) (L.keeps.remove p _ sound) succeed hl
    have removed : (fs.remove p r.state).1 = .ok () := by
      obtain ⟨changes, did, -⟩ := fs.recorded.removeAll_did rest (fs.recorded.remove p r).2
      rw [did.recorded] at succeed
      have first := succeed (.remove p (fs.remove p r.state).1)
        (List.mem_append_left _ (List.mem_append_right _ (List.mem_singleton_self _)))
      cases hr : (fs.remove p r.state).1 with
      | ok u => rfl
      | error err => rw [hr] at first; cases first
    obtain ⟨listed, own⟩ := L.lists_of_remove sound hd (Prod.ext removed rfl) listed
    exact ⟨listed, List.forall_mem_cons.2 ⟨own, others⟩⟩

/-- When the logs in a directory are removed and no removal fails, none is listed any more. -/
theorem not_lists_clear {r : Recorded φ} (sound : L.Sound r.state) (hd : EndsPlain dir.text.toList)
    (succeed : ∀ c ∈ (FailureLog.clear fs.recorded dir r).2.changes, c.succeeds = true) :
    ¬ fs.Lists dir logExtension (FailureLog.clear fs.recorded dir r).2.state q := by
  intro hl
  unfold FailureLog.clear at succeed hl
  cases there : fs.isDir dir r.state with
  | false =>
    have there' : fs.recorded.isDir dir r = false := there
    rw [there', if_neg Bool.false_ne_true] at hl
    obtain ⟨paths, listed, -⟩ := hl
    rw [L.isDir_iff.2 ⟨paths, listed⟩] at there
    cases there
  | true =>
    have there' : fs.recorded.isDir dir r = true := there
    obtain ⟨paths, listed⟩ : ∃ paths, fs.list dir logExtension false r.state = .ok paths :=
      L.isDir_iff.1 there
    have listed' : fs.recorded.list dir logExtension false r = .ok paths := listed
    rw [there', if_pos rfl, FileSystem.removeListed, listed'] at succeed hl
    obtain ⟨⟨paths', listed'', hq⟩, gone⟩ := L.lists_removeAll sound hd succeed hl
    obtain rfl : paths = paths' := Except.ok.inj (listed.symm.trans listed'')
    exact gone q hq rfl

end FileSystem.Layout

/-! ## The log of a group -/

/-- Why a group ends whose attempts came to an end without success. -/
def logReasons : List StopReason :=
  [.notRetryable, .nothingToRemove, .retriesExhausted]

theorem mem_logReasons_of_stopReason? {n k : Nat} {ds : List Diagnostic} {reason : StopReason}
    (h : GroupCompile.stopReason? n k ds = some reason) : reason ∈ logReasons := by
  have out {r : StopReason} (hr : GroupCompile.stopReason? n k ds = some r) (hm : r ∈ logReasons) :
      reason ∈ logReasons := Option.some.inj (h.symm.trans hr) ▸ hm
  rcases GroupCompile.stopReason?_cases n k ds with
    ⟨-, hs⟩ | ⟨-, ⟨-, hs⟩ | ⟨-, -, hs⟩ | ⟨-, -, hs⟩⟩
  · exact out hs (by decide)
  · exact out hs (by decide)
  · exact out hs (by decide)
  · cases h.symm.trans hs

namespace Delivery

variable {w : Workspace} {style : Report.LogStyle} {d : Delivery} {settings : Settings}
  {references : List Path}

/-- A log is there for a group just if its attempts came to an end without success. -/
theorem Runs.log_isSome_iff (h : d.Runs settings references) :
    (d.outcome w).log.isSome = true ↔ ∃ reason ∈ logReasons, (d.outcome w).stopReason = some reason := by
  unfold Runs at h
  unfold outcome
  cases hr : d.result with
  | error err =>
    simp [GroupOutcome.start, logReasons]
  | ok c =>
    rw [hr] at h
    obtain ⟨request, -, ⟨success, none⟩ | ⟨failed, reason, stop, why⟩⟩ := h.getLast_ok
    · simp [success, none, GroupOutcome.ofCompile, GroupOutcome.start]
    · simp [failed, stop, GroupOutcome.ofCompile, mem_logReasons_of_stopReason? why]

/-- The log of a group has what its last attempt showed, and the group did not succeed. -/
theorem Runs.log (h : d.Runs settings references) (style : Report.LogStyle) {p : Path}
    (hl : (d.outcome w).log = some p) :
    (d.outcome w).success = false ∧
      ∃ request output, d.attempts.getLast? = some ⟨request, .answer output⟩ ∧
        p = w.logsDir.join (logFileName d.group.key d.time) ∧
        d.changes w style = [.makeDir w.logsDir (.ok ()),
          .write p (Encoding.toUtf8
            (Report.renderLog style d.group.displayName output.diagnostics d.time)) (.ok ())] := by
  unfold Runs at h
  unfold outcome at hl ⊢
  unfold changes
  cases hr : d.result with
  | error err =>
    rw [hr] at hl
    cases hl
  | ok c =>
    rw [hr] at h hl
    obtain ⟨request, last, -⟩ := h.getLast_ok
    cases hs : c.output.success with
    | true => simp [hs, GroupOutcome.ofCompile, GroupOutcome.start] at hl
    | false =>
      simp only [hs, Bool.false_eq_true, if_false, Option.some.injEq] at hl ⊢
      exact ⟨rfl, request, c.output, last, hl.symm, by rw [hl]⟩

theorem outcome_pluginName (w : Workspace) (d : Delivery) :
    (d.outcome w).pluginName = d.group.pluginName := by
  unfold outcome
  split
  · rfl
  · split <;> rfl

/-- What is written for a group are its artifacts or its log. -/
theorem target?_changes {c : StoreChange} (hc : c ∈ d.changes w style) {q : Path}
    (hq : c.target? = some q) :
    (∃ ext ∈ Artifact.extensions, q = Artifact.path w.outputDir d.group.key ext) ∨
      (d.outcome w).log = some q := by
  unfold changes at hc
  unfold outcome
  cases hr : d.result with
  | error err =>
    rw [hr] at hc
    cases hc
  | ok c' =>
    rw [hr] at hc
    dsimp only at hc ⊢
    cases hs : c'.output.success with
    | true =>
      rw [hs, if_pos rfl] at hc
      rcases List.mem_cons.1 hc with rfl | hc
      · cases hq
      · obtain ⟨a, ha, rfl⟩ := List.mem_map.1 hc
        obtain ⟨ext, hx, hp⟩ := Artifact.mem_ofOutput ha
        cases hq
        exact .inl ⟨ext, hx, hp⟩
    | false =>
      rw [hs, if_neg Bool.false_ne_true] at hc
      rcases List.mem_cons.1 hc with rfl | hc
      · cases hq
      · obtain rfl := List.mem_singleton.1 hc
        exact .inr hq

/-- Of deliveries under different safe names, the others are under other names than one of them. -/
theorem exists_split {ds : List Delivery} (apart : (ds.map fun d => safeName d.group.key).Nodup)
    (hd : d ∈ ds) : ∃ before after, ds = before ++ d :: after ∧
      ∀ d' ∈ before ++ after, safeName d'.group.key ≠ safeName d.group.key := by
  obtain ⟨before, after, rfl⟩ := List.append_of_mem hd
  rw [List.map_append, List.map_cons, List.nodup_middle, List.nodup_cons, ← List.map_append] at apart
  exact ⟨before, after, rfl, fun d' hd' same => apart.1 (List.mem_map.2 ⟨d', hd', same⟩)⟩

theorem Runs.assemblyName (h : d.Runs settings references) :
    ∀ a ∈ d.attempts, a.request.assemblyName = safeName d.group.key :=
  h.forall_request (P := fun r => r.assemblyName = safeName d.group.key) rfl fun _ _ hp => hp

/-- The attempts at a group are those at a library of its name. -/
theorem filter_attempts {before after : List Delivery}
    (runs : ∀ d' ∈ before ++ d :: after, d'.Runs settings references)
    (apart : ∀ d' ∈ before ++ after, safeName d'.group.key ≠ safeName d.group.key) :
    ((before ++ d :: after).flatMap Delivery.attempts).filter
      (fun a => a.request.assemblyName = safeName d.group.key) = d.attempts := by
  have none {ds : List Delivery} (runs : ∀ d' ∈ ds, d'.Runs settings references)
      (apart : ∀ d' ∈ ds, safeName d'.group.key ≠ safeName d.group.key) :
      (ds.flatMap Delivery.attempts).filter
        (fun a => a.request.assemblyName = safeName d.group.key) = [] := by
    refine List.filter_eq_nil_iff.2 fun a ha same => ?_
    obtain ⟨d', hd', ha⟩ := List.mem_flatMap.1 ha
    exact apart d' hd' (((runs d' hd').assemblyName a ha).symm.trans (of_decide_eq_true same))
  obtain ⟨earlier, rest⟩ := List.forall_mem_append.1 runs
  obtain ⟨own, later⟩ := List.forall_mem_cons.1 rest
  obtain ⟨apart, apart'⟩ := List.forall_mem_append.1 apart
  rw [List.flatMap_append, List.flatMap_cons, List.filter_append, List.filter_append,
    none earlier apart, none later apart', List.nil_append, List.append_nil]
  exact List.filter_eq_self.2 fun a ha => decide_eq_true (own.assemblyName a ha)

end Delivery

/-! ## Files that are no logs -/

namespace FileSystem.Layout

variable {fs : FileSystem φ} (L : fs.Layout) {p q : Path}

/-- What is at the place of a path has the extension of an artifact. -/
def IsArtifact (q : Path) : Prop :=
  ∃ ext ∈ Artifact.extensions, L.extension? (L.place q) = some (wantedExtension ext)

theorem wantedExtension_ne_log {ext : String} (h : ext ∈ Artifact.extensions) :
    wantedExtension ext ≠ wantedExtension logExtension := by
  have apart : ∀ ext ∈ Artifact.extensions, wantedExtension ext ≠ wantedExtension logExtension := by
    decide
  exact apart ext h

variable {L} in
theorem IsArtifact.place_ne (h : L.IsArtifact q)
    (hp : L.extension? (L.place p) = some (wantedExtension logExtension)) :
    L.place q ≠ L.place p := by
  obtain ⟨ext, hx, he⟩ := h
  rintro same
  rw [same, hp] at he
  exact wantedExtension_ne_log hx (Option.some.inj he).symm

theorem isArtifact_path (w : Workspace) (key : String) {ext : String} (h : ext ∈ Artifact.extensions) :
    L.IsArtifact (Artifact.path w.outputDir key ext) := by
  have small : ∀ ext ∈ Artifact.extensions, Chars.lowerAscii ext.toList = wantedExtension ext := by
    decide
  refine ⟨ext, h, ?_⟩
  rw [Artifact.path, L.extension?_join w.endsPlain_outputDir
    (Artifact.isFileName_of_mem_extensions key h), small ext h]

theorem extension?_log (w : Workspace) (key : String) (t : TimeStamp) :
    L.extension? (L.place (w.logsDir.join (logFileName key t))) =
      some (wantedExtension logExtension) :=
  L.extension?_join w.endsPlain_logsDir (isFileName_logFileName key t)

/-- Where artifacts are cleared, only files with their extensions are removed. -/
theorem clean_did {s : φ} (sound : L.Sound s) (dir : Path) :
    ∃ changes, fs.Did s changes (Artifact.clean fs dir s) ∧
      ∀ c ∈ changes, ∀ q, c.target? = some q → L.IsArtifact q := by
  unfold Artifact.clean
  split
  · obtain ⟨changes, did, first⟩ := fs.removeListed_did dir libraryExtension s
    obtain ⟨more, did', second⟩ :=
      fs.removeListed_did dir Artifact.symbolsExtension (fs.removeListed dir libraryExtension s).2
    refine ⟨changes ++ more, did.append did', List.forall_mem_append.2
      ⟨fun c hc q hq => ?_, fun c hc q hq => ?_⟩⟩
    · exact ⟨_, Artifact.library_mem_extensions,
        L.extension?_of_lists sound (by decide) (first c hc q hq)⟩
    · exact ⟨_, Artifact.symbols_mem_extensions,
        L.extension?_of_lists (L.keeps.did did sound) (by decide) (second c hc q hq)⟩
  · exact ⟨_, (FileSystem.Does.makeDir rfl).did, List.forall_mem_singleton.2 nofun⟩

end FileSystem.Layout

namespace Engine

variable {e : Engine φ σ ρ} (L : e.store.Layout) {root : Path} {clock : Nat → TimeStamp}
  {s : EngineState φ σ ρ} {report : BuildReport}

/-- Until a build has its references, it writes and removes nothing but artifacts. -/
theorem opened_did (sound : L.Sound s.files) :
    ∃ changes, e.store.Did s.files changes (e.opened s) ∧
      ∀ c ∈ changes, ∀ q, c.target? = some q → L.IsArtifact q := by
  obtain ⟨changes, did, artifacts⟩ := L.clean_did sound e.workspace.outputDir
  have made : e.store.MakesDirs (e.cleared s) (e.opened s) :=
    Reference.getOrResolve_makesDirs e.settings e.roots s.references (e.cleared s)
  obtain ⟨more, did', none⟩ := made
  refine ⟨changes ++ more, did.append did', List.forall_mem_append.2 ⟨artifacts, fun c hc q hq => ?_⟩⟩
  cases (none c hc).symm.trans hq

/-- After a build in which every group succeeded, no log is left if logs are to be cleared. -/
theorem buildDir_clears (sound : L.Sound s.files) (ok : (e.buildDir root clock s).1 = .ok report)
    (succeed : ∀ c ∈ e.changes root clock s, c.succeeds = true)
    (all : (report.allSucceeded && e.settings.clearLogsOnSuccess) = true) (p : Path) :
    ¬ e.store.Lists e.workspace.logsDir logExtension (e.buildDir root clock s).2.files p := by
  have same := e.buildDir_recorded root clock s
  have cycle : (e.recorded.buildDir root clock s.recordStart).1 =
      (e.recorded.runCycle root clock s.recordStart).1 ∧
      (e.recorded.buildDir root clock s.recordStart).2.files =
        (e.recorded.settleLogs (e.recorded.runCycle root clock s.recordStart).1
          (e.recorded.runCycle root clock s.recordStart).2).files := by
    rw [buildDir, recorded_settings, if_pos (enabled_of_report ok)]
    exact ⟨rfl, rfl⟩
  have kept := runCycle_keeps_files (e := e.recorded) L.keeps.recorded root clock
    (s := s.recordStart) sound
  unfold changes at succeed
  rw [same, Prod.map_fst, id_eq, cycle.1] at ok
  rw [cycle.2, ok, files_settleLogs, leftAfter, recorded_settings, if_pos all] at succeed
  rw [same, Prod.map_snd, EngineState.mapFiles_files, cycle.2, ok, files_settleLogs, leftAfter,
    recorded_settings, if_pos all]
  exact L.not_lists_clear kept e.workspace.endsPlain_logsDir succeed

end Engine

/-! ## Whole builds -/

theorem FileSystem.Did.exists_of_append {fs : FileSystem φ} {s s'' : φ}
    {changes more : List StoreChange} (h : fs.Did s (changes ++ more) s'') :
    ∃ s', fs.Did s changes s' ∧ fs.Did s' more s'' := by
  induction changes generalizing s with
  | nil => exact ⟨s, .nil, h⟩
  | cons c changes ih =>
    cases h with
    | cons first rest =>
      obtain ⟨s', did, did'⟩ := ih rest
      exact ⟨s', .cons first did, did'⟩

/-- What a report says of logs, and what lies in the log directory before and after the build, given
its exchanges with the compiler. -/
structure BuildReport.Logged (e : Engine φ σ ρ) (L : e.store.Layout) (before after : φ)
    (xs : List (Exchange ρ)) (report : BuildReport) : Prop where
  /-- Just the groups have a log that end for one of the reasons to have one. -/
  logged : ∀ o ∈ report.groups, o.log.isSome = true ↔
    ∃ reason ∈ logReasons, o.stopReason = some reason
  /-- A log is named for its group and a time, and holds the diagnostics of the last attempt. -/
  holds : ∀ o ∈ report.groups, ∀ p, o.log = some p → ∃ t request output,
    Exchange.lastAttempt? (safeName o.key) xs = some ⟨request, .answer output⟩ ∧
    p = e.workspace.logsDir.join (logFileName o.key t) ∧
    e.store.read p after = .ok (Encoding.toUtf8
      (Report.renderLog e.logStyle (o.pluginName.getD o.key) output.diagnostics t))
  cleared : (∀ o ∈ report.groups, o.success = true) → e.settings.clearLogsOnSuccess = true →
    ∀ p, ¬ e.store.Lists e.workspace.logsDir logExtension after p
  /-- Unless logs are cleared, an earlier one stays as it is if no new one has its place. -/
  kept : ¬ ((∀ o ∈ report.groups, o.success = true) ∧ e.settings.clearLogsOnSuccess = true) →
    ∀ p, e.store.Lists e.workspace.logsDir logExtension before p → e.store.isFile p before = true →
      (∀ o ∈ report.groups, ∀ q, o.log = some q → L.place q ≠ L.place p) →
      e.store.isFile p after = true ∧ e.store.read p after = e.store.read p before

namespace Engine

variable {e : Engine φ σ ρ} (L : e.store.Layout) {root : Path} {clock : Nat → TimeStamp}
  {s : EngineState φ σ ρ} {report : BuildReport} {xs : List (Exchange ρ)} {left : φ}
  {paths : List Path} {parses : List (Exchange ρ)} {intake : IntakeReport} {references : List Path}
  {ds : List Delivery}

theorem leftAfter_of_not_all {files : φ}
    (h : ¬ ((∀ o ∈ report.groups, o.success = true) ∧ e.settings.clearLogsOnSuccess = true)) :
    e.leftAfter report files = files := by
  refine if_neg fun all => h ?_
  obtain ⟨success, clear⟩ := Bool.and_eq_true_iff.1 all
  exact ⟨List.all_eq_true.1 success, clear⟩

include L in
/-- The log of a group is read at the end as it was written. -/
theorem holds_of_delivers (h : e.Delivers root s report xs left paths parses intake references ds)
    (apart : (ds.map fun d => safeName d.group.key).Nodup) {d : Delivery} (hd : d ∈ ds) {p : Path}
    (hl : (d.outcome e.workspace).log = some p) : ∃ request output,
      Exchange.lastAttempt? (safeName d.group.key) xs = some ⟨request, .answer output⟩ ∧
      p = e.workspace.logsDir.join (logFileName d.group.key d.time) ∧
      e.store.read p left = .ok (Encoding.toUtf8
        (Report.renderLog e.logStyle d.group.displayName output.diagnostics d.time)) := by
  obtain ⟨failed, request, output, last, hp, changes⟩ := (h.runs d hd).log e.logStyle hl
  obtain ⟨before, after, split, others⟩ := Delivery.exists_split apart hd
  have attempts : Exchange.attempts xs = ds.flatMap Delivery.attempts := by
    rw [h.exchanges, Exchange.attempts_append, h.parsed.attempts, Exchange.attempts_map_exchange,
      List.nil_append]
  refine ⟨request, output, ?last, hp, ?read⟩
  case last =>
    have runs := h.runs
    rw [split] at attempts runs
    rw [Exchange.lastAttempt?, attempts, Delivery.filter_attempts runs others, last]
  case read =>
    obtain ⟨files, did, rfl⟩ := h.leaves
    have notAll : ¬ ((∀ o ∈ report.groups, o.success = true) ∧
        e.settings.clearLogsOnSuccess = true) := by
      rintro ⟨all, -⟩
      have own := all (d.outcome e.workspace) (by rw [h.reports]; exact List.mem_map_of_mem hd)
      rw [failed] at own
      cases own
    rw [leftAfter_of_not_all notAll]
    rw [split, List.flatMap_append, List.flatMap_cons] at did
    obtain ⟨_, -, did⟩ := did.exists_of_append
    obtain ⟨written, own, later⟩ := did.exists_of_append
    rw [changes] at own
    cases own with
    | cons _ rest =>
      cases rest with
      | cons wrote done =>
        cases done
        cases wrote with
        | write hw =>
          obtain ⟨there, same⟩ := L.read_write hw
          refine (L.did_spares later there fun c hc q hq => ?_).2.trans same
          obtain ⟨d', hd', hc⟩ := List.mem_flatMap.1 hc
          rcases Delivery.target?_changes hc hq with ⟨ext, hx, rfl⟩ | log
          · rw [hp]
            exact (L.isArtifact_path _ _ hx).place_ne (L.extension?_log _ _ _)
          · intro place
            obtain ⟨-, _, _, -, hq', -⟩ :=
              (h.runs d' (split ▸ List.mem_append_right _ (List.mem_cons_of_mem _ hd'))).log
                e.logStyle log
            rw [hp, hq'] at place
            have names := L.name_inj e.workspace.endsPlain_logsDir e.workspace.endsPlain_logsDir
              (isFileName_logFileName _ _) (isFileName_logFileName _ _) place
            exact others d' (List.mem_append_right _ hd') (safeName_eq_of_logFileName names)

/-- An earlier log is at the end as it was, if no new one has its place and logs are not cleared. -/
theorem kept_of_delivers (h : e.Delivers root s report xs left paths parses intake references ds)
    (sound : L.Sound s.files)
    (notAll : ¬ ((∀ o ∈ report.groups, o.success = true) ∧ e.settings.clearLogsOnSuccess = true))
    {p : Path} (listed : e.store.Lists e.workspace.logsDir logExtension s.files p)
    (there : e.store.isFile p s.files = true)
    (other : ∀ o ∈ report.groups, ∀ q, o.log = some q → L.place q ≠ L.place p) :
    e.store.isFile p left = true ∧ e.store.read p left = e.store.read p s.files := by
  have ext := L.extension?_of_lists sound (by decide) listed
  obtain ⟨changes, did, artifacts⟩ := opened_did (e := e) L sound
  obtain ⟨files, did', rfl⟩ := h.leaves
  rw [leftAfter_of_not_all notAll]
  refine L.did_spares (did.append did') there (List.forall_mem_append.2
    ⟨fun c hc q hq => (artifacts c hc q hq).place_ne ext, fun c hc q hq => ?_⟩)
  obtain ⟨d, hd, hc⟩ := List.mem_flatMap.1 hc
  rcases Delivery.target?_changes hc hq with ⟨x, hx, rfl⟩ | log
  · exact (L.isArtifact_path _ _ hx).place_ne ext
  · exact other (d.outcome e.workspace) (by rw [h.reports]; exact List.mem_map_of_mem hd) q log

/-- A build that ends with a report, and no change of the file system failing, has a log for just the
groups whose attempts came to an end without success, each of them with the diagnostics of the last
attempt; it clears all logs if it is to and every group succeeded, and otherwise leaves the earlier
ones alone that it does not replace. -/
theorem buildDir_logged (sound : L.Sound s.files) (ok : (e.buildDir root clock s).1 = .ok report)
    (succeed : ∀ c ∈ e.changes root clock s, c.succeeds = true)
    (apart : (report.groups.map fun o => safeName o.key).Nodup) :
    report.Logged e L s.files (e.buildDir root clock s).2.files (e.exchanges root clock s) := by
  obtain ⟨paths, parses, intake, references, ds, h⟩ := buildDir_delivers ok succeed
  have groups : report.groups = ds.map (Delivery.outcome e.workspace) := by rw [h.reports]
  have keys : (ds.map fun d => safeName d.group.key).Nodup := by
    rw [groups, List.map_map] at apart
    simpa only [Function.comp_def, Delivery.outcome_key] using apart
  constructor
  case logged =>
    intro o ho
    rw [groups] at ho
    obtain ⟨d, hd, rfl⟩ := List.mem_map.1 ho
    exact (h.runs d hd).log_isSome_iff
  case holds =>
    intro o ho p hp
    rw [groups] at ho
    obtain ⟨d, hd, rfl⟩ := List.mem_map.1 ho
    obtain ⟨request, output, last, name, read⟩ := holds_of_delivers L h keys hd hp
    rw [Delivery.outcome_pluginName, Delivery.outcome_key]
    exact ⟨d.time, request, output, last, name, read⟩
  case cleared =>
    intro all clear p
    refine buildDir_clears L sound ok succeed ?_ p
    rw [BuildReport.allSucceeded, List.all_eq_true.2 all, clear]
    rfl
  case kept => exact fun notAll p listed there => kept_of_delivers L h sound notAll listed there

/-- Where the log of an earlier build is. -/
def earlierLog : Path :=
  ⟨"w/compile logs/Old_20231231_120000.txt"⟩

/-- Where the log of the second plugin comes. -/
def laterLog : Path :=
  ⟨"w/compile logs/It_20240101_000000.txt"⟩

/-- A workspace with two plugins and an earlier log. -/
def loggedBefore : MemoryStore :=
  .withFiles [
    (⟨"w/assemblies/a.dll"⟩, standInLibrary),
    (earlierLog, [0]),
    (⟨"w/source/a.cs"⟩, Encoding.toUtf8 "namespace My { }"),
    (⟨"w/source/b.cs"⟩, Encoding.toUtf8 "namespace It { }")]

theorem buildDir_logged_one_of_two :
    ∃ report,
      (inMemory.buildDir ⟨"w/source"⟩ (fun _ => newYear) (.start loggedBefore oneOfTwo)).1 =
        .ok report ∧
      report.groups.map (fun o => (o.key, o.success, o.log)) =
        [("My", true, none), ("It", false, some laterLog)] ∧
      report.Logged inMemory MemoryStore.layout loggedBefore
        (inMemory.buildDir ⟨"w/source"⟩ (fun _ => newYear) (.start loggedBefore oneOfTwo)).2.files
        (inMemory.exchanges ⟨"w/source"⟩ (fun _ => newYear) (.start loggedBefore oneOfTwo)) ∧
      inMemory.store.read earlierLog
        (inMemory.buildDir ⟨"w/source"⟩ (fun _ => newYear) (.start loggedBefore oneOfTwo)).2.files =
          .ok [0] := by
  obtain ⟨report, ok, groups, succeed⟩ := inMemory.exists_report_recorded ⟨"w/source"⟩
    (fun _ => newYear) (.start loggedBefore oneOfTwo) (fun o => (o.key, o.success, o.log))
    [("My", true, none), ("It", false, some laterLog)]
    (by decide +kernel)
  have seen {P : String × Bool × Option Path → Prop} :
      (∀ o ∈ report.groups, P (o.key, o.success, o.log)) ↔ P ("My", true, none) ∧
        P ("It", false, some laterLog) := by
    rw [← List.forall_mem_map (f := fun o : GroupOutcome => (o.key, o.success, o.log)), groups]
    simp
  have keys : (report.groups.map fun o => safeName o.key).Nodup := by
    have names := congrArg (List.map fun x : String × Bool × Option Path => safeName x.1) groups
    rw [List.map_map] at names
    rw [show report.groups.map (fun o => safeName o.key) = _ from names]
    decide
  have logged := buildDir_logged MemoryStore.layout (MemoryStore.reachable_withFiles _).normal ok
    succeed keys
  have notAll : ¬ ((∀ o ∈ report.groups, o.success = true) ∧
      inMemory.settings.clearLogsOnSuccess = true) :=
    fun all => Bool.false_ne_true (seen (P := fun x => x.2.1 = true).1 all.1).2
  have listed : inMemory.store.Lists inMemory.workspace.logsDir logExtension loggedBefore earlierLog :=
    MemoryStore.lists_iff.2 ⟨by decide +kernel, by decide +kernel⟩
  have apart : ∀ o ∈ report.groups, ∀ q, o.log = some q →
      MemoryStore.layout.place q ≠ MemoryStore.layout.place earlierLog := by
    refine (seen (P := fun x => ∀ q, x.2.2 = some q →
      MemoryStore.layout.place q ≠ MemoryStore.layout.place earlierLog)).2 ⟨nofun, fun q hq => ?_⟩
    obtain rfl := Option.some.inj hq
    have names : MemoryStore.normalize laterLog ≠ MemoryStore.normalize earlierLog := by
      decide +kernel
    exact names
  have content : inMemory.store.read earlierLog loggedBefore = .ok [0] := by
    decide +kernel
  exact ⟨report, ok, groups, logged,
    (logged.kept notAll earlierLog listed (by decide +kernel) apart).2.trans content⟩

end Engine
end PluginForge
