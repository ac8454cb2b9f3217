/-
The stages of a conversion: the skeleton, the copy of the source, the report and the directory for
pictures. Each lies in a part of the output that no other stage leads to, so what a stage leaves
stays as it is through all others, and a stage that is not reached finds its part as it was. The one
thing that any stage may add elsewhere are directories along the root of the output, in case its
spelling leads through places that are not there yet.
-/
import UiSkeleton.Proofs.Outcome

namespace UiSkeleton

open FileTree (Changes)

/-! ## Actions one after the other -/

namespace FileAction

variable {σ ι : Type} {f : ι → ExceptT Failure (StateM σ) Unit}

theorem run_forM_cons (i : ι) (l : List ι) (s : σ) : ((i :: l).forM f).run.run s = match (f i).run.run s with
    | (.error failure, s') => (.error failure, s')
    | (.ok _, s') => (l.forM f).run.run s' := by
  have hstep : (i :: l).forM f = (f i >>= fun _ => l.forM f) := rfl
  rw [hstep, run_bind]
  rcases (f i).run.run s with ⟨_ | _, _⟩ <;> rfl

/-- A sequence fails where one of its actions does, after those before it have succeeded. -/
theorem exists_of_forM_error {l : List ι} {s s' : σ} {failure : Failure}
    (h : (l.forM f).run.run s = (.error failure, s')) :
    ∃ before i after u, l = before ++ i :: after ∧ (before.forM f).run.run s = (.ok (), u) ∧
      (f i).run.run u = (.error failure, s') := by
  induction l generalizing s with
  | nil => cases h
  | cons i l ih =>
    rw [run_forM_cons] at h
    rcases hrun : (f i).run.run s with ⟨failure' | u, s₁⟩
    · rw [hrun] at h
      cases h
      exact ⟨[], i, l, s, rfl, rfl, hrun⟩
    · rw [hrun] at h
      obtain ⟨before, j, after, u, rfl, hbefore, hj⟩ := ih h
      refine ⟨i :: before, j, after, u, rfl, ?_, hj⟩
      rw [run_forM_cons, hrun]
      exact hbefore

end FileAction

/-! ## Stages -/

/-- What a conversion makes. -/
inductive Stage where
  | artifact (a : Artifact)
  | screenshots
  deriving DecidableEq, Repr

/-- The stages in the order in which a conversion goes through them. -/
def Stage.all : List Stage := [.artifact .skeleton, .artifact .reference, .artifact .report, .screenshots]

namespace Converter

variable (c : Converter) (name : ExampleName) (text : String)

/-- Where the output of a stage lies. -/
def stagePath : Stage → Path
  | .artifact a => c.path name a
  | .screenshots => c.layout.screenshots name.text

/-- The names that lead there from the root of the output. -/
def stageEntries : Stage → List (List Char)
  | .artifact a => c.entries name a
  | .screenshots => ["screenshots".toList, name.text.toList]

/-- What is there when the stage is done. -/
def stageEntry : Stage → FileEntry
  | .artifact a => .file (Text.toBytes (c.content name text a))
  | .screenshots => .directory

def produce : Stage → FileAction Unit
  | .artifact a => .writeText (c.path name a) (c.content name text a)
  | .screenshots => .ensureDirectory (c.layout.screenshots name.text)

/-- The output of a stage is there, with its final content. -/
def Done (stage : Stage) (t : FileTree) : Prop :=
    t.find? (c.stagePath name stage) = some (c.stageEntry name text stage)

/-- The part of the output that belongs to a stage: its file next to the root, or the directory of
all files of its kind. -/
def stagePart (stage : Stage) (workingDirectory : Location) : Location :=
  c.layout.root.place workingDirectory ++ (c.stageEntries name stage).take 1

/-- Nothing in the part of a stage was added or changed, but for directories along the root of the
output. -/
def Untouched (stage : Stage) (t t' : FileTree) : Prop :=
  ∀ place, c.stagePart name stage t.workingDirectory <+: place → t'.get? place = t.get? place ∨
    (t.get? place = none ∧ t'.get? place = some .directory ∧ c.layout.root.Along t.workingDirectory place)

/-- All changes but directories along the root of the output are outside the part of a stage. -/
abbrev Spares (stage : Stage) (t t' : FileTree) : Prop :=
  Changes (c.layout.root.Along t.workingDirectory)
    (fun place => ¬ c.stagePart name stage t.workingDirectory <+: place) t t'

variable {c name text} {stage other : Stage} {t t' t'' : FileTree}

theorem Spares.untouched (h : c.Spares name stage t t') : c.Untouched name stage t t' := by
  intro place hpart
  rcases h.place place with hsame | hmade | hother
  · exact .inl hsame
  · exact .inr hmade
  · exact absurd hpart hother

theorem Spares.trans (h : c.Spares name stage t t') (h' : c.Spares name stage t' t'') :
    c.Spares name stage t t'' := by
  unfold Spares at h'
  rw [h.grows.workingDirectory] at h'
  exact Changes.trans h h'

theorem below_stagePath (stage : Stage) :
    c.layout.root.Below (c.stagePath name stage) (c.stageEntries name stage) := by
  cases stage with
  | artifact a => exact c.below_path name a
  | screenshots => exact c.below_screenshots name

/-- No two stages have one part. -/
theorem eq_of_stageEntries (h : (c.stageEntries name stage).take 1 =
    (c.stageEntries name other).take 1) : stage = other := by
  -- only the name of the skeleton depends on the example, and it has a point
  have hzig : '.' ∈ (name.text ++ ".zig").toList := by
    rw [String.toList_append]
    exact List.mem_append_right _ (by decide)
  have hdirectory : ∀ directory : List Char, '.' ∉ directory → (name.text ++ ".zig").toList ≠ directory := by
    rintro directory hdot rfl
    exact hdot hzig
  rcases stage with (_ | _ | _) | _ <;> rcases other with (_ | _ | _) | _ <;>
    simp only [stageEntries, entries, List.take_succ_cons, List.take_zero, List.cons.injEq, and_true] at h
  all_goals first
    | rfl
    | exact absurd h (by decide)
    | exact absurd h (hdirectory _ (by decide))
    | exact absurd h.symm (hdirectory _ (by decide))

theorem not_stagePart (hne : stage ≠ other)
    {rest : List (List Char)} (hrest : rest <+: c.stageEntries name stage) (wd : Location) :
    ¬ c.stagePart name other wd <+: c.layout.root.place wd ++ rest := by
  intro hpart
  have hfront : (c.stageEntries name other).take 1 <+: c.stageEntries name stage :=
    (List.prefix_append_right_inj _ |>.1 hpart).trans hrest
  have hlength : ((c.stageEntries name other).take 1).length = 1 := by
    rcases other with (_ | _ | _) | _ <;> rfl
  have htake := List.prefix_iff_eq_take.1 hfront
  rw [hlength] at htake
  exact hne (eq_of_stageEntries htake.symm)

/-! ## One stage -/

theorem changes_produce {result : Except Failure Unit}
    (h : (c.produce name text stage).run.run t = (result, t')) :
    Changes ((c.stagePath name stage).Along t.workingDirectory)
      (· = (c.stagePath name stage).place t.workingDirectory) t t' ∧
      (result = .ok () → c.Done name text stage t') := by
  cases stage with
  | artifact a =>
    have habove {place} (hplace : Path.PlaceOf (c.path name a).ancestors t.workingDirectory place) :
        (c.path name a).Along t.workingDirectory place :=
      (hplace.mono (List.subset_cons_self ..)).along
    rcases FileAction.changes_writeText h with ⟨⟨failure, rfl⟩, hmakes⟩ | ⟨-, hchanges, hfind⟩
    · exact ⟨hmakes.mono (fun _ => habove) fun _ => False.elim, fun hok => nomatch hok⟩
    · exact ⟨hchanges.mono (fun _ => habove) fun _ => id, fun _ => hfind⟩
  | screenshots =>
    obtain ⟨hmakes, hfound⟩ := FileAction.makes_ensureDirectory h
    refine ⟨hmakes.mono (fun _ hplace => hplace.along) fun _ => False.elim, fun hok => hfound hok ?_⟩
    exact (c.below_screenshots name).chars_ne_nil (by simp)

/-- **A stage `Spares` the parts of all others**, whether it succeeds or fails. -/
theorem spares_produce (hne : stage ≠ other) {result : Except Failure Unit}
    (h : (c.produce name text stage).run.run t = (result, t')) : c.Spares name other t t' := by
  obtain ⟨hchanges, -⟩ := changes_produce h
  have hbelow : c.layout.root.Below (c.stagePath name stage) (c.stageEntries name stage) :=
    below_stagePath stage
  refine ⟨hchanges.grows, hchanges.closed, fun place => ?_⟩
  rcases hchanges.place place with hsame | ⟨hnone, hdirectory, q, hq, rfl⟩ | rfl
  · exact .inl hsame
  -- a directory on the way lies above the root, or in the part of the stage itself
  · rcases hbelow.place_above hq t.workingDirectory with habove | ⟨rest, hrest, hplace⟩
    · exact .inr (.inl ⟨hnone, hdirectory, q, habove, rfl⟩)
    · rw [hplace]
      exact .inr (.inr (not_stagePart hne hrest _))
  · rw [hbelow.place]
    exact .inr (.inr (not_stagePart hne List.prefix_rfl _))

theorem Done.of_spares (h : c.Spares name stage t t') (hdone : c.Done name text stage t) :
    c.Done name text stage t' := by
  obtain ⟨hlocate, hplace⟩ := FileTree.exists_locate_of_find? hdone
  have hpart : c.stagePart name stage t.workingDirectory <+:
      (c.stagePath name stage).place t.workingDirectory := by
    rw [(below_stagePath stage).place, stagePart, List.prefix_append_right_inj]
    exact List.take_prefix _ _
  rw [Done, FileTree.find?, h.grows.locate hlocate]
  show t'.get? _ = _
  -- the output is there, so no directory can have been made in its place
  rcases h.untouched _ hpart with hsame | ⟨hnone, -, -⟩
  · rw [hsame, hplace]
  · rw [hnone] at hplace
    cases hplace

/-! ## Sequences of stages -/

variable {stages : List Stage} {result : Except Failure Unit}

theorem spares_forM (hother : other ∉ stages)
    (h : (stages.forM (c.produce name text)).run.run t = (result, t')) :
    c.Spares name other t t' := by
  induction stages generalizing t with
  | nil =>
    cases h
    exact .refl _
  | cons stage stages ih =>
    obtain ⟨hne, hmore⟩ := not_or.1 fun hmem => hother (List.mem_cons.2 hmem)
    rw [FileAction.run_forM_cons] at h
    rcases hrun : (c.produce name text stage).run.run t with ⟨failure | u, t₁⟩
    · rw [hrun] at h
      cases h
      exact spares_produce (Ne.symm hne) hrun
    · rw [hrun] at h
      exact (spares_produce (Ne.symm hne) hrun).trans (ih hmore h)

/-- Stages that succeed are `Done` at the end, in whatever order they are gone through. -/
theorem done_forM (hdistinct : stages.Nodup)
    (h : (stages.forM (c.produce name text)).run.run t = (.ok (), t')) :
    ∀ stage ∈ stages, c.Done name text stage t' := by
  induction stages generalizing t with
  | nil => simp
  | cons first stages ih =>
    obtain ⟨hfirst, hmore⟩ := List.nodup_cons.1 hdistinct
    rw [FileAction.run_forM_cons] at h
    rcases hrun : (c.produce name text first).run.run t with ⟨failure | u, t₁⟩
    · rw [hrun] at h
      cases h
    · rw [hrun] at h
      intro stage hstage
      rcases List.mem_cons.1 hstage with rfl | hstage
      · exact ((changes_produce hrun).2 rfl).of_spares (spares_forM hfirst h)
      · exact ih hmore h stage hstage

/-- **Where a sequence of stages fails**, those before are `Done` and those after are
`Untouched`. -/
theorem done_and_untouched_of_forM_error (hdistinct : stages.Nodup) {failure : Failure}
    (h : (stages.forM (c.produce name text)).run.run t = (.error failure, t')) :
    ∃ before failed after u, stages = before ++ failed :: after ∧
      (before.forM (c.produce name text)).run.run t = (.ok (), u) ∧
      (c.produce name text failed).run.run u = (.error failure, t') ∧
      (∀ stage ∈ before, c.Done name text stage t') ∧ ∀ stage ∈ after, c.Untouched name stage t t' := by
  obtain ⟨before, failed, after, u, rfl, hbefore, hfailed⟩ := FileAction.exists_of_forM_error h
  obtain ⟨hdistinctBefore, hdistinctAfter, hapart⟩ := List.nodup_append.1 hdistinct
  refine ⟨before, failed, after, u, rfl, hbefore, hfailed, fun stage hstage => ?_, fun stage hstage => ?_⟩
  · have hne : failed ≠ stage := fun heq => hapart stage hstage failed List.mem_cons_self heq.symm
    exact (done_forM hdistinctBefore hbefore stage hstage).of_spares (spares_produce hne hfailed)
  · have hne : failed ≠ stage := fun heq => (List.nodup_cons.1 hdistinctAfter).1 (heq ▸ hstage)
    have hnot : stage ∉ before := fun hmem => hapart stage hmem stage (List.mem_cons_of_mem _ hstage) rfl
    exact ((spares_forM hnot hbefore).trans (spares_produce hne hfailed)).untouched

/-! ## Conversions -/

section Conversions

variable (c : Converter) (name : ExampleName) (text : String)

/-- What a stage adds to the log. -/
def stageLog : Stage → List LogLine
  | .artifact .skeleton => [⟨.info, "Generated " ++ (c.path name .skeleton).quoted⟩]
  | .artifact .reference => [⟨.debug, "Saved original source to " ++ (c.path name .reference).quoted⟩]
  | .artifact .report => [⟨.info, "Generated report " ++ (c.path name .report).quoted⟩]
  | .screenshots => [⟨.debug, "Screenshot directory ready at " ++ (c.layout.screenshots name.text).quoted⟩]

/-- What becomes of the font when copying it has a result. -/
def fontStatus (copied : Except Failure Unit) : FontStatus :=
  match copied with
  | .ok _ => .copied c.fontTarget
  | .error _ => .missing c.fontSource c.fontTarget

/-- What a conversion gives for an example. -/
def outcomeOf (a : Analysis) (font : FontStatus) : Outcome :=
  ⟨name, a, c.path name .skeleton, c.path name .reference, c.path name .report,
    c.layout.screenshots name.text, font⟩

variable {c name text} {s s' : Session}

/-- `store` goes through all stages, and then the font is copied. -/
theorem store_eq (a : Analysis) :
    c.store name text a ⟨c.skeletonOf name text, c.reportOf name text⟩ =
    (Stage.all.forM fun stage => do
        Run.act (c.produce name text stage)
        Run.say (c.stageLog name stage)) >>= fun _ => do
      let font ← c.copyFont
      return c.outcomeOf name a font := by
  have hforM : ∀ f : Stage → Run Unit, Stage.all.forM f = (do
      f (.artifact .skeleton); f (.artifact .reference); f (.artifact .report); f .screenshots
      pure ()) := fun f => rfl
  rw [store, fileName_skeletonOf, fileName_reportOf, hforM]
  simp only [bind_assoc, pure_bind]
  rfl

/-- Lines of the log between actions change nothing else. -/
theorem run_forM_act {ι : Type} (action : ι → FileAction Unit) (lines : ι → List LogLine)
    (l : List ι) (s : Session) :
    ∃ log, (l.forM fun i => do Run.act (action i); Run.say (lines i)).run.run s =
      (((l.forM action).run.run s.files).1,
        { s with files := ((l.forM action).run.run s.files).2, log := log }) := by
  induction l generalizing s with
  | nil => exact ⟨s.log, rfl⟩
  | cons i l ih =>
    rw [FileAction.run_forM_cons, FileAction.run_forM_cons, FileAction.run_bind, run_act]
    rcases hrun : (action i).run.run s.files with ⟨failure | u, t⟩
    · exact ⟨s.log, rfl⟩
    · exact ih { s with files := t, log := s.log ++ lines i }

/-- `copyFont` never fails; its status says whether the file could be copied. -/
theorem run_copyFont (s : Session) : ∃ log, c.copyFont.run.run s =
    (.ok (c.fontStatus ((FileAction.copyFile c.fontSource c.fontTarget).run.run s.files).1),
      { s with
        files := ((FileAction.copyFile c.fontSource c.fontTarget).run.run s.files).2, log }) := by
  rw [copyFont, FileAction.run_bind, ExceptT.run_tryCatch, StateT.run_bind]
  rw [FileAction.run_bind, run_act]
  rcases hrun : (FileAction.copyFile c.fontSource c.fontTarget).run.run s.files with ⟨failure | u, t⟩
  · exact ⟨_, rfl⟩
  · exact ⟨_, rfl⟩

variable (c name text) in
/-- `store` ends where its stages fail, or with the font after all of them. -/
theorem run_store (a : Analysis) (s : Session) :
    match (Stage.all.forM (c.produce name text)).run.run s.files with
    | (.error failure, t) =>
      ∃ log, (c.store name text a ⟨c.skeletonOf name text, c.reportOf name text⟩).run.run s =
        (.error failure, { s with files := t, log := log })
    | (.ok _, t) => ∃ log, (c.store name text a ⟨c.skeletonOf name text, c.reportOf name text⟩).run.run s =
        (.ok (c.outcomeOf name a
            (c.fontStatus ((FileAction.copyFile c.fontSource c.fontTarget).run.run t).1)),
          { s with
            files := ((FileAction.copyFile c.fontSource c.fontTarget).run.run t).2, log := log }) := by
  obtain ⟨log, hstages⟩ := run_forM_act (c.produce name text) (c.stageLog name) Stage.all s
  rcases hrun : (Stage.all.forM (c.produce name text)).run.run s.files with ⟨failure | u, t⟩
  · rw [hrun] at hstages
    refine ⟨log, ?_⟩
    rw [store_eq, FileAction.run_bind, hstages]
  · rw [hrun] at hstages
    obtain ⟨log', hfont⟩ := run_copyFont (c := c) { s with files := t, log := log }
    refine ⟨log', ?_⟩
    rw [store_eq, FileAction.run_bind, hstages]
    simp only
    rw [FileAction.run_bind, hfont]
    rfl

theorem run_say_bind {β : Type} (lines : List LogLine) (f : Unit → Run β) (s : Session) :
    (Run.say lines >>= f).run.run s = (f ()).run.run { s with log := s.log ++ lines } := rfl

theorem run_request_bind {α β : Type} (context : String) (reply : Reply α) (f : α → Run β) (s : Session) :
    (Run.request context reply >>= f).run.run s = match reply.result with
      | .error e =>
        (.error ⟨[context], .source e⟩, { s with log := s.log ++ reply.log, requests := s.requests + 1 })
      | .ok a => (f a).run.run { s with log := s.log ++ reply.log, requests := s.requests + 1 } := by
  rw [Run.request, bind_assoc, FileAction.run_bind]
  cases hresult : reply.result <;> rfl

/-- What a conversion does with the source that it has fetched. -/
def proceed (c : Converter) (name : ExampleName) (text : String) : Run Outcome := do
  Run.say [⟨.info, "Analyzing " ++ toString text.utf8ByteSize ++ " bytes of Rust code..."⟩]
  Run.say (Catalog.builtin.analysisLog text ++ findings (ZapUi.analysisOf name.text text))
  let d ← c.documents name text (ZapUi.analysisOf name.text text)
  c.store name text (ZapUi.analysisOf name.text text) d

variable {raw : String}

theorem run_convert_of_misnamed {failure : Failure} (h : ExampleName.read raw = .error failure) :
    (c.convert raw).run.run s = (.error failure, s) := by
  rw [convert, h]
  rfl

theorem convert_of_named (h : ExampleName.read raw = .ok name) : c.convert raw = (do
    Run.say [⟨.info, "Fetching GPUI example: " ++ name.text⟩]
    let text ← Run.request ("Could not fetch example: " ++ name.text) (c.source.fetch name.text)
    c.proceed name text) := by
  rw [convert, h]
  rfl

/-- A conversion asks for its example once, before anything else. -/
theorem run_convert_of_named (h : ExampleName.read raw = .ok name) : ∃ log, (c.convert raw).run.run s =
    match (c.source.fetch name.text).result with
    | .error e =>
      (.error ⟨["Could not fetch example: " ++ name.text], .source e⟩,
        { s with log := log, requests := s.requests + 1 })
    | .ok text => (c.proceed name text).run.run { s with log := log, requests := s.requests + 1 } := by
  refine ⟨s.log ++ [⟨.info, "Fetching GPUI example: " ++ name.text⟩] ++ (c.source.fetch name.text).log, ?_⟩
  rw [convert_of_named h, run_say_bind, run_request_bind]
  cases (c.source.fetch name.text).result <;> rfl

variable (c name text) in
/-- There are both `documents` before anything is stored. -/
theorem run_proceed (s : Session) : ∃ s₁ : Session, s₁.files = s.files ∧ s₁.requests = s.requests ∧
    (c.documents name text (ZapUi.analysisOf name.text text)).run.run s₁ =
      (.ok ⟨c.skeletonOf name text, c.reportOf name text⟩, s₁) ∧
    (c.proceed name text).run.run s =
      (c.store name text (ZapUi.analysisOf name.text text)
        ⟨c.skeletonOf name text, c.reportOf name text⟩).run.run s₁ := by
  rw [proceed, run_say_bind, run_say_bind, documents_eq, pure_bind]
  refine ⟨_, ?_, ?_, ?_, rfl⟩ <;> rfl

end Conversions

/-- How storing an example ends, as its stages do. Where one fails, the conversion fails with it:
the outputs of those before are there with their final content, and the parts of those after are
untouched. If none fails, the conversion succeeds, whatever comes of the font. -/
def EndsCleanly (c : Converter) (name : ExampleName) (text : String) (t : FileTree)
    (result : Except Failure Outcome) (t' : FileTree) : Prop :=
  match (Stage.all.forM (c.produce name text)).run.run t with
  | (.error failure, u) =>
    result = .error failure ∧ t' = u ∧ ∃ before failed after v, Stage.all = before ++ failed :: after ∧
      (before.forM (c.produce name text)).run.run t = (.ok (), v) ∧
      (c.produce name text failed).run.run v = (.error failure, u) ∧
      (∀ stage ∈ before, c.Done name text stage u) ∧ ∀ stage ∈ after, c.Untouched name stage t u
  | (.ok _, u) =>
    let copying := (FileAction.copyFile c.fontSource c.fontTarget).run.run u
    result = .ok (c.outcomeOf name (ZapUi.analysisOf name.text text) (c.fontStatus copying.1)) ∧
      t' = copying.2 ∧ ∀ stage, c.Done name text stage t'

theorem endsCleanly_of_store {c : Converter} {name : ExampleName} {text : String} {s s' : Session}
    {result : Except Failure Outcome} (hfetch : (c.source.fetch name.text).result = .ok text)
    (h : (c.store name text (ZapUi.analysisOf name.text text)
      ⟨c.skeletonOf name text, c.reportOf name text⟩).run.run s = (result, s')) :
    s'.requests = s.requests ∧ c.EndsCleanly name text s.files result s'.files := by
  have hstore := run_store c name text (ZapUi.analysisOf name.text text) s
  have hkeeps : (c.bounds s.files.workingDirectory fun _ => True).Keeps Session.files
      (c.store name text (ZapUi.analysisOf name.text text)
        ⟨c.skeletonOf name text, c.reportOf name text⟩) _ :=
    keeps_store trivial hfetch _
  obtain ⟨-, hstored⟩ := hkeeps s rfl
  rw [h] at hstore hstored
  unfold EndsCleanly
  rcases hstages : (Stage.all.forM (c.produce name text)).run.run s.files with ⟨failure | u, t⟩
  · rw [hstages] at hstore
    obtain ⟨log, hend⟩ := hstore
    obtain ⟨rfl, rfl⟩ := Prod.mk.inj hend
    exact ⟨rfl, rfl, rfl, done_and_untouched_of_forM_error (by decide) hstages⟩
  · rw [hstages] at hstore
    obtain ⟨log, hend⟩ := hstore
    obtain ⟨rfl, rfl⟩ := Prod.mk.inj hend
    -- that the font spares the outputs too is part of the bounds of a successful run
    obtain ⟨hartifact, hscreenshots⟩ := hstored _ rfl
    refine ⟨rfl, rfl, rfl, fun stage => ?_⟩
    cases stage with
    | artifact a => exact hartifact a
    | screenshots => exact hscreenshots

/-- **A conversion that fails leaves nothing half done but the stage that failed.** A text that
`ExampleName.read` refuses changes nothing, a name costs one request, and a request that fails
changes no file. Otherwise there are both `documents` before any file is touched, and then
`EndsCleanly` holds. -/
theorem convert_endsCleanly (c : Converter) (raw : String) (s : Session) :
    let (result, s') := (c.convert raw).run.run s
    match ExampleName.read raw with
    | .error failure => result = .error failure ∧ s' = s
    | .ok name => s'.requests = s.requests + 1 ∧
      match (c.source.fetch name.text).result with
      | .error e =>
        result = .error ⟨["Could not fetch example: " ++ name.text], .source e⟩ ∧ s'.files = s.files
      | .ok text => (∃ s₁ documents, s₁.files = s.files ∧
          (c.documents name text (ZapUi.analysisOf name.text text)).run.run s₁ = (.ok documents, s₁) ∧
          (c.store name text (ZapUi.analysisOf name.text text) documents).run.run s₁ = (result, s')) ∧
        c.EndsCleanly name text s.files result s'.files := by
  rcases hrun : (c.convert raw).run.run s with ⟨result, s'⟩
  simp only
  cases hread : ExampleName.read raw with
  | error failure =>
    obtain ⟨rfl, rfl⟩ := Prod.mk.inj (hrun.symm.trans (run_convert_of_misnamed hread))
    exact ⟨rfl, rfl⟩
  | ok name =>
    obtain ⟨log, hnamed⟩ := run_convert_of_named (c := c) (s := s) hread
    rw [hrun] at hnamed
    simp only
    cases hfetch : (c.source.fetch name.text).result with
    | error e =>
      rw [hfetch] at hnamed
      obtain ⟨rfl, rfl⟩ := Prod.mk.inj hnamed
      exact ⟨rfl, rfl, rfl⟩
    | ok text =>
      rw [hfetch] at hnamed
      obtain ⟨s₁, hfiles, hrequests, hdocuments, hproceed⟩ :=
        run_proceed c name text { s with log := log, requests := s.requests + 1 }
      have hstore := (hnamed.trans hproceed).symm
      obtain ⟨hsame, hends⟩ := endsCleanly_of_store hfetch hstore
      rw [hfiles] at hends
      exact ⟨hsame.trans hrequests, ⟨s₁, _, hfiles, hdocuments, hstore⟩, hends⟩

/-- A root of the output that is spelled by a detour through the directory for the pictures of an
example. -/
def detour : Converter :=
  ⟨{ examplesUrl := "http://a", listingUrl := "http://a", outputDir := "screenshots/a/../.." },
    (StoredExamples.mk true [("a", "x")]).source⟩

def detourExample : ExampleName := ⟨"a", by decide, List.all_eq_true.1 (by decide)⟩

/-- A tree with a directory where the skeleton of the example should be. -/
def blockedTree : FileTree := (FileTree.empty []).put ["a.zig".toList] .directory

/-- The `detour` makes the directory for pictures on the way to the root, although the skeleton
cannot be written. -/
theorem screenshots_made_on_detour : detour.config.validate.toOption.isSome = true ∧
    (detour.layout.screenshots detourExample.text).place [] = ["screenshots".toList, "a".toList] ∧
    blockedTree.get? ["screenshots".toList, "a".toList] = none ∧
    ∃ failure s', (detour.convert "a").run.run (.start blockedTree) = (.error failure, s') ∧
      (detour.produce detourExample "x" (.artifact .skeleton)).run.run blockedTree =
        (.error failure, s'.files) ∧
      s'.files.get? ["screenshots".toList, "a".toList] = some .directory := by
  refine ⟨by decide +kernel, by decide, by decide, ?_⟩
  obtain ⟨failure, t, hskeleton, hmade⟩ : ∃ failure t,
      (detour.produce detourExample "x" (.artifact .skeleton)).run.run blockedTree = (.error failure, t) ∧
        t.get? ["screenshots".toList, "a".toList] = some .directory := ⟨_, _, rfl, rfl⟩
  have hstages : (Stage.all.forM (detour.produce detourExample "x")).run.run blockedTree =
      (.error failure, t) := by
    rw [Stage.all, FileAction.run_forM_cons, hskeleton]
  have hread : ExampleName.read "a" = .ok detourExample := rfl
  have hfetch : (detour.source.fetch detourExample.text).result = .ok "x" := rfl
  obtain ⟨log, hnamed⟩ := run_convert_of_named (c := detour) (s := .start blockedTree) hread
  rw [hfetch] at hnamed
  obtain ⟨s₁, hfiles, -, -, hproceed⟩ := run_proceed detour detourExample "x" ⟨blockedTree, log, 1⟩
  have hstore := run_store detour detourExample "x" (ZapUi.analysisOf detourExample.text "x") s₁
  rw [hfiles, hstages] at hstore
  obtain ⟨log', hstore⟩ := hstore
  exact ⟨failure, _, (hnamed.trans hproceed).trans hstore, hskeleton, hmade⟩

end Converter
end UiSkeleton
