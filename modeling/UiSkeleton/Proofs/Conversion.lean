/-
What conversions do to the files. An example has three artifacts, at places that no other artifact
of any example has, and the font lies at none of them. So the bounds of a sequence of conversions
allow one content for each of these places, every conversion stays within them, and what it stored
is there at the end, whatever was converted before and after it and wherever conversions failed.
-/
import UiSkeleton.Conversion
import UiSkeleton.Proofs.FileTree.Bounds
import UiSkeleton.Proofs.OutputLayout
import UiSkeleton.Proofs.Report.Data
import UiSkeleton.Proofs.Skeleton.Data

namespace UiSkeleton

/-- The files that a conversion writes for an example. -/
inductive Artifact where
  | skeleton
  | reference
  | report
  deriving DecidableEq, Repr

namespace Converter

variable (c : Converter) (name : ExampleName) (text : String)

/-- Where an artifact is stored. -/
def path : Artifact → Path
  | .skeleton => c.layout.skeleton (name.text ++ ".zig")
  | .reference => c.layout.reference name.text
  | .report => c.layout.report (name.text ++ ("." ++ c.config.reportFormat.extension))

/-- The names that lead to an artifact from the root of the output. -/
def entries : Artifact → List (List Char)
  | .skeleton => [(name.text ++ ".zig").toList]
  | .reference => ["reference".toList, (name.text ++ ".rs").toList]
  | .report => ["reports".toList, (name.text ++ ("." ++ c.config.reportFormat.extension)).toList]

/-- The skeleton of an example. -/
def skeletonOf : SkeletonDocument :=
  ⟨name.text, "zig", String.ofList (zapTemplate.fill .raw
    (c.generator.data name.text text (ZapUi.analysisOf name.text text)))⟩

/-- The report on an example. -/
def reportOf : ReportDocument :=
  ⟨name.text, c.config.reportFormat,
    String.ofList (c.config.reportFormat.template.fill c.config.reportFormat.escaping
    (ReportFormat.data name.text text (c.skeletonOf name text) (ZapUi.analysisOf name.text text)))⟩

/-- What an artifact holds. -/
def content : Artifact → String
  | .skeleton => (c.skeletonOf name text).content
  | .reference => text
  | .report => (c.reportOf name text).content

theorem generate_skeletonOf :
    c.generator.generate name.text text (ZapUi.analysisOf name.text text) = .ok (c.skeletonOf name text) :=
  ZapUi.generate_eq name.text text c.fontAsset _

theorem generate_reportOf : c.config.reportFormat.generate name.text text (c.skeletonOf name text)
    (ZapUi.analysisOf name.text text) = .ok (c.reportOf name text) :=
  ReportFormat.generate_eq ..

theorem fileName_skeletonOf : (c.skeletonOf name text).fileName = name.text ++ ".zig" := String.append_assoc

theorem fileName_reportOf :
    (c.reportOf name text).fileName = name.text ++ ("." ++ c.config.reportFormat.extension) :=
      String.append_assoc

/-! ## Places -/

theorem isEntry_directory : Path.IsEntry "reference".toList ∧ Path.IsEntry "reports".toList ∧
    Path.IsEntry "screenshots".toList ∧ Path.IsEntry "assets".toList := by
  refine ⟨?_, ?_, ?_, ?_⟩ <;> exact ⟨by decide, by decide, by decide⟩

theorem below_path (a : Artifact) : c.layout.root.Below (c.path name a) (c.entries name a) := by
  obtain ⟨hreference, hreports, -, -⟩ := isEntry_directory
  cases a with
  | skeleton => exact (Path.Below.refl _).join (name.isEntry_append (by decide))
  | reference => exact ((Path.Below.refl _).join hreference).join (name.isEntry_append (by decide))
  | report =>
    refine ((Path.Below.refl _).join hreports).join (name.isEntry_append ?_)
    cases c.config.reportFormat <;> decide

theorem below_screenshots : c.layout.root.Below (c.layout.screenshots name.text)
    ["screenshots".toList, name.text.toList] := by
  have hname : Path.IsEntry (name.text ++ "").toList := name.isEntry_append (by decide)
  rw [String.append_empty] at hname
  exact ((Path.Below.refl _).join isEntry_directory.2.2.1).join hname

theorem below_fontTarget : ∃ font, c.layout.root.Below c.fontTarget ["assets".toList, font] := by
  refine ⟨_, ((Path.Below.refl _).join isEntry_directory.2.2.2).join ?_⟩
  cases h : c.fontSource.fileName? with
  | none => exact ⟨by decide, by decide, by decide⟩
  | some font => exact Path.isEntry_of_fileName? h

/-- No two artifacts have one place. -/
theorem eq_of_entries {name' : ExampleName} {a a' : Artifact} (h : c.entries name a = c.entries name' a') :
    a = a' ∧ name = name' := by
  have same : ∀ {ending : String}, (name.text ++ ending).toList = (name'.text ++ ending).toList →
      name = name' := by
    intro ending h
    rw [String.toList_append, String.toList_append, List.append_left_inj, String.toList_inj] at h
    cases name
    cases name'
    cases h
    rfl
  cases a <;> cases a' <;> simp only [entries, List.cons.injEq, and_true, reduceCtorEq, and_false] at h
  · exact ⟨rfl, same h⟩
  · exact ⟨rfl, same h.2⟩
  · exact absurd h.1 (by decide)
  · exact absurd h.1 (by decide)
  · exact ⟨rfl, same h.2⟩

/-! ## Bounds -/

variable (wd : Location) (requested : ExampleName → Prop)

/-- What conversions of the requested examples may do to the files: add the directories along the
root of the output and anything below it, write the artifacts, and put the font at its place. -/
def bounds : Bounds where
  start := wd
  made place := (∃ q : Path, q.Above c.layout.root ∧ place = q.place wd) ∨ c.layout.root.place wd <+: place
  wrote place bytes := place = c.fontTarget.place wd ∨ ∃ name text a, requested name ∧
    (c.source.fetch name.text).result = .ok text ∧ place = (c.path name a).place wd ∧
    bytes = Text.toBytes (c.content name text a)

variable {c name text wd requested}

theorem madeAlong {p : Path} {entries : List (List Char)} (h : c.layout.root.Below p entries) :
    (c.bounds wd requested).MadeAlong p := by
  intro q hq
  rcases h.place_above hq wd with habove | ⟨rest, -, hplace⟩
  · exact .inl ⟨q, habove, rfl⟩
  · exact .inr ⟨rest, hplace.symm⟩

theorem eq_of_wrote (hsource : (c.source.fetch name.text).result = .ok text) {a : Artifact}
    {bytes : List UInt8} (h : (c.bounds wd requested).wrote ((c.path name a).place wd) bytes) :
    bytes = Text.toBytes (c.content name text a) := by
  rcases h with hfont | ⟨name', text', a', -, hsource', hplace, rfl⟩
  · obtain ⟨font, hbelow⟩ := c.below_fontTarget
    rw [(c.below_path name a).place, hbelow.place, List.append_right_inj] at hfont
    have hfirst := congrArg List.head? hfont
    have hlength := congrArg List.length hfont
    cases a with
    | skeleton => simp [entries] at hlength
    | reference => exact absurd (Option.some.inj hfirst) (by decide)
    | report => exact absurd (Option.some.inj hfirst) (by decide)
  · rw [(c.below_path name a).place, (c.below_path name' a').place, List.append_right_inj] at hplace
    obtain ⟨rfl, rfl⟩ := c.eq_of_entries name hplace
    rw [hsource] at hsource'
    cases hsource'
    rfl

/-- What is stored of an example. -/
structure Stored (c : Converter) (name : ExampleName) (text : String) (t : FileTree) : Prop where
  artifact : ∀ a, t.find? (c.path name a) = some (.file (Text.toBytes (c.content name text a)))
  screenshots : t.find? (c.layout.screenshots name.text) = some .directory

theorem stable_artifact (hsource : (c.source.fetch name.text).result = .ok text) (a : Artifact) :
    (c.bounds wd requested).Stable fun t =>
      t.find? (c.path name a) = some (.file (Text.toBytes (c.content name text a))) :=
  Bounds.stable_file fun _ h => eq_of_wrote hsource h

theorem stable_stored (hsource : (c.source.fetch name.text).result = .ok text) :
    (c.bounds wd requested).Stable (c.Stored name text) := fun hstart h hstored =>
  ⟨fun a => stable_artifact hsource a hstart h (hstored.artifact a),
    Bounds.stable_directory _ hstart h hstored.screenshots⟩

/-! ## Runs -/

section Runs

variable {b : Bounds} {α β : Type} {Q : β → FileTree → Prop}

theorem keeps_say (lines : List LogLine) : b.Keeps Session.files (Run.say lines) fun _ _ => True :=
  Bounds.keeps_modify fun _ => rfl

theorem run_act (action : FileAction α) (s : Session) : (Run.act action).run.run s =
    ((action.run.run s.files).1, { s with files := (action.run.run s.files).2 }) := rfl

theorem keeps_act {action : FileAction α} {P : α → FileTree → Prop} (h : b.Keeps id action P) :
    b.Keeps Session.files (Run.act action) P := by
  intro s hs
  rw [run_act]
  exact h s.files hs

theorem keeps_lift {result : Except Failure α} {f : α → Run β}
    (h : ∀ a, result = .ok a → b.Keeps Session.files (f a) Q) :
    b.Keeps Session.files (liftM result >>= f) Q := by
  cases result with
  | error e => exact fun _ _ => ⟨Bounds.Evolves.refl _, fun _ hc => nomatch hc⟩
  | ok a => exact h a rfl

theorem keeps_request {context : String} {reply : Reply α} {f : α → Run β}
    (h : ∀ a, reply.result = .ok a → b.Keeps Session.files (f a) Q) :
    b.Keeps Session.files (Run.request context reply >>= f) Q := by
  rw [Run.request, bind_assoc]
  refine Bounds.Keeps.next (Bounds.keeps_modify ?_) fun _ => ?_
  · exact fun _ => rfl
  · cases hreply : reply.result with
    | error e => exact fun _ _ => ⟨Bounds.Evolves.refl _, fun _ hc => nomatch hc⟩
    | ok a => exact h a hreply

end Runs

theorem documents_eq : c.documents name text (ZapUi.analysisOf name.text text) =
    pure ⟨c.skeletonOf name text, c.reportOf name text⟩ := by
  rw [documents, generate_skeletonOf]
  show (Run.document _ (c.config.reportFormat.generate name.text text (c.skeletonOf name text) _) >>= _) = _
  rw [generate_reportOf]
  rfl

theorem keeps_copyFont : (c.bounds wd requested).Keeps Session.files c.copyFont fun _ _ => True := by
  obtain ⟨font, hbelow⟩ := c.below_fontTarget
  have hcopy : (c.bounds wd requested).Keeps id (FileAction.copyFile c.fontSource c.fontTarget)
      fun _ _ => True :=
    Bounds.keeps_copyFile (madeAlong hbelow) fun _ => .inl rfl
  refine Bounds.Keeps.next (Bounds.Keeps.catch ?_ fun f => ?_) fun status => ?_
  · refine (keeps_act hcopy).next fun _ => ?_
    exact (keeps_say _).next fun _ => Bounds.keeps_pure fun _ => trivial
  · exact (keeps_say _).next fun _ => Bounds.keeps_pure fun _ => trivial
  · cases status <;> exact Bounds.keeps_pure fun _ => trivial

/-- `store` stays within the `bounds`, and its files are `Stored` if it succeeds. -/
theorem keeps_store (hrequested : requested name)
    (hsource : (c.source.fetch name.text).result = .ok text) (a : Analysis) :
    (c.bounds wd requested).Keeps Session.files
      (c.store name text a ⟨c.skeletonOf name text, c.reportOf name text⟩) fun _ t =>
        c.Stored name text t := by
  have write : ∀ artifact, (c.bounds wd requested).Keeps Session.files
      (Run.act (FileAction.writeText (c.path name artifact) (c.content name text artifact))) fun _ t =>
        t.find? (c.path name artifact) =
          some (.file (Text.toBytes (c.content name text artifact))) := fun artifact =>
    keeps_act (Bounds.keeps_writeText (madeAlong (c.below_path name artifact))
      (.inr ⟨name, text, artifact, hrequested, hsource, rfl, rfl⟩))
  have screenshots : (c.bounds wd requested).Keeps Session.files
      (Run.act (FileAction.ensureDirectory (c.layout.screenshots name.text))) fun _ t =>
        t.find? (c.layout.screenshots name.text) = some .directory := by
    have hbelow := c.below_screenshots name
    exact (keeps_act (Bounds.keeps_ensureDirectory (madeAlong hbelow))).mono fun _ t h =>
      h (hbelow.chars_ne_nil (by simp))
  rw [store, fileName_skeletonOf, fileName_reportOf]
  refine (write .skeleton).bind (fun _ => stable_artifact hsource _) fun _ => (keeps_say _).next fun _ => ?_
  refine (write .reference).bind (fun _ => stable_artifact hsource _) fun _ => (keeps_say _).next fun _ => ?_
  refine (write .report).bind (fun _ => stable_artifact hsource _) fun _ => (keeps_say _).next fun _ => ?_
  refine screenshots.bind (fun _ => Bounds.stable_directory _) fun _ => (keeps_say _).next fun _ => ?_
  refine keeps_copyFont.next fun _ => Bounds.keeps_pure fun t hscreenshots hreport hreference hskeleton => ?_
  refine ⟨fun artifact => ?_, hscreenshots⟩
  cases artifact with
  | skeleton => exact hskeleton
  | reference => exact hreference
  | report => exact hreport

/-- A conversion stays within its `bounds`, and its files are `Stored` if it succeeds. -/
theorem keeps_convert {raw : String} (hrequested : ∀ name, ExampleName.read raw = .ok name → requested name) :
    (c.bounds wd requested).Keeps Session.files (c.convert raw) fun _ t => ∃ name text,
      ExampleName.read raw = .ok name ∧ (c.source.fetch name.text).result = .ok text ∧
      c.Stored name text t := by
  refine keeps_lift fun name hread => (keeps_say _).next fun _ => keeps_request fun text hsource => ?_
  refine (keeps_say _).next fun _ => ?_
  simp only
  refine (keeps_say _).next fun _ => ?_
  rw [documents_eq, pure_bind]
  exact (keeps_store (hrequested name hread) hsource _).mono fun _ t h => ⟨name, text, hread, hsource, h⟩

/-! ## Sequences of conversions -/

/-- Converts one example after the other, whether the ones before succeed or fail. -/
def convertAll (c : Converter) : List String → Session → List (Except Failure Outcome) × Session
  | [], s => ([], s)
  | raw :: more, s =>
    let (result, s) := (c.convert raw).run.run s
    let (results, s) := c.convertAll more s
    (result :: results, s)

theorem convertAll_cons {raw : String} {s s' : Session} {result : Except Failure Outcome} (more : List String)
    (h : (c.convert raw).run.run s = (result, s')) :
    c.convertAll (raw :: more) s = (result :: (c.convertAll more s').1, (c.convertAll more s').2) := by
  rw [convertAll, h]

/-- A sequence of conversions stays within its `bounds`, and at its end the files of each of them
that succeeded are `Stored`. -/
theorem evolves_convertAll : ∀ {raws : List String} {s : Session}, s.files.workingDirectory = wd →
    (∀ raw ∈ raws, ∀ name, ExampleName.read raw = .ok name → requested name) →
    (c.bounds wd requested).Evolves s.files (c.convertAll raws s).2.files ∧
      ∀ raw outcome, (raw, .ok outcome) ∈ raws.zip (c.convertAll raws s).1 → ∃ name text,
        ExampleName.read raw = .ok name ∧ (c.source.fetch name.text).result = .ok text ∧
        c.Stored name text (c.convertAll raws s).2.files
  | [], s, _, _ => ⟨Bounds.Evolves.refl _, fun _ _ h => by simp [convertAll] at h⟩
  | raw :: more, s, hwd, hrequested => by
    have hstep : (c.bounds wd requested).Keeps Session.files (c.convert raw) _ :=
      keeps_convert (hrequested raw (by simp))
    obtain ⟨hfirst, hresult⟩ := hstep s hwd
    obtain ⟨result, s', hrun⟩ : ∃ result s', (c.convert raw).run.run s = (result, s') := ⟨_, _, rfl⟩
    rw [convertAll_cons more hrun]
    rw [hrun] at hfirst hresult
    have hwd' : s'.files.workingDirectory = wd := hfirst.workingDirectory.trans hwd
    have hrequested' : ∀ r ∈ more, ∀ name, ExampleName.read r = .ok name → requested name := fun r hr =>
      hrequested r (by simp [hr])
    obtain ⟨hmore, hresults⟩ := evolves_convertAll hwd' hrequested'
    refine ⟨hfirst.trans hmore, fun r outcome h => ?_⟩
    rcases List.mem_cons.1 h with h | h
    · obtain ⟨rfl, hok⟩ := Prod.mk.inj h
      obtain ⟨name, text, hread, hsource, hstored⟩ := hresult outcome hok.symm
      exact ⟨name, text, hread, hsource, stable_stored hsource hwd' hmore hstored⟩
    · exact hresults r outcome h

/-- **No conversion overwrites what another one stored, and none writes outside the root.** After
`convertAll`, every `Outcome` has its four artifacts in the tree, with the generated content; every
other file keeps its bytes, but for `fontTarget`; and whatever is new lies on the way to `outputDir`
or below it. -/
theorem files_convertAll (c : Converter) (raws : List String) (s : Session) :
    let root := Path.ofText c.config.outputDir
    let wd := s.files.workingDirectory
    let (results, s') := c.convertAll raws s
    (∀ raw outcome, (raw, .ok outcome) ∈ raws.zip results → ∃ name text skeleton report,
      ExampleName.read raw = .ok name ∧ (c.source.fetch name.text).result = .ok text ∧
      c.generator.generate name.text text (Catalog.builtin.analyzeExample name.text text) = .ok skeleton ∧
      c.config.reportFormat.generate name.text text skeleton
        (Catalog.builtin.analyzeExample name.text text) = .ok report ∧
      s'.files.find? (root.join (.ofText (name.text ++ ".zig"))) =
        some (.file (Text.toBytes skeleton.content)) ∧
      s'.files.find? ((root.join (.ofText "reference")).join (.ofText (name.text ++ ".rs"))) =
        some (.file (Text.toBytes text)) ∧
      s'.files.find? ((root.join (.ofText "reports")).join
        (.ofText (name.text ++ ("." ++ c.config.reportFormat.extension)))) =
          some (.file (Text.toBytes report.content)) ∧
      s'.files.find? ((root.join (.ofText "screenshots")).join (.ofText name.text)) = some .directory) ∧
    (∀ place bytes, s.files.get? place = some (.file bytes) →
      (∀ raw ∈ raws, ∀ name, ExampleName.read raw = .ok name → ∀ a, place ≠ (c.path name a).place wd) →
      place ≠ c.fontTarget.place wd → s'.files.get? place = some (.file bytes)) ∧
    ∀ place, s.files.get? place = none → (s'.files.get? place).isSome →
      (∃ q : Path, q.Above root ∧ place = q.place wd) ∨ root.place wd <+: place := by
  let requested (name : ExampleName) : Prop := ∃ raw ∈ raws, ExampleName.read raw = .ok name
  have hrequested : ∀ raw ∈ raws, ∀ name, ExampleName.read raw = .ok name → requested name :=
    fun raw hraw _ hread => ⟨raw, hraw, hread⟩
  intro root wd
  obtain ⟨hevolves, hresults⟩ := evolves_convertAll (c := c) (s := s) rfl hrequested
  generalize c.convertAll raws s = ending at hevolves hresults
  obtain ⟨results, s'⟩ := ending
  refine ⟨fun raw outcome h => ?_, fun place bytes hfile hartifact hfont => ?_, fun place => hevolves.new⟩
  · obtain ⟨name, text, hread, hsource, hstored⟩ := hresults raw outcome h
    exact ⟨name, text, _, _, hread, hsource, c.generate_skeletonOf name text, c.generate_reportOf name text,
      hstored.artifact .skeleton, hstored.artifact .reference, hstored.artifact .report, hstored.screenshots⟩
  · obtain ⟨bytes', hfile', rfl | hwrote⟩ := hevolves.file hfile
    · exact hfile'
    · rcases hwrote with h | ⟨name, text, a, ⟨raw, hraw, hread⟩, -, h, -⟩
      · exact absurd h hfont
      · exact absurd h (hartifact raw hraw name hread a)

end Converter
end UiSkeleton
