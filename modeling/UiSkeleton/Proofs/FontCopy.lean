/-
Copying files, and what a run does to its font. A copy empties its target before it reads its
source. Between two places that makes no difference: the target gets what the source holds, and no
other file changes. But a path can lead to the source in a spelling of its own, and then a copy that
succeeds leaves nothing of the file. The font of a run is such a source when it lies among the
assets already.
-/
import UiSkeleton.Proofs.FontPlace

namespace UiSkeleton

namespace FileTree

variable {t t' : FileTree} {p source target : Path} {bytes : List UInt8} {made wrote : Location → Prop}

theorem read_eq_ok_iff : t.read p = .ok bytes ↔ t.find? p = some (.file bytes) := by
  constructor
  · intro h
    obtain ⟨place, hlocate, hread⟩ := bind_eq_ok_iff.1 h
    rw [find?, hlocate]
    cases hplace : t.get? place with
    | none => rw [hplace] at hread; cases hread
    | some entry =>
      rw [hplace] at hread
      cases entry with
      | directory => cases hread
      | file found => cases hread; exact hplace
  · exact read_of_find?

theorem Grows.find? (h : t.Grows t') {entry : FileEntry} (hfind : t.find? p = some entry) :
    t'.find? p = t'.get? (p.place t.workingDirectory) := by
  rw [FileTree.find?, h.locate (exists_locate_of_find? hfind).1]

theorem Changes.find?_file (h : Changes made wrote t t') (hfind : t.find? p = some (.file bytes))
    (hp : ¬ wrote (p.place t.workingDirectory)) : t'.find? p = some (.file bytes) := by
  rw [h.grows.find? hfind]
  exact (h.file (exists_locate_of_find? hfind).2).resolve_right hp

/-- What both paths lead to after a copy of the bytes. -/
def copied (t : FileTree) (source target : Path) (bytes : List UInt8) : List UInt8 :=
  if source.place t.workingDirectory = target.place t.workingDirectory then [] else bytes

/-- Written bytes are found at every path to the same place, and at no other. -/
theorem find?_of_write {new : List UInt8} (h : t.write target new = .ok t')
    (hfind : t.find? p = some (.file bytes)) :
    t'.find? p = some (.file
      (if p.place t.workingDirectory = target.place t.workingDirectory then new else bytes)) := by
  have hchanges : Changes (fun _ => False) (· = target.place t.workingDirectory) t t' := changes_write h
  by_cases hsame : p.place t.workingDirectory = target.place t.workingDirectory
  · obtain ⟨-, hplace⟩ := exists_locate_of_find? (write_ok h).2.2.2
    rw [if_pos hsame, hchanges.grows.find? hfind, hsame, ← hchanges.grows.workingDirectory]
    exact hplace
  · rw [if_neg hsame]
    exact hchanges.find?_file hfind hsame

theorem copy_ok (h : t.copy source target = .ok t') : ∃ bytes, t.find? source = some (.file bytes) ∧
    t'.find? source = some (.file (t.copied source target bytes)) ∧
    t'.find? target = some (.file (t.copied source target bytes)) := by
  obtain ⟨bytes, hread, hafter⟩ := bind_eq_ok_iff.1 h
  obtain ⟨emptied, hempty, hagain⟩ := bind_eq_ok_iff.1 hafter
  obtain ⟨new, hnew, hwrite⟩ := bind_eq_ok_iff.1 hagain
  have hsource : t.find? source = some (.file bytes) := read_eq_ok_iff.1 hread
  have hleft : emptied.find? source = some (.file (t.copied source target bytes)) :=
    find?_of_write hempty hsource
  have heq : new = t.copied source target bytes := by
    rw [read_eq_ok_iff.1 hnew] at hleft
    simpa using hleft
  subst heq
  refine ⟨bytes, hsource, ?_, (write_ok hwrite).2.2.2⟩
  rw [find?_of_write hwrite hleft, ite_self]

end FileTree

namespace FileAction

open FileTree (Changes Makes)

variable {t t' : FileTree} {source target : Path}

/-- What a copy that succeeds leaves at both of its paths. -/
theorem copyFile_ok (h : (copyFile source target).run.run t = (.ok (), t')) : ∃ bytes,
    t.find? source = some (.file bytes) ∧ t'.find? source = some (.file (t.copied source target bytes)) ∧
    t'.find? target = some (.file (t.copied source target bytes)) := by
  rw [copyFile, run_get_bind] at h
  split at h
  · cases h
  · rename_i hfile
    obtain ⟨⟨failure, hfailure⟩, -⟩ | ⟨-, t₁, hmakes, hcopy⟩ := run_ensureParent_change h
    · cases hfailure
    · obtain ⟨bytes, hsource, hleft⟩ := FileTree.copy_ok hcopy
      have hbefore : ∃ found, t.find? source = some (.file found) := by
        rw [FileTree.hasFile] at hfile
        split at hfile
        · rename_i found hfound
          exact ⟨found, hfound⟩
        · simp at hfile
      obtain ⟨found, hfound⟩ := hbefore
      have hsame : found = bytes := by
        rw [hmakes.find?_file hfound id] at hsource
        simpa using hsource
      subst hsame
      rw [FileTree.copied, hmakes.grows.workingDirectory] at hleft
      exact ⟨found, hfound, hleft⟩

end FileAction

namespace Converter

open FileAction

variable {c : Converter} {raw : String} {s : Session} {bytes : List UInt8}

/-- A run leaves the bytes at a path, unless it puts something at the same place. -/
theorem find?_font_of_convert (hfont : s.files.find? c.fontSource = some (.file bytes))
    (htarget : c.fontSource.place s.files.workingDirectory ≠ c.fontTarget.place s.files.workingDirectory)
    (hartifact : ∀ name, ExampleName.read raw = .ok name → ∀ a,
      c.fontSource.place s.files.workingDirectory ≠ (c.path name a).place s.files.workingDirectory) :
    ((c.convert raw).run.run s).2.files.find? c.fontSource = some (.file bytes) := by
  let requested (name : ExampleName) : Prop := ExampleName.read raw = .ok name
  have hkeeps : (c.bounds s.files.workingDirectory requested).Keeps Session.files (c.convert raw) _ :=
    keeps_convert fun _ hread => hread
  obtain ⟨hevolves, -⟩ := hkeeps s rfl
  refine Bounds.stable_file (fun other hwrote => ?_) rfl hevolves hfont
  rcases hwrote with hplace | ⟨name, text, a, hread, -, hplace, -⟩
  · exact absurd hplace htarget
  · exact absurd hplace (hartifact name hread a)

/-- **A copy that succeeds is exact, except onto its own source.** After `copyFile` both paths have
the bytes of the source exactly if they lead to two places, or there were no bytes; all other files
keep theirs. So a run keeps the bytes of its font, unless it lies at `fontTarget` or at the place of
an artifact. -/
theorem exact_copyFile (t : FileTree) (source : Path) :
    (∀ target t', (copyFile source target).run.run t = (.ok (), t') → ∃ bytes, t.read source = .ok bytes ∧
      (t'.read source = .ok bytes ∧ t'.read target = .ok bytes ↔
        source.place t.workingDirectory ≠ target.place t.workingDirectory ∨ bytes = []) ∧
      ∀ place kept, t.get? place = some (.file kept) → place ≠ target.place t.workingDirectory →
        t'.get? place = some (.file kept)) ∧
    ∀ (c : Converter) (raw : String) (s : Session) (bytes : List UInt8), s.files = t → c.fontSource = source →
      t.read source = .ok bytes → source.place t.workingDirectory ≠ c.fontTarget.place t.workingDirectory →
      (∀ name, ExampleName.read raw = .ok name → ∀ a,
        source.place t.workingDirectory ≠ (c.path name a).place t.workingDirectory) →
      ((c.convert raw).run.run s).2.files.read source = .ok bytes := by
  constructor
  · intro target t' h
    obtain ⟨bytes, hsource, hleft, hcopied⟩ := copyFile_ok h
    refine ⟨bytes, FileTree.read_of_find? hsource, ?_, fun place kept hkept hplace => ?_⟩
    · simp only [FileTree.read_of_find? hleft, FileTree.read_of_find? hcopied, and_self,
        Except.ok.injEq, FileTree.copied]
      by_cases hsame : source.place t.workingDirectory = target.place t.workingDirectory
      · simp [hsame, eq_comm]
      · simp [hsame]
    · obtain ⟨⟨failure, hfailure⟩, -⟩ | ⟨-, hchanges, -⟩ := changes_copyFile h
      · cases hfailure
      · exact (hchanges.file hkept).resolve_right hplace
  · intro c raw s bytes hfiles hfont hread htarget hartifact
    subst hfiles hfont
    rw [FileTree.read_eq_ok_iff] at hread ⊢
    exact find?_font_of_convert hread htarget hartifact

/-- A tree with one file, in the working directory or below it. -/
def treeOf (path content : String) : FileTree := ((writeText (.ofText path) content).run.run (.empty [])).2

/-- A font that lies elsewhere is copied, and a run keeps it. -/
theorem exact_copyFile_font : ∃ t', (copyFile (.ofText "fonts/f.ttf") (.ofText "out/assets/f.ttf")).run.run
      (treeOf "fonts/f.ttf" "glyphs") = (.ok (), t') ∧
    (∃ bytes, (treeOf "fonts/f.ttf" "glyphs").read (.ofText "fonts/f.ttf") = .ok bytes ∧
      t'.read (.ofText "out/assets/f.ttf") = .ok bytes) ∧
    (((oneExample "fonts/f.ttf").convert "a").run.run (.start (treeOf "fonts/f.ttf" "glyphs"))).2.files.read
      (.ofText "fonts/f.ttf") = .ok (Text.toBytes "glyphs") := by
  obtain ⟨t', hcopy⟩ : ∃ t', (copyFile (.ofText "fonts/f.ttf") (.ofText "out/assets/f.ttf")).run.run
      (treeOf "fonts/f.ttf" "glyphs") = (.ok (), t') := ⟨_, rfl⟩
  obtain ⟨bytes, hread, hcopied, -⟩ := (exact_copyFile _ _).1 _ _ hcopy
  refine ⟨t', hcopy, ⟨bytes, hread, (hcopied.2 (.inl (by decide))).2⟩, ?_⟩
  have hfont : (treeOf "fonts/f.ttf" "glyphs").read (.ofText "fonts/f.ttf") =
      .ok (Text.toBytes "glyphs") := rfl
  refine (exact_copyFile _ _).2 (oneExample "fonts/f.ttf") "a"
    (.start (treeOf "fonts/f.ttf" "glyphs")) _ rfl rfl hfont
    (by decide) ?_
  intro name hread a
  cases hread
  cases a <;> decide

/-- A font that lies at `fontTarget` is lost, whichever way its path is spelled. -/
theorem lost_by_copyFile :
    ∃ t', (copyFile (.ofText "./out//assets/f.ttf") (.ofText "out/assets/f.ttf")).run.run
      (treeOf "out/assets/f.ttf" "glyphs") = (.ok (), t') ∧
    (treeOf "out/assets/f.ttf" "glyphs").read (.ofText "./out//assets/f.ttf") = .ok (Text.toBytes "glyphs") ∧
    t'.read (.ofText "out/assets/f.ttf") = .ok [] ∧ Text.toBytes "glyphs" ≠ [] ∧
    (oneExample "./out//assets/f.ttf").fontTarget = .ofText "out/assets/f.ttf" ∧
    ((oneExample "./out//assets/f.ttf").copyFont.run.run
      (.start (treeOf "out/assets/f.ttf" "glyphs"))).2.files.read
      (.ofText "out/assets/f.ttf") = .ok [] := by
  have hcopied : ((copyFile (.ofText "./out//assets/f.ttf") (.ofText "out/assets/f.ttf")).run.run
      (treeOf "out/assets/f.ttf" "glyphs")).2.read (.ofText "out/assets/f.ttf") = .ok [] := by decide +kernel
  refine ⟨_, rfl, ?_, hcopied, ?_, ?_, ?_⟩
  · rfl
  · decide +kernel
  · decide
  · decide +kernel

end Converter
end UiSkeleton
