/-
What a conversion that succeeds reports. A run of several steps succeeds only if each of them does,
so the outcome can be read off the steps: it names the places where the example is stored, and the
place of the font whether or not the font could be copied.
-/
import UiSkeleton.Proofs.Conversion

namespace UiSkeleton

/-- Where the font is, or where it has to be put by hand. -/
def FontStatus.target : FontStatus → Path
  | .copied target => target
  | .missing _ target => target

namespace Run

variable {α β : Type} {s s' : Session}

theorem bind_eq_ok_iff {x : Run α} {f : α → Run β} {b : β} : (x >>= f).run.run s = (.ok b, s') ↔
    ∃ a s₁, x.run.run s = (.ok a, s₁) ∧ (f a).run.run s₁ = (.ok b, s') := by
  rw [FileAction.run_bind]
  rcases hrun : x.run.run s with ⟨failure | a, s₁⟩
  · constructor
    · intro h
      cases (Prod.mk.inj h).1
    · rintro ⟨a, s₁, h, -⟩
      cases (Prod.mk.inj h).1
  · constructor
    · intro h
      exact ⟨a, s₁, rfl, h⟩
    · rintro ⟨a', s₁', h, hf⟩
      obtain ⟨ha, rfl⟩ := Prod.mk.inj h
      cases ha
      exact hf

theorem tryCatch_eq_ok {x : Run α} {handle : Failure → Run α} {a : α}
    (h : (tryCatch x handle).run.run s = (.ok a, s')) : x.run.run s = (.ok a, s') ∨
      ∃ failure s₁, x.run.run s = (.error failure, s₁) ∧ (handle failure).run.run s₁ = (.ok a, s') := by
  rw [ExceptT.run_tryCatch, StateT.run_bind] at h
  rcases hrun : x.run.run s with ⟨failure | a', s₁⟩
  · rw [hrun] at h
    exact .inr ⟨failure, s₁, rfl, h⟩
  · rw [hrun] at h
    exact .inl h

theorem exists_of_isSome {x : Run α} (h : (x.run.run s).1.toOption.isSome = true) :
    ∃ a s', x.run.run s = (.ok a, s') := by
  rcases hrun : x.run.run s with ⟨failure | a, s'⟩
  · rw [hrun] at h
    cases h
  · exact ⟨a, s', rfl⟩

theorem pure_eq_ok {a b : α} (h : (pure a : Run α).run.run s = (.ok b, s')) : a = b := by
  cases h
  rfl

end Run

namespace Converter

open Run

variable {c : Converter} {s s' : Session}

/-- `copyFont` succeeds in any case, and its status names `fontTarget`. -/
theorem target_of_copyFont {font : FontStatus} (h : c.copyFont.run.run s = (.ok font, s')) :
    font.target = c.fontTarget := by
  obtain ⟨status, s₁, htry, hend⟩ := bind_eq_ok_iff.1 h
  -- both ways end the run early, with a status of their own
  rcases tryCatch_eq_ok htry with hcopy | ⟨failure, s₂, -, hhandle⟩
  · obtain ⟨_, _, -, hcopy⟩ := bind_eq_ok_iff.1 hcopy
    obtain ⟨_, _, -, hcopy⟩ := bind_eq_ok_iff.1 hcopy
    obtain rfl := pure_eq_ok hcopy
    obtain rfl := pure_eq_ok hend
    rfl
  · obtain ⟨_, _, -, hhandle⟩ := bind_eq_ok_iff.1 hhandle
    obtain rfl := pure_eq_ok hhandle
    obtain rfl := pure_eq_ok hend
    rfl

/-- The `Outcome` of `store` names the places where the artifacts are. -/
theorem outcome_of_store {name : ExampleName} {text : String} {a : Analysis} {outcome : Outcome}
    (h : (c.store name text a ⟨c.skeletonOf name text, c.reportOf name text⟩).run.run s = (.ok outcome, s')) :
    ∃ font, font.target = c.fontTarget ∧ outcome = ⟨name, a, c.path name .skeleton, c.path name .reference,
      c.path name .report, c.layout.screenshots name.text, font⟩ := by
  rw [store, fileName_skeletonOf, fileName_reportOf] at h
  -- three files and a directory, each with its line in the log
  iterate 8 obtain ⟨_, _, -, h⟩ := bind_eq_ok_iff.1 h
  obtain ⟨font, _, hfont, h⟩ := bind_eq_ok_iff.1 h
  obtain rfl := pure_eq_ok h
  exact ⟨font, target_of_copyFont hfont, rfl⟩

theorem outcome_of_convert {raw : String} {outcome : Outcome}
    (h : (c.convert raw).run.run s = (.ok outcome, s')) :
    ∃ name text font, ExampleName.read raw = .ok name ∧ (c.source.fetch name.text).result = .ok text ∧
      font.target = c.fontTarget ∧ outcome = ⟨name, ZapUi.analysisOf name.text text, c.path name .skeleton,
        c.path name .reference, c.path name .report, c.layout.screenshots name.text, font⟩ := by
  obtain ⟨name, _, hread, h⟩ := bind_eq_ok_iff.1 h
  obtain ⟨_, _, -, h⟩ := bind_eq_ok_iff.1 h
  obtain ⟨text, _, hrequest, h⟩ := bind_eq_ok_iff.1 h
  obtain ⟨_, _, -, h⟩ := bind_eq_ok_iff.1 h
  obtain ⟨_, _, -, h⟩ := bind_eq_ok_iff.1 h
  rw [documents_eq, pure_bind] at h
  obtain ⟨font, hfont, rfl⟩ := outcome_of_store h
  refine ⟨name, text, font, ?_, ?_, hfont, rfl⟩
  · cases hname : ExampleName.read raw with
    | error failure =>
      rw [hname] at hread
      cases (Prod.mk.inj hread).1
    | ok name' =>
      rw [hname] at hread
      cases (Prod.mk.inj hread).1
      rfl
  · obtain ⟨_, _, -, hrequest⟩ := bind_eq_ok_iff.1 hrequest
    cases hreply : (c.source.fetch name.text).result with
    | error failure =>
      rw [hreply] at hrequest
      cases (Prod.mk.inj hrequest).1
    | ok text' =>
      rw [hreply] at hrequest
      cases (Prod.mk.inj hrequest).1
      rfl

/-- **A conversion that succeeds reports what it did**: the example that was asked for is `Stored`,
at the places that the `Outcome` names. -/
theorem stored_of_convert {raw : String} {outcome : Outcome}
    (h : (c.convert raw).run.run s = (.ok outcome, s')) :
    ∃ name text font, ExampleName.read raw = .ok name ∧ (c.source.fetch name.text).result = .ok text ∧
      font.target = c.fontTarget ∧ c.Stored name text s'.files ∧
      outcome = ⟨name, ZapUi.analysisOf name.text text, c.path name .skeleton, c.path name .reference,
        c.path name .report, c.layout.screenshots name.text, font⟩ := by
  obtain ⟨name, text, font, hname, htext, hfont, rfl⟩ := outcome_of_convert h
  have hkeeps : (c.bounds s.files.workingDirectory fun _ => True).Keeps Session.files (c.convert raw) _ :=
    keeps_convert fun _ _ => trivial
  have hresult := (hkeeps s rfl).2
  rw [h] at hresult
  obtain ⟨name', text', hname', htext', hstored⟩ := hresult _ rfl
  obtain rfl : name' = name := Except.ok.inj (hname'.symm.trans hname)
  obtain rfl : text' = text := Except.ok.inj (htext'.symm.trans htext)
  exact ⟨name', text', font, hname, htext, hfont, hstored, rfl⟩

end Converter
end UiSkeleton
