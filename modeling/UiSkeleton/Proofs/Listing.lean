/-
From a listing to an example. A directory lists the files of its examples, each example named for
its file without the extension; a name that is given may have the extension again, and blanks around
it. So a listed name is taken for what it says unless it looks like a name that was given with more,
and then the run asks for the file that it was listed from and for nothing else (`convert_listed`).
-/
import UiSkeleton.Proofs.ExampleName
import UiSkeleton.Proofs.Stages

namespace UiSkeleton

theorem Listing.file_of_mem_exampleNames {entries : List FieldValues} {n : String}
    (h : n ∈ exampleNames entries) :
    ∃ entry ∈ entries, entry.lookup "type" = some "file" ∧
      entry.lookup "name" = some (n ++ sourceExtension) := by
  rw [exampleNames, List.mem_mergeSort] at h
  obtain ⟨entry, hentry, hname⟩ := List.mem_filterMap.1 h
  refine ⟨entry, hentry, ?_⟩
  simp only [exampleName?] at hname
  split at hname
  · rename_i hfile
    cases hname
    obtain ⟨htype, hending⟩ := Bool.and_eq_true_iff.1 hfile
    obtain ⟨cs, hcs⟩ := List.isSuffixOf_iff_suffix.1 hending
    refine ⟨of_decide_eq_true htype, ?_⟩
    rw [← hcs, ExampleName.dropEnding_append]
    cases hfield : entry.lookup "name" with
    | none =>
      rw [hfield] at hcs
      exact absurd (List.append_eq_nil_iff.1 hcs).2 (by decide)
    | some file =>
      rw [hfield] at hcs
      refine congrArg some (String.toList_inj.1 ?_)
      rw [String.toList_append, String.toList_ofList, hcs]
      rfl
  · cases hname

theorem RemoteExamples.fetch_source (examples : RemoteExamples) (network : Network) (name : String) :
    (examples.source network).fetch name = ⟨(network.get (examples.url name)).log,
      (network.get (examples.url name)).result.bind (textOf name)⟩ := rfl

namespace Converter

/-- A run depends on the `Source` only through what it fetches for the example. -/
theorem convert_congr {config : Config} {source source' : ExampleSource} {raw : String} {name : ExampleName}
    (hread : ExampleName.read raw = .ok name) (h : source.fetch name.text = source'.fetch name.text) :
    (Converter.mk config source).convert raw = (Converter.mk config source').convert raw := by
  rw [convert_of_named hread, convert_of_named hread]
  simp only [h]
  rfl

/-- The converter of a configuration on a network. -/
def onNetwork (config : Config) (network : Network) : Converter :=
  ⟨config, (RemoteExamples.ofUrls config.examplesUrl config.listingUrl).source network⟩

/-- A run asks for one URL, once: it counts one request, it fails if there is no answer, and on
another network that gives the same answer there it goes the same way. -/
structure AsksOnce (config : Config) (network : Network) (raw : String) (s : Session)
    (url : String) : Prop where
  once : (((onNetwork config network).convert raw).run.run s).2.requests = s.requests + 1
  refused : ∀ {e}, (network.get url).result = .error e →
    ∃ context, (((onNetwork config network).convert raw).run.run s).1 = .error ⟨context, .source e⟩
  only : ∀ {other : Network}, other.get url = network.get url →
    ((onNetwork config other).convert raw).run.run s = ((onNetwork config network).convert raw).run.run s

/-- A conversion that can begin makes one request. -/
theorem requests_convert {c : Converter} {raw : String} {name : ExampleName}
    (hread : ExampleName.read raw = .ok name)
    (s : Session) : ((c.convert raw).run.run s).2.requests = s.requests + 1 := by
  obtain ⟨log, hrun⟩ := run_convert_of_named (c := c) (s := s) hread
  rw [hrun]
  cases hfetch : (c.source.fetch name.text).result with
  | error e => rfl
  | ok text =>
    obtain ⟨s₁, -, hrequests, -, hproceed⟩ :=
      run_proceed c name text { s with log := log, requests := s.requests + 1 }
    simp only [hproceed]
    exact (endsCleanly_of_store hfetch rfl).1.trans hrequests

/-- A run with a name that can be read asks for its URL, and for nothing else. -/
theorem asksOnce (config : Config) (network : Network) {raw : String} {name : ExampleName} (s : Session)
    (hread : ExampleName.read raw = .ok name) :
    AsksOnce config network raw s
      ((RemoteExamples.ofUrls config.examplesUrl config.listingUrl).url name.text) where
  once := requests_convert hread s
  refused {e} he := by
    obtain ⟨log, hrun⟩ := run_convert_of_named (c := onNetwork config network) (s := s) hread
    have hfetch : ((onNetwork config network).source.fetch name.text).result = .error e := by
      rw [onNetwork, RemoteExamples.fetch_source, he]
      rfl
    rw [hrun, hfetch]
    exact ⟨_, rfl⟩
  only {other} hother := by
    refine congrArg (fun run : Run Outcome => run.run.run s) (convert_congr hread ?_)
    rw [RemoteExamples.fetch_source, RemoteExamples.fetch_source, hother]

/-- **A listed name leads to its file.** One of `exampleNames` is the name of a file without
`sourceExtension`. `ExampleName.read` refuses it, or it gives what `dropEnding` leaves of it between
its blanks; where that is the listed name itself, the run `AsksOnce` for the listed file. -/
theorem convert_listed (config : Config) (network : Network) (s : Session)
    {entries : List FieldValues} {n : String} (h : n ∈ Listing.exampleNames entries) :
    ∃ entry ∈ entries, entry.lookup "type" = some "file" ∧ ∃ file, entry.lookup "name" = some file ∧
      file = n ++ sourceExtension ∧
      match ExampleName.read n with
      | .error failure => ((onNetwork config network).convert n).run.run s = (.error failure, s)
      | .ok name =>
        name.text.toList = ExampleName.dropEnding sourceExtension.toList (Text.trim n.toList) ∧
        (name.text = n ↔ Text.trim n.toList = n.toList ∧ ¬ sourceExtension.toList <:+ n.toList) ∧
        (name.text = n → AsksOnce config network n s (String.ofList
          (RemoteExamples.ofUrls config.examplesUrl config.listingUrl).base ++ "/" ++ file)) := by
  obtain ⟨entry, hentry, htype, hname⟩ := Listing.file_of_mem_exampleNames h
  refine ⟨entry, hentry, htype, _, hname, rfl, ?_⟩
  cases hread : ExampleName.read n with
  | error failure => exact run_convert_of_misnamed hread
  | ok name =>
    refine ⟨ExampleName.toList_of_read hread, ExampleName.text_eq_iff hread, fun htext => ?_⟩
    have hasks := asksOnce config network s hread
    rwa [RemoteExamples.url, htext, String.append_assoc] at hasks

theorem convert_listed_helloWorld :
    "hello_world" ∈ Listing.exampleNames [[("name", "hello_world.rs"), ("type", "file")]] ∧
    ∃ name, ExampleName.read "hello_world" = .ok name ∧ name.text = "hello_world" ∧
      AsksOnce { examplesUrl := "http://a/", listingUrl := "http://b" } Network.unreachable "hello_world"
        (.start (FileTree.empty [])) "http://a/hello_world.rs" := by
  have hlisted : "hello_world" ∈
      Listing.exampleNames [[("name", "hello_world.rs"), ("type", "file")]] := by decide +kernel
  have hread : ExampleName.read "hello_world" =
      .ok ⟨"hello_world", by decide, List.all_eq_true.1 (by decide)⟩ := rfl
  obtain ⟨_, -, -, _, -, rfl, hruns⟩ :=
    convert_listed { examplesUrl := "http://a/", listingUrl := "http://b" }
    Network.unreachable (.start (FileTree.empty [])) hlisted
  rw [hread] at hruns
  exact ⟨hlisted, _, hread, rfl, hruns.2.2 rfl⟩

/-- Files with the extension twice or with a blank before the name: what is read of the listed name
is another example, which is asked for instead. -/
theorem listed_as_another :
    ("x.rs" ∈ Listing.exampleNames [[("name", "x.rs.rs"), ("type", "file")]] ∧
      (∃ name, ExampleName.read "x.rs" = .ok name ∧ name.text = "x") ∧
      AsksOnce { examplesUrl := "http://a", listingUrl := "http://b" } Network.unreachable "x.rs"
        (.start (FileTree.empty [])) "http://a/x.rs") ∧
    " y" ∈ Listing.exampleNames [[("name", " y.rs"), ("type", "file")]] ∧
      ∃ name, ExampleName.read " y" = .ok name ∧ name.text = "y" := by
  have hread : ExampleName.read "x.rs" = .ok ⟨"x", by decide, List.all_eq_true.1 (by decide)⟩ := rfl
  exact ⟨⟨by decide +kernel, ⟨_, hread, rfl⟩, asksOnce _ _ _ hread⟩, by decide +kernel, _, rfl, rfl⟩

end Converter
end UiSkeleton
