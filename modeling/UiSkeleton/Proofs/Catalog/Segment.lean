/-
The chains of a source, segment by segment. The search for chains goes over the whole source, and
each chain takes what it can; it stops only at a semicolon or an opening brace. So it gives what one
gets by cutting the source at these characters and looking for the first call in each segment on its
own (`divChains_eq_segments`).
-/
import Mathlib.Data.List.Basic
import UiSkeleton.Proofs.Catalog.Chain
import UiSkeleton.Proofs.Pattern.Greedy

namespace UiSkeleton.Catalog

open Pattern

/-- Where a source is cut. -/
def isBoundary (c : Char) : Bool := c == ';' || c == '\x7b'

/-- The parts of a source between its boundaries. -/
def segments (source : List Char) : List (List Char) := source.splitOnP isBoundary

/-- Whether a call stands at a place: not right after a word character. -/
def callStands (before : Option Char) (rest : List Char) : Bool :=
  "div()".toList.isPrefixOf rest && !before.any Text.isWord

/-- The text from its first call on. -/
def fromCall? : (before : Option Char) → List Char → Option (List Char)
  | _, [] => none
  | before, c :: rest => if callStands before (c :: rest) then some (c :: rest) else fromCall? (some c) rest

/-- The text from its first call on, if something follows this call. -/
def part? (before : Option Char) (segment : List Char) : Option (List Char) :=
  (fromCall? before segment).filter (· != "div()".toList)

/-- The chain of a segment. -/
def chainOf? (segment : List Char) : Option (List Char) := (part? none segment).map Text.trimEnd

theorem callStands_iff {before : Option Char} {rest : List Char} : callStands before rest = true ↔
    "div()".toList <+: rest ∧ ∀ c ∈ before, Text.isWord c = false := by
  rw [callStands, Bool.and_eq_true, List.isPrefixOf_iff_prefix]
  cases before <;> simp

/-- The texts that the search for chains finds. -/
def foundChains (before : Option Char) (text : List Char) : List (List Char) :=
  ((builtin.extractors.divChain.pattern.pieces before 0 false text).filterMap Piece.occurrence?).map
    Occurrence.text

theorem divChainsOf_eq_foundChains (source : List Char) :
    builtin.divChainsOf source = (foundChains none source).map Text.trimEnd := by
  rw [divChainsOf, Matcher.textMatcher_findAll, Matcher.findAll, if_pos divChain_reads.1]
  rfl

variable {before : Option Char} {c : Char} {r segment rest : List Char}

/-! ## The search at one place -/

theorem contains_chainChar {c : Char} : chainChar.contains c = !isBoundary c := by
  rw [Bool.eq_iff_iff]
  simp [chainChar, CharClass.contains, isBoundary, ← contains_single]

theorem isBoundary_call : "div()".toList.all (!isBoundary ·) = true := by decide

theorem endsGreedily_divChain : builtin.extractors.divChain.pattern.endsGreedily chainChar = true := by
  rw [divChain_reads.2]
  decide

theorem foundChains_nil : foundChains before [] = [] := by
  rw [foundChains, pieces_nil (by decide +kernel)]
  rfl

theorem foundChains_of_none (h : builtin.extractors.divChain.pattern.matchAt before (c :: r) = none) :
    foundChains before (c :: r) = foundChains (some c) r := by
  rw [foundChains, pieces_of_matchAt_eq_none h]
  rfl

theorem foundChains_of_some {w after : List Char} {g : List (Nat × List Char)} (hne : w ≠ [])
    (h : builtin.extractors.divChain.pattern.matchAt before (w ++ after) = some ⟨w, g⟩) :
    foundChains before (w ++ after) = w :: foundChains (lastOr before w) after := by
  rw [foundChains, pieces_of_matchAt h hne, pieces_touching (by decide +kernel)]
  rfl

/-- No chain begins at a boundary. -/
theorem foundChains_boundary (h : isBoundary c = true) :
    foundChains before (c :: r) = foundChains (some c) r := by
  refine foundChains_of_none (Option.eq_none_iff_forall_not_mem.2 fun o ho => ?_)
  obtain ⟨after, hrest, hmatches⟩ := matches_of_matchAt ho
  obtain ⟨-, tail, hcall, -⟩ := matches_divChain.1 hmatches
  rw [hcall] at hrest
  obtain rfl : c = 'd' := (List.cons.inj hrest).1
  exact absurd h (by decide)

theorem isWord_of_isBoundary (h : isBoundary c = true) : Text.isWord c = false := by
  simp only [isBoundary, Bool.or_eq_true, beq_iff_eq] at h
  rcases h with rfl | rfl <;> decide

/-! ## One segment -/

theorem takeWhile_segment (hsegment : ∀ c ∈ segment, isBoundary c = false)
    (hrest : ∀ c ∈ rest.head?, isBoundary c = true) :
    (segment ++ rest).takeWhile (!isBoundary ·) = segment := by
  rw [List.takeWhile_append_of_pos fun c hc => by simp [hsegment c hc]]
  cases rest with
  | nil => simp
  | cons c r => simp [hrest c rfl]

theorem part?_call {tail : List Char} (hbefore : ∀ c ∈ before, Text.isWord c = false) (hne : tail ≠ []) :
    part? before ("div()".toList ++ tail) = some ("div()".toList ++ tail) := by
  have hfrom : fromCall? before ("div()".toList ++ tail) = some ("div()".toList ++ tail) :=
    if_pos (callStands_iff.2 ⟨List.prefix_append _ _, hbefore⟩)
  rw [part?, hfrom]
  simpa using hne

/-- What the search finds in a segment goes up to the end of the segment. -/
theorem eq_of_matchAt_segment (hsegment : ∀ c ∈ segment, isBoundary c = false)
    (hrest : ∀ c ∈ rest.head?, isBoundary c = true) {o : Occurrence}
    (h : builtin.extractors.divChain.pattern.matchAt before (segment ++ rest) = some o) :
    o.text = segment ∧ part? before segment = some segment := by
  obtain ⟨after, htext, hmatches, hafter⟩ := exists_of_matchAt_greedy endsGreedily_divChain h
  obtain ⟨hbefore, tail, hcall, hne, htail, -⟩ := matches_divChain.1 hmatches
  simp only [contains_chainChar, Bool.not_eq_eq_eq_not, Bool.not_true, Bool.not_false] at htail hafter
  have hfound : ∀ c ∈ o.text, isBoundary c = false := by
    rw [hcall, List.forall_mem_append]
    exact ⟨fun c hc => by simpa using List.all_eq_true.1 isBoundary_call c hc, htail⟩
  have heq : o.text = segment := by
    rw [← takeWhile_segment hfound hafter, ← htext, takeWhile_segment hsegment hrest]
  refine ⟨heq, ?_⟩
  rw [← heq, hcall]
  exact part?_call hbefore hne

/-- Where the search finds nothing, so does `part?`: a call has nothing after it there. -/
theorem part?_of_none (hsegment : ∀ d ∈ c :: r, isBoundary d = false)
    (h : builtin.extractors.divChain.pattern.matchAt before (c :: r ++ rest) = none) :
    part? before (c :: r) = part? (some c) r := by
  rw [part?, part?, fromCall?]
  split
  · rename_i hcall
    obtain ⟨⟨tail, htail⟩, hbefore⟩ := callStands_iff.1 hcall
    cases tail with
    | nil =>
      -- nothing follows the call, and what is left of it holds no other
      obtain ⟨rfl, rfl⟩ := List.cons.inj htail
      decide
    | cons d tail =>
      have hchain : (builtin.extractors.divChain.pattern.matchAt before (c :: r ++ rest)).isSome = true := by
        have hplain : builtin.extractors.divChain.pattern.plain = true := by decide +kernel
        have hreads : ∀ e ∈ d :: tail, chainChar.contains e = true := fun e he => by
          rw [contains_chainChar, hsegment e (htail ▸ List.mem_append_right _ he), Bool.not_false]
        exact (isSome_matchAt_iff hplain).2 ⟨c :: r, rest, [], rfl,
          matches_divChain.2 ⟨hbefore, d :: tail, htail.symm, by simp, hreads, rfl⟩⟩
      rw [h] at hchain
      cases hchain
  · rfl

/-- **A segment gives its `part?`**, and the search goes on behind it. -/
theorem foundChains_append (hsegment : ∀ c ∈ segment, isBoundary c = false)
    (hrest : ∀ c ∈ rest.head?, isBoundary c = true) :
    foundChains before (segment ++ rest) = (part? before segment).toList ++
      foundChains (lastOr before segment) rest := by
  induction segment generalizing before with
  | nil => rfl
  | cons c r ih =>
    cases hm : builtin.extractors.divChain.pattern.matchAt before (c :: r ++ rest) with
    | none =>
      rw [part?_of_none hsegment hm, lastOr_cons, ← ih (List.forall_mem_cons.1 hsegment).2]
      exact foundChains_of_none hm
    | some o =>
      obtain ⟨w, g⟩ := o
      obtain ⟨rfl, hpart⟩ := eq_of_matchAt_segment hsegment hrest hm
      rw [foundChains_of_some (List.cons_ne_nil c r) hm, hpart]
      rfl

/-! ## All segments -/

theorem part?_of_not_isWord (hbefore : ∀ c ∈ before, Text.isWord c = false) :
    part? before segment = part? none segment := by
  cases segment with
  | nil => rfl
  | cons c r =>
    have hstands : callStands before (c :: r) = callStands none (c :: r) := by
      rw [Bool.eq_iff_iff, callStands_iff, callStands_iff]
      exact and_congr_right fun _ => iff_of_true hbefore (by simp)
    rw [part?, part?, fromCall?, fromCall?, hstands]

theorem exists_segment (text : List Char) : ∃ segment rest, text = segment ++ rest ∧
    (∀ c ∈ segment, isBoundary c = false) ∧ ∀ c ∈ rest.head?, isBoundary c = true := by
  induction text with
  | nil => exact ⟨[], [], rfl, by simp, by simp⟩
  | cons c text ih =>
    cases hc : isBoundary c with
    | true => exact ⟨[], c :: text, rfl, by simp, by simpa using hc⟩
    | false =>
      obtain ⟨segment, rest, rfl, hsegment, hrest⟩ := ih
      exact ⟨c :: segment, rest, rfl, List.forall_mem_cons.2 ⟨hc, hsegment⟩, hrest⟩

/-- The search for chains is `part?` of each segment. -/
theorem foundChains_eq_segments {text : List Char} (hbefore : ∀ c ∈ before, Text.isWord c = false) :
    foundChains before text = (segments text).filterMap (part? none) := by
  induction hn : text.length using Nat.strongRecOn generalizing before text with
  | ind n ih =>
    -- the first segment is taken off with its boundary, which is no part of a word, so the next one
    -- starts afresh
    obtain ⟨segment, rest, rfl, hsegment, hrest⟩ := exists_segment text
    rw [foundChains_append hsegment hrest, part?_of_not_isWord hbefore, List.filterMap_eq_flatMap_toList]
    cases rest with
    | nil =>
      rw [foundChains_nil, List.append_nil, List.append_nil, segments, List.splitOnP_eq_singleton hsegment,
        List.flatMap_cons, List.flatMap_nil, List.append_nil]
    | cons d rest =>
      have hd : isBoundary d = true := hrest d rfl
      have hshorter : rest.length < n := by
        rw [← hn, List.length_append, List.length_cons]
        omega
      rw [foundChains_boundary hd,
        ih rest.length hshorter (by simpa using isWord_of_isBoundary hd) rfl, segments, segments,
        List.splitOnP_append_cons_of_forall_mem hsegment d hd, List.flatMap_cons,
          List.filterMap_eq_flatMap_toList]

theorem divChains_segments (source : String) :
    (builtin.analyze source).divChains = ((segments source.toList).filterMap chainOf?).map String.ofList := by
  rw [divChains_analyze, divChainsOf_eq_foundChains, foundChains_eq_segments (by simp), List.map_filterMap]
  rfl

theorem divChains_append_boundary (h : isBoundary c = true) (a b : String) :
    (builtin.analyze (a ++ String.singleton c ++ b)).divChains =
      (builtin.analyze a).divChains ++ (builtin.analyze b).divChains := by
  simp only [divChains_segments, segments, String.toList_append, String.toList_singleton, List.append_assoc,
    List.singleton_append, List.splitOnP_append_cons _ _ h, List.filterMap_append, List.map_append]

/-- **The `divChains` of a source are those of its `segments`**, each of which gives what `chainOf?`
finds there. So texts joined by a semicolon or an opening brace have the chains of both. -/
theorem divChains_eq_segments :
    (∀ source : String, (builtin.analyze source).divChains =
      ((segments source.toList).filterMap chainOf?).map String.ofList) ∧
    (∀ a b : String, (builtin.analyze (a ++ ";" ++ b)).divChains =
      (builtin.analyze a).divChains ++ (builtin.analyze b).divChains) ∧
    ∀ a b : String, (builtin.analyze (a ++ "\x7b" ++ b)).divChains =
      (builtin.analyze a).divChains ++ (builtin.analyze b).divChains :=
  ⟨divChains_segments, divChains_append_boundary (c := ';') rfl, divChains_append_boundary (c := '\x7b') rfl⟩

/-- A call that goes on a word, one with nothing after it, one in a chain, and one before a
brace. -/
example : (segments "subdiv().a(); div(); x = div().child(div()) ;\x7b div()\x7b".toList).filterMap chainOf? =
    ["div().child(div())".toList] := by
  decide +kernel

end UiSkeleton.Catalog
