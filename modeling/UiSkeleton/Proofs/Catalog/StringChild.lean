/-
Children that are texts between quotes, flagged by a feature rule and reworded by the last
conversion rule. Both search for the same construct, one in a source and the other in what the rules
before it have left. These rules touch no quote, so the quotes of the construct are the same before
and after; and a call that they reword neither ends in the middle of `.child(` nor starts with a
closing parenthesis, so the two rules meet the same children.
-/
import Mathlib.Data.List.TakeWhile
import UiSkeleton.Proofs.Catalog.Rewording

namespace UiSkeleton

namespace Construct

/-- What a rewriting must leave alone to keep the children that are texts. -/
structure Spared (text : List Char) : Prop where
  nonempty : text ≠ []
  quote : '"' ∉ text
  close : text.head? ≠ some ')'
  front : Rewritten.Clears ".child(".toList text

theorem stringChild_of_rewritten {E : List Char → List Char → Prop} {s t : List Char}
    (hE : ∀ {old new}, E old new → Spared old ∧ Spared new) (h : Rewritten E s t)
    (hs : stringChild.OccursIn s) : stringChild.OccursIn t := by
  obtain ⟨a, x, b, hs, hne, hx⟩ := hs
  have hquotes : s = (a ++ ".child(".toList) ++ '"' :: (x ++ '"' :: (')' :: b)) := by simp [hs]
  -- the quotes part both texts into the same three parts
  obtain ⟨front, rest, rfl, hfront, hrest⟩ := h.split (fun hold => (hE hold).1.quote) hquotes
  obtain ⟨x', back, rfl, hmiddle, hback⟩ := hrest.split (fun hold => (hE hold).1.quote) rfl
  obtain ⟨a', rfl⟩ := hfront.tail (fun hold => (hE hold).1.front) List.prefix_rfl
  obtain ⟨b', rfl⟩ := hback.head fun hold => ⟨(hE hold).1.nonempty, (hE hold).1.close⟩
  refine ⟨a', x', b', by simp, hmiddle.ne_nil (fun hold => (hE hold).2.nonempty) hne, ?_⟩
  exact hmiddle.not_mem (fun hold => (hE hold).2.quote) hx

theorem spared_of_ends {c : Char} {text : List Char} (hhead : text.head? = some c) (hc : c ≠ ')')
    (hlast : text.getLast? = some ')') (hquote : '"' ∉ text) : Spared text where
  nonempty := by
    rintro rfl
    cases hhead
  quote := hquote
  close := by simpa [hhead] using hc
  front u hu hne := by
    intro hsuffix
    have hend : u.getLast? = some ')' := by
      rcases hsuffix with ⟨init, rfl⟩ | ⟨init, rfl⟩
      · rwa [List.getLast?_append_of_ne_nil init hne] at hlast
      · rw [List.getLast?_append, hlast]
        rfl
    exact absurd (hu.subset (List.mem_of_getLast? hend)) (by decide)

end Construct

namespace Catalog

open Construct (Spared)

theorem spared_colorNames : ∀ name ∈ colorNames, Spared name := by
  have hfacts : ∀ name ∈ colorNames, name ≠ [] ∧ '"' ∉ name ∧ name.head? ≠ some ')' ∧
      ∀ u ∈ ".child(".toList.inits, u ≠ [] → ¬ (u <:+ name ∨ name <:+ u) := by decide
  intro name hname
  obtain ⟨hne, hquote, hclose, hfront⟩ := hfacts name hname
  exact ⟨hne, hquote, hclose, fun u hu => hfront u ((List.mem_inits ..).2 hu)⟩

theorem quote_not_mem {p : Char → Bool} {cs : List Char} (h : ∀ c ∈ cs, p c = true)
    (hp : p '"' = false) : '"' ∉ cs := by
  intro hmem
  rw [h _ hmem] at hp
  cases hp

/-- The rules before the last one leave the children that are texts as they are. -/
theorem spared_of_rewords {tag : String} {old new : List Char} (h : Rewords tag old new)
    (htag : tag ≠ "string_child") : Spared old ∧ Spared new := by
  have hmethods : ∀ method ∈ colorMethods, '"' ∉ method := by decide
  cases h with
  | @literal method digits hmethod _ hdigits =>
    have hdigits' : '"' ∉ digits := quote_not_mem hdigits (by decide)
    constructor
    · exact Construct.spared_of_ends rfl (by decide) (by simp [List.getLast?_cons])
        (by simp [hmethods method hmethod, hdigits'])
    · exact Construct.spared_of_ends rfl (by decide) (by simp [List.getLast?_cons])
        (by simp [hmethods method hmethod, hdigits'])
  | @argument method name hmethod _ hname =>
    have hname' : '"' ∉ name := quote_not_mem hname (by decide)
    constructor
    · exact Construct.spared_of_ends rfl (by decide) (by simp [List.getLast?_cons])
        (by simp [hmethods method hmethod, hname'])
    · exact Construct.spared_of_ends rfl (by decide) (by simp [List.getLast?_cons])
        (by simp [hmethods method hmethod, hname'])
  | name hname =>
    have hnew := spared_colorNames _ hname
    exact ⟨Construct.spared_of_ends rfl (by decide) (by simp [List.getLast?_cons])
      (by simp [hnew.quote]), hnew⟩
  | child => exact absurd rfl htag

/-- The last rule receives the children that are texts of the whole text. -/
theorem occursIn_received {text : List Char} :
    Construct.stringChild.OccursIn (builtin.received "string_child" text) ↔
    Construct.stringChild.OccursIn text := by
  rw [received, conversions_builtin]
  refine foldl_apply_induct (P := fun t => Construct.stringChild.OccursIn t ↔
    Construct.stringChild.OccursIn text)
    (fun rule hrule t ht => ?_) Iff.rfl
  have hmem : rule ∈ builtinConversions := (List.takeWhile_prefix _).subset hrule
  have htag : rule.tag ≠ "string_child" := by simpa using List.mem_takeWhile_imp hrule
  have hrewritten := rewritten_apply hmem t
  rw [← ht]
  constructor
  · exact Construct.stringChild_of_rewritten (fun hold => (spared_of_rewords hold htag).symm) hrewritten.symm
  · exact Construct.stringChild_of_rewritten (fun hold => spared_of_rewords hold htag) hrewritten

end Catalog

theorem length_flatMap_le {α β : Type} {f g : α → List β} {l : List α}
    (h : ∀ a ∈ l, (f a).length ≤ (g a).length) : (l.flatMap f).length ≤ (l.flatMap g).length := by
  induction l with
  | nil => simp
  | cons a l ih =>
    have hfirst := h a List.mem_cons_self
    have hrest := ih fun b hb => h b (List.mem_cons_of_mem _ hb)
    simp only [List.flatMap_cons, List.length_append]
    omega

theorem length_flatMap_lt {α β : Type} {f g : α → List β} {l : List α}
    (hle : ∀ a ∈ l, (f a).length ≤ (g a).length)
    (hlt : ∃ a ∈ l, (f a).length < (g a).length) : (l.flatMap f).length < (l.flatMap g).length := by
  obtain ⟨a, ha, hlt⟩ := hlt
  obtain ⟨front, back, rfl⟩ := List.append_of_mem ha
  have hfront := length_flatMap_le fun b hb => hle b (List.mem_append_left _ hb)
  have hback := length_flatMap_le fun b hb => hle b (List.mem_append_right _ (List.mem_cons_of_mem _ hb))
  simp only [List.flatMap_append, List.flatMap_cons, List.length_append]
  omega

/-- A replacement that is longer than each occurrence changes a text that has one. -/
theorem Matcher.replaceAll_ne_self {m : Matcher} {r : Replacement} {text : List Char}
    (h : m.occursIn text = true)
    (hlonger : ∀ o, .found o ∈ m.pieces text → o.text.length < (r.expand m.names o).length) :
    m.replaceAll text r ≠ text := by
  have hpieces : (m.pieces text).flatMap Piece.text = text := Pattern.flatMap_text_pieces
  obtain ⟨found, hfound⟩ := Pattern.exists_found_iff.2 h
  refine ne_of_apply_ne List.length (Nat.ne_of_gt ?_)
  calc text.length = ((m.pieces text).flatMap Piece.text).length := by rw [hpieces]
    _ < (m.replaceAll text r).length := length_flatMap_lt ?_ ⟨.found found, hfound, hlonger found hfound⟩
  intro piece hpiece
  cases piece with
  | plain => exact Nat.le_refl 1
  | found o => exact Nat.le_of_lt (hlonger o hpiece)

namespace Catalog

/-- The rule of this tag changes exactly the texts in which the construct occurs. -/
theorem apply_ne_self_iff {rule : ConversionRule} (h : rule ∈ builtinConversions)
    (htag : rule.tag = "string_child")
    {text : List Char} : rule.apply text ≠ text ↔ Construct.stringChild.OccursIn text := by
  have hreads := List.all_eq_true.1 reads_string_child rule h
  simp only [htag, bne_self_eq_false, Bool.false_or, Bool.and_eq_true, beq_iff_eq] at hreads
  have hplain : rule.matcher.pattern.plain = true := by
    rw [hreads.1]
    decide
  have hchanging : rule ∈ changing := List.mem_filter.2 ⟨h, by simp [htag, restating]⟩
  have hoccurs : rule.matcher.occursIn text = true ↔ Construct.stringChild.OccursIn text := by
    rw [Matcher.occursIn_iff hplain, Construct.occursIn_iff, hreads.1]
  constructor
  · intro hne
    by_contra hnone
    refine hne (Matcher.replaceAll_eq_of_found fun o ho => ?_)
    exact absurd (hoccurs.1 (Pattern.exists_found_iff.1 ⟨o, ho⟩)) hnone
  · intro hchild
    rw [ConversionRule.apply_eq]
    refine Matcher.replaceAll_ne_self (hoccurs.2 hchild) fun o ho => ?_
    have hrewords := rewords_of_found hchanging ho
    generalize rule.replacement.expand rule.matcher.names o = new at hrewords
    generalize o.text = old at hrewords
    generalize rule.tag = tag at hrewords htag
    cases hrewords with
    | child => simp
    | _ => exact absurd htag (by decide)

theorem feature?_string_child : ∃ feature, builtin.feature? "string_child" = some feature ∧
    ∀ text, feature.detects text = true ↔ Construct.stringChild.OccursIn text := by
  obtain ⟨feature, hfeature⟩ := Option.isSome_iff_exists.1
    (show (builtin.feature? "string_child").isSome = true by decide +kernel)
  have hid : feature.id = "string_child" := by simpa using List.find?_some hfeature
  have hpattern : (feature.id, feature.matcher.pattern) ∈ constructs.map fun entry =>
      (entry.1, entry.2.pattern) := by
    rw [← patterns_builtinFeatures]
    exact List.mem_map.2 ⟨feature, List.mem_of_find?_eq_some hfeature, rfl⟩
  obtain ⟨⟨id, construct⟩, hconstruct, heq⟩ := List.mem_map.1 hpattern
  obtain ⟨rfl, hpattern⟩ := Prod.mk.inj heq
  have hkind : ∀ entry ∈ constructs, entry.1 = "string_child" → entry.2 = .stringChild := by decide
  cases hkind _ hconstruct hid
  exact ⟨feature, hfeature, fun text => detects_iff hconstruct hpattern.symm⟩

/-- **The feature `string_child` is detected exactly if the last rule rewords the text**, which it
receives from the eight rules before it. -/
theorem detects_string_child_iff : ∃ feature earlier conversion,
    builtin.feature? "string_child" = some feature ∧ builtin.conversions = earlier ++ [conversion] ∧
    conversion.tag = "string_child" ∧ earlier.length = 8 ∧
    ∀ text, (feature.detects text = true ↔
      conversion.apply (earlier.foldl (fun text rule => rule.apply text) text) ≠
        earlier.foldl (fun text rule => rule.apply text) text) := by
  obtain ⟨feature, hfeature, hdetects⟩ := feature?_string_child
  have hbefore : builtinConversions.takeWhile (·.tag != "string_child") = builtinConversions.dropLast := rfl
  have hsplit : builtinConversions = builtinConversions.dropLast ++
      [builtinConversions.getLast (by decide)] :=
    (List.dropLast_concat_getLast _).symm
  have hlast : (builtinConversions.getLast (by decide)).tag = "string_child" := by decide
  refine ⟨feature, _, _, hfeature, conversions_builtin.trans hsplit, hlast, by decide, fun text => ?_⟩
  have hreceived : builtin.received "string_child" text =
      builtinConversions.dropLast.foldl (fun text rule => rule.apply text) text := by
    rw [received, conversions_builtin, hbefore]
  rw [hdetects, ← hreceived, apply_ne_self_iff (List.getLast_mem _) hlast, occursIn_received]

end Catalog
end UiSkeleton
