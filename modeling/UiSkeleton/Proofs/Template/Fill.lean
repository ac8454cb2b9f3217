/-
Rendering as filling: when every tag of a template has its value, rendering gives the text that
`fill` builds without the way out for errors. Two values that answer the tags alike fill the
template alike. The values that the documents are made from are objects whose members have distinct
keys, so every member is found under its key.
-/
import UiSkeleton.Template.Store

namespace UiSkeleton

namespace JsonValue

theorem lookup_insertMember_self (key : String) (value : JsonValue) :
    ∀ members : List (String × JsonValue), (insertMember key value members).lookup key = some value
  | [] => by simp [insertMember]
  | (k, v) :: rest => by
    rw [insertMember]
    split
    · simp
    · simp
    · rename_i h
      have hne : (key == k) = false := by
        rw [beq_eq_false_iff_ne]
        rintro rfl
        simp at h
      rw [List.lookup_cons, hne]
      exact lookup_insertMember_self key value rest

theorem lookup_insertMember_of_ne {key other : String} (value : JsonValue) (h : other ≠ key) :
    ∀ members : List (String × JsonValue), (insertMember key value members).lookup other =
      members.lookup other
  | [] => by simp [insertMember, List.lookup_cons, beq_eq_false_iff_ne.2 h]
  | (k, v) :: rest => by
    rw [insertMember]
    split
    · simp [List.lookup_cons, beq_eq_false_iff_ne.2 h]
    · rename_i hk
      obtain rfl := Std.LawfulEqOrd.eq_of_compare hk
      simp [List.lookup_cons, beq_eq_false_iff_ne.2 h]
    · rw [List.lookup_cons, List.lookup_cons, lookup_insertMember_of_ne value h rest]

theorem lookup_foldl_insertMember {key : String} : ∀ {members done : List (String × JsonValue)},
    (members.map Prod.fst).Nodup →
    (members.foldl (fun done (key, value) => insertMember key value done) done).lookup key =
      (members.lookup key).or (done.lookup key)
  | [], done, _ => by simp
  | (k, v) :: rest, done, h => by
    obtain ⟨hk, hrest⟩ := List.nodup_cons.1 h
    rw [List.foldl_cons, lookup_foldl_insertMember hrest, List.lookup_cons]
    by_cases hkey : key = k
    · subst hkey
      have hnone : rest.lookup key = none := by
        rw [List.lookup_eq_none_iff]
        rintro ⟨k', v'⟩ hmem
        rw [bne_iff_ne]
        rintro rfl
        exact hk (List.mem_map.2 ⟨_, hmem, rfl⟩)
      simp [hnone, lookup_insertMember_self]
    · rw [lookup_insertMember_of_ne v hkey, beq_eq_false_iff_ne.2 hkey]

theorem child?_ofMembers {members : List (String × JsonValue)} (h : (members.map Prod.fst).Nodup)
    (key : String) : (ofMembers members).child? key = members.lookup key := by
  rw [ofMembers, child?, lookup_foldl_insertMember h]
  simp

theorem display_string (s : String) : (string s).display = s.toList := rfl

theorem display_nat (n : Nat) : (number (.int n)).display = Nat.toDigits 10 n := by
  have htext : (number (.int n)).display = (toString (n : Int)).toList := rfl
  rw [htext, Int.toString_eq_repr, show (n : Int).repr = n.repr from rfl, Nat.toList_repr]

end JsonValue

namespace Template

/-- The text of a template for some value; a tag without a value stands for nothing. -/
def fill (escaping : Escaping) : Template → JsonValue → List Char
  | .done, _ => []
  | .text cs next, v => cs ++ next.fill escaping v
  | .value tag raw next, v =>
    (match v.follow? tag.keys with
      | none => []
      | some w => if raw then w.display else escaping.apply w.display) ++ next.fill escaping v
  | .choose tag yes no next, v =>
    (if (v.follow? tag.keys).any JsonValue.counts then yes.fill escaping v else no.fill escaping v) ++
      next.fill escaping v
  | .each tag body hasOther other next, v =>
    (match (v.follow? tag.keys).bind JsonValue.items? with
      | some (w :: ws) => (w :: ws).flatMap (body.fill escaping)
      | _ => if hasOther then other.fill escaping v else []) ++ next.fill escaping v

/-- Every tag that is met has its value. -/
def Supplied : Template → JsonValue → Prop
  | .done, _ => True
  | .text _ next, v => next.Supplied v
  | .value tag _ next, v => (v.follow? tag.keys).isSome ∧ next.Supplied v
  | .choose tag yes no next, v =>
    (if (v.follow? tag.keys).any JsonValue.counts then yes.Supplied v else no.Supplied v) ∧ next.Supplied v
  | .each tag body hasOther other next, v =>
    (match (v.follow? tag.keys).bind JsonValue.items? with
      | some (w :: ws) => ∀ item ∈ w :: ws, body.Supplied item
      | some [] => hasOther → other.Supplied v
      | none => hasOther ∧ other.Supplied v) ∧ next.Supplied v

theorem joinAll_map_ok {f : JsonValue → Except TemplateTag (List Char)} {g : JsonValue → List Char} :
    ∀ {items : List JsonValue}, (∀ item ∈ items, f item = .ok (g item)) →
      joinAll (items.map f) = .ok (items.flatMap g)
  | [], _ => rfl
  | item :: items, h => by
    rw [List.map_cons, h item (by simp), joinAll, joinAll_map_ok fun w hw => h w (by simp [hw])]
    rfl

/-- **Rendering succeeds and is `fill`** when every tag has its value. -/
theorem render_eq_fill {escaping : Escaping} {t : Template} {v : JsonValue} (h : t.Supplied v) :
    t.render escaping v = .ok (t.fill escaping v) := by
  induction t generalizing v with
  | done => rfl
  | text cs next ih =>
    rw [render, ih h]
    rfl
  | value tag raw next ih =>
    obtain ⟨hv, hnext⟩ := h
    obtain ⟨w, hw⟩ := Option.isSome_iff_exists.1 hv
    rw [render, fill, ih hnext, hw]
    rfl
  | choose tag yes no next ihYes ihNo ih =>
    obtain ⟨hbranch, hnext⟩ := h
    rw [render, fill, ih hnext]
    split at hbranch
    · rename_i hc
      rw [if_pos hc, if_pos hc, ihYes hbranch]
      rfl
    · rename_i hc
      rw [if_neg hc, if_neg hc, ihNo hbranch]
      rfl
  | each tag body hasOther other next ihBody ihOther ih =>
    obtain ⟨hitems, hnext⟩ := h
    rw [render, fill, ih hnext]
    split at hitems
    · rename_i w ws hw
      rw [hw]
      simp only [joinAll_map_ok fun item hi => ihBody (hitems item hi)]
      rfl
    · rename_i hw
      rw [hw]
      cases hasOther with
      | false => rfl
      | true => simp only [ihOther (hitems rfl)]; rfl
    · rename_i hw
      rw [hw]
      obtain ⟨rfl, hother⟩ := hitems
      simp only [ihOther hother]
      rfl

/-- The tags that are asked at the value itself, not at an item of it. -/
def tags : Template → List TemplateTag
  | .done => []
  | .text _ next => next.tags
  | .value tag _ next => tag :: next.tags
  | .choose tag yes no next => tag :: (yes.tags ++ no.tags ++ next.tags)
  | .each tag _ _ other next => tag :: (other.tags ++ next.tags)

/-- Values that answer the tags alike fill a template alike. -/
theorem fill_congr {escaping : Escaping} {t : Template} {v w : JsonValue}
    (h : ∀ tag ∈ t.tags, v.follow? tag.keys = w.follow? tag.keys) :
    t.fill escaping v = t.fill escaping w := by
  induction t with
  | done => rfl
  | text cs next ih => rw [fill, fill, ih h]
  | value tag raw next ih =>
    rw [fill, fill, h tag (by simp [tags]), ih fun u hu => h u (by simp [tags, hu])]
  | choose tag yes no next ihYes ihNo ih =>
    rw [fill, fill, h tag (by simp [tags]), ihYes fun u hu => h u (by simp [tags, hu]),
      ihNo fun u hu => h u (by simp [tags, hu]), ih fun u hu => h u (by simp [tags, hu])]
  | each tag body hasOther other next _ ihOther ih =>
    rw [fill, fill, h tag (by simp [tags]), ihOther fun u hu => h u (by simp [tags, hu]),
      ih fun u hu => h u (by simp [tags, hu])]

/-- The repetitions at the value itself: what they ask for, and their bodies. -/
def repeats : Template → List (TemplateTag × Template)
  | .done => []
  | .text _ next | .value _ _ next => next.repeats
  | .choose _ yes no next => yes.repeats ++ no.repeats ++ next.repeats
  | .each tag body _ other next => (tag, body) :: (other.repeats ++ next.repeats)

/-- A template is `Supplied` when every tag has a value and every repetition has items for its
body. -/
theorem supplied_of_tags {t : Template} {v : JsonValue} (htags : ∀ tag ∈ t.tags, (v.follow? tag.keys).isSome)
    (hrepeats : ∀ r ∈ t.repeats, ∃ items, (v.follow? r.1.keys).bind JsonValue.items? = some items ∧
      ∀ item ∈ items, r.2.Supplied item) : t.Supplied v := by
  induction t with
  | done => trivial
  | text cs next ih => exact ih htags hrepeats
  | value tag raw next ih =>
    exact ⟨htags tag (by simp [tags]), ih (fun u hu => htags u (by simp [tags, hu])) hrepeats⟩
  | choose tag yes no next ihYes ihNo ih =>
    refine ⟨?_, ih (fun u hu => htags u (by simp [tags, hu])) fun r hr => hrepeats r (by simp [repeats, hr])⟩
    split
    · exact ihYes (fun u hu => htags u (by simp [tags, hu])) fun r hr => hrepeats r (by simp [repeats, hr])
    · exact ihNo (fun u hu => htags u (by simp [tags, hu])) fun r hr => hrepeats r (by simp [repeats, hr])
  | each tag body hasOther other next _ ihOther ih =>
    have hother : other.Supplied v :=
      ihOther (fun u hu => htags u (by simp [tags, hu])) fun r hr => hrepeats r (by simp [repeats, hr])
    refine ⟨?_, ih (fun u hu => htags u (by simp [tags, hu])) fun r hr => hrepeats r (by simp [repeats, hr])⟩
    obtain ⟨items, hitems, hbody⟩ := hrepeats (tag, body) (by simp [repeats])
    rw [hitems]
    cases items with
    | nil => exact fun _ => hother
    | cons w ws => exact hbody

/-- The characters of a template's own texts; the bodies of repetitions are left out. -/
def letters : Template → List Char
  | .done => []
  | .text cs next => cs ++ next.letters
  | .value _ _ next => next.letters
  | .choose _ yes no next => yes.letters ++ no.letters ++ next.letters
  | .each _ _ _ other next => other.letters ++ next.letters

/-- The tags whose values a template inserts, again without the bodies of repetitions. -/
def slots : Template → List TemplateTag
  | .done => []
  | .text _ next => next.slots
  | .value tag _ next => tag :: next.slots
  | .choose _ yes no next => yes.slots ++ no.slots ++ next.slots
  | .each _ _ _ other next => other.slots ++ next.slots

/-- A character that neither the texts nor the values have does not occur. -/
theorem not_mem_fill {c : Char} {t : Template} {v : JsonValue} (hletters : c ∉ t.letters)
    (hslots : ∀ tag ∈ t.slots, ∀ w, v.follow? tag.keys = some w → c ∉ w.display)
    (hrepeats : ∀ r ∈ t.repeats, ∀ items, (v.follow? r.1.keys).bind JsonValue.items? = some items →
      ∀ item ∈ items, c ∉ r.2.fill .raw item) : c ∉ t.fill .raw v := by
  induction t with
  | done => simp [fill]
  | text cs next ih =>
    rw [letters, List.mem_append, not_or] at hletters
    rw [fill, List.mem_append, not_or]
    exact ⟨hletters.1, ih hletters.2 hslots hrepeats⟩
  | value tag raw next ih =>
    rw [fill, List.mem_append, not_or]
    refine ⟨?_, ih hletters (fun u hu => hslots u (by simp [slots, hu])) hrepeats⟩
    split
    · simp
    · rename_i w hw
      have hdisplay := hslots tag (by simp [slots]) w hw
      cases raw <;> exact hdisplay
  | choose tag yes no next ihYes ihNo ih =>
    simp only [letters, List.mem_append, not_or] at hletters
    rw [fill, List.mem_append, not_or]
    refine ⟨?_, ih hletters.2 (fun u hu => hslots u (by simp [slots, hu])) fun r hr => hrepeats r
      (by simp [repeats, hr])⟩
    split
    · exact ihYes hletters.1.1 (fun u hu => hslots u (by simp [slots, hu])) fun r hr =>
        hrepeats r (by simp [repeats, hr])
    · exact ihNo hletters.1.2 (fun u hu => hslots u (by simp [slots, hu])) fun r hr =>
        hrepeats r (by simp [repeats, hr])
  | each tag body hasOther other next _ ihOther ih =>
    rw [letters, List.mem_append, not_or] at hletters
    rw [fill, List.mem_append, not_or]
    refine ⟨?_, ih hletters.2 (fun u hu => hslots u (by simp [slots, hu])) fun r hr => hrepeats r
      (by simp [repeats, hr])⟩
    split
    · rename_i w ws hitems
      rw [List.mem_flatMap]
      rintro ⟨item, hitem, hc⟩
      exact hrepeats (tag, body) (by simp [repeats]) _ hitems item hitem hc
    · split
      · exact ihOther hletters.1 (fun u hu => hslots u (by simp [slots, hu])) fun r hr =>
          hrepeats r (by simp [repeats, hr])
      · simp

/-! ## Spelled-out templates

A template is written with string literals, and a literal stands for its bytes: its characters are
only known once they are decoded, which takes long for a whole template. The same template with its
literals spelled out can be computed with at once. -/

/-- The characters of some strings. -/
inductive Letters : List String → List (List Char) → Prop
  | nil : Letters [] []
  | cons {ls : List String} {css : List (List Char)} (cs : List Char) : Letters ls css →
      Letters (String.ofList cs :: ls) (cs :: css)

theorem Letters.map_toList {ls : List String} {css : List (List Char)} (h : Letters ls css) :
    ls.map String.toList = css := by
  induction h with
  | nil => rfl
  | cons cs _ ih => rw [List.map_cons, String.toList_ofList, ih]

/-- The second template is the first one with the lines of its texts spelled out. -/
inductive Spelled : Template → Template → Prop
  | done : Spelled .done .done
  | lines {ls : List String} {css : List (List Char)} {next next' : Template} : Letters ls css →
      Spelled next next' → Spelled (lines ls next) (.text (['\n'].intercalate css) next')
  | value {tag : TemplateTag} {raw : Bool} {next next' : Template} : Spelled next next' →
      Spelled (.value tag raw next) (.value tag raw next')
  | choose {tag : TemplateTag} {yes yes' no no' next next' : Template} : Spelled yes yes' → Spelled no no' →
      Spelled next next' → Spelled (.choose tag yes no next) (.choose tag yes' no' next')
  | each {tag : TemplateTag} {hasOther : Bool} {body body' other other' next next' : Template} :
      Spelled body body' →
      Spelled other other' → Spelled next next' →
      Spelled (.each tag body hasOther other next) (.each tag body' hasOther other' next')

theorem Spelled.eq {t u : Template} (h : Spelled t u) : t = u := by
  induction h with
  | done => rfl
  | lines hls _ ih => rw [Template.lines, hls.map_toList, ih]
  | value _ ih => rw [ih]
  | choose _ _ _ ihYes ihNo ih => rw [ihYes, ihNo, ih]
  | each _ _ _ ihBody ihOther ih => rw [ihBody, ihOther, ih]

end Template

theorem TemplateStore.render_put {escaping : Escaping} {name : String} {t : Template} {v : JsonValue}
    (h : t.Supplied v) :
    ((TemplateStore.empty escaping).put name t).render name v = .ok (String.ofList (t.fill escaping v)) := by
  simp [TemplateStore.render, TemplateStore.put, TemplateStore.empty, Template.render_eq_fill h]

end UiSkeleton
