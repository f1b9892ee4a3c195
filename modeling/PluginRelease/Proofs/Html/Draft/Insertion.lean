import PluginRelease.Proofs.Html.Draft.Growth

/-!
The ways to put new content into a draft: elements that are opened, elements that stay empty, and
characters.
-/
namespace PluginRelease.Html.Draft
variable {d e : Draft} {i j k p r : Nat} {l : List Nat} {tag : String} {tags : List String}
  {place : Place} {c : Content} {name : ElementName} {attributes : List Attribute}

/-! ## Places in similar drafts -/

/-- What a place depends on. -/
structure SameAt (d e : Draft) (i : Nat) : Prop where
  name : e.name? i = d.name? i
  parent : e.parent? i = d.parent? i
  inside : e.inside? i = d.inside? i

theorem SameAt.is_eq (h : SameAt d e i) (r : ElementName → Bool) : e.is r i = d.is r i := by
  rw [is, h.name, is]

theorem fosterPlace_congr (h : ∀ i ∈ l, SameAt d e i) : e.fosterPlace l = d.fosterPlace l := by
  induction l with
  | nil => rfl
  | cons i l ih =>
    cases l with
    | nil => rfl
    | cons j l =>
      have hi := h i (.head _)
      rw [fosterPlace, fosterPlace, ih fun j hj => h j (.tail _ hj), isTag, isTag, isTag, isTag,
        hi.is_eq, hi.is_eq, hi.inside, hi.parent]

theorem placeBy_congr (hfostering : e.fostering = d.fostering) (h : ∀ i ∈ l, SameAt d e i) :
    e.placeBy l = d.placeBy l := by
  cases l with
  | nil => rfl
  | cons i l =>
    have hi := h i (.head _)
    rw [placeBy, placeBy, hfostering, fosterPlace_congr h, isTag, isTag, hi.is_eq, hi.is_eq,
      hi.inside]

/-! ## Nodes that are made -/

/-- One draft is another with one more node, which is not yet put anywhere. -/
structure Made (d e : Draft) (c : Content) : Prop where
  keeps : Keeps d e
  linked : Linked e
  parent : ∀ a, e.parent? a = d.parent? a
  content : e.content? d.entries.size = some c
  inside : ∀ a r, d.entries.size ≤ a → e.inside? a = some r →
    d.entries.size ≤ r ∧ e.content? r = some .root
  only : ∀ a c, d.entries.size < a → e.content? a = some c → c = .root

theorem Made.add (h : Linked d) (c : Content) : Made d (d.add c).1 c where
  keeps := by
    refine ⟨by simp, fun a ha => ?_, fun a _ => inside?_add d c a, rfl⟩
    rw [lasting?, content?_add, if_neg (Nat.ne_of_lt ha), lasting?]
  linked := h.add c
  parent := parent?_add d c
  content := by rw [content?_add, if_pos rfl]
  inside a r ha hr := by
    rw [inside?_add] at hr
    exact absurd (lt_of_inside? hr) (Nat.not_lt.mpr ha)
  only a c' ha hc := by
    rw [content?_add, if_neg (Nat.ne_of_gt ha)] at hc
    exact absurd (lt_of_content? hc) (Nat.not_lt.mpr (Nat.le_of_lt ha))

theorem create_eq (d : Draft) (name : ElementName) (attributes : List Attribute) :
    d.create name attributes =
      (if name = .html "template" then
        (((d.add (.element name attributes)).1.add .root).1.setInside d.entries.size
          (some (d.entries.size + 1)), d.entries.size)
      else d.add (.element name attributes)) := by
  rw [← size_add d (.element name attributes)]
  rfl

@[simp] theorem create_snd (d : Draft) (name : ElementName) (attributes : List Attribute) :
    (d.create name attributes).2 = d.entries.size := by
  rw [create_eq]
  split <;> rfl

theorem Made.create (h : Linked d) (name : ElementName) (attributes : List Attribute) :
    Made d (d.create name attributes).1 (.element name attributes) := by
  rw [create_eq]
  split
  · have hadd := (h.add (.element name attributes)).add .root
    have hcontent (a : Nat) : ((d.add (.element name attributes)).1.add .root).1.content? a =
        if a = d.entries.size + 1 then some .root
        else if a = d.entries.size then some (.element name attributes) else d.content? a := by
      rw [content?_add, content?_add, size_add]
    have hinside (a : Nat) : (((d.add (.element name attributes)).1.add .root).1.setInside
        d.entries.size (some (d.entries.size + 1))).inside? a =
        if d.entries.size = a then some (d.entries.size + 1) else d.inside? a := by
      rw [inside?_setInside, inside?_add, inside?_add, size_add, size_add]
      by_cases ha : d.entries.size = a
      · rw [if_pos ⟨ha, by omega⟩, if_pos ha]
      · rw [if_neg fun hboth => ha hboth.1, if_neg ha]
    refine ⟨⟨?_, fun a ha => ?_, fun a ha => ?_, rfl⟩, hadd.setInside _ _, fun a => ?_, ?_,
      fun a r ha hr => ?_, fun a c ha hc => ?_⟩
    · rw [size_setInside, size_add, size_add]
      omega
    · rw [lasting?, content?_setInside, hcontent, if_neg (by omega), if_neg (Nat.ne_of_lt ha),
        lasting?]
    · rw [hinside, if_neg (Nat.ne_of_gt ha)]
    · rw [parent?_setInside, parent?_add, parent?_add]
    · rw [content?_setInside, hcontent, if_neg (by omega), if_pos rfl]
    · rw [hinside] at hr
      rw [content?_setInside]
      split at hr
      · rw [← Option.some.inj hr, hcontent, if_pos rfl]
        exact ⟨Nat.le_succ _, rfl⟩
      · exact absurd (lt_of_inside? hr) (Nat.not_lt.mpr ha)
    · rw [content?_setInside, hcontent] at hc
      split at hc
      · exact (Option.some.inj hc).symm
      · rw [if_neg (Nat.ne_of_gt ha)] at hc
        exact absurd (lt_of_content? hc) (Nat.not_lt.mpr (Nat.le_of_lt ha))
  · exact .add h _

/-- A node that is made is new once it is put somewhere. -/
theorem Grown.of_made (h : Made d e c) (hc : c ≠ .root) (hp : place.parent < d.entries.size)
    (hholds : ∀ s, d.content? place.parent ≠ some (.text s)) :
    Grown d (e.attach d.entries.size place) d.entries.size place.parent where
  new := rfl
  keeps := by
    refine ⟨by simpa using h.keeps.size_le, fun a ha => ?_, fun a ha => ?_, ?_⟩
    · rw [lasting?, content?_attach]
      exact h.keeps.lasting a ha
    · rw [inside?_attach]
      exact h.keeps.inside a ha
    · rw [attach_eq]
      exact h.keeps.head
  linked := by
    refine h.linked.attach (lt_of_content? h.content) ?_ ?_ fun s hs => ?_
    · rw [h.parent, parent?_of_le (Nat.le_refl _)]
    · exact Nat.lt_of_lt_of_le hp h.keeps.size_le
    · obtain ⟨s', hs'⟩ := (h.keeps.text_iff hp).mp ⟨s, hs⟩
      exact hholds s' hs'
  parent a ha := by
    rw [parent?_attach (lt_of_content? h.content), if_neg ha, h.parent]
  parent_new := by rw [parent?_attach (lt_of_content? h.content), if_pos rfl]
  not_root := by
    rw [content?_attach, h.content]
    exact fun heq => hc (Option.some.inj heq)
  inside_new a r ha hr := by
    rw [inside?_attach] at hr
    rw [content?_attach]
    exact h.inside a r ha hr
  only a c' ha hne hc' := by
    rw [content?_attach] at hc'
    exact h.only a c' (Nat.lt_of_le_of_ne ha hne.symm) hc'

/-! ## New elements -/

theorem html_ne_of_not_mem {tag : String} (h : tag ∉ tags) :
    ∀ other ∈ tags, ElementName.html tag ≠ .html other := by
  intro other hother heq
  exact h (html_inj.mp heq ▸ hother)

theorem Rewired.create (d : Draft) (name : ElementName) (attributes : List Attribute) :
    Rewired d (d.create name attributes).1 := by
  rw [create_eq]
  split
  · exact ((Rewired.add d _).trans (.add _ _)).trans (.modify _ _ _)
  · exact .add d _

theorem Rewired.insertElement (d : Draft) (name : ElementName) (attributes : List Attribute) :
    Rewired d (d.insertElement name attributes).1 :=
  (Rewired.create d name attributes).trans (.attach _ _ _)

theorem Rewired.insertEmpty (d : Draft) (t : Tag) : Rewired d (d.insertEmpty t) :=
  .insertElement d _ _

theorem Made.name? {name : ElementName} {attributes : List Attribute}
    (h : Made d e (.element name attributes)) (place : Place) :
    (e.attach d.entries.size place).name? d.entries.size = some name :=
  name?_eq_some_iff.mpr ⟨attributes, by rw [content?_attach, h.content]⟩

/-- The place for content is the same once a node is made. -/
theorem Made.placeBy (h : Made d e c) (hfostering : e.fostering = d.fostering)
    (hl : ∀ j ∈ l, j < d.entries.size) : e.placeBy l = d.placeBy l :=
  placeBy_congr hfostering fun j hj =>
    ⟨h.keeps.name? (hl j hj), h.parent j, h.keeps.inside j (hl j hj)⟩

theorem Site.lt_size {l : List Nat} (h : Site d l p) : p < d.entries.size := by
  obtain ⟨c, hc, -⟩ := h.holds
  exact lt_of_content? hc

theorem Site.not_text {l : List Nat} (h : Site d l p) (s : List Char) :
    d.content? p ≠ some (.text s) := by
  obtain ⟨c, hc, htext⟩ := h.holds
  rw [hc]
  exact fun heq => htext s (Option.some.inj heq)

theorem Sound.place_of_made (h : Sound d) (hm : Made d e c) (hfostering : e.fostering = d.fostering)
    (hstack : e.stack = d.stack) : e.place = d.place := by
  rw [place_eq (hstack ▸ h.stack_ne_nil), place_eq h.stack_ne_nil, hstack]
  exact hm.placeBy hfostering fun j hj => h.lt_of_mem hj

theorem Sound.insertElement_eq (h : Sound d) (name : ElementName) (attributes : List Attribute) :
    d.insertElement name attributes =
      ((d.create name attributes).1.attach d.entries.size d.place, d.entries.size) := by
  have hplace := h.place_of_made (.create h.linked name attributes)
    (Rewired.create d name attributes).fostering (Rewired.create d name attributes).stack
  rw [← hplace, ← create_snd d name attributes]
  rfl

section
variable (h : Sound d)
include h

theorem Sound.grown_insertElement (name : ElementName) (attributes : List Attribute) :
    Grown d (d.insertElement name attributes).1 d.entries.size d.place.parent := by
  rw [h.insertElement_eq]
  exact .of_made (.create h.linked name attributes) (by simp) h.site.lt_size
    h.site.not_text

theorem Sound.name?_insertElement (name : ElementName) (attributes : List Attribute) :
    (d.insertElement name attributes).1.name? d.entries.size = some name := by
  rw [h.insertElement_eq]
  exact (Made.create h.linked name attributes).name? d.place

/-- An element that stays empty. -/
theorem Sound.insertElement (hname : ∀ tag ∈ reservedTags, name ≠ .html tag)
    (attributes : List Attribute) : Leads d (d.insertElement name attributes).1 := by
  have hg := h.grown_insertElement name attributes
  have hn := h.name?_insertElement name attributes
  have he := Rewired.insertElement d name attributes
  refine h.grow_other hg h.site.lt_size (.of_leaf h hg he.stack) ?_ he.form he.formatting he.mode
    he.templateModes
  rintro ⟨tag, htag, htagged⟩
  exact hname tag htag (Option.some.inj (hn.symm.trans htagged))

/-- An open element that is new in its place. -/
theorem Sound.stands_new (hg : Grown d e i p) (hsite : Site d d.stack p)
    (hn : e.name? i = some name) (hhead : name ≠ .html "head")
    (hrow : name = .html "tr" → ∀ j, d.stack.head? = some j → d.IsIn rowHolders j)
    (hsection : (∃ tag ∈ ElementName.sections, name = .html tag) →
      ∀ j, d.stack.head? = some j → d.IsIn sectionHolders j) : Stands e i d.stack := by
  have hlinked := h.linked
  have hin {tags : List String} : e.IsIn tags i ↔ ∃ tag ∈ tags, name = .html tag := by
    simp only [IsIn, hn, Option.some.injEq]
  have hmem {j : Nat} (hj : d.stack.head? = some j) : j < d.entries.size :=
    h.lt_of_mem (List.mem_of_head? hj)
  have hnew {k j : Nat} (hk : d.entries.size ≤ k) (hj : j ∈ d.stack) : ¬ Under e k j :=
    hg.not_under_of_new hlinked (h.lt_of_mem hj) hk
  refine ⟨by simp [hn], fun j hj => ⟨hnew (Nat.le_of_eq hg.new.symm) hj, hnew ?_ hj⟩,
    fun hi j hj => ?_, fun hi j hj => ?_, fun hi => ?_, fun _ k hk => ?_⟩
  · exact hg.le_ground
  · have hname : name = .html "tr" := by simpa using hin.mp hi
    exact (hg.keeps.isIn_iff (hmem hj)).mpr (hrow hname j hj)
  · exact (hg.keeps.isIn_iff (hmem hj)).mpr (hsection (hin.mp hi) j hj)
  · exact absurd (by simpa using hin.mp hi) hhead
  · rw [hg.keeps.nearest_iff fun j hj => h.lt_of_mem hj] at hk
    rw [hg.keeps.ground_eq (h.lt_of_mem hk.mem), hg.under_new_iff hlinked hsite.lt_size]
    exact .inr (hsite.inside k hk)

/-- An element that is opened where it may stand. -/
theorem Sound.openElement_of (hname : ∀ tag ∈ "head" :: reservedTags, name ≠ .html tag)
    (hrow : name = .html "tr" → ∀ j, d.stack.head? = some j → d.IsIn rowHolders j)
    (hsection : (∃ tag ∈ ElementName.sections, name = .html tag) →
      ∀ j, d.stack.head? = some j → d.IsIn sectionHolders j)
    (attributes : List Attribute) : Leads d (d.openElement name attributes) := by
  have hg := h.grown_insertElement name attributes
  have hn := h.name?_insertElement name attributes
  have he := Rewired.insertElement d name attributes
  have hopen : d.openElement name attributes =
      (d.insertElement name attributes).1.push d.entries.size := by
    rw [openElement, h.insertElement_eq]
  rw [hopen]
  have hg' := hg.congr (f := Draft.push _ d.entries.size) rfl rfl
  refine h.grow_other hg' h.site.lt_size (.of_open h hg' ?_ ?_ ?_) ?_ he.form he.formatting he.mode
    he.templateModes
  · exact congrArg _ he.stack
  · exact h.stands_new hg' h.site hn (hname _ (.head _)) hrow hsection
  · exact fun k hk hshut => h.site.outside k hk.not_root hshut
  · rintro ⟨tag, htag, htagged⟩
    exact hname tag (.tail _ htag) (Option.some.inj (hn.symm.trans htagged))

/-- Tags of elements that have their place, or are opened by rules of their own. -/
def partTags : List String := "head" :: reservedTags ++ "tr" :: ElementName.sections

theorem Sound.openElement (hname : ∀ tag ∈ partTags, name ≠ .html tag)
    (attributes : List Attribute) : Leads d (d.openElement name attributes) := by
  refine h.openElement_of (fun tag htag => hname tag (List.mem_append_left _ htag)) ?_ ?_ attributes
  · rintro rfl
    exact absurd rfl (hname "tr" (by decide))
  · rintro ⟨tag, htag, rfl⟩
    exact absurd rfl (hname tag (List.mem_append_right _ (.tail _ htag)))

variable {t : Tag}

theorem Sound.openTag (ht : t.name ∉ partTags) : Leads d (d.openTag t) :=
  h.openElement (html_ne_of_not_mem ht) t.attributes

theorem Sound.insertEmpty (ht : t.name ∉ reservedTags) : Leads d (d.insertEmpty t) :=
  h.insertElement (html_ne_of_not_mem ht) t.attributes

end

/-! ## Changes of what an element holds -/

theorem Alike.modify {f : Entry → Entry} (h : Linked d) (hparent : ∀ e, (f e).parent = e.parent)
    (hchildren : ∀ e, (f e).children = e.children) (hinside : ∀ e, (f e).inside = e.inside)
    (hlasting : ∀ e, d.entries[i]? = some e →
      Draft.lasting (f e).content = Draft.lasting e.content) : Alike d (d.modify i f) := by
  have hsame (j : Nat) : (d.modify i f).lasting? j = d.lasting? j := by
    rw [lasting?, content?, getElem?_modify, lasting?, content?]
    split
    · next hij =>
      subst hij
      cases he : d.entries[i]? with
      | none => rfl
      | some e => simp [hlasting e he]
    · rfl
  refine ⟨⟨fun p j => ?_, fun p => ?_, fun j p s hp hs => ?_⟩, size_modify d i f, hsame,
    fun j => inside?_modify hinside d i j, fun j => parent?_modify hparent d i j, rfl⟩
  · rw [children_modify hchildren, parent?_modify hparent, h.mem_children_iff]
  · rw [children_modify hchildren]
    exact h.nodup p
  · rw [parent?_modify hparent] at hp
    have htext := lasting?_eq_text_iff.mpr ⟨s, hs⟩
    rw [hsame, lasting?_eq_text_iff] at htext
    obtain ⟨s', hs'⟩ := htext
    exact h.holds j p s' hp hs'

/-- What an element holds changes, and its name stays. -/
theorem Sound.modify (h : Sound d) {f : Entry → Entry} (hparent : ∀ e, (f e).parent = e.parent)
    (hchildren : ∀ e, (f e).children = e.children) (hinside : ∀ e, (f e).inside = e.inside)
    (hlasting : ∀ e, d.entries[i]? = some e → lasting (f e).content = lasting e.content) :
    Leads d (d.modify i f) := by
  have he := Alike.modify h.linked hparent hchildren hinside hlasting
  exact h.calm he rfl rfl (fun _ hx => hx) (h.mode.of_alike he fun _ hi _ => hi) fun _ hm => hm

theorem Sound.addMissing (h : Sound d) (hi : d.IsIn ["html", "body"] i)
    (attributes : List Attribute) : Leads d (d.addMissing i attributes) := by
  obtain ⟨tag, htag, hn⟩ := hi
  obtain ⟨own, hc⟩ := name?_eq_some_iff.mp hn
  refine h.modify (fun e => ?_) (fun e => ?_) (fun e => ?_) fun e he => ?_
  · split <;> rfl
  · split <;> rfl
  · split <;> rfl
  · have hcontent : e.content = .element (.html tag) own := by
      rw [content?, he] at hc
      exact Option.some.inj hc
    have hname : (ElementName.html tag = .html "html" ∨ ElementName.html tag = .html "body") := by
      simpa using htag
    simp only [hcontent, lasting, lastingAttributes, if_pos hname]

/-- A character is new in its place, or is put to the text before it. -/
theorem insertCharacter_cases (d : Draft) (c : Char) :
    d.insertCharacter c = (d.add (.text [c])).1.attach d.entries.size d.place ∨
      ∃ i s, d.content? i = some (.text s) ∧
        d.insertCharacter c = d.modify i fun e => { e with content := .text (c :: s) } := by
  rw [insertCharacter]
  dsimp only
  split
  · exact .inl rfl
  · next i _ =>
    split
    · next s hs => exact .inr ⟨i, s, hs, rfl⟩
    · exact .inl rfl

theorem Rewired.insertCharacter (d : Draft) (c : Char) : Rewired d (d.insertCharacter c) := by
  rcases insertCharacter_cases d c with heq | ⟨i, s, -, heq⟩
  · exact heq ▸ (Rewired.add d _).trans (.attach _ _ _)
  · exact heq ▸ .modify d _ _

/-- A text where content may go. -/
theorem Sound.addText (h : Sound d) (hentries : e.entries =
      ((d.add c).1.attach d.entries.size place).entries) (hc : ∃ s, c = .text s)
    (he : Rewired d e) (hp : place.parent < d.entries.size)
    (hholds : ∀ s, d.content? place.parent ≠ some (.text s)) : Leads d e := by
  obtain ⟨s, rfl⟩ := hc
  have hm := Made.add h.linked (.text s)
  have hgrown := Grown.of_made hm (by simp) hp hholds
  have hg := hgrown.congr hentries (he.head.trans hgrown.keeps.head.symm)
  have hno : e.name? d.entries.size = none := by
    rw [name?, content?_congr hentries, content?_attach, hm.content]
  refine h.grow_other hg hp (.of_leaf h hg he.stack) ?_ he.form he.formatting he.mode
    he.templateModes
  rintro ⟨tag, -, hn⟩
  rw [hno] at hn
  cases hn

theorem Sound.growText (h : Sound d) {s : List Char} (hs : d.content? i = some (.text s))
    (c : Char) : Leads d (d.modify i fun e => { e with content := .text (c :: s) }) := by
  refine h.modify (fun _ => rfl) (fun _ => rfl) (fun _ => rfl) fun e he => ?_
  have hcontent : e.content = .text s := by
    rw [content?, he] at hs
    exact Option.some.inj hs
  rw [hcontent]
  rfl

theorem Sound.insertCharacter (h : Sound d) (c : Char) : Leads d (d.insertCharacter c) := by
  have he := Rewired.insertCharacter d c
  rcases insertCharacter_cases d c with heq | ⟨i, s, hs, heq⟩
  · exact h.addText (congrArg entries heq) ⟨_, rfl⟩ he h.site.lt_size h.site.not_text
  · exact heq ▸ h.growText hs c

end PluginRelease.Html.Draft
