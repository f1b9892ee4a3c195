import PluginRelease.Proofs.Html.Draft.Running

/-!
The body of a page: every token of running text leads on, and adds no control but for a start tag of
one.
-/
namespace PluginRelease.Html.Draft
variable {d e : Draft} {i j k x : Nat} {a l : List Nat} {t : Tag} {u : Token} {tag : String}
  {tags : List String}

/-! ## The end of a form -/

theorem Passes.ends (h : Passes d e) (hnew : e.entries.size = d.entries.size)
    (ht : t.name = "form") : Ends (.endTag t) d e :=
  Adds.ends ⟨h, fun _ hi hcontrol => absurd hcontrol.lt_size (Nat.not_lt.mpr (hnew ▸ hi)),
    fun _ _ _ => .inr (.inr ⟨t, rfl, ht⟩)⟩

theorem form_not_anchor (m : Mode) : ∀ tag ∈ ["form"], tag ∉ anchors m := by
  cases m <;> decide

/-- The end tag of a form closes the form alone, and what is open in it stays open. -/
theorem Sound.closeForm (h : Sound d) (hflows : Flows d) (ht : t.name = "form") :
    Ends (.endTag t) d d.closeForm := by
  rw [Draft.closeForm]
  split
  · split
    · next hopen =>
      exact (h.popThroughTag_implyEnds hflows (by decide) hopen (by decide) (by decide)).ends
    · exact (Leads.refl h).ends
  · split
    · exact (Leads.refl h).ends
    · next k hk =>
      have hform := (h.form k hk).1
      have hfree : Leads d { d with form := none } :=
        h.retune rfl rfl rfl (by simp) (fun _ hy => .inl hy) h.mode h.templates
      dsimp only
      split
      · have himplied := hfree.sound.implyEnds impliedEnds_not_pillar
        have hin : (({ d with form := none } : Draft).implyEnds ElementName.impliedEnds).IsIn
            ["form"] k := hform.congr rfl
        have hpasses := himplied.sound.close_passes (hin.not_of_disjoint (by decide)) rfl
          (hin.not_of_disjoint (form_not_anchor _))
        exact (hfree.trans himplied).trans_ends (hpasses.ends rfl ht)
      · exact hfree.ends

/-! ## Frames -/

theorem place_enter (d : Draft) (m : Mode) : (d.enter m).place = d.place := by
  have hfoster : (d.enter m).fosterPlace d.stack = d.fosterPlace d.stack :=
    fosterPlace_congr fun _ _ => ⟨rfl, rfl, rfl⟩
  unfold place placeIn
  rw [show (d.enter m).stack = d.stack from rfl, hfoster]
  rfl

theorem insertElement_enter (d : Draft) (m : Mode) (name : ElementName)
    (attributes : List Attribute) : (d.enter m).insertElement name attributes =
      ((d.insertElement name attributes).1.enter m, (d.insertElement name attributes).2) := by
  have hcreate : (d.enter m).create name attributes =
      ((d.create name attributes).1.enter m, (d.create name attributes).2) := by
    rw [create_eq, create_eq]
    split <;> rfl
  have hattach (d : Draft) (i : Nat) (place : Place) :
      (d.enter m).attach i place = (d.attach i place).enter m := by
    cases place <;> rfl
  have hinsert (d : Draft) : d.insertElement name attributes =
      ((d.create name attributes).1.attach (d.create name attributes).2
        (d.create name attributes).1.place, (d.create name attributes).2) := rfl
  rw [hinsert, hinsert, hcreate, place_enter, hattach]

theorem enter_openTag (d : Draft) (t : Tag) (m : Mode) :
    (d.openTag t).enter m = (d.enter m).openTag t := by
  rw [Draft.openTag, Draft.openTag, openElement, openElement, insertElement_enter]
  rfl

theorem ne_body_of_isIn (hi : d.IsIn ["body"] i) (htags : "body" ∉ tags) (hj : d.IsIn tags j) :
    j ≠ i := by
  have hdis : ∀ tag ∈ tags, tag ∉ ["body"] := fun tag htag hmem =>
    htags (List.mem_singleton.mp hmem ▸ htag)
  rintro rfl
  exact hj.not_of_disjoint hdis hi

/-- A page without its body and all that stands in it, ready for frames. -/
def evicted (d : Draft) (i : Nat) : Draft := { d.detach i with stack := [1], mode := .frameset }

theorem parent?_evicted (d : Draft) (i j : Nat) :
    (d.evicted i).parent? j = if j = i then none else d.parent? j := by
  rw [parent?_congr (show (d.evicted i).entries = (d.detach i).entries from rfl), parent?_detach]

theorem content?_evicted (d : Draft) (i j : Nat) : (d.evicted i).content? j = d.content? j := by
  rw [content?_congr (show (d.evicted i).entries = (d.detach i).entries from rfl), content?_detach]

theorem inside?_evicted (d : Draft) (i j : Nat) : (d.evicted i).inside? j = d.inside? j := by
  rw [inside?_congr (show (d.evicted i).entries = (d.detach i).entries from rfl), inside?_detach]

theorem isIn_evicted : (d.evicted i).IsIn tags j ↔ d.IsIn tags j := by
  simp only [IsIn, name?, content?_evicted]

theorem keeps_evicted (d : Draft) (i : Nat) : Keeps d (d.evicted i) where
  size_le := Nat.le_of_eq (size_detach d i).symm
  lasting j _ := by rw [lasting?, content?_evicted, lasting?]
  inside j _ := inside?_evicted d i j
  head := (Rewired.detach d i).head

/-- Nothing comes to stand in anything when a body goes. -/
theorem under_of_evicted (h : Under (d.evicted i) k j) : Under d k j := by
  induction h with
  | refl => exact .refl
  | step hp _ ih =>
    rw [parent?_evicted] at hp
    split at hp
    · cases hp
    · exact .step hp ih

/-- Without the body no form is open. -/
theorem Grounded.shut_evicted (h : Grounded d) (hk : d.IsIn ["form"] k) :
    Shut (d.evicted i) k := by
  have hone : d.IsIn ["html"] 1 := (h.html_iff 1).mpr rfl
  intro s hs hks
  obtain rfl : s = 1 := List.mem_singleton.mp hs
  rcases (under_step h.page).mp (under_of_evicted hks) with rfl | hks
  · exact hk.not_of_disjoint (by decide) hone
  · rw [under_of_free h.rooted.root_free] at hks
    exact hk.not_root (hks ▸ h.rooted.content)

theorem Grounded.evicted (h : Grounded d) (hi : d.IsIn ["body"] i) : Grounded (d.evicted i) where
  rooted := by
    refine ⟨.congr (d := d.detach i) rfl (h.rooted.linked.detach i), ?_, fun j hj => ?_⟩
    · rw [content?_evicted]
      exact h.rooted.content
    · rw [content?_evicted] at hj
      rw [parent?_evicted, h.rooted.free j hj, ite_self]
  inside j r hr := by
    rw [inside?_evicted] at hr
    rw [content?_evicted]
    exact h.inside j r hr
  page := by
    have hone : (1 : Nat) ≠ i := ne_body_of_isIn hi (by decide) ((h.html_iff 1).mpr rfl)
    rw [parent?_evicted, if_neg hone, h.page]
  html_iff j := isIn_evicted.trans (h.html_iff j)
  head := by
    obtain ⟨j, hj, hjin, hp⟩ := h.head
    refine ⟨j, (Rewired.detach d i).head.trans hj, isIn_evicted.mpr hjin, ?_⟩
    rw [parent?_evicted, if_neg (ne_body_of_isIn hi (by decide) hjin), hp]

theorem Sound.evicted (h : Sound d) (hi : d.IsIn ["body"] i) : Sound (d.evicted i) where
  grounded := h.grounded.evicted hi
  stacked := by
    refine .cons ⟨(isIn_evicted.mpr h.isIn_one).isSome, by simp, by simp, by simp, by simp, ?_⟩ .nil
    intro _ k hk
    cases hk
  bottom := rfl
  formats := by
    refine h.formats.congr (fun j hj => (keeps_evicted d i).name? hj) fun y hy => .inl ?_
    rwa [← (Rewired.detach d i).formatting]
  form k hk := by
    have hform := (h.form k ((Rewired.detach d i).form.symm.trans hk)).1
    exact ⟨isIn_evicted.mpr hform, .inr (h.grounded.shut_evicted hform)⟩
  mode := .of_free (m := .frameset) (by decide)
  templates m hm := h.templates m ((Rewired.detach d i).templateModes ▸ hm)

section
variable (h : Sound d) (hstack : d.stack = a ++ [i, 1]) (hi : d.IsIn ["body"] i)
include h hstack hi

/-- No open form is around the body. -/
theorem not_under_body (hk : d.IsIn ["form"] k) (hopen : k ∈ d.stack) : ¬ Under d k i := by
  have hmem : k ∈ a := by
    rw [hstack] at hopen
    have hne := ne_body_of_isIn hi (by decide) hk
    have hone : k ≠ 1 := by
      rintro rfl
      exact hk.not_of_disjoint (by decide) h.isIn_one
    simpa [hne, hone] using hopen
  exact Stacked.not_under (hstack ▸ h.stacked) hmem (.head _)

/-- A body is taken out with all that stands in it. -/
theorem Sound.evict : Leads d (d.evicted i) where
  before := h
  sound := h.evicted hi
  keeps := keeps_evicted d i
  stays_closed j _ hclosed hj := by
    obtain rfl := List.mem_singleton.mp hj
    exact hclosed (by simp [hstack])
  stays j _ hclosed _ := by
    rw [parent?_evicted, if_neg]
    rintro rfl
    exact hclosed (by simp [hstack])
  shut k hk _ := ⟨h.grounded.shut_evicted hk, fun j _ => under_of_evicted⟩
  under k hk hopen j hj := by
    -- the way up to an open form does not lead through the body
    induction hj with
    | refl => exact .refl
    | @step j p hp hkp ih =>
      refine .step ?_ ih
      rw [parent?_evicted, if_neg, hp]
      rintro rfl
      exact not_under_body h hstack hi hk hopen (.step hp hkp)
  moored k hk _ j hj := by
    refine (h.grounded.shut_evicted hk).moored (hj.under.congr fun s _ hsj hks => ?_)
    rw [parent?_evicted, if_neg]
    rintro rfl
    exact hj.fixed s ⟨[1], ⟨a, hstack.symm⟩, .inl hi⟩ hks hsj
  form_open k hk _ := .inr (h.grounded.shut_evicted hk)
  new j hj hcontrol := by
    have hlt : j < (d.detach i).entries.size := hcontrol.lt_size
    rw [size_detach] at hlt
    exact Nat.not_lt.mpr hj hlt

end

theorem Sound.replaceBody (h : Sound d) (ht : t.name = "frameset") : Leads d (d.replaceBody t) := by
  rw [Draft.replaceBody]
  split
  · exact .refl h
  · split
    · exact .refl h
    · next i hi =>
      obtain ⟨a, hstack, hbody⟩ : ∃ a, d.stack = a ++ [i, 1] ∧ d.isTag "body" i = true := by
        rw [body?] at hi
        split at hi
        · next x j l hl =>
          split at hi
          · next hbody =>
            obtain rfl := Option.some.inj hi
            have hstack : d.stack = l.reverse ++ [j, x] := by
              rw [← List.reverse_reverse d.stack, hl]
              simp
            obtain rfl : x = 1 := Option.some.inj (h.bottom_of_append hstack (by simp))
            exact ⟨l.reverse, hstack, hbody⟩
          · cases hi
        · cases hi
      have hrest : d.stack.drop (d.stack.length - 1) = [1] := by
        rw [hstack, List.length_append]
        simp [List.drop_append]
      have hevicted := h.evict hstack (isTag_iff_isIn.mp hbody)
      have hdetached : (d.detach i).stack = d.stack := (Rewired.detach d i).stack
      dsimp only
      rw [hdetached, hrest, enter_openTag]
      exact hevicted.trans (hevicted.sound.openTag (ht ▸ by decide))

/-! ## Start tags -/

theorem not_mem_of_contains {l : List String} (hl : l.contains tag = true)
    (hdis : ∀ tag ∈ l, tag ∉ tags) : tag ∉ tags :=
  hdis tag (List.contains_iff_mem.mp hl)

section
variable (h : Sound d)
include h

/-- A list of options is a control, and is in a table where its rules end it with the part. -/
theorem Sound.openSelect (ht : t.name = "select") : Ends (.startTag t) d (d.openSelect t) := by
  have hagain := h.reconstruct
  have hd := hagain.sound
  have he := Rewired.insertElement d.reconstruct (.html t.name) t.attributes
  have hstack : (d.openSelect t).stack = d.reconstruct.entries.size :: d.reconstruct.stack :=
    hd.stack_openTag t
  refine hagain.trans_ends (Adds.ends (hd.plant_open (ht ▸ by decide) hd.entries_openTag hstack
    he.head he.form he.formatting ?_ he.templateModes))
  have hopen : d.reconstruct.entries.size ∈ (d.openSelect t).stack := hstack ▸ .head _
  have hname : (d.openSelect t).name? d.reconstruct.entries.size = some (.html t.name) :=
    hd.name?_openTag t
  have hmode : (d.openSelect t).mode = .selectInTable ∨ (d.openSelect t).mode = .select := by
    rw [Draft.openSelect, Draft.enter]
    dsimp only
    split
    · exact .inl rfl
    · exact .inr rfl
  rcases hmode with hmode | hmode
  · rw [hmode]
    exact .of_mem (by decide) hopen (.of_name? hname (ht ▸ by decide))
  · rw [hmode]
    exact .of_free (by decide)

theorem Sound.openButton (hflows : Flows d) (ht : t.name = "button") :
    Ends (.startTag t) d (d.closeButton.reconstruct.openTag t).noFrames := by
  have hclosed : Leads d d.closeButton := h.closeTag hflows (by decide) (by decide)
  have hagain := hclosed.trans hclosed.sound.reconstruct
  exact (Flagged.noFrames _).ends
    (hagain.trans_ends (hagain.sound.openControl (ht ▸ by decide)).ends)

theorem Sound.openInput (ht : t.name = "input") :
    Ends (.startTag t) d (if isHidden t then d.flowEmpty t else (d.flowEmpty t).noFrames) := by
  have hplanted := h.reconstruct.trans_ends
    (h.reconstruct.sound.insertControl (t := t) (ht ▸ by decide)).ends
  split
  · exact hplanted
  · exact (Flagged.noFrames _).ends hplanted

theorem Sound.openTable (hflows : Flows d) (ht : t.name = "table") :
    Leads d (((if d.old then d.openTag t else d.openBlock t).noFrames).enter .table) := by
  have hopened : Leads d (if d.old then d.openTag t else d.openBlock t) := by
    split
    · exact h.openTag (ht ▸ by decide)
    · exact h.openBlock hflows (ht ▸ by decide)
  have hshown := hopened.trans hopened.sound.noFrames
  exact hshown.trans (hshown.sound.enter (.of_free (by decide)))

theorem Sound.startInBody (hflows : Flows d) : Ends (.startTag t) d (d.startInBody t) := by
  have hpart {a b : String} (hname : t.name = a ∨ t.name = b) (ha : a ∉ partTags)
      (hb : b ∉ partTags) : t.name ∉ partTags :=
    hname.elim (fun hname => hname ▸ ha) fun hname => hname ▸ hb
  rw [Draft.startInBody]
  dsimp only
  refine .ite (fun _ => h.mergeRoot.ends) fun hhtml => ?_
  refine .ite (fun hname => (h.openHeadTag (.tail _ (List.contains_iff_mem.mp hname))).ends)
    fun _ => ?_
  refine .ite (fun _ => h.mergeBody.ends) fun _ => ?_
  refine .ite (fun hname => (h.replaceBody hname).ends) fun _ => ?_
  refine .ite (fun hname => (h.openBlock hflows ?_).ends) fun _ => ?_
  · rcases hname with hname | hname
    · exact not_mem_of_contains hname (by decide)
    · exact hname ▸ by decide
  refine .ite (fun hname => (h.openHeading hflows (not_mem_of_contains hname (by decide))).ends)
    fun _ => ?_
  refine .ite (fun hname => ((h.openBlock hflows (hpart hname (by decide) (by decide))).flag
    ⟨_, _, _, _, _, _, rfl⟩).ends) fun _ => ?_
  refine .ite (fun hname => (h.openForm hflows hname).ends) fun _ => ?_
  refine .ite (fun hname => (h.openItem hflows (not_mem_of_contains hname (by decide))).ends)
    fun _ => ?_
  refine .ite (fun hname => ((h.openBlock hflows (hname ▸ by decide)).flag
    ⟨_, _, _, _, _, _, rfl⟩).ends) fun _ => ?_
  refine .ite (fun hname => h.openButton hflows hname) fun hbutton => ?_
  refine .ite (fun hname => (h.openLink hname).ends) fun _ => ?_
  refine .ite (fun hname => (h.reconstruct.trans (h.reconstruct.sound.openFormat ?_)).ends)
    fun _ => ?_
  · exact List.mem_append_left _ (List.contains_iff_mem.mp hname)
  refine .ite (fun hname => (h.openUnbroken hname).ends) fun _ => ?_
  refine .ite (fun hname => ?_) fun _ => ?_
  · have hopened := h.reconstruct.trans
      (h.reconstruct.sound.openTag (t := t) (not_mem_of_contains hname (by decide)))
    exact ((hopened.trans hopened.sound.mark).flag (.noFrames _)).ends
  refine .ite (fun hname => (h.openTable hflows hname).ends) fun _ => ?_
  refine .ite (fun hname => ((h.flowEmpty (not_mem_of_contains hname (by decide))).flag
    (.noFrames _)).ends) fun _ => ?_
  refine .ite (fun _ => ((h.flowEmpty (t := { t with name := "img" })
    (show "img" ∉ reservedTags by decide)).flag (.noFrames _)).ends) fun _ => ?_
  refine .ite (fun hname => h.openInput hname) fun hinput => ?_
  refine .ite (fun hname => (h.insertEmpty (not_mem_of_contains hname (by decide))).ends)
    fun _ => ?_
  refine .ite (fun hname => ?_) fun _ => ?_
  · have hclosed := h.closeParagraphInScope hflows
    exact ((hclosed.trans (hclosed.sound.insertEmpty (hname ▸ by decide))).flag (.noFrames _)).ends
  refine .ite (fun hname => Flagged.ends ⟨_, _, _, _, _, _, rfl⟩
    ((Flagged.noFrames _).ends (h.openTextarea hname))) fun htextarea => ?_
  refine .ite (fun hname => ?_) fun _ => ?_
  · have hclosed := h.closeParagraphInScope hflows
    have hagain := hclosed.trans hclosed.sound.reconstruct
    exact ((Flagged.noFrames _).reaches (hagain.trans_reaches
      (hagain.sound.openText (hname ▸ by decide) (hname ▸ by decide)))).ends
  refine .ite (fun hname => ((Flagged.noFrames _).reaches
    (h.openText (hname ▸ by decide) (hname ▸ by decide))).ends) fun _ => ?_
  refine .ite (fun hname => (h.openText ?_ ?_).ends) fun _ => ?_
  · rcases hname with hname | hname <;> exact hname ▸ by decide
  · rcases hname with hname | hname <;> exact hname ▸ by decide
  refine .ite (fun hname => h.openSelect hname) fun hselect => ?_
  refine .ite (fun hname => ?_) fun _ => ?_
  · have hclosed := h.popOption
    have hagain := hclosed.trans hclosed.sound.reconstruct
    exact (hagain.trans (hagain.sound.openTag (hpart hname (by decide) (by decide)))).ends
  refine .ite (fun hname => (h.openRuby [] (hpart hname (by decide) (by decide))).ends)
    fun _ => ?_
  refine .ite (fun hname => (h.openRuby ["rtc"] (hpart hname (by decide) (by decide))).ends)
    fun _ => ?_
  refine .ite (fun _ => (h.reconstruct.trans (h.reconstruct.sound.openForeign (by decide))).ends)
    fun _ => ?_
  refine .ite (fun _ => (h.reconstruct.trans (h.reconstruct.sound.openForeign (by decide))).ends)
    fun _ => ?_
  refine .ite (fun _ => (Leads.refl h).ends) fun hstray => ?_
  refine (h.reconstruct.trans (h.reconstruct.sound.openTag fun hmem => ?_)).ends
  have hkinds : ∀ tag ∈ partTags,
      strayStarts.contains tag = true ∨ tag ∈ ["html", "button", "input", "textarea", "select"] := by
    decide
  rcases hkinds _ hmem with hkind | hkind
  · exact hstray hkind
  · simp_all

/-! ## End tags -/

theorem Sound.endInBody (hflows : Flows d) (htag : t.name ∉ anchors d.mode) :
    Comes (.endTag t) d (d.endInBody t) := by
  rw [Draft.endInBody]
  refine .ite (fun _ => h.closeTemplate.done) fun _ => ?_
  refine .ite (fun _ => .done (.ite (fun _ => (h.enter (.of_free (by decide))).ends)
    fun _ => (Leads.refl h).ends)) fun _ => ?_
  refine .ite (fun _ => .ite (fun _ => (h.enter (.of_free (by decide))).again)
    fun _ => (Leads.refl h).done) fun hhtml => ?_
  refine .ite (fun hname => (h.closeTag hflows ?_ ?_).done) fun _ => ?_
  · rcases hname with hname | hname <;> exact not_mem_of_contains hname (by decide)
  · rcases hname with hname | hname <;> exact not_mem_of_contains hname (by decide)
  refine .ite (fun hname => .done (h.closeForm hflows hname)) fun _ => ?_
  refine .ite (fun _ => (h.closeParagraphTag hflows).done) fun _ => ?_
  refine .ite (fun hname => (h.closeItem hflows (List.contains_iff_mem.mp hname)).done) fun _ => ?_
  refine .ite (fun _ => (h.closeHeading hflows).done) fun _ => ?_
  refine .ite (fun hname => (h.closeFormat ?_).done) fun _ => ?_
  · rcases hname with hname | hname | hname
    · exact List.mem_append_left _ (List.contains_iff_mem.mp hname)
    · exact hname ▸ by decide
    · exact hname ▸ by decide
  refine .ite (fun hname => .done (.ite (fun _ => ?_) fun _ => (Leads.refl h).ends)) fun _ => ?_
  · have hclosed : Leads d (d.closeTag .default t.name) := h.closeTag hflows
      (not_mem_of_contains hname (by decide)) (not_mem_of_contains hname (by decide))
    exact (hclosed.trans (hclosed.sound.forget fun _ hy => mem_of_mem_clearToMark hy)).ends
  refine .ite (fun _ => ((h.flowEmpty (t := .plain "br") (by decide)).flag (.noFrames _)).done)
    fun _ => ?_
  exact (h.closeOther hhtml htag).done

omit h in
theorem inBody_finish (h : Sound d) : Comes u d (d.inBody .finish) :=
  .ite (fun _ => (Leads.refl h).done) fun _ => h.comes_abandonTemplate

/-- Every token of running text leads on. -/
theorem Sound.inBody (hflows : Flows d)
    (htag : ∀ t, u = .endTag t → t.name ∉ anchors d.mode) : Comes u d (d.inBody u) := by
  cases u with
  | character c => exact (h.flow c).done
  | startTag t => exact .done (h.startInBody hflows)
  | endTag t => exact h.endInBody hflows (htag t rfl)
  | finish => exact inBody_finish h
  | comment => exact (Leads.refl h).done
  | doctype _ => exact (Leads.refl h).done

end

end PluginRelease.Html.Draft
