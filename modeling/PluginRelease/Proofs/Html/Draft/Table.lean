import PluginRelease.Proofs.Html.Draft.Body

/-!
The rules for tables. Their parts are opened where they may stand, and what is no part of a table is
put before it by the rules of running text.
-/
namespace PluginRelease.Html.Draft
variable {d e : Draft} {i j k x : Nat} {a l : List Nat} {t : Tag} {u : Token} {tag : String}
  {tags context : List String} {m : Mode} {o : Outcome}

/-! ## Content before a table -/

theorem Flagged.fostering (d : Draft) (fostering : Bool) : Flagged d { d with fostering } :=
  ⟨_, _, _, _, _, _, rfl⟩

section
variable (h : Sound d)
include h

theorem Sound.foster (hflows : Flows d) (htag : ∀ t, u = .endTag t → t.name ∉ anchors d.mode) :
    Comes u d (d.foster u) := by
  have hfostered := (Flagged.fostering d true).leads h
  have hbody := hfostered.trans_comes (hfostered.sound.inBody (u := u) hflows htag)
  rw [Draft.foster]
  split
  · next e he =>
    rw [he] at hbody
    cases hbody with
    | done hends => exact .done ((Flagged.fostering e false).ends hends)
  · next e he =>
    rw [he] at hbody
    cases hbody with
    | again hreaches => exact .again ((Flagged.fostering e false).reaches hreaches)

theorem Sound.fosterCharacter (c : Char) : Leads d (d.fosterCharacter c) := by
  have hfostered := (Flagged.fostering d true).leads h
  exact (hfostered.trans (hfostered.sound.flow c)).flag (.fostering _ false)

theorem Sound.tableCharacter (c : Char) : Comes u d (d.tableCharacter c) := by
  rw [Draft.tableCharacter]
  refine .ite (fun hpart => ?_) fun _ => (h.fosterCharacter c).done
  have hleads : Leads d (settle { d with returnMode := d.mode, mode := .tableText }) :=
    h.flags rfl rfl rfl rfl rfl rfl rfl
  exact .again ⟨⟨hleads.sound, (fun hm => nomatch hm), fun _ => hpart⟩, hleads⟩

/-! ## Parts -/

/-- What a part is opened in. -/
theorem Sound.exists_context (context : List String) : ∃ a x l, d.stack = a ++ x :: l ∧
    d.popToContext context = { d with stack := x :: l } ∧
    d.IsIn (context ++ ["template", "html"]) x ∧
    ∀ i ∈ a, ¬ d.IsIn (context ++ ["template", "html"]) i := by
  obtain ⟨a, x, l, hl, hx, ha⟩ := exists_first (d := d)
    (r := (·.isOneOf (context ++ ["template", "html"]))) ⟨1, List.mem_of_getLast? h.bottom,
      is_isOneOf_iff.mpr (h.isIn_one.mono (by simp))⟩
  refine ⟨a, x, l, hl, ?_, is_isOneOf_iff.mp hx, fun i hi hin => ?_⟩
  · rw [popToContext, Draft.popTo, hl, dropWhile_append_cons (fun i hi => by simp [ha i hi])
      (by simp [hx])]
  · have hfalse := ha i hi
    rw [is_isOneOf_iff.mpr hin] at hfalse
    cases hfalse

/-- What must be open in a mode lies within a context of the mode, and is not the root. -/
theorem Sound.context_ne_html (hl : d.stack = a ++ x :: l)
    (ha : ∀ i ∈ a, ¬ d.IsIn (context ++ ["template", "html"]) i)
    (hanchors : anchors d.mode ≠ [])
    (hcontext : ∀ tag ∈ anchors d.mode, tag ∈ context ++ ["template", "html"]) :
    ¬ d.IsIn ["html"] x := by
  intro hhtml
  obtain rfl := (h.grounded.html_iff x).mp hhtml
  obtain ⟨i, hi, hin⟩ := h.mode.anchored hanchors
  have hnodup : (a ++ 1 :: l).Nodup := hl ▸ h.stacked.nodup
  have hbelow : l = [] :=
    eq_nil_of_bottom (List.nodup_append.mp hnodup).2.1 (h.bottom_of_append hl (by simp))
  rw [hl, hbelow] at hi
  rcases List.mem_append.mp hi with hi | hi
  · exact ha i hi (hin.mono hcontext)
  · obtain rfl := List.mem_singleton.mp hi
    have hnot : ∀ m, ∀ tag ∈ anchors m, tag ∉ ["html"] := by
      intro m
      cases m <;> decide
    exact hin.not_of_disjoint (hnot _) hhtml

/-- A part of a table is opened, for its own rules to go on. -/
theorem Sound.openPart (hanchors : ∀ tag ∈ anchors d.mode, tag ∈ context ++ ["template", "html"])
    (hname : t.name ∉ "head" :: reservedTags)
    (hrow : t.name = "tr" → context = ElementName.sections ∧ anchors d.mode ≠ [])
    (hsection : t.name ∈ ElementName.sections → context = ["table"])
    (hm : m ∈ freeModes ∨ m ∉ passingModes ∧ t.name ∈ anchors m) :
    Leads d (d.openPart t context m) := by
  obtain ⟨a, x, l, hl, hpopped, hx, ha⟩ := h.exists_context context
  rw [Draft.openPart, hpopped]
  have hclosed : Leads d { d with stack := x :: l } :=
    h.drop hl (by simp) fun i hi hin => ha i hi (hin.mono hanchors)
  have hin {tags : List String} (hin : d.IsIn tags x) (j : Nat)
      (hj : ({ d with stack := x :: l } : Draft).stack.head? = some j) :
      ({ d with stack := x :: l } : Draft).IsIn tags j := by
    obtain rfl := Option.some.inj hj
    exact hin.congr rfl
  have hopened : Leads { d with stack := x :: l } (({ d with stack := x :: l } : Draft).openTag t) := by
    refine hclosed.sound.openElement_of (html_ne_of_not_mem hname) (fun htr => ?_) ?_ t.attributes
    · obtain ⟨rfl, hne⟩ := hrow (html_inj.mp htr)
      have hhtml := h.context_ne_html hl ha hne hanchors
      have hx' : d.IsIn (rowHolders ++ ["html"]) x := hx.mono (by decide)
      exact hin ((isIn_append.mp hx').resolve_right hhtml)
    · rintro ⟨tag, htag, heq⟩
      obtain rfl := html_inj.mp heq
      obtain rfl := hsection htag
      exact hin (hx.mono (by decide))
  refine hclosed.trans (hopened.trans (hopened.sound.enter ?_))
  rcases hm with hm | ⟨hm, htag⟩
  · exact .of_free hm
  · refine .of_mem hm (i := d.entries.size) ?_ (.of_name? (hclosed.sound.name?_openTag t) htag)
    rw [hclosed.sound.stack_openTag]
    exact .head _

/-- A form right inside a table is not opened, but is the form that controls belong to. -/
theorem Sound.openTableForm (ht : t.name = "form") : Leads d (d.openTableForm t) := by
  rw [Draft.openTableForm]
  split
  · exact .refl h
  · have hleaf := h.insertEmpty (t := t) (ht ▸ by decide)
    have he := Rewired.insertElement d (.html t.name) t.attributes
    have hstack : (d.openTag t).pop.stack = d.stack := congrArg List.tail (h.stack_openTag t)
    refine hleaf.trans (hleaf.sound.retune h.entries_openTag (hstack.trans he.stack.symm) rfl
      (fun k hk => .inr ⟨?_, .inr fun s hs => ?_⟩) (fun _ hy => .inl hy) hleaf.sound.mode
      hleaf.sound.templates)
    all_goals
      change (d.openTag t).current? = some k at hk
      rw [current?, h.stack_openTag] at hk
      obtain rfl := Option.some.inj hk
    · exact .of_name? (h.name?_insertEmpty t) (List.mem_singleton.mpr ht)
    · have hs : s ∈ d.stack := hstack ▸ hs
      have hg := (h.grown_insertElement (.html t.name) t.attributes).congr
        (f := { (d.openTag t).pop with form := (d.openTag t).current? }) h.entries_openTag rfl
      exact hg.not_under_of_new h.linked (h.lt_of_mem hs) (Nat.le_refl _)

end

/-! ## Closing parts -/

section
variable (h : Sound d)
include h

theorem Sound.closeCaption (hopen : d.hasTag .table "caption" = true) : Leads d d.closeCaption := by
  obtain ⟨a, x, l, hl, hx, ha⟩ := exists_first (exists_of_inScope hopen)
  have hne := h.ne_nil_of_stack hl ((isTag_iff_isIn.mp hx).not_of_disjoint (by decide))
  rw [Draft.closeCaption, popThroughTag_implyEnds_eq hl hx ha (by decide)]
  exact h.leave (a := a ++ [x]) (by simp [hl]) hne (fun _ hy => mem_of_mem_clearToMark hy)
    (.of_free (m := .table) (by decide))

theorem Sound.leaveColumns : Comes u d d.leaveColumns := by
  rw [Draft.leaveColumns]
  refine .ite (fun hopen => ?_) fun _ => (Leads.refl h).done
  have hpopped := h.popTag hopen (by decide)
  exact (hpopped.trans (hpopped.sound.enter (.of_free (by decide)))).again

/-- A section is closed, or the template that holds its rows. -/
theorem Sound.leaveSection (hmode : d.mode = .tableBody) : Leads d d.leaveSection := by
  obtain ⟨a, x, l, hl, hpopped, -, ha⟩ := h.exists_context ElementName.sections
  have hhtml := h.context_ne_html hl ha (hmode ▸ by decide) (hmode ▸ by decide)
  rw [Draft.leaveSection, hpopped]
  exact h.leave (a := a ++ [x]) (by simp [hl]) (h.ne_nil_of_stack hl hhtml) (fun _ hy => hy)
    (.of_free (m := .table) (by decide))

/-- A row that is in the scope of tables is closed, which leaves a section or a template. -/
theorem Sound.leaveRow (hopen : d.hasTag .table "tr" = true) : Leads d d.leaveRow := by
  obtain ⟨a, x, l, hl, hx, ha⟩ := scopeContains_iff.mp hopen
  have hrow := isTag_iff_isIn.mp hx
  have hne := h.ne_nil_of_stack hl (hrow.not_of_disjoint (by decide))
  have hpopped : d.popToContext ["tr"] = { d with stack := x :: l } := by
    rw [popToContext, Draft.popTo, hl, dropWhile_append_cons (fun i hi => ?_) ?_]
    · rw [Bool.not_eq_false']
      exact is_isOneOf_iff.mpr (hrow.mono (by decide))
    · rw [Bool.not_eq_true', Bool.eq_false_iff]
      intro hcontext
      obtain ⟨hother, hunbound⟩ := ha i hi
      rcases isIn_cons_cons.mp (is_isOneOf_iff.mp hcontext) with hrow | hbound
      · rw [← Bool.not_eq_true] at hother
        exact hother (isTag_iff_isIn.mpr hrow)
      · rw [← Bool.not_eq_true] at hunbound
        exact hunbound (is_isOneOf_iff.mpr (hbound.mono (by decide)))
  obtain ⟨j, l, rfl⟩ := List.exists_cons_of_ne_nil hne
  have hholder : d.IsIn rowHolders j := (hl ▸ h.stacked : Stacked d _).stands.row hrow j rfl
  rw [Draft.leaveRow, hpopped]
  exact h.leave (a := a ++ [x]) (l := j :: l) (by simp [hl]) (by simp) (fun _ hy => hy)
    (.of_mem (m := .tableBody) (by decide) (.head _) (hholder.congr rfl))

/-- A cell is closed, which the row around it is left with. -/
theorem Sound.leaveCell {r : ElementName → Bool} (hr : ∀ i, d.is r i = true → d.IsIn ElementName.cells i)
    (hopen : ∃ x ∈ d.stack, d.is r x = true) :
    Leads d ((((d.implyEnds ElementName.impliedEnds).popThrough r).clearToMark).enter .row) := by
  obtain ⟨a, x, l, hl, hx, ha⟩ := exists_first hopen
  have hcell := hr x hx
  have hne := h.ne_nil_of_stack hl (hcell.not_of_disjoint (by decide))
  have hstay : d.is (!·.isOneOf ElementName.impliedEnds) x = true :=
    (is_not_isOneOf_iff hcell.isSome).mpr (hcell.not_of_disjoint (by decide))
  rw [Draft.implyEnds, popThrough_popTo_eq hl hx ha hstay]
  exact h.leave (a := a ++ [x]) (by simp [hl]) hne (fun _ hy => mem_of_mem_clearToMark hy)
    (.of_free (m := .row) (by decide))

theorem Sound.closeCell (hmode : d.mode = .cell) : Leads d d.closeCell := by
  obtain ⟨x, hx, hin⟩ := h.mode.anchored (hmode ▸ by decide)
  refine h.leaveCell (fun _ => is_isOneOf_iff.mp) ⟨x, hx, is_isOneOf_iff.mpr ?_⟩
  exact hin.mono (hmode ▸ by decide)

theorem Sound.closeCellTag (htag : tag ∈ ElementName.cells) (hopen : d.hasTag .table tag = true) :
    Leads d (((d.implyEnds ElementName.impliedEnds).popThroughTag tag).clearToMark.enter .row) :=
  h.leaveCell (fun _ hi => .of_name? (isTag_iff.mp hi) htag) (exists_of_inScope hopen)

end

/-! ## Tokens in tables -/

/-- Modes that go on with the rules for a table as a whole. -/
def tableModes : List Mode := [.table, .tableBody, .row]

/-- Start tags that a table makes room for. -/
def partStarts : List String := "tr" :: ElementName.cells ++ sectionStarts

theorem flows_of_tableModes (hmode : d.mode ∈ tableModes) : Flows d := by
  have hall : ∀ m ∈ tableModes, ∀ tag ∈ anchors m, tag ∈ fences := by decide
  exact hall _ hmode

theorem anchors_eq_nil (hmode : d.mode ∈ tableModes) (hpart : d.mode ≠ .tableBody) :
    anchors d.mode = [] :=
  (by decide : ∀ m ∈ tableModes, m ≠ .tableBody → anchors m = []) _ hmode hpart

section
variable (h : Sound d)
include h

/-- A part of a table right in it, in a mode that takes nothing for granted. -/
theorem Sound.openTablePart (hanchors : anchors d.mode = []) (hname : t.name ∉ "tr" :: reservedTags)
    (hhead : t.name ≠ "head") (hm : m ∈ freeModes ∨ m ∉ passingModes ∧ t.name ∈ anchors m) :
    Leads d (d.openPart t ["table"] m) := by
  refine h.openPart (by simp [hanchors]) ?_ (fun htr => ?_) (fun _ => rfl) hm
  · rw [List.mem_cons, not_or]
    exact ⟨hhead, fun hmem => hname (.tail _ hmem)⟩
  · exact absurd (htr ▸ .head _) hname

theorem Sound.startInTable (hmode : d.mode ∈ tableModes)
    (hpart : d.mode = .tableBody → t.name ∉ partStarts) :
    Comes (.startTag t) d (d.startInTable t) := by
  have hanchors {tag : String} (hname : t.name = tag) (htag : tag ∈ partStarts) :
      anchors d.mode = [] :=
    anchors_eq_nil hmode fun hbody => hpart hbody (hname ▸ htag)
  rw [Draft.startInTable]
  refine .ite (fun hname => ?_) fun _ => ?_
  · obtain ⟨a, x, l, hl, hpopped, -⟩ := h.exists_context ["table"]
    have hfree := hanchors hname (by decide)
    have hclosed : Leads d (d.popToContext ["table"]) :=
      hpopped ▸ h.drop hl (by simp) fun i _ => by simp [hfree, IsIn]
    have hmarked := hclosed.trans hclosed.sound.mark
    exact (hmarked.trans (hmarked.sound.openTablePart hfree (hname ▸ by decide)
      (hname ▸ by decide) (.inl (by decide)))).done
  refine .ite (fun hname => (h.openTablePart (hanchors hname (by decide)) (hname ▸ by decide)
    (hname ▸ by decide) (.inl (by decide))).done) fun _ => ?_
  refine .ite (fun hname => (h.openTablePart (t := .plain "colgroup")
    (hanchors hname (by decide)) (by decide) (by decide) (.inl (by decide))).again) fun _ => ?_
  refine .ite (fun hname => ?_) fun _ => ?_
  · have hname := List.contains_iff_mem.mp hname
    have hall : ∀ tag ∈ ElementName.sections, tag ∈ partStarts ∧ tag ∉ "tr" :: reservedTags ∧
        tag ≠ "head" ∧ tag ∈ anchors .tableBody := by decide
    obtain ⟨hstart, hother, hhead, hanchor⟩ := hall _ hname
    exact (h.openTablePart (hanchors rfl hstart) hother hhead
      (.inr ⟨by decide, hanchor⟩)).done
  refine .ite (fun hname => ?_) fun _ => ?_
  · have hstart : t.name ∈ partStarts := by
      rcases hname with hname | hname
      · exact (by decide : ∀ tag ∈ ElementName.cells, tag ∈ partStarts) _
          (List.contains_iff_mem.mp hname)
      · exact hname ▸ by decide
    exact (h.openTablePart (t := .plain "tbody") (hanchors rfl hstart) (by decide) (by decide)
      (.inr ⟨by decide, by decide⟩)).again
  refine .ite (fun hname => .ite (fun hopen => ?_) fun _ => (Leads.refl h).done) fun _ => ?_
  · exact (h.closeTable (hname ▸ hopen)).again
  refine .ite (fun hname => ?_) fun _ => ?_
  · have hhead : ∀ tag ∈ ["style", "script", "template"], tag ∈ "noscript" :: headTags := by decide
    exact (h.openHeadTag (hhead _ (List.contains_iff_mem.mp hname))).done
  refine .ite (fun hname => .done (h.insertControl (hname.1 ▸ by decide)).ends) fun _ => ?_
  refine .ite (fun hname => (h.openTableForm hname).done) fun _ => ?_
  refine h.foster (flows_of_tableModes hmode) fun t ht => ?_
  cases ht

theorem Sound.inTable (hmode : d.mode ∈ tableModes)
    (hstart : ∀ t, u = .startTag t → d.mode = .tableBody → t.name ∉ partStarts)
    (hend : ∀ t, u = .endTag t → d.mode = .tableBody → t.name ∉ ElementName.sections) :
    Comes u d (d.inTable u) := by
  cases u with
  | character c => exact h.tableCharacter c
  | startTag t => exact h.startInTable hmode (hstart t rfl)
  | endTag t =>
    refine .ite (fun _ => .done (.ite (fun hopen => (h.closeTable hopen).ends)
      fun _ => (Leads.refl h).ends)) fun _ => ?_
    refine .ite (fun _ => h.closeTemplate.done) fun htemplate => ?_
    refine .ite (fun _ => (Leads.refl h).done) fun _ => ?_
    refine h.foster (flows_of_tableModes hmode) fun t' ht' hanchor => ?_
    obtain rfl := Token.endTag.inj ht'
    by_cases hbody : d.mode = .tableBody
    · rw [hbody] at hanchor
      rcases List.mem_append.mp hanchor with hsection | htemplate'
      · exact hend t rfl hbody hsection
      · exact htemplate (List.mem_singleton.mp htemplate')
    · rw [anchors_eq_nil hmode hbody] at hanchor
      cases hanchor
  | finish => exact inBody_finish h
  | comment => exact (Leads.refl h).done
  | doctype _ => exact (Leads.refl h).done

theorem Sound.inCaption (hmode : d.mode = .caption) : Comes u d (d.inCaption u) := by
  have hbody : Comes u d (d.inBody u) :=
    h.inBody (fun tag htag => by simp [hmode, anchors] at htag) fun _ _ => by simp [hmode, anchors]
  have hleave (name : String) : Comes u d (if !d.hasTag .table "caption" then .done d
      else if name = "caption" then .done d.closeCaption else .again d.closeCaption) := by
    refine .ite (fun _ => (Leads.refl h).done) fun hopen => ?_
    have hclosed := h.closeCaption (by simpa using hopen)
    exact .ite (fun _ => hclosed.done) fun _ => hclosed.again
  cases u with
  | startTag t =>
    exact .ite (fun _ => .ite (fun hopen => (h.closeCaption hopen).again)
      fun _ => (Leads.refl h).done) fun _ => hbody
  | endTag t =>
    exact .ite (fun _ => hleave t.name) fun _ => .ite (fun _ => (Leads.refl h).done) fun _ => hbody
  | character c => exact hbody
  | finish => exact hbody
  | comment => exact hbody
  | doctype _ => exact hbody

theorem Sound.inColumns : Comes u d (d.inColumns u) := by
  cases u with
  | character c =>
    exact .ite (fun _ => (h.insertCharacter c).done) fun _ => h.leaveColumns
  | startTag t =>
    refine .ite (fun _ => h.mergeRoot.done) fun _ => ?_
    refine .ite (fun hname => (h.insertEmpty (hname ▸ by decide)).done) fun _ => ?_
    exact .ite (fun hname => (h.openHeadTag (hname ▸ by decide)).done) fun _ => h.leaveColumns
  | endTag t =>
    refine .ite (fun _ => .done (.ite (fun hopen => ?_) fun _ => (Leads.refl h).ends)) fun _ => ?_
    · have hpopped := h.popTag hopen (by decide)
      exact (hpopped.trans (hpopped.sound.enter (.of_free (by decide)))).ends
    refine .ite (fun _ => (Leads.refl h).done) fun _ => ?_
    exact .ite (fun _ => h.closeTemplate.done) fun _ => h.leaveColumns
  | finish => exact inBody_finish h
  | comment => exact (Leads.refl h).done
  | doctype _ => exact h.leaveColumns

theorem Sound.inTableBody (hmode : d.mode = .tableBody) : Comes u d (d.inTableBody u) := by
  have hrow {t : Tag} (ht : t.name = "tr") : Leads d (d.openPart t ElementName.sections .row) :=
    h.openPart (hmode ▸ by decide) (ht ▸ by decide) (fun _ => ⟨rfl, hmode ▸ by decide⟩)
      (fun hsection => absurd (ht ▸ hsection) (by decide)) (.inl (by decide))
  have hleave : Comes u d (if d.inScope .table (·.isOneOf ["table", "tbody", "tfoot"])
      then .again d.leaveSection else .done d) :=
    .ite (fun _ => (h.leaveSection hmode).again) fun _ => (Leads.refl h).done
  have htable (hstart : ∀ t, u = .startTag t → t.name ∉ partStarts)
      (hend : ∀ t, u = .endTag t → t.name ∉ ElementName.sections) : Comes u d (d.inTable u) :=
    h.inTable (hmode ▸ by decide) (fun t ht _ => hstart t ht) fun t ht _ => hend t ht
  cases u with
  | startTag t =>
    refine .ite (fun hname => (hrow hname).done) fun htr => ?_
    refine .ite (fun _ => (hrow (t := .plain "tr") rfl).again) fun hcell => ?_
    refine .ite (fun _ => hleave) fun hsection => htable (fun t' ht' hmem => ?_) fun _ ht => nomatch ht
    obtain rfl := Token.startTag.inj ht'
    rcases List.mem_cons.mp hmem with hname | hmem
    · exact htr hname
    · rcases List.mem_append.mp hmem with hmem | hmem
      · exact hcell (List.contains_iff_mem.mpr hmem)
      · exact hsection (List.contains_iff_mem.mpr hmem)
  | endTag t =>
    refine .ite (fun _ => .done (.ite (fun _ => (h.leaveSection hmode).ends)
      fun _ => (Leads.refl h).ends)) fun hsection => ?_
    refine .ite (fun _ => hleave) fun _ => .ite (fun _ => (Leads.refl h).done) fun _ => ?_
    refine htable (fun _ ht => nomatch ht) fun t' ht' hmem => ?_
    obtain rfl := Token.endTag.inj ht'
    exact hsection (List.contains_iff_mem.mpr hmem)
  | character c => exact htable (fun _ ht => nomatch ht) fun _ ht => nomatch ht
  | finish => exact htable (fun _ ht => nomatch ht) fun _ ht => nomatch ht
  | comment => exact htable (fun _ ht => nomatch ht) fun _ ht => nomatch ht
  | doctype _ => exact htable (fun _ ht => nomatch ht) fun _ ht => nomatch ht

theorem Sound.inRow (hmode : d.mode = .row) : Comes u d (d.inRow u) := by
  have hleave : Comes u d (if d.hasTag .table "tr" then .again d.leaveRow else .done d) :=
    .ite (fun hopen => (h.leaveRow hopen).again) fun _ => (Leads.refl h).done
  have hother (hm : d.mode = .tableBody) : False := by
    rw [hmode] at hm
    cases hm
  have htable : Comes u d (d.inTable u) :=
    h.inTable (hmode ▸ by decide) (fun _ _ hm => (hother hm).elim) fun _ _ hm => (hother hm).elim
  cases u with
  | startTag t =>
    refine .ite (fun hname => ?_) fun _ => .ite (fun _ => hleave) fun _ => htable
    have hcell := List.contains_iff_mem.mp hname
    have hall : ∀ tag ∈ ElementName.cells, tag ∉ "head" :: reservedTags ∧ tag ≠ "tr" ∧
        tag ∉ ElementName.sections := by decide
    obtain ⟨hname, htr, hsection⟩ := hall _ hcell
    have hopened : Leads d (d.openPart t ["tr"] .cell) := h.openPart
      (by simp [hmode, anchors]) hname (fun heq => absurd heq htr)
      (fun hmem => absurd hmem hsection) (.inr ⟨by decide, hcell⟩)
    exact (hopened.trans hopened.sound.mark).done
  | endTag t =>
    refine .ite (fun _ => .done (.ite (fun hopen => (h.leaveRow hopen).ends)
      fun _ => (Leads.refl h).ends)) fun _ => ?_
    refine .ite (fun _ => hleave) fun _ => ?_
    refine .ite (fun _ => .ite (fun _ => hleave) fun _ => (Leads.refl h).done) fun _ => ?_
    exact .ite (fun _ => (Leads.refl h).done) fun _ => htable
  | character c => exact htable
  | finish => exact htable
  | comment => exact htable
  | doctype _ => exact htable

theorem Sound.inCell (hmode : d.mode = .cell) : Comes u d (d.inCell u) := by
  have hbody (hend : ∀ t, u = .endTag t → t.name ∉ ElementName.cells) : Comes u d (d.inBody u) :=
    h.inBody (fun tag htag => (by decide : ∀ tag ∈ anchors .cell, tag ∈ fences) tag
      (hmode ▸ htag)) fun t ht => hmode ▸ hend t ht
  cases u with
  | startTag t =>
    refine .ite (fun _ => .ite (fun _ => (h.closeCell hmode).again) fun _ => (Leads.refl h).done)
      fun _ => hbody fun _ ht => nomatch ht
  | endTag t =>
    refine .ite (fun hname => .ite (fun hopen => ?_) fun _ => (Leads.refl h).done) fun hcell => ?_
    · exact (h.closeCellTag (List.contains_iff_mem.mp hname) hopen).done
    refine .ite (fun _ => .ite (fun _ => (h.closeCell hmode).again) fun _ => (Leads.refl h).done)
      fun _ => ?_
    refine .ite (fun _ => (Leads.refl h).done) fun _ => hbody fun t' ht' hmem => ?_
    obtain rfl := Token.endTag.inj ht'
    exact hcell (List.contains_iff_mem.mpr hmem)
  | character c => exact hbody fun _ ht => nomatch ht
  | finish => exact hbody fun _ ht => nomatch ht
  | comment => exact hbody fun _ ht => nomatch ht
  | doctype _ => exact hbody fun _ ht => nomatch ht

end

end PluginRelease.Html.Draft
