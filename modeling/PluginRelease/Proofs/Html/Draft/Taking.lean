import PluginRelease.Html.Page
import PluginRelease.Proofs.Html.Draft.Rules

/-!
Taking a token. Once a page has a head, every token leads from a draft of its body to another,
whatever modes it is taken in, and only the start tag of a control adds one.
-/
namespace PluginRelease.Html.Draft
variable {d e : Draft} {i j : Nat} {a l : List Nat} {t : Tag} {u : Token} {m : Mode}
  {tags : List String}

/-! ## By the mode -/

theorem Sound.takeInMode (h : Sound d) : Comes u d (d.takeInMode u) := by
  have hpassing : d.mode ∉ passingModes := h.mode.lasting
  rw [Draft.takeInMode]
  cases hm : d.mode with
  | initial => exact absurd (hm ▸ by decide) hpassing
  | beforeHtml => exact absurd (hm ▸ by decide) hpassing
  | beforeHead => exact absurd (hm ▸ by decide) hpassing
  | head => exact h.inHead hm
  | afterHead => exact h.inAfterHead hm
  | body =>
    exact h.inBody (fun tag htag => by simp [hm, anchors] at htag) fun _ _ => by simp [hm, anchors]
  | text => exact absurd (hm ▸ by decide) hpassing
  | table =>
    refine h.inTable (hm ▸ by decide) (fun _ _ hbody => ?_) fun _ _ hbody => ?_
    all_goals exact absurd (hm.symm.trans hbody) (by decide)
  | tableText => exact absurd (hm ▸ by decide) hpassing
  | caption => exact h.inCaption hm
  | columns => exact h.inColumns
  | tableBody => exact h.inTableBody hm
  | row => exact h.inRow hm
  | cell => exact h.inCell hm
  | select => exact h.inSelect
  | selectInTable => exact h.inSelectInTable hm
  | template => exact h.inTemplate hm
  | afterBody => exact h.inAfterBody
  | frameset => exact h.inFrameset (hm ▸ rfl)
  | afterFrameset => exact h.inAfterFrameset
  | afterAfterBody => exact h.inAfterBody
  | afterAfterFrameset => exact h.inAfterFrameset

theorem Settled.takeInMode (h : Settled d) : Comes u d.settle (d.takeInMode u) := by
  by_cases htext : d.mode = .text
  · rw [Draft.takeInMode, htext]
    exact h.inText htext
  · by_cases htable : d.mode = .tableText
    · rw [Draft.takeInMode, htable]
      exact h.inTableText htable
    · have heq : d.settle = d := by
        rw [settle]
        split
        · contradiction
        · contradiction
        · rfl
      exact heq.symm ▸ (heq ▸ h.sound).takeInMode

/-! ## By another vocabulary -/

/-- Elements of other vocabularies have no tag of HTML. -/
theorem not_isIn_of_space (hi : d.is (·.space = .html) i = false) : ¬ d.IsIn tags i := by
  rintro ⟨tag, -, hn⟩
  rw [is, hn] at hi
  cases hi

theorem Sound.comeHome (h : Sound d) : Leads d d.comeHome := by
  refine h.popTo fun i hi => ?_
  obtain ⟨tag, -, hn⟩ := hi
  rw [is, hn]
  rfl

theorem isAbroad_iff : d.isAbroad = true ↔
    ∃ i l, d.stack = i :: l ∧ ∃ n, d.name? i = some n ∧ n.space ≠ .html := by
  simp only [isAbroad, currentIs_iff, is_iff, decide_eq_true_eq]

theorem closeAbroad_cons_cons (d : Draft) (tag : String) (i j : Nat) (l : List Nat) :
    d.closeAbroad tag (i :: j :: l) = match d.name? i with
      | none => some d
      | some n =>
        if ElementName.lower n.tag = tag then some { d with stack := j :: l }
        else if d.is (·.space = .html) j then none else d.closeAbroad tag (j :: l) := rfl

/-- Where another vocabulary is current, only elements of it are closed. -/
theorem Sound.closeAbroad (h : Sound d) {tag : String} (hl : d.stack = a ++ i :: l)
    (ha : ∀ j ∈ a, d.is (·.space = .html) j = false) (hi : d.is (·.space = .html) i = false)
    (he : d.closeAbroad tag (i :: l) = some e) : Leads d e := by
  induction l generalizing a i with
  | nil =>
    obtain rfl := Option.some.inj he
    exact .refl h
  | cons j l ih =>
    rw [closeAbroad_cons_cons] at he
    split at he
    · obtain rfl := Option.some.inj he
      exact .refl h
    · split at he
      · obtain rfl := Option.some.inj he
        refine h.drop (a := a ++ [i]) (by simp [hl]) (by simp) fun k hk => not_isIn_of_space ?_
        rcases List.mem_append.mp hk with hk | hk
        · exact ha k hk
        · exact List.mem_singleton.mp hk ▸ hi
      · split at he
        · cases he
        · next hj =>
          refine ih (a := a ++ [i]) (by simp [hl]) (fun k hk => ?_) (by simpa using hj) he
          rcases List.mem_append.mp hk with hk | hk
          · exact ha k hk
          · exact List.mem_singleton.mp hk ▸ hi

theorem Sound.takeAbroad (h : Sound d) (habroad : d.isAbroad = true) :
    Comes u d (d.takeAbroad u) := by
  obtain ⟨i, l, hl, n, hn, hspace⟩ := isAbroad_iff.mp habroad
  have hcome : Comes u d (d.comeHome.takeInMode u) :=
    h.comeHome.trans_comes h.comeHome.sound.takeInMode
  cases u with
  | character c =>
    refine .ite (fun _ => (h.insertCharacter _).done) fun _ => ?_
    have hshown : Leads d (if isSpace c then d else d.noFrames) := by
      split
      · exact .refl h
      · exact h.noFrames
    exact (hshown.trans (hshown.sound.insertCharacter c)).done
  | startTag t =>
    refine .ite (fun _ => hcome) fun _ => .ite (fun _ => (h.openForeign (by decide)).done)
      fun _ => (h.openForeign ?_).done
    rw [currentSpace, current?, hl, List.head?_cons, Option.bind_some, hn]
    exact hspace
  | endTag t =>
    refine .ite (fun _ => hcome) fun _ => ?_
    split
    · next e he =>
      refine Leads.done (h.closeAbroad (a := []) hl (by simp) ?_ (hl ▸ he))
      rw [is, hn]
      simpa using hspace
    · exact h.takeInMode
  | finish => exact (Leads.refl h).done
  | comment => exact (Leads.refl h).done
  | doctype _ => exact (Leads.refl h).done

/-! ## Until it is done -/

/-- No text is abroad, nor is what waits in a table. -/
theorem Settled.not_passing (h : Settled d) (habroad : d.isAbroad = true) : d.settle = d := by
  obtain ⟨i, l, hl, n, hn, hspace⟩ := isAbroad_iff.mp habroad
  have hnot {tags : List String} : ¬ d.IsIn tags i := by
    rintro ⟨tag, -, hn'⟩
    obtain rfl := Option.some.inj (hn.symm.trans hn')
    exact hspace rfl
  rw [settle]
  split
  · next hm =>
    obtain ⟨j, l', hl', hj⟩ := h.text hm
    obtain ⟨rfl, -⟩ := List.cons.inj (hl.symm.trans hl')
    exact absurd hj hnot
  · next hm =>
    obtain ⟨j, l', hl', hj⟩ := currentIs_iff.mp (h.table hm)
    obtain ⟨rfl, -⟩ := List.cons.inj (hl.symm.trans hl')
    exact absurd (is_isOneOf_iff.mp hj) hnot
  · rfl

theorem Settled.comes (h : Settled d) :
    Comes u d.settle (if d.goesAbroad u then d.takeAbroad u else d.takeInMode u) := by
  refine .ite (fun habroad => ?_) fun _ => h.takeInMode
  have habroad : d.isAbroad = true := (Bool.and_eq_true_iff.mp habroad).1
  have heq := h.not_passing habroad
  exact heq.symm ▸ (heq ▸ h.sound).takeAbroad habroad

theorem Settled.takeFor (h : Settled d) (fuel : Nat) : Ends u d.settle (d.takeFor fuel u) := by
  induction fuel generalizing d with
  | zero => exact h.reaches.ends
  | succ fuel ih =>
    rw [Draft.takeFor]
    have hcomes := h.comes (u := u)
    split
    · next e he =>
      rw [he] at hcomes
      cases hcomes with
      | done hends => exact hends
    · next e he =>
      rw [he] at hcomes
      cases hcomes with
      | again hreaches => exact hreaches.leads.trans_ends (ih hreaches.settled)

/-- Once a page has a head, a doctype counts for nothing. -/
theorem Settled.takeDoctype (h : Settled d) (t : Doctype) : d.takeDoctype t = d := by
  rw [Draft.takeDoctype, if_neg]
  intro hm
  have heq : d.settle = d := by rw [settle, hm]
  have hlasting := h.sound.mode.lasting
  rw [heq, hm] at hlasting
  exact hlasting (by decide)

/-- A token is taken. -/
theorem Settled.take (h : Settled d) (u : Token) : Ends u d.settle (d.take u) := by
  have hflag : Flagged d { d with skipLineFeed := false } := ⟨_, _, _, _, _, _, rfl⟩
  have hreaches := hflag.reaches h.reaches
  have htaken (fuel : Nat) (skip : Bool) : Ends u d.settle
      (if skip then { d with skipLineFeed := false }
        else Draft.takeFor fuel { d with skipLineFeed := false } u) :=
    .ite (fun _ => hreaches.ends) fun _ =>
      hreaches.leads.trans_ends (hreaches.settled.takeFor fuel)
  cases u with
  | doctype t =>
    rw [Draft.take, hreaches.settled.takeDoctype]
    exact hreaches.ends
  | startTag t => exact htaken _ _
  | endTag t => exact htaken _ _
  | comment => exact htaken _ _
  | character c => exact htaken _ _
  | finish => exact htaken _ _

end PluginRelease.Html.Draft
