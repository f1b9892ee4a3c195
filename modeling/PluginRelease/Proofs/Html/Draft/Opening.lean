import PluginRelease.Proofs.Html.Draft.Taking

/-!
The beginning of a page. Whatever comes first, the root element and the head are there before
anything else.
-/
namespace PluginRelease.Html.Draft
variable {d e f : Draft} {i k : Nat} {l : List Nat} {t : Tag} {u : Token} {m : Mode}
  {own attributes : List Attribute}

/-- A page with its root element alone. -/
def bare (own : List Attribute) : Draft :=
  { start with
    entries := #[⟨.root, none, #[1], none⟩, ⟨.element (.html "html") own, some 0, #[], none⟩]
    stack := [1]
    mode := .beforeHead }

/-- A page whose head is open. -/
def headed (own attributes : List Attribute) : Draft :=
  { start with
    entries := #[⟨.root, none, #[1], none⟩, ⟨.element (.html "html") own, some 0, #[2], none⟩,
      ⟨.element (.html "head") attributes, some 1, #[], none⟩]
    stack := [2, 1]
    mode := .head
    head := some 2 }

/-- A page without a head. -/
inductive Early (d : Draft) : Prop
  | empty {m : Mode} : m ∈ [Mode.initial, .beforeHtml] → Flagged { start with mode := m } d → Early d
  | rooted {own : List Attribute} : Flagged (bare own) d → Early d

theorem Flagged.refl (d : Draft) : Flagged d d := ⟨_, _, _, _, _, _, rfl⟩

theorem Flagged.trans (h : Flagged d e) (h' : Flagged e f) : Flagged d f := by
  obtain ⟨_, _, _, _, _, _, rfl⟩ := h
  obtain ⟨_, _, _, _, _, _, rfl⟩ := h'
  exact ⟨_, _, _, _, _, _, rfl⟩

theorem Early.start : Early start := .empty (by decide) (.refl _)

/-! ## The head -/

theorem parent?_headed (own attributes : List Attribute) (i : Nat) :
    (headed own attributes).parent? i = match i with
      | 1 => some 0
      | 2 => some 1
      | _ => none := by
  match i with
  | 0 => rfl
  | 1 => rfl
  | 2 => rfl
  | _ + 3 => rfl

theorem children_headed (own attributes : List Attribute) (i : Nat) :
    (headed own attributes).children i = match i with
      | 0 => #[1]
      | 1 => #[2]
      | _ => #[] := by
  match i with
  | 0 => rfl
  | 1 => rfl
  | 2 => rfl
  | _ + 3 => rfl

theorem content?_headed (own attributes : List Attribute) (i : Nat) :
    (headed own attributes).content? i = match i with
      | 0 => some .root
      | 1 => some (.element (.html "html") own)
      | 2 => some (.element (.html "head") attributes)
      | _ => none := by
  match i with
  | 0 => rfl
  | 1 => rfl
  | 2 => rfl
  | _ + 3 => rfl

theorem inside?_headed (own attributes : List Attribute) (i : Nat) :
    (headed own attributes).inside? i = none := by
  match i with
  | 0 => rfl
  | 1 => rfl
  | 2 => rfl
  | _ + 3 => rfl

theorem isIn_headed {tags : List String} : (headed own attributes).IsIn tags i ↔
    i = 1 ∧ "html" ∈ tags ∨ i = 2 ∧ "head" ∈ tags := by
  rw [IsIn]
  simp only [name?_eq_some_iff, content?_headed]
  rcases i with _ | _ | _ | i
  · simp
  · simp [ElementName.html]
  · simp [ElementName.html]
  · simp

theorem under_headed_one : Under (headed own attributes) k 1 ↔ k = 0 ∨ k = 1 := by
  rw [under_step (parent?_headed own attributes 1), under_of_free (parent?_headed own attributes 0)]
  omega

theorem sound_headed (own attributes : List Attribute) : Sound (headed own attributes) := by
  have hgrounded : Grounded (headed own attributes) := by
    refine ⟨⟨⟨fun p i => ?_, fun p => ?_, fun i p s hp => ?_⟩, rfl, fun i hi => ?_⟩, fun i r hr => ?_,
      rfl, fun i => ?_, 2, rfl, isIn_headed.mpr (by simp), rfl⟩
    · rw [children_headed, parent?_headed]
      rcases p with _ | _ | _ | p <;> rcases i with _ | _ | _ | i <;> simp
    · rw [children_headed]
      split <;> simp
    · rw [parent?_headed] at hp
      rw [content?_headed]
      split at hp
      · obtain rfl := Option.some.inj hp
        simp
      · obtain rfl := Option.some.inj hp
        simp
      · cases hp
    · rw [content?_headed] at hi
      split at hi
      · rfl
      · cases hi
      · cases hi
      · cases hi
    · rw [inside?_headed] at hr
      cases hr
    · rw [isIn_headed]
      simp
  have hground (i : Nat) : (headed own attributes).ground i = i := by
    rw [ground, inside?_headed]
    split <;> rfl
  have hfar (k : Nat) : ¬ Nearest (headed own attributes) k [1] := by
    rintro (hk | ⟨-, hk⟩)
    · exact absurd (isIn_headed.mp hk) (by decide)
    · cases hk
  have hbottom : Stands (headed own attributes) 1 [] := by
    refine ⟨rfl, by simp, by simp, by simp, by simp, fun _ k hk => ?_⟩
    cases hk
  refine ⟨hgrounded, .cons ⟨rfl, fun j hj => ?_, fun hin => ?_, fun hin => ?_, fun _ j hj => ?_,
    fun _ k hk => absurd hk (hfar k)⟩ (.cons hbottom .nil), rfl, ?_, ?_, ?_, ?_⟩
  · rw [List.mem_singleton.mp hj, hground, under_headed_one]
    decide
  · exact absurd (isIn_headed.mp hin) (by decide)
  · exact absurd (isIn_headed.mp hin) (by decide)
  · obtain rfl := Option.some.inj hj
    exact isIn_headed.mpr (by decide)
  · simp [Formatted, headed, start]
  · simp [headed, start]
  · exact .of_mem (m := .head) (by decide) (i := 2) (.head _) (isIn_headed.mpr (by decide))
  · simp [headed, start]

/-! ## What comes first -/

theorem flagged_openRoot (h : Flagged { start with mode := m } d) (own : List Attribute) :
    Flagged (bare own) (d.openRoot own) := by
  obtain ⟨_, _, _, _, _, _, rfl⟩ := h
  rw [openRoot, create_eq, if_neg (by decide)]
  exact ⟨_, _, _, _, _, _, rfl⟩

theorem flagged_openHead (h : Flagged (bare own) d) (ht : t.name = "head") :
    Flagged (headed own t.attributes) (d.openHead t) := by
  have hcreate : d.create (.html t.name) t.attributes =
      d.add (.element (.html "head") t.attributes) := by
    rw [create_eq, ht, if_neg (by decide)]
  have hplace : (d.add (.element (.html "head") t.attributes)).1.place = .last 1 := by
    obtain ⟨_, _, fostering, _, _, _, rfl⟩ := h
    cases fostering <;> rfl
  have hopen : d.openTag t = ((d.create (.html t.name) t.attributes).1.attach
      (d.create (.html t.name) t.attributes).2
      (d.create (.html t.name) t.attributes).1.place).push
        (d.create (.html t.name) t.attributes).2 := rfl
  rw [openHead, hopen, hcreate, hplace]
  obtain ⟨_, _, _, _, _, _, rfl⟩ := h
  exact ⟨_, _, _, _, _, _, rfl⟩

theorem flagged_mergeRoot (h : Flagged (bare own) d) (t : Tag) :
    ∃ own', Flagged (bare own') (d.mergeRoot t) := by
  have hmerge : d.mergeRoot t = d.addMissing 1 t.attributes := by
    obtain ⟨_, _, _, _, _, _, rfl⟩ := h
    rfl
  rw [hmerge]
  obtain ⟨_, _, _, _, _, _, rfl⟩ := h
  exact ⟨_, _, _, _, _, _, _, rfl⟩

/-- A page whose head has just been opened. -/
def Headed (d : Draft) : Prop := ∃ own attributes, Flagged (headed own attributes) d

theorem Headed.sound (h : Headed d) : Sound d := by
  obtain ⟨own, attributes, hd⟩ := h
  exact (hd.leads (sound_headed own attributes)).sound

theorem Headed.not_control (h : Headed d) (i : Nat) : ¬ d.IsIn controlTags i := by
  obtain ⟨own, attributes, hd⟩ := h
  intro hi
  rcases isIn_headed.mp (hi.congr hd.entries.symm) with ⟨-, hin⟩ | ⟨-, hin⟩
  · exact absurd hin (by decide)
  · exact absurd hin (by decide)

/-- What comes of a token before a page has a head. -/
inductive Begins : Outcome → Prop
  | done {e : Draft} : Early e ∨ Headed e → Begins (.done e)
  | again {e : Draft} : Early e ∨ Headed e → Begins (.again e)

theorem Begins.ite {c : Prop} [Decidable c] {o p : Outcome} (h : Begins o) (h' : Begins p) :
    Begins (if c then o else p) := by
  split
  · exact h
  · exact h'

theorem begins_inInitial (h : Flagged { start with mode := .initial } d) :
    Begins (d.inInitial u) := by
  have hearly : Begins (.done d) := .done (.inl (.empty (by decide) h))
  have hleave : Begins (.again { d with old := true, mode := .beforeHtml }) := by
    refine .again (.inl (.empty (m := .beforeHtml) (by decide) ?_))
    obtain ⟨_, _, _, _, _, _, rfl⟩ := h
    exact ⟨_, _, _, _, _, _, rfl⟩
  cases u with
  | character c => exact .ite hearly hleave
  | comment => exact hearly
  | startTag t => exact hleave
  | endTag t => exact hleave
  | finish => exact hleave
  | doctype _ => exact hleave

theorem begins_inBeforeHtml (h : Flagged { start with mode := .beforeHtml } d) :
    Begins (d.inBeforeHtml u) := by
  have hearly : Begins (.done d) := .done (.inl (.empty (by decide) h))
  have hroot (own : List Attribute) : Early (d.openRoot own) := .rooted (flagged_openRoot h own)
  have hleave : Begins (.again (d.openRoot [])) := .again (.inl (hroot []))
  cases u with
  | character c => exact .ite hearly hleave
  | comment => exact hearly
  | startTag t => exact .ite (.done (.inl (hroot _))) hleave
  | endTag t => exact .ite hleave hearly
  | finish => exact hleave
  | doctype _ => exact hleave

theorem begins_inBeforeHead (h : Flagged (bare own) d) : Begins (d.inBeforeHead u) := by
  have hearly : Begins (.done d) := .done (.inl (.rooted h))
  have hleave : Begins (.again (d.openHead (.plain "head"))) :=
    .again (.inr ⟨_, _, flagged_openHead h rfl⟩)
  cases u with
  | character c => exact .ite hearly hleave
  | comment => exact hearly
  | startTag t =>
    rw [inBeforeHead]
    split
    · obtain ⟨own', hmerged⟩ := flagged_mergeRoot h t
      exact .done (.inl (.rooted hmerged))
    · split
      · next hname => exact .done (.inr ⟨_, _, flagged_openHead h hname⟩)
      · exact hleave
  | endTag t => exact .ite hleave hearly
  | finish => exact hleave
  | doctype _ => exact hleave

theorem Early.not_abroad (h : Early d) : d.isAbroad = false := by
  cases h with
  | empty _ hd =>
    obtain ⟨_, _, _, _, _, _, rfl⟩ := hd
    rfl
  | rooted hd =>
    obtain ⟨_, _, _, _, _, _, rfl⟩ := hd
    rfl

theorem Early.begins (h : Early d) :
    Begins (if d.goesAbroad u then d.takeAbroad u else d.takeInMode u) := by
  have hhome : d.goesAbroad u = false := by
    unfold goesAbroad
    rw [h.not_abroad, Bool.false_and]
  rw [hhome, if_neg (by decide), takeInMode]
  cases h with
  | empty hm hd =>
    rcases List.mem_cons.mp hm with rfl | hm
    · rw [hd.mode]
      exact begins_inInitial hd
    · obtain rfl := List.mem_singleton.mp hm
      rw [hd.mode]
      exact begins_inBeforeHtml hd
  | rooted hd =>
    rw [hd.mode]
    exact begins_inBeforeHead hd

/-- A token either leaves a page without a head, or is taken on from where the head is open. -/
def Founds (u : Token) (e : Draft) : Prop := Early e ∨ ∃ d, Headed d ∧ Ends u d e

theorem Headed.founds (h : Headed d) (fuel : Nat) : Founds u (takeFor fuel d u) := by
  have hends := h.sound.settled.takeFor (u := u) fuel
  rw [h.sound.settle_eq] at hends
  exact .inr ⟨d, h, hends⟩

theorem Early.takeFor (h : Early d) (fuel : Nat) : Founds u (takeFor fuel d u) := by
  induction fuel generalizing d with
  | zero => exact .inl h
  | succ fuel ih =>
    have hbegins := h.begins (u := u)
    rw [Draft.takeFor]
    split
    · next e he =>
      rw [he] at hbegins
      cases hbegins with
      | done hd => exact hd.imp id fun hd => ⟨e, hd, (Leads.refl hd.sound).ends⟩
    · next e he =>
      rw [he] at hbegins
      cases hbegins with
      | again hd => exact hd.elim ih fun hd => hd.founds fuel

theorem Early.flag (h : Early d) (he : Flagged d e) : Early e := by
  cases h with
  | empty hm hd => exact .empty hm (hd.trans he)
  | rooted hd => exact .rooted (hd.trans he)

theorem Early.takeDoctype (h : Early d) (t : Doctype) : Early (d.takeDoctype t) := by
  rw [Draft.takeDoctype]
  split
  · next hinitial =>
    cases h with
    | empty hm hd =>
      refine .empty (m := .beforeHtml) (by decide) ?_
      obtain ⟨_, _, _, _, _, _, rfl⟩ := hd
      exact ⟨_, _, _, _, _, _, rfl⟩
    | rooted hd =>
      have hmode := hd.mode.symm.trans hinitial
      cases hmode
  · exact h

/-- A token at the beginning of a page is taken. -/
theorem Early.take (h : Early d) (u : Token) : Founds u (d.take u) := by
  have hflagged : Early { d with skipLineFeed := false } := h.flag ⟨_, _, _, _, _, _, rfl⟩
  have htaken (fuel : Nat) (skip : Bool) : Founds u
      (if skip then { d with skipLineFeed := false }
        else Draft.takeFor fuel { d with skipLineFeed := false } u) := by
    split
    · exact .inl hflagged
    · exact hflagged.takeFor fuel
  cases u with
  | doctype t => exact .inl (hflagged.takeDoctype t)
  | startTag t => exact htaken _ _
  | endTag t => exact htaken _ _
  | comment => exact htaken _ _
  | character c => exact htaken _ _
  | finish => exact htaken _ _

end PluginRelease.Html.Draft
