import Mathlib.Data.List.Induction
import PluginRelease.Proofs.Html.Draft.Opening

/-!
The history of a page. Its text is read as tokens, which are taken one after the other; what stands
in a form stands there until the end tag of the form, and from then on unless an element is open
around it that may be moved.
-/
namespace PluginRelease.Html

namespace Draft

/-- The tokens that are taken while a text is read on. -/
def tokensFor : Nat → Draft → List Char → List Token
  | 0, _, _ => []
  | _ + 1, _, [] => [.finish]
  | fuel + 1, d, c :: s =>
    let (tokens, rest) := Token.next d.reading d.isAbroad c s
    tokens ++ tokensFor fuel (tokens.foldl take d) rest

/-- The draft after some tokens. -/
def after (us : List Token) : Draft := us.foldl take .start

end Draft

/-- The tokens of a text. -/
def tokens (text : String) : List Token :=
  let s := Token.prepare text
  Draft.tokensFor (s.length + 1) .start s

namespace Draft
variable {d e : Draft} {i j k s : Nat} {t : Tag} {u : Token} {us vs : List Token}
  {tags : List String}

theorem foldl_tokensFor (fuel : Nat) (d : Draft) (s : List Char) :
    (tokensFor fuel d s).foldl take d = readFor fuel d s := by
  induction fuel generalizing d s with
  | zero => rfl
  | succ fuel ih =>
    cases s with
    | nil => rfl
    | cons c s =>
      rw [tokensFor, readFor]
      dsimp only
      rw [List.foldl_append, ih]

theorem page_after_tokens (text : String) : (after (tokens text)).page = parse text := by
  rw [after, tokens, foldl_tokensFor]
  rfl

theorem after_append (us : List Token) (u : Token) : after (us ++ [u]) = (after us).take u :=
  List.foldl_append

/-! ## Drafts between tokens -/

theorem under_settle : Under d.settle k i ↔ Under d k i :=
  ⟨fun h => h.congr fun _ _ _ _ => congrFun (parent?_congr (entries_settle d)).symm _,
    fun h => h.congr fun _ _ _ _ => congrFun (parent?_congr (entries_settle d)) _⟩

theorem isIn_settle : d.settle.IsIn tags i ↔ d.IsIn tags i :=
  ⟨fun h => h.congr (entries_settle d).symm, fun h => h.congr (entries_settle d)⟩

theorem form_settle (d : Draft) : d.settle.form = d.form := by
  rw [settle]
  split <;> rfl

theorem suffix_settle (d : Draft) : d.settle.stack <:+ d.stack := by
  rw [settle]
  split
  · exact List.tail_suffix _
  · exact List.suffix_rfl
  · exact List.suffix_rfl

theorem movable_of_settle (h : Movable d.settle s) : Movable d s := by
  obtain ⟨l, hl, hmoves⟩ := h
  refine ⟨l, hl.trans (suffix_settle d), hmoves.imp isIn_settle.mp ?_⟩
  rintro ⟨x, hx, hin⟩
  exact ⟨x, hx, isIn_settle.mp hin⟩

theorem Moored.settle (h : Moored d k i) : Moored d.settle k i where
  under := under_settle.mpr h.under
  fixed s hs hks hsi :=
    h.fixed s (movable_of_settle hs) (under_settle.mp hks) (under_settle.mp hsi)

/-- A text is no form, so the same forms are open. -/
theorem Settled.mem_settle_iff (h : Settled d) (hk : d.IsIn ["form"] k) :
    k ∈ d.settle.stack ↔ k ∈ d.stack := by
  refine ⟨fun hmem => (suffix_settle d).subset hmem, fun hmem => ?_⟩
  rw [Draft.settle]
  split
  · next hm =>
    obtain ⟨j, l, hl, hj⟩ := h.text hm
    rw [hl] at hmem ⊢
    refine (List.mem_cons.mp hmem).resolve_left ?_
    rintro rfl
    exact hk.not_of_disjoint (by decide) hj
  · exact hmem
  · exact hmem

theorem Early.form_eq (h : Early d) : d.form = none := by
  cases h with
  | empty _ hd =>
    obtain ⟨_, _, _, _, _, _, rfl⟩ := hd
    rfl
  | rooted hd =>
    obtain ⟨_, _, _, _, _, _, rfl⟩ := hd
    rfl

/-- Before a page has a head it has no element but its root element. -/
theorem Early.eq_html {n : ElementName} (h : Early d) (hn : d.name? i = some n) :
    n = .html "html" := by
  cases h with
  | empty _ hd =>
    obtain ⟨_, _, _, _, _, _, rfl⟩ := hd
    match i with
    | 0 => cases hn
    | _ + 1 => cases hn
  | rooted hd =>
    obtain ⟨_, _, _, _, _, _, rfl⟩ := hd
    match i with
    | 0 => cases hn
    | 1 => exact (Option.some.inj hn).symm
    | _ + 2 => cases hn

/-- What a page is after some tokens. -/
theorem early_or_settled (us : List Token) : Early (after us) ∨ Settled (after us) := by
  induction us using List.reverseRecOn with
  | nil => exact .inl .start
  | append_singleton us u ih =>
    rw [after_append]
    rcases ih with hearly | hsettled
    · exact (hearly.take u).imp id fun ⟨_, _, hends⟩ => hends.settled
    · exact .inr (hsettled.take u).settled

theorem Settled.after_append (h : Settled (after us)) (vs : List Token) :
    Settled (after (us ++ vs)) := by
  induction vs using List.reverseRecOn with
  | nil => rwa [List.append_nil]
  | append_singleton vs u ih =>
    rw [← List.append_assoc, Draft.after_append]
    exact (ih.take u).settled

theorem Settled.adds (h : Settled (after us)) (u : Token) :
    Adds u (after us).settle (after (us ++ [u])).settle := by
  rw [Draft.after_append]
  exact (h.take u).adds

/-- What every token keeps lasts. -/
theorem Settled.lasts {P : Draft → Prop} (h : Settled (after us))
    (hstep : ∀ {u d e}, Adds u d e → P d → P e) (hP : P (after us).settle) (vs : List Token) :
    P (after (us ++ vs)).settle := by
  induction vs using List.reverseRecOn with
  | nil => rwa [List.append_nil]
  | append_singleton vs u ih =>
    rw [← List.append_assoc]
    exact hstep ((h.after_append vs).adds u) ih

/-! ## New controls -/

/-- A control is planted by the token with which it comes. -/
theorem planted_after (hi : (after us).entries.size ≤ i)
    (hcontrol : (after (us ++ [u])).IsIn controlTags i) :
    Planted u (after (us ++ [u])).settle i := by
  have hcontrol' : (after (us ++ [u])).settle.IsIn controlTags i := isIn_settle.mpr hcontrol
  rcases early_or_settled us with hearly | hsettled
  · rcases hearly.take u with hlate | ⟨d, hd, hends⟩
    · obtain ⟨tag, htag, hn⟩ := hcontrol
      rw [Draft.after_append] at hn
      have heq : ElementName.html tag = .html "html" := hlate.eq_html hn
      obtain rfl := html_inj.mp heq
      exact absurd htag (by decide)
    · rw [← Draft.after_append] at hends
      refine hends.adds.planted i (Nat.not_lt.mp fun hlt => ?_) hcontrol'
      exact hd.not_control i ((hends.adds.keeps.isIn_iff hlt).mp hcontrol')
  · refine (hsettled.adds u).planted i ?_ hcontrol'
    rwa [entries_settle]

/-! ## What a form holds -/

/-- What stands in an open form, or is moored in a closed one. -/
def Held (d : Draft) (k i : Nat) : Prop := Under d k i ∧ (k ∈ d.stack ∨ Moored d k i)

/-- The end tag of a form closes it, and not all that is open inside it. -/
structure Released (u : Token) (d e : Draft) (k i : Nat) : Prop where
  tag : ∃ t : Tag, u = .endTag t ∧ t.name = "form"
  was_open : k ∈ d.stack
  closed : k ∉ e.stack
  under : Under e k i

/-- After some tokens others close a form with its end tag, while something stands in the form and in
an open element that may be moved; and so it is ever after. -/
def Drifts (us vs : List Token) (k i : Nat) : Prop :=
  ∃ a t b, vs = a ++ .endTag t :: b ∧ t.name = "form" ∧ k ∈ (after (us ++ a)).stack ∧
    k ∉ (after (us ++ a ++ [.endTag t])).stack ∧ Under (after (us ++ a ++ [.endTag t])) k i ∧
    ∀ c, c <+: b → ¬ Moored (after (us ++ a ++ .endTag t :: c)) k i

/-- What a form holds it still holds after a token, unless that is its end tag. -/
theorem Adds.held (h : Adds u d e) (hk : d.IsIn ["form"] k) (hi : Held d k i) :
    Held e k i ∨ Released u d e k i := by
  by_cases hopen : k ∈ d.stack
  · have hunder := h.under k hk hopen i hi.1
    rcases h.closes k hk hopen with hopen' | hshut | htag
    · exact .inl ⟨hunder, .inl hopen'⟩
    · exact .inl ⟨hunder, .inr (hshut.moored hunder)⟩
    · by_cases hopen' : k ∈ e.stack
      · exact .inl ⟨hunder, .inl hopen'⟩
      · exact .inr ⟨htag, hopen, hopen', hunder⟩
  · have hmoored := h.moored k hk hopen i (hi.2.resolve_left hopen)
    exact .inl ⟨hmoored.under, .inr hmoored⟩

/-- A form holds what it held, or its end tag has been taken in between. -/
theorem Settled.held (h : Settled (after us)) (hk : (after us).IsIn ["form"] k)
    (hi : Held (after us).settle k i) (vs : List Token) :
    Held (after (us ++ vs)).settle k i ∨ ∃ a v b, vs = a ++ v :: b ∧
      Released v (after (us ++ a)).settle (after (us ++ a ++ [v])).settle k i := by
  induction vs generalizing us with
  | nil => exact .inl (by rwa [List.append_nil])
  | cons v vs ih =>
    rcases (h.adds v).held (isIn_settle.mpr hk) hi with hheld | hreleased
    · have hk' := isIn_settle.mpr hk
      have hlater := ((h.adds v).keeps.isIn_iff hk'.lt_size).mpr hk'
      have hnext := ih (h.after_append [v]) (isIn_settle.mp hlater) hheld
      rw [List.append_assoc, List.singleton_append] at hnext
      refine hnext.imp id ?_
      rintro ⟨a, w, b, rfl, hreleased⟩
      exact ⟨v :: a, w, b, rfl, by simpa using hreleased⟩
    · exact .inr ⟨[], v, vs, rfl, by rwa [List.append_nil]⟩

theorem Settled.isIn (h : Settled (after us)) (hi : (after us).IsIn tags i) (vs : List Token) :
    (after (us ++ vs)).IsIn tags i := by
  refine isIn_settle.mp (h.lasts (P := fun d => d.IsIn tags i) ?_ (isIn_settle.mpr hi) vs)
  exact fun hadds hi => (hadds.keeps.isIn_iff hi.lt_size).mpr hi

section
variable (h : Settled (after us)) (hk : (after us).IsIn ["form"] k)
include h hk

theorem Settled.stays_closed (hclosed : k ∉ (after us).stack) (vs : List Token) :
    k ∉ (after (us ++ vs)).stack := by
  rw [← (h.after_append vs).mem_settle_iff (h.isIn hk vs)]
  refine (h.lasts (P := fun d => d.IsIn ["form"] k ∧ k ∉ d.stack) ?_
    ⟨isIn_settle.mpr hk, fun hopen => hclosed ((h.mem_settle_iff hk).mp hopen)⟩ vs).2
  rintro u d e hadds ⟨hk, hclosed⟩
  exact ⟨(hadds.keeps.isIn_iff hk.lt_size).mpr hk, hadds.stays_closed k hk.lt_size hclosed⟩

/-- What is moored in a closed form stays there. -/
theorem Settled.moored (hclosed : k ∉ (after us).stack) (hi : Moored (after us) k i)
    (vs : List Token) : Moored (after (us ++ vs)).settle k i := by
  refine (h.lasts (P := fun d => d.IsIn ["form"] k ∧ k ∉ d.stack ∧ Moored d k i) ?_
    ⟨isIn_settle.mpr hk, fun hopen => hclosed ((h.mem_settle_iff hk).mp hopen), hi.settle⟩ vs).2.2
  rintro u d e hadds ⟨hk, hclosed, hi⟩
  exact ⟨(hadds.keeps.isIn_iff hk.lt_size).mpr hk, hadds.stays_closed k hk.lt_size hclosed,
    hadds.moored k hk hclosed i hi⟩

/-- What a form that is closed with all inside it does not hold never comes into it. -/
theorem Settled.outside (hshut : Shut (after us).settle k) (hlt : i < (after us).entries.size)
    (hi : ¬ Under (after us) k i) (vs : List Token) : ¬ Under (after (us ++ vs)) k i := by
  rw [← under_settle] at hi ⊢
  refine (h.lasts (P := fun d => d.IsIn ["form"] k ∧ Shut d k ∧ i < d.entries.size ∧ ¬ Under d k i)
    ?_ ⟨isIn_settle.mpr hk, hshut, by rwa [entries_settle], hi⟩ vs).2.2.2
  rintro u d e hadds ⟨hk, hshut, hlt, hi⟩
  obtain ⟨hshut', hunder⟩ := hadds.shut k hk hshut
  exact ⟨(hadds.keeps.isIn_iff hk.lt_size).mpr hk, hshut',
    Nat.lt_of_lt_of_le hlt hadds.keeps.size_le, fun hi' => hi (hunder i hlt hi')⟩

/-- What a form holds at some time stands in it in the end, or drifts. -/
theorem Settled.under_or_drifts (hi : Held (after us).settle k i) (vs : List Token) :
    Under (after (us ++ vs)) k i ∨ Drifts us vs k i := by
  rcases h.held hk hi vs with hheld | ⟨a, v, b, rfl, hreleased⟩
  · exact .inl (under_settle.mp hheld.1)
  obtain ⟨t, rfl, ht⟩ := hreleased.tag
  have hsettled (c : List Token) : Settled (after (us ++ c)) := h.after_append c
  have hopen := ((hsettled a).mem_settle_iff (h.isIn hk a)).mp hreleased.was_open
  have hclosed : k ∉ (after (us ++ a ++ [.endTag t])).stack := by
    rw [← ((hsettled a).after_append _).mem_settle_iff ((hsettled a).isIn (h.isIn hk a) _)]
    exact hreleased.closed
  by_cases hmoored : ∃ c, c <+: b ∧ Moored (after (us ++ a ++ .endTag t :: c)) k i
  · obtain ⟨c, ⟨c', rfl⟩, hmoored⟩ := hmoored
    refine .inl (under_settle.mp ?_)
    have hclosed' := ((hsettled a).after_append _).stays_closed
      ((hsettled a).isIn (h.isIn hk a) _) hclosed c
    rw [List.append_assoc, List.singleton_append] at hclosed'
    have hlater := ((hsettled a).after_append _).moored ((hsettled a).isIn (h.isIn hk a) _) hclosed'
      hmoored c'
    simpa using hlater.under
  · refine .inr ⟨a, t, b, rfl, ht, hopen, hclosed, under_settle.mp hreleased.under, fun c hc hm => ?_⟩
    exact hmoored ⟨c, hc, hm⟩

end

/-- An element that is no root element and no body keeps its attributes. -/
theorem Settled.content {n : ElementName} {attributes : List Attribute} (h : Settled (after us))
    (hn : n ≠ .html "html" ∧ n ≠ .html "body")
    (hi : (after us).content? i = some (.element n attributes)) (vs : List Token) :
    (after (us ++ vs)).content? i = some (.element n attributes) := by
  rw [← content?_congr (entries_settle _)] at hi ⊢
  refine h.lasts (P := fun d => d.content? i = some (.element n attributes)) ?_ hi vs
  intro u d e hadds hi
  exact content?_of_lasting (hadds.keeps.lasting i (lt_of_content? hi)) hn hi

theorem Settled.rooted (h : Settled d) : Rooted d where
  linked := h.sound.linked.congr (entries_settle d).symm
  content := by
    rw [← content?_congr (entries_settle d)]
    exact h.sound.grounded.rooted.content
  free i hi := by
    rw [← content?_congr (entries_settle d)] at hi
    rw [← parent?_congr (entries_settle d)]
    exact h.sound.grounded.rooted.free i hi

end Draft
end PluginRelease.Html
