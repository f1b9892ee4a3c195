import PluginRelease.Yaml.Decode
import PluginRelease.Proofs.Yaml.Token

/-!
A written page as a document: every character of it may stand in a text, and its events are
the keys and the values in their order.
-/
namespace PluginRelease.Yaml
open Writer Text

/-! ## Characters -/

theorem isAllowed_of_isAlpha {c : Char} (h : c.isAlpha = true) : isAllowed c = true :=
  isAllowed_of_isPrintable (isPrintable_of_isAlpha h)

theorem isAllowed_of_mem_hexDigits {upper : Bool} {width n : Nat} {c : Char}
    (h : c ∈ hexDigits upper width n) : isAllowed c = true := by
  have hrange := toNat_of_mem_hexDigits h
  simp only [isAllowed, Bool.or_eq_true, Bool.and_eq_true, beq_iff_eq, decide_eq_true_eq]
  omega

theorem isAllowed_of_escaped? {x c : Char} (h : Quoted.escaped? x = some c) :
    isAllowed x = true := by
  have hall : ∀ d ∈ "0abt\tnvfre \"/\\N_LP".toList, isAllowed d = true := List.all_eq_true.mp rfl
  by_cases hx : x ∈ "0abt\tnvfre \"/\\N_LP".toList
  · exact hall x hx
  · simp [Quoted.escaped?] at hx h
    simp [hx] at h

theorem isAllowed_of_escapeOf {c : Char} {e : List Char} (h : Quoted.EscapeOf c e) :
    ∀ d ∈ e, isAllowed d = true := by
  intro d hd
  cases h with
  | @letter x hx =>
    rcases List.mem_cons.mp hd with rfl | hd
    · decide
    · obtain rfl := List.mem_singleton.mp hd
      exact isAllowed_of_escaped? hx
  | @number x w hx hw hpos hfits =>
    have hletter : isAllowed x = true := by
      have hall : ∀ d ∈ ['x', 'u', 'U'], isAllowed d = true := List.all_eq_true.mp rfl
      by_cases hx : x ∈ ['x', 'u', 'U']
      · exact hall x hx
      · simp only [List.mem_cons, List.not_mem_nil, or_false, not_or] at hx
        simp [Quoted.escapeWidth?, hx] at hw
    rcases List.mem_cons.mp hd with rfl | hd
    · decide
    · rcases List.mem_cons.mp hd with rfl | hd
      · exact hletter
      · exact isAllowed_of_mem_hexDigits hd

theorem mem_singleBody {c : Char} {s : List Char} {afterBreak : Bool}
    (h : c ∈ singleBody afterBreak s) : c ∈ s ∨ c = ' ' ∨ c = '\'' := by
  induction s generalizing afterBreak with
  | nil => cases afterBreak <;> simp_all [singleBody, margin]
  | cons d ds ih =>
    have hrest : ∀ b, c ∈ singleBody b ds → c ∈ d :: ds ∨ c = ' ' ∨ c = '\'' := by
      intro b hb
      rcases ih hb with hc | hc
      · exact .inl (List.mem_cons_of_mem d hc)
      · exact .inr hc
    unfold singleBody at h
    split at h
    · rcases List.mem_cons.mp h with rfl | h
      · exact .inl List.mem_cons_self
      · exact hrest true h
    · rw [List.mem_append, List.mem_append] at h
      rcases h with (h | h) | h
      · cases afterBreak <;> simp_all [margin]
      · split at h <;> simp_all
      · exact hrest false h

theorem mem_indented {c : Char} {s : List Char} {afterBreak : Bool}
    (h : c ∈ indented afterBreak s) : c ∈ s ∨ c = ' ' := by
  induction s generalizing afterBreak with
  | nil => cases h
  | cons d ds ih =>
    have hrest : ∀ b, c ∈ d :: indented b ds → c ∈ d :: ds ∨ c = ' ' := by
      intro b hb
      rcases List.mem_cons.mp hb with rfl | hb
      · exact .inl List.mem_cons_self
      · rcases ih hb with hc | hc
        · exact .inl (List.mem_cons_of_mem d hc)
        · exact .inr hc
    unfold indented at h
    split at h
    · exact hrest true h
    · split at h
      · rcases List.mem_append.mp h with h | h
        · simp_all [margin]
        · exact hrest false h
      · exact hrest false h

theorem isAllowed_singleBody {s : List Char} (hs : ∀ c ∈ s, isPrintable c = true) :
    ∀ c ∈ singleBody false s, isAllowed c = true := by
  intro c hc
  rcases mem_singleBody hc with hc | rfl | rfl
  · exact isAllowed_of_isPrintable (hs c hc)
  · decide
  · decide

theorem isAllowed_doubleBody (s : List Char) : ∀ c ∈ doubleBody s, isAllowed c = true := by
  intro c hc
  obtain ⟨d, -, hd⟩ := List.mem_flatMap.mp hc
  split at hd
  · exact isAllowed_of_escapeOf (Quoted.escapeOf_escape d) c hd
  · next h =>
    obtain rfl := List.mem_singleton.mp hd
    simp only [Bool.or_eq_true, Bool.not_eq_true', not_or] at h
    exact isAllowed_of_isPrintable (by simpa using h.1.1.1)

theorem isAllowed_indented {s : List Char} (hs : ∀ c ∈ s, isPrintable c = true) :
    ∀ c ∈ indented true s, isAllowed c = true := by
  intro c hc
  rcases mem_indented hc with hc | rfl
  · exact isAllowed_of_isPrintable (hs c hc)
  · decide

theorem isAllowed_hints (s : List Char) :
    ∀ c ∈ depthHint s ++ chompHint s, isAllowed c = true := by
  have hmarks : ∀ c ∈ ['2', '-', '+'], isAllowed c = true := List.all_eq_true.mp rfl
  intro c hc
  apply hmarks
  rcases List.mem_append.mp hc with hc | hc
  · unfold depthHint at hc
    split at hc <;> simp_all
  · rcases Block.chompHint_cases s with h | h | h <;> simp_all

theorem isAllowed_scalar (s : List Char) : ∀ c ∈ scalar s, isAllowed c = true := by
  have hfits := fits_style s
  cases hstyle : style s with
  | plain =>
    rw [hstyle] at hfits
    have hs := (Plain.of_allowsPlain hfits.2.1).1.printable
    simp only [scalar, hstyle]
    rw [List.forall_mem_append]
    exact ⟨fun c hc => isAllowed_of_isPrintable (hs c hc), List.all_eq_true.mp rfl⟩
  | single =>
    rw [hstyle] at hfits
    have hs := printable_of_allowsSingle hfits.2
    simp only [scalar, hstyle, List.cons_append]
    rw [List.forall_mem_cons, List.forall_mem_append]
    exact ⟨by decide, isAllowed_singleBody hs, List.all_eq_true.mp rfl⟩
  | double =>
    simp only [scalar, hstyle, List.cons_append]
    rw [List.forall_mem_cons, List.forall_mem_append]
    exact ⟨by decide, isAllowed_doubleBody s, List.all_eq_true.mp rfl⟩
  | literal =>
    rw [hstyle] at hfits
    have hend : ∀ c ∈ (if s.getLast?.any isBreak then [] else ['\n']), isAllowed c = true := by
      split
      · exact List.all_eq_true.mp rfl
      · exact List.all_eq_true.mp rfl
    simp only [scalar, hstyle, List.cons_append]
    rw [List.forall_mem_cons, List.forall_mem_append, List.forall_mem_append,
      List.forall_mem_append]
    exact ⟨by decide, ⟨⟨isAllowed_hints s, List.all_eq_true.mp rfl⟩,
      isAllowed_indented hfits.2⟩, hend⟩

theorem isAllowed_mapping {es : List (List Char × Option (List Char))}
    (hes : ∀ e ∈ es, Scan.IsKey e.1) : ∀ c ∈ mapping es, isAllowed c = true := by
  intro c hc
  obtain ⟨e, he, hce⟩ := List.mem_flatMap.mp hc
  simp only [entry, List.append_assoc, List.mem_append] at hce
  rcases hce with hce | hce | hce
  · exact isAllowed_of_isAlpha ((hes e he).letters c hce)
  · have hmarks : ∀ d ∈ [':', ' '], isAllowed d = true := List.all_eq_true.mp rfl
    exact hmarks c hce
  · split at hce
    · have hnull : ∀ d ∈ "null\n".toList, isAllowed d = true := List.all_eq_true.mp rfl
      exact hnull c hce
    · exact isAllowed_scalar _ c hce

/-! ## Tokens -/

theorem three_mul_length_le {es : List (List Char × Option (List Char))}
    (hes : ∀ e ∈ es, Scan.IsKey e.1) : 3 * es.length ≤ (mapping es).length := by
  induction es with
  | nil => simp
  | cons e es ih =>
    have hkey := List.length_pos_iff.mpr (hes e List.mem_cons_self).ne_nil
    have hrest := ih fun d hd => hes d (List.mem_cons_of_mem e hd)
    rw [show mapping (e :: es) = entry e.1 e.2 ++ mapping es from rfl, Scan.entry_eq]
    simp only [List.length_append, List.length_cons]
    omega

/-- The tokens of a page with at least one entry. -/
theorem tokens_mapping {es : List (List Char × Option (List Char))} (hne : es ≠ [])
    (hes : ∀ e ∈ es, Scan.IsKey e.1) :
    tokens (mapping es) =
      (.blockMappingStart :: es.flatMap Scan.entryTokens ++ [.blockEnd, .streamEnd], none) := by
  have hallowed : (mapping es).all isAllowed = true :=
    List.all_eq_true.mpr (isAllowed_mapping hes)
  have hstart := Scan.startsLine_mapping hes
  have hmark : ((mapping es).head? == some byteOrderMark) = false := by
    rw [beq_eq_false_iff_ne]
    intro h
    exact absurd (hstart byteOrderMark h) (by decide)
  have hlength := three_mul_length_le hes
  rw [tokens, if_pos hallowed, hmark]
  obtain ⟨e, es, rfl⟩ := List.exists_cons_of_ne_nil hne
  have htail : ∀ d ∈ es, Scan.IsKey d.1 := fun d hd => hes d (List.mem_cons_of_mem e hd)
  have hready : Scan.Ready (Scan.start (mapping (e :: es))) [] false
      (entry e.1 e.2 ++ mapping es) :=
    ⟨Place.start, rfl, Scan.skipBlank_eq (Scan.skipToToken_line hstart true Place.start)⟩
  obtain ⟨t, ht, hrun⟩ := Scan.run_entry hready (hes e List.mem_cons_self)
    (Scan.startsLine_mapping htail)
  obtain ⟨k, hk⟩ : ∃ k, (mapping (e :: es)).length + 2 = k + 3 * es.length + 1 + 3 :=
    ⟨(mapping (e :: es)).length + 2 - (3 * es.length + 4), by
      rw [List.length_cons] at hlength
      omega⟩
  rw [if_neg (by decide), hk, hrun, Scan.run_entries ht htail]
  simp [Scan.opening]

/-! ## Events -/

/-- A scalar with neither an anchor nor a tag. -/
def bareScalar {ref : Type} (style : ScalarStyle) (text : List Char) : Event ref :=
  .scalar ⟨none, none⟩ style text

/-- The events of an entry. -/
def entryEvents {ref : Type} (e : List Char × Option (List Char)) : List (Event ref) :=
  [bareScalar .plain e.1, bareScalar (Scan.readStyle e.2) (Scan.readText e.2)]

theorem length_entryEvents {ref : Type} (es : List (List Char × Option (List Char))) :
    (es.flatMap (@entryEvents ref)).length = 2 * es.length := by
  induction es with
  | nil => rfl
  | cons e es ih =>
    rw [List.flatMap_cons, List.length_append, ih, List.length_cons]
    simp only [entryEvents, List.length_cons, List.length_nil]
    omega

def pageEvents {ref : Type} (es : List (List Char × Option (List Char))) : List (Event ref) :=
  .mappingStart ⟨none, none⟩ :: (es.flatMap entryEvents ++ [.mappingEnd])

namespace Event
variable {handles : Handles} {fault : Malformation} {done : List Named} {goals : List Goal}

/-- A token that starts a block scalar or a plain one is a node of its own. -/
theorem step_scalar (indentless : Bool) (style : ScalarStyle) (text : List Char)
    (ts : List Token) :
    step handles fault (.node true indentless) goals (.scalar style text :: ts) =
      .ok (some (bareScalar style text), ⟨goals, ts⟩) := by
  simp [step, readNode, readProperties, bareScalar, bind, Except.bind, pure, Except.pure]

/-- The four steps of an entry. -/
theorem run_entry (e : List Char × Option (List Char)) (ts : List Token) (fuel : Nat) :
    run handles fault (fuel + 4) done ⟨.blockKey :: goals, Scan.entryTokens e ++ ts⟩ =
      run handles fault fuel ((entryEvents e).reverse ++ done) ⟨.blockKey :: goals, ts⟩ := by
  have hkey (style : ScalarStyle) (text : List Char) (ts : List Token) :
      step handles fault .blockKey goals (.key :: .scalar style text :: ts) =
        .ok (none, ⟨.node true true :: .blockValue :: goals, .scalar style text :: ts⟩) := by
    simp [step, readOptional]
  have hvalue (style : ScalarStyle) (text : List Char) (ts : List Token) :
      step handles fault .blockValue goals (.value :: .scalar style text :: ts) =
        .ok (none, ⟨.node true true :: .blockKey :: goals, .scalar style text :: ts⟩) := by
    simp [step, readOptional]
  simp only [Scan.entryTokens, Scan.valueToken, List.cons_append, List.nil_append]
  rw [run, hkey]
  dsimp only
  rw [run, step_scalar]
  dsimp only
  rw [run, hvalue]
  dsimp only
  rw [run, step_scalar]
  rfl

theorem run_entries (es : List (List Char × Option (List Char))) (fuel : Nat) :
    run handles fault (fuel + 4 * es.length + 2) done
        ⟨[.blockKey], es.flatMap Scan.entryTokens ++ [.blockEnd, .streamEnd]⟩ =
      (done.reverse ++ es.flatMap entryEvents ++ [.mappingEnd], .ok [.streamEnd]) := by
  induction es generalizing done with
  | nil =>
    rw [List.flatMap_nil, List.nil_append, run]
    simp [step, run]
  | cons e es ih =>
    have hfuel : fuel + 4 * (e :: es).length + 2 = fuel + 4 * es.length + 2 + 4 := by
      rw [List.length_cons]
      omega
    rw [hfuel, List.flatMap_cons, List.append_assoc, run_entry, ih]
    simp

end Event

/-- The document of a page with at least one entry. -/
theorem ofText_mapping {es : List (List Char × Option (List Char))} (hne : es ≠ [])
    (hes : ∀ e ∈ es, Scan.IsKey e.1) :
    Document.ofText (mapping es) = ⟨pageEvents es, none, false⟩ := by
  have hrun (fuel : Nat) : Event.run Event.defaultHandles .textEnded
      (fuel + 4 * es.length + 2 + 1) [] ⟨[.node true false],
        .blockMappingStart :: (es.flatMap Scan.entryTokens ++ [.blockEnd, .streamEnd])⟩ =
      (pageEvents es, .ok [.streamEnd]) := by
    have hstep (ts : List Token) : Event.step Event.defaultHandles .textEnded (.node true false) []
        (.blockMappingStart :: ts) =
          .ok (some (.mappingStart ⟨none, none⟩), ⟨[.blockKey], ts⟩) := rfl
    rw [Event.run, hstep]
    dsimp only
    rw [Event.run_entries]
    rfl
  have hlength : (es.flatMap Scan.entryTokens).length = 4 * es.length :=
    Scan.length_entryTokens es
  obtain ⟨k, hk⟩ : ∃ k, 4 * (.blockMappingStart :: (es.flatMap Scan.entryTokens ++
      [Token.blockEnd, .streamEnd])).length + 8 = k + 4 * es.length + 2 + 1 :=
    ⟨12 * es.length + 17, by simp [hlength]; omega⟩
  have hdocument (ts : List Token) : Document.ofTokens (.blockMappingStart :: ts) .textEnded =
      Document.ofRun (Event.run Event.defaultHandles .textEnded
        (4 * (.blockMappingStart :: ts : List Token).length + 8) []
          ⟨[.node true false], .blockMappingStart :: ts⟩) .textEnded := rfl
  rw [Document.ofText, tokens_mapping hne hes]
  dsimp only [Option.getD, List.cons_append]
  rw [hdocument, hk, hrun]
  rfl

namespace Linked

theorem number_entries (known : List (List Char × Nat))
    (es : List (List Char × Option (List Char))) :
    number known (es.flatMap entryEvents ++ [.mappingEnd]) =
      ((es.flatMap entryEvents ++ [Event.mappingEnd]).map fun e => (e, none), true) := by
  induction es with
  | nil => rfl
  | cons e es ih =>
    simp only [List.flatMap_cons, entryEvents, bareScalar, List.cons_append, List.nil_append,
      number, ih, List.map_cons]

theorem anchorsOf_unanchored (es : List (Event Nat)) :
    anchorsOf (es.map fun e => (e, none)) = [] := by
  induction es with
  | nil => rfl
  | cons e es ih => exact ih

/-- No name is defined or used on a page. -/
theorem ofDocument_page (es : List (List Char × Option (List Char))) :
    ofDocument ⟨pageEvents es, none, false⟩ = ⟨pageEvents es, [], none⟩ := by
  have hnumber : number [] (pageEvents es) = ((pageEvents es).map fun e => (e, none), true) := by
    simp only [pageEvents, number, number_entries, List.map_cons]
  rw [ofDocument, hnumber]
  simp [anchorsOf_unanchored, Function.comp_def]

end Linked
end PluginRelease.Yaml
