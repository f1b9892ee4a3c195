import PluginRelease.Failure

/-!
Contexts that are added to a failure one after the other. The help and the exit code stay, and so
does a failure with a cause of its own; the message of any other tells all contexts, the last one
first, between its headline and what stood under that.
-/
namespace PluginRelease.Failure
variable {text : String} {help : Option String}

def addContexts (f : Failure) (contexts : List String) : Failure :=
  contexts.foldl (fun f ctx => f.addContext ctx) f

@[simp] theorem addContexts_nil (f : Failure) : f.addContexts [] = f := rfl

@[simp] theorem addContexts_cons (f : Failure) (ctx : String) (contexts : List String) :
    f.addContexts (ctx :: contexts) = (f.addContext ctx).addContexts contexts := rfl

theorem exitCode_addContexts (f : Failure) (contexts : List String) :
    (f.addContexts contexts).exitCode = f.exitCode := by
  induction contexts generalizing f with
  | nil => rfl
  | cons ctx contexts ih => rw [addContexts_cons, ih, exitCode_addContext]

theorem help?_addContexts (f : Failure) (contexts : List String) :
    (f.addContexts contexts).help? = f.help? := by
  induction contexts generalizing f with
  | nil => rfl
  | cons ctx contexts ih => rw [addContexts_cons, ih, help?_addContext]

/-- What no context changes, any number of them leave as it is. -/
theorem addContexts_of_fixed {f : Failure} (h : ∀ ctx, f.addContext ctx = f)
    (contexts : List String) : f.addContexts contexts = f := by
  induction contexts with
  | nil => rfl
  | cons ctx contexts ih => rw [addContexts_cons, h ctx, ih]

/-! ## Lines of a plain message -/

/-- A plain message with some lines under its headline. -/
def ofLines (text : String) (lines : List String) (help : Option String) : Failure :=
  plain text (if lines = [] then none else some ("\n".intercalate lines)) help

theorem plain_eq_ofLines (text : String) (context help : Option String) :
    plain text context help = ofLines text context.toList help := by
  cases context with
  | none => rfl
  | some context => simp [ofLines]

theorem message_ofLines (text : String) (lines : List String) (help : Option String) :
    (ofLines text lines help).message = "\n".intercalate (text :: lines) := by
  cases lines with
  | nil => simp [ofLines, message]
  | cons line lines => simp [ofLines, message]

/-- A context is a new first line under the headline. -/
theorem addContext_ofLines (ctx : String) (lines : List String) :
    (ofLines text lines help).addContext ctx = ofLines text (ctx :: lines) help := by
  cases lines with
  | nil => simp [ofLines, addContext]
  | cons line lines => simp [ofLines, addContext]

theorem addContexts_ofLines (contexts lines : List String) :
    (ofLines text lines help).addContexts contexts =
      ofLines text (contexts.reverse ++ lines) help := by
  induction contexts generalizing lines with
  | nil => rfl
  | cons ctx contexts ih =>
    rw [addContexts_cons, addContext_ofLines, ih]
    simp

/-- A system fault becomes a plain message with its first context for a headline. -/
theorem addContext_system (ctx : String) (fault : SystemFault) :
    (system fault).addContext ctx = ofLines ctx [fault.message] none := by
  simp [ofLines, addContext]

/-- Each line of a text is told by it. -/
theorem isInfix_intercalate {line : String} {lines : List String} (sep : String)
    (h : line ∈ lines) : line.toList <:+: (sep.intercalate lines).toList := by
  induction lines with
  | nil => cases h
  | cons first rest ih =>
    cases rest with
    | nil =>
      obtain rfl := List.mem_singleton.mp h
      have hsingle : sep.intercalate [line] = line := String.intercalate_singleton
      exact hsingle ▸ List.infix_rfl
    | cons second rest =>
      rw [String.intercalate_cons_cons, String.toList_append, String.toList_append]
      rcases List.mem_cons.mp h with rfl | h
      · rw [List.append_assoc]
        exact (List.prefix_append _ _).isInfix
      · exact (ih h).trans (List.suffix_append _ _).isInfix

/-- Contexts change neither the help nor the exit code of a failure. One with a cause of its own
stays as it is. The message of a plain one is its headline, the contexts from the last one to the
first, and what stood under the headline, each on a line of its own; that of a system fault is the
first context, the others from the last one on, and the words of the system. So the message tells
every context and all that was there before. -/
theorem addContexts_keeps_meaning (f : Failure) (first : String) (rest : List String) :
    let g := f.addContexts (first :: rest)
    g.exitCode = f.exitCode ∧ g.help? = f.help? ∧
    match f with
    | .plain text context _ =>
      g.message = "\n".intercalate (text :: (rest.reverse ++ first :: context.toList)) ∧
        ∀ told ∈ text :: first :: (rest ++ context.toList), told.toList <:+: g.message.toList
    | .system fault =>
      g.message = "\n".intercalate (first :: (rest.reverse ++ [fault.message])) ∧
        ∀ told ∈ fault.message :: first :: rest, told.toList <:+: g.message.toList
    | _ => g = f := by
  intro g
  refine ⟨exitCode_addContexts f _, help?_addContexts f _, ?_⟩
  cases f with
  | plain text context help =>
    have hmessage : g.message =
        "\n".intercalate (text :: (rest.reverse ++ first :: context.toList)) := by
      have hlines : g = ofLines text ((first :: rest).reverse ++ context.toList) help := by
        rw [← addContexts_ofLines, ← plain_eq_ofLines]
      rw [hlines, message_ofLines]
      simp
    refine ⟨hmessage, fun told htold => ?_⟩
    rw [hmessage]
    refine isInfix_intercalate _ ?_
    simp only [List.mem_cons, List.mem_append, List.mem_reverse] at htold ⊢
    grind
  | system fault =>
    have hmessage : g.message = "\n".intercalate (first :: (rest.reverse ++ [fault.message])) := by
      have hlines : g = ofLines first (rest.reverse ++ [fault.message]) none := by
        rw [← addContexts_ofLines, ← addContext_system]
        rfl
      rw [hlines, message_ofLines]
    refine ⟨hmessage, fun told htold => ?_⟩
    rw [hmessage]
    refine isInfix_intercalate _ ?_
    simp only [List.mem_cons, List.mem_append, List.mem_reverse] at htold ⊢
    grind
  | config cause => exact addContexts_of_fixed (fun _ => rfl) _
  | extract cause => exact addContexts_of_fixed (fun _ => rfl) _
  | git cause => exact addContexts_of_fixed (fun _ => rfl) _
  | http cause => exact addContexts_of_fixed (fun _ => rfl) _
  | form cause => exact addContexts_of_fixed (fun _ => rfl) _

end PluginRelease.Failure
