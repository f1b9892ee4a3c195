import PluginRelease.Proofs.Publish.Batch
import Mathlib.Data.List.Induction
import Mathlib.Logic.Relation

/-!
The login of a session, through any operations on it and with any calls refused. Each operation is
a chain of single steps, and every step keeps the flag of the session in line with the last login
or logout that succeeded.
-/
namespace PluginRelease
open Relation

namespace SiteCall

/-- A login opens a session and a logout closes it; an upload does neither. -/
def opens? : SiteCall → Option Bool
  | .login _ _ => some true
  | .logout => some false
  | .upload _ _ _ _ => none

/-- The last login or logout of some calls is a login. -/
def lastOpens (calls : List SiteCall) : Bool := (calls.filterMap opens?).getLastD false

theorem lastOpens_concat (calls : List SiteCall) (c : SiteCall) :
    lastOpens (calls ++ [c]) = c.opens?.getD (lastOpens calls) := by
  unfold lastOpens
  rw [List.filterMap_append]
  cases h : c.opens? with
  | none => simp [h]
  | some b => simp [h]

/-- A login stays the last one unless a logout follows it. -/
theorem logout_mem_of_lastOpens {before between : List SiteCall} {user password : String}
    (h : lastOpens (before ++ .login user password :: between) = false) : .logout ∈ between := by
  induction between using List.reverseRecOn with
  | nil =>
    rw [lastOpens_concat] at h
    cases h
  | append_singleton between c ih =>
    rw [← List.cons_append, ← List.append_assoc, lastOpens_concat] at h
    rw [List.mem_append]
    cases c with
    | login user' password' => cases h
    | logout => exact .inr List.mem_cons_self
    | upload id version message file => exact .inl (ih h)

end SiteCall

/-! ## Traces -/

/-- Every call of a trace meets a condition on the calls before it. -/
def EachCall (P : List SiteCall → SiteCall → Prop) (calls : List SiteCall) : Prop :=
  ∀ before c after, calls = before ++ c :: after → P before c

namespace EachCall
variable {P : List SiteCall → SiteCall → Prop} {calls : List SiteCall} {c : SiteCall}

theorem nil : EachCall P [] := by
  intro before c after h
  simp at h

theorem concat (h : EachCall P calls) (hc : P calls c) : EachCall P (calls ++ [c]) := by
  intro before d after hsplit
  rcases List.eq_nil_or_concat after with rfl | ⟨rest, e, rfl⟩
  · obtain ⟨rfl, hd⟩ := List.append_inj' hsplit rfl
    obtain rfl := List.singleton_inj.mp hd
    exact hc
  · rw [List.concat_eq_append, ← List.cons_append, ← List.append_assoc] at hsplit
    obtain ⟨hcalls, -⟩ := List.append_inj' hsplit rfl
    exact h before d rest hcalls

theorem of_concat (h : EachCall P (calls ++ [c])) : EachCall P calls ∧ P calls c := by
  constructor
  · intro before d after hsplit
    exact h before d (after ++ [c]) (by simp [hsplit])
  · exact h calls c [] rfl

end EachCall

namespace SiteClient
variable {client : SiteClient} {calls : List SiteCall} {c : SiteCall}

/-- The calls of a trace that succeeded, given the calls before it. -/
def succeeded (client : SiteClient) (before : List SiteCall) : List SiteCall → List SiteCall
  | [] => []
  | c :: cs =>
    match client before c with
    | .ok () => c :: client.succeeded (before ++ [c]) cs
    | .error _ => client.succeeded (before ++ [c]) cs

theorem succeeded_append (before cs ds : List SiteCall) : client.succeeded before (cs ++ ds) =
    client.succeeded before cs ++ client.succeeded (before ++ cs) ds := by
  induction cs generalizing before with
  | nil => simp [succeeded]
  | cons c cs ih =>
    have hrest := ih (before ++ [c])
    rw [List.append_assoc, List.singleton_append] at hrest
    rw [List.cons_append]
    simp only [succeeded]
    cases client before c with
    | ok u => exact congrArg (c :: ·) hrest
    | error f => exact hrest

theorem succeeded_concat_of_ok (h : client calls c = .ok ()) :
    client.succeeded [] (calls ++ [c]) = client.succeeded [] calls ++ [c] := by
  simp [succeeded_append, succeeded, h]

theorem succeeded_concat_of_error {f : Failure} (h : client calls c = .error f) :
    client.succeeded [] (calls ++ [c]) = client.succeeded [] calls := by
  simp [succeeded_append, succeeded, h]

/-- The last login or logout of a trace that succeeded is a login. -/
def isOpen (client : SiteClient) (calls : List SiteCall) : Bool :=
  SiteCall.lastOpens (client.succeeded [] calls)

/-- A condition on the calls that succeeded, met by every call, is met by every call of those. -/
theorem eachCall_succeeded {P : List SiteCall → SiteCall → Prop}
    (h : EachCall (fun before => P (client.succeeded [] before)) calls) :
    EachCall P (client.succeeded [] calls) := by
  induction calls using List.reverseRecOn with
  | nil => exact EachCall.nil
  | append_singleton calls c ih =>
    obtain ⟨hcalls, hc⟩ := h.of_concat
    cases hanswer : client calls c with
    | ok u =>
      rw [succeeded_concat_of_ok hanswer]
      exact (ih hcalls).concat hc
    | error f =>
      rw [succeeded_concat_of_error hanswer]
      exact ih hcalls

end SiteClient

/-! ## Steps -/

namespace Publisher
variable {p : Publisher} {w : Workspace} {batch : Bool} {s t : Session}

/-- When a call may be made: a login if nobody is logged in, and an upload of a batch if somebody
is. -/
inductive Allowed (p : Publisher) (batch : Bool) (s : Session) : SiteCall → Prop
  | login {user password : String} (hout : s.loggedIn = false)
      (hcredentials : p.config.credentials? = some (user, password)) :
      Allowed p batch s (.login user password)
  | logout : Allowed p batch s .logout
  | upload {id : Nat} {version message : String} {file : Path}
      (hin : batch = true → s.loggedIn = true) :
      Allowed p batch s (.upload id version message file)

/-- The session after a call. A call that is refused leaves the login as it was. -/
def answered (p : Publisher) (s : Session) (c : SiteCall) : Session :=
  { s with
    calls := s.calls ++ [c]
    loggedIn := match p.client s.calls c with
      | .ok () => c.opens?.getD s.loggedIn
      | .error _ => s.loggedIn }

/-- A step of a session either adds to the log and the output, or makes a call that it may. -/
inductive Step (p : Publisher) (batch : Bool) (s : Session) : Session → Prop
  | note {t : Session} (hflag : t.loggedIn = s.loggedIn) (hcalls : t.calls = s.calls) :
      Step p batch s t
  | call {c : SiteCall} (hallowed : p.Allowed batch s c) : Step p batch s (p.answered s c)

/-- The flag says whether the trace is open, and every login was made where it was not. -/
structure InStep (p : Publisher) (s : Session) : Prop where
  flag : s.loggedIn = p.client.isOpen s.calls
  logins : EachCall (fun before c => c.opens? = some true → p.client.isOpen before = false) s.calls

theorem answered_loggedIn (hflag : s.loggedIn = p.client.isOpen s.calls) (c : SiteCall) :
    (p.answered s c).loggedIn = p.client.isOpen (s.calls ++ [c]) := by
  unfold answered SiteClient.isOpen
  dsimp only
  cases hanswer : p.client s.calls c with
  | ok u =>
    rw [SiteClient.succeeded_concat_of_ok hanswer, SiteCall.lastOpens_concat, hflag]
    rfl
  | error f =>
    rw [SiteClient.succeeded_concat_of_error hanswer, hflag]
    rfl

theorem Step.inStep (h : p.Step batch s t) (hs : p.InStep s) : p.InStep t := by
  cases h with
  | note hflag hcalls =>
    constructor
    · rw [hflag, hcalls]
      exact hs.flag
    · rw [hcalls]
      exact hs.logins
  | @call c hallowed =>
    constructor
    · exact answered_loggedIn hs.flag c
    · refine hs.logins.concat fun hc => ?_
      cases hallowed with
      | login hout hcredentials => rw [← hs.flag, hout]
      | logout => cases hc
      | upload hin => cases hc

theorem inStep_of_steps (h : ReflTransGen (p.Step batch) s t) (hs : p.InStep s) : p.InStep t := by
  induction h with
  | refl => exact hs
  | tail _ hstep ih => exact hstep.inStep ih

/-- Every call on the way from one session to another was allowed where it was made. -/
theorem calls_of_steps (h : ReflTransGen (p.Step batch) s t) :
    ∃ made, t.calls = s.calls ++ made ∧ EachCall (fun before c => ∃ u,
      ReflTransGen (p.Step batch) s u ∧ u.calls = s.calls ++ before ∧ p.Allowed batch u c ∧
        ReflTransGen (p.Step batch) (p.answered u c) t) made := by
  induction h with
  | refl => exact ⟨[], (List.append_nil _).symm, EachCall.nil⟩
  | @tail t v hsteps hstep ih =>
    obtain ⟨made, ht, hmade⟩ := ih
    -- The calls made so far stay on the way to the new end.
    have hmade' : EachCall (fun before c => ∃ u,
        ReflTransGen (p.Step batch) s u ∧ u.calls = s.calls ++ before ∧ p.Allowed batch u c ∧
          ReflTransGen (p.Step batch) (p.answered u c) v) made := by
      intro before c later hsplit
      obtain ⟨u, hu, hcalls, hallowed, hrest⟩ := hmade before c later hsplit
      exact ⟨u, hu, hcalls, hallowed, hrest.tail hstep⟩
    cases hstep with
    | note _ hcalls => exact ⟨made, hcalls.trans ht, hmade'⟩
    | @call c hallowed =>
      refine ⟨made ++ [c], ?_, hmade'.concat ⟨t, hsteps, ht, hallowed, .refl⟩⟩
      rw [← List.append_assoc, ← ht]
      rfl

/-! ## Operations -/

/-- The session that an action leaves, whether it fails or not. -/
def sessionAfter {α : Type} : EStateM.Result Failure Session α → Session
  | .ok _ s => s
  | .error _ s => s

theorem steps_bind {α β : Type} {x : Action α} {k : α → Action β}
    (hx : ReflTransGen (p.Step batch) s (sessionAfter (x s)))
    (hk : ∀ a t, x s = .ok a t → ReflTransGen (p.Step batch) t (sessionAfter (k a t))) :
    ReflTransGen (p.Step batch) s (sessionAfter ((x >>= k) s)) := by
  change ReflTransGen _ s (sessionAfter (EStateM.bind x k s))
  unfold EStateM.bind
  cases h : x s with
  | ok a t =>
    rw [h] at hx
    exact hx.trans (hk a t h)
  | error f t =>
    rw [h] at hx
    exact hx

/-- A login or a logout, with the flag set behind it. -/
theorem sessionAfter_call_setLoggedIn {c : SiteCall} {flag : Bool} (hc : c.opens? = some flag) :
    sessionAfter ((do p.call c; setLoggedIn flag : Action Unit) s) = p.answered s c := by
  change sessionAfter (EStateM.bind _ _ s) = _
  unfold EStateM.bind call answered
  rw [hc]
  cases p.client s.calls c <;> rfl

theorem sessionAfter_call_pure {α : Type} {c : SiteCall} (hc : c.opens? = none) (a : α) :
    sessionAfter ((do p.call c; pure a : Action α) s) = p.answered s c := by
  change sessionAfter (EStateM.bind _ _ s) = _
  unfold EStateM.bind call answered
  rw [hc]
  cases p.client s.calls c <;> rfl

theorem loggedIn_answered {c : SiteCall} (hc : c.opens? = none) :
    (p.answered s c).loggedIn = s.loggedIn := by
  unfold answered
  rw [hc]
  cases p.client s.calls c <;> rfl

theorem login_steps (hdry : p.config.dry = false) :
    ReflTransGen (p.Step batch) s (sessionAfter (p.login s)) := by
  cases hflag : s.loggedIn with
  | true =>
    rw [login_loggedIn hflag]
    exact .refl
  | false =>
    cases hcredentials : p.config.credentials? with
    | none =>
      rw [login_unknown hflag hcredentials]
      exact .refl
    | some pair =>
      rw [login_eq hflag hcredentials, hdry, if_neg (by decide), sessionAfter_call_setLoggedIn rfl]
      exact .single (.call (.login hflag hcredentials))

theorem logout_steps (hdry : p.config.dry = false) :
    ReflTransGen (p.Step batch) s (sessionAfter (p.logout s)) := by
  unfold logout
  rw [hdry, if_neg (by decide)]
  change ReflTransGen _ s (sessionAfter ((do p.call .logout; setLoggedIn false : Action Unit) s))
  rw [sessionAfter_call_setLoggedIn rfl]
  exact .single (.call .logout)

/-- A login that goes through leaves somebody logged in. -/
theorem loggedIn_of_login (hdry : p.config.dry = false) (h : p.login s = .ok () t) :
    t.loggedIn = true := by
  cases hflag : s.loggedIn with
  | true =>
    rw [login_loggedIn hflag] at h
    obtain ⟨-, rfl⟩ := EStateM.Result.ok.inj h
    exact hflag
  | false =>
    obtain ⟨user, password, hcredentials⟩ := exists_credentials hflag h
    obtain ⟨ht, -⟩ := login_adds hflag hcredentials h
    rw [ht.loggedIn, hdry]
    rfl

theorem Settles.steps (hdry : p.config.dry = false) (hin : batch = true → s.loggedIn = true)
    {o : Option Descriptor} {r : EStateM.Result Failure Session Bool} (h : p.Settles s o r) :
    ReflTransGen (p.Step batch) s (sessionAfter r) ∧ (sessionAfter r).loggedIn = s.loggedIn := by
  have note {t : Session} {output : String} {n : Nat} (ht : s.Adds t [] output n) :
      ReflTransGen (p.Step batch) s t :=
    .single (.note ht.loggedIn (ht.calls.trans (List.append_nil _)))
  cases h with
  | skipped ht => exact ⟨note ht, ht.loggedIn⟩
  | shown hdry' ht =>
    rw [hdry] at hdry'
    cases hdry'
  | @called d c t _ hcall ht =>
    obtain ⟨id, version, message, file, rfl⟩ := Descriptor.eq_upload_of_call hcall
    rw [sessionAfter_call_pure rfl, loggedIn_answered rfl, ht.loggedIn]
    have hallowed : p.Allowed batch t (.upload id version message file) := by
      refine .upload fun hbatch => ?_
      rw [ht.loggedIn]
      exact hin hbatch
    exact ⟨(note ht).tail (.call hallowed), rfl⟩

theorem uploadAll_steps (hdry : p.config.dry = false) (hin : batch = true → s.loggedIn = true)
    (r : Report) (paths : List Path) :
    ReflTransGen (p.Step batch) s (sessionAfter (p.uploadAll w r paths s)) := by
  induction paths generalizing r s with
  | nil => exact .refl
  | cons path paths ih =>
    have hsettled := uploadFile_settles (p := p) (w := w) (s := s) path
    obtain ⟨hfile, hflag⟩ := hsettled.steps hdry hin
    unfold uploadAll
    refine steps_bind hfile fun published t ht => ih (fun hbatch => ?_) _
    rw [ht] at hflag
    exact hflag.trans (hin hbatch)

theorem uploadsOrAbandon_steps (hdry : p.config.dry = false)
    (hin : batch = true → s.loggedIn = true) (paths : List Path) :
    ReflTransGen (p.Step batch) s (sessionAfter (p.uploadsOrAbandon w paths s)) := by
  have huploads := uploadAll_steps (w := w) hdry hin .empty paths
  unfold uploadsOrAbandon
  cases hresult : p.uploadAll w .empty paths s with
  | ok r t =>
    rw [hresult] at huploads
    exact huploads
  | error f t =>
    rw [hresult] at huploads
    -- A logout that is refused here is only noted, and the flag stays set.
    have hlogout : ReflTransGen (p.Step batch) t (sessionAfter (p.logout t)) :=
      logout_steps hdry
    unfold abandon
    dsimp only
    cases hanswer : p.logout t with
    | ok a u =>
      rw [hanswer] at hlogout
      exact huploads.trans hlogout
    | error g u =>
      rw [hanswer] at hlogout
      exact huploads.trans (hlogout.tail (.note rfl rfl))

theorem process_steps (hdry : p.config.dry = false) (paths : List Path) :
    ReflTransGen (p.Step true) s (sessionAfter (p.process w paths s)) := by
  rw [process_eq]
  refine steps_bind (login_steps hdry) fun _ t ht => ?_
  -- Nothing is uploaded unless the login went through, and uploads leave the flag as it is.
  have hin : true = true → t.loggedIn = true := fun _ => loggedIn_of_login hdry ht
  refine steps_bind (uploadsOrAbandon_steps hdry hin paths) fun r u _ => ?_
  refine steps_bind (logout_steps hdry) fun _ x _ => ?_
  exact .single (.note rfl rfl)

end Publisher

/-- What may be asked of a publisher. -/
inductive Operation
  | login
  | logout
  | upload (w : Workspace) (d : Descriptor)
  | uploadFile (w : Workspace) (path : Path)
  | process (w : Workspace) (paths : List Path)

namespace Operation

def isBatch : Operation → Bool
  | process _ _ => true
  | _ => false

/-- The session that an operation leaves. -/
def after (p : Publisher) (s : Session) : Operation → Session
  | login => Publisher.sessionAfter (p.login s)
  | logout => Publisher.sessionAfter (p.logout s)
  | upload w d => Publisher.sessionAfter (p.upload w d s)
  | uploadFile w path => Publisher.sessionAfter (p.uploadFile w path s)
  | process w paths => Publisher.sessionAfter (p.process w paths s)

theorem steps {p : Publisher} (hdry : p.config.dry = false) (s : Session) (o : Operation) :
    ReflTransGen (p.Step o.isBatch) s (o.after p s) := by
  have hin : false = true → s.loggedIn = true := nofun
  cases o with
  | login => exact Publisher.login_steps hdry
  | logout => exact Publisher.logout_steps hdry
  | upload w d => exact ((Publisher.upload_settles d).steps hdry hin).1
  | uploadFile w path => exact ((Publisher.uploadFile_settles path).steps hdry hin).1
  | process w paths => exact Publisher.process_steps hdry paths

end Operation

namespace Publisher
variable {p : Publisher}

/-- The session after some operations. -/
def after (p : Publisher) (ops : List Operation) : Session :=
  ops.foldl (fun s o => o.after p s) .start

theorem inStep_after (hdry : p.config.dry = false) (ops : List Operation) :
    p.InStep (p.after ops) := by
  induction ops using List.reverseRecOn with
  | nil => exact ⟨rfl, EachCall.nil⟩
  | append_singleton ops o ih =>
    unfold after
    rw [List.foldl_append]
    exact inStep_of_steps (o.steps hdry _) ih

/-- A publisher that runs no dry run, after any operations and with any calls refused. Between two
logins that succeeded lies a logout that did. At every point of a further operation, its end
included, somebody is logged in just where the last login or logout that succeeded is a login; a
login is called where nobody is, and an upload of a batch where somebody is. -/
theorem after_protocol (hdry : p.config.dry = false) (ops : List Operation) :
    let s := p.after ops
    (s.loggedIn = true ↔ p.client.isOpen s.calls = true) ∧
    (∀ before user password between user' password' later, p.client.succeeded [] s.calls =
      before ++ .login user password :: between ++ .login user' password' :: later →
        .logout ∈ between) ∧
    ∀ o : Operation,
      (∀ t, ReflTransGen (p.Step o.isBatch) s t →
        (t.loggedIn = true ↔ p.client.isOpen t.calls = true)) ∧
      ReflTransGen (p.Step o.isBatch) s (o.after p s) ∧
      ∃ made, (o.after p s).calls = s.calls ++ made ∧
        ∀ before c later, made = before ++ c :: later → ∃ t,
          ReflTransGen (p.Step o.isBatch) s t ∧
          ReflTransGen (p.Step o.isBatch) (p.answered t c) (o.after p s) ∧
          t.calls = s.calls ++ before ∧
          (∀ user password, c = .login user password → t.loggedIn = false) ∧
          (o.isBatch = true → ∀ id version message file,
            c = .upload id version message file → t.loggedIn = true) := by
  intro s
  have hs : p.InStep s := inStep_after hdry ops
  refine ⟨Bool.eq_iff_iff.mp hs.flag, ?_, fun o => ⟨fun t ht => ?_, o.steps hdry s, ?_⟩⟩
  · intro before user password between user' password' later hsplit
    have hlogins : EachCall (fun before c => c.opens? = some true →
        SiteCall.lastOpens before = false) (p.client.succeeded [] s.calls) :=
      SiteClient.eachCall_succeeded hs.logins
    exact SiteCall.logout_mem_of_lastOpens (hlogins _ _ later hsplit rfl)
  · exact Bool.eq_iff_iff.mp (inStep_of_steps ht hs).flag
  · obtain ⟨made, hcalls, hmade⟩ := calls_of_steps (o.steps hdry s)
    refine ⟨made, hcalls, fun before c later hsplit => ?_⟩
    obtain ⟨t, ht, hbefore, hallowed, hrest⟩ := hmade before c later hsplit
    refine ⟨t, ht, hrest, hbefore, ?_, ?_⟩
    · rintro user password rfl
      cases hallowed with
      | login hout hcredentials => exact hout
    · rintro hbatch id version message file rfl
      cases hallowed with
      | upload hin => exact hin hbatch

/-- A batch whose logout is refused leaves its login to the next batch. -/
theorem after_protocol_of_refused_logout :
    let p : Publisher :=
      ⟨{ PublishConfig.default with username := some "tom", password := some "secret" },
        fun before c => if c = .logout ∧ .logout ∉ before then .error (.ofText "refused")
          else .ok ()⟩
    let s := p.after [.process .empty []]
    s.calls = [.login "tom" "secret", .logout] ∧ p.client.isOpen s.calls = true ∧
      (p.after [.process .empty [], .process .empty []]).calls = s.calls ++ [.logout] := by
  intro p s
  obtain ⟨hflag, -⟩ := after_protocol (p := p) rfl [.process .empty []]
  exact ⟨rfl, hflag.mp rfl, rfl⟩

end Publisher
end PluginRelease
