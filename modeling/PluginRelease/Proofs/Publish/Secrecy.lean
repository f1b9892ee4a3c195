import PluginRelease.Proofs.Publish.Protocol

/-!
What a password can change. Two publishers that differ in it answer alike, log alike and print
alike, on a site that answers alike, and they make the same calls but for the password of a login.
-/
namespace PluginRelease

/-- The same call with another password. -/
def SiteCall.withPassword (password : String) : SiteCall → SiteCall
  | .login user _ => .login user password
  | .logout => .logout
  | .upload id version message file => .upload id version message file

namespace Session

/-- The same session with another password in its calls. -/
def withPassword (password : String) (s : Session) : Session :=
  { s with calls := s.calls.map (SiteCall.withPassword password) }

end Session

namespace PublishConfig
variable {c : PublishConfig}

def withPassword (c : PublishConfig) (password : String) : PublishConfig :=
  { c with password := some password }

/-- Another password gives credentials where this one does, with the same user. -/
theorem credentials?_withPassword {a b : String} (ha : a ≠ "") (hb : b ≠ "")
    (hpassword : c.password = some a) :
    (c.withPassword b).credentials? = c.credentials?.map fun known => (known.1, b) := by
  unfold credentials? withPassword
  rw [hpassword]
  cases c.username with
  | none => rfl
  | some user =>
    by_cases huser : user = ""
    · simp [huser]
    · simp [huser, ha, hb]

end PublishConfig

/-- The answers of a site do not depend on the passwords that it was sent. -/
def SiteClient.IgnoresPassword (client : SiteClient) : Prop :=
  ∀ password before c,
    client (before.map (SiteCall.withPassword password)) (c.withPassword password) =
      client before c

namespace Publisher

/-- The same publisher with another password. -/
def withPassword (p : Publisher) (password : String) : Publisher :=
  { p with config := p.config.withPassword password }

/-- The same result, reached in another session. -/
def resultIn {α : Type} (f : Session → Session) :
    EStateM.Result Failure Session α → EStateM.Result Failure Session α
  | .ok a s => .ok a (f s)
  | .error e s => .error e (f s)

/-- The second action does in a session with this password what the first does in one with
another. -/
def Mirrors {α : Type} (password : String) (x y : Action α) : Prop :=
  ∀ s : Session, y (s.withPassword password) = resultIn (Session.withPassword password) (x s)

namespace Mirrors
variable {α β : Type} {b : String}

theorem pure (a : α) : Mirrors b (Pure.pure a : Action α) (Pure.pure a) := fun _ => rfl

theorem bind {x y : Action α} {k l : α → Action β} (hxy : Mirrors b x y)
    (hkl : ∀ a, Mirrors b (k a) (l a)) : Mirrors b (x >>= k) (y >>= l) := by
  intro s
  change EStateM.bind y l (s.withPassword b) = resultIn _ (EStateM.bind x k s)
  unfold EStateM.bind
  rw [hxy s]
  cases x s with
  | ok a t => exact hkl a t
  | error f t => rfl

theorem log (level : LogLevel) (text : String) :
    Mirrors b (Publisher.log level text) (Publisher.log level text) := fun _ => rfl

theorem print (text : String) : Mirrors b (Publisher.print text) (Publisher.print text) :=
  fun _ => rfl

theorem setLoggedIn (flag : Bool) :
    Mirrors b (Publisher.setLoggedIn flag) (Publisher.setLoggedIn flag) := fun _ => rfl

theorem skip (text : String) : Mirrors b (Publisher.skip text) (Publisher.skip text) :=
  (log .error text).bind fun _ => pure false

end Mirrors

/-! ## Actions -/

variable {p : Publisher} {w : Workspace} {b : String}

theorem call_mirrors (hclient : p.client.IgnoresPassword) (c : SiteCall) :
    Mirrors b (p.call c) ((p.withPassword b).call (c.withPassword b)) := by
  intro s
  have hanswer : (p.withPassword b).client (s.withPassword b).calls (c.withPassword b) =
      p.client s.calls c := hclient b s.calls c
  have hcalls : (s.withPassword b).calls ++ [c.withPassword b] =
      (s.calls ++ [c]).map (SiteCall.withPassword b) := by
    rw [List.map_append]
    rfl
  unfold call
  rw [hanswer, hcalls]
  cases p.client s.calls c <;> rfl

theorem login_mirrors (hclient : p.client.IgnoresPassword) {a : String} (ha : a ≠ "")
    (hb : b ≠ "") (hpassword : p.config.password = some a) :
    Mirrors b p.login (p.withPassword b).login := by
  intro s
  have hknown : (p.withPassword b).config.credentials? =
      p.config.credentials?.map fun known => (known.1, b) :=
    PublishConfig.credentials?_withPassword ha hb hpassword
  have hsame : (s.withPassword b).loggedIn = s.loggedIn := rfl
  cases hflag : s.loggedIn with
  | true =>
    rw [login_loggedIn hflag, login_loggedIn (hsame.trans hflag)]
    rfl
  | false =>
    cases hcredentials : p.config.credentials? with
    | none =>
      rw [hcredentials] at hknown
      rw [login_unknown hflag hcredentials, login_unknown (hsame.trans hflag) hknown]
      rfl
    | some known =>
      obtain ⟨user, password⟩ := known
      rw [hcredentials] at hknown
      rw [login_eq hflag hcredentials, login_eq (hsame.trans hflag) hknown]
      -- The only place where the password is used, and a dry run shows stars instead.
      have hdry : (p.withPassword b).config.dry = p.config.dry := rfl
      rw [hdry]
      cases p.config.dry with
      | true => exact Mirrors.log _ _ s
      | false =>
        have hcall := call_mirrors (b := b) hclient (.login user password)
        exact hcall.bind (fun _ => Mirrors.setLoggedIn true) s

theorem logout_mirrors (hclient : p.client.IgnoresPassword) :
    Mirrors b p.logout (p.withPassword b).logout := by
  have hdry : (p.withPassword b).config.dry = p.config.dry := rfl
  unfold logout
  rw [hdry]
  cases p.config.dry with
  | true => exact (Mirrors.log _ _).bind fun _ => Mirrors.setLoggedIn false
  | false => exact (call_mirrors hclient .logout).bind fun _ => Mirrors.setLoggedIn false

theorem upload_mirrors (hclient : p.client.IgnoresPassword) (d : Descriptor) :
    Mirrors b (p.upload w d) ((p.withPassword b).upload w d) := by
  have hdry : (p.withPassword b).config.dry = p.config.dry := rfl
  have hsite : (p.withPassword b).config.site = p.config.site := rfl
  unfold upload
  rw [hdry, hsite]
  cases d.numericId? with
  | none => exact Mirrors.skip _
  | some id =>
    cases d.ensureComplete with
    | error f => exact Mirrors.skip _
    | ok u =>
      refine (Mirrors.log _ _).bind fun _ => ?_
      cases p.config.dry with
      | true => exact (Mirrors.print _).bind fun _ => Mirrors.pure true
      | false =>
        rw [if_neg Bool.false_ne_true]
        split
        · next version message file _ _ _ =>
          split
          · have hcall := call_mirrors (b := b) hclient (.upload id version message (.ofText file))
            exact hcall.bind fun _ => Mirrors.pure true
          · exact Mirrors.skip _
        · exact Mirrors.pure false

theorem uploadFile_mirrors (hclient : p.client.IgnoresPassword) (path : Path) :
    Mirrors b (p.uploadFile w path) ((p.withPassword b).uploadFile w path) := by
  unfold uploadFile
  split
  · cases Descriptor.load w path with
    | error f => exact Mirrors.skip _
    | ok d => exact upload_mirrors hclient _
  · exact Mirrors.skip _

theorem uploadAll_mirrors (hclient : p.client.IgnoresPassword) (r : Report) (paths : List Path) :
    Mirrors b (p.uploadAll w r paths) ((p.withPassword b).uploadAll w r paths) := by
  induction paths generalizing r with
  | nil => exact Mirrors.pure r
  | cons path paths ih =>
    exact (uploadFile_mirrors hclient path).bind fun published => ih (r.add published)

theorem abandon_mirrors {α : Type} (hclient : p.client.IgnoresPassword) (f : Failure) :
    Mirrors b (p.abandon f : Action α) ((p.withPassword b).abandon f) := by
  intro s
  unfold abandon
  rw [logout_mirrors hclient s]
  cases p.logout s <;> rfl

theorem uploadsOrAbandon_mirrors (hclient : p.client.IgnoresPassword) (paths : List Path) :
    Mirrors b (p.uploadsOrAbandon w paths) ((p.withPassword b).uploadsOrAbandon w paths) := by
  intro s
  unfold uploadsOrAbandon
  rw [uploadAll_mirrors hclient .empty paths s]
  cases p.uploadAll w .empty paths s with
  | ok r t => rfl
  | error f t => exact abandon_mirrors hclient f t

theorem session_mirrors (hclient : p.client.IgnoresPassword) (paths : List Path) :
    Mirrors b (p.session w paths) ((p.withPassword b).session w paths) := by
  refine (uploadsOrAbandon_mirrors hclient paths).bind fun report => ?_
  refine (logout_mirrors hclient).bind fun _ => ?_
  exact (Mirrors.log _ _).bind fun _ => Mirrors.pure report

theorem process_mirrors (hclient : p.client.IgnoresPassword) {a : String} (ha : a ≠ "")
    (hb : b ≠ "") (hpassword : p.config.password = some a) (paths : List Path) :
    Mirrors b (p.process w paths) ((p.withPassword b).process w paths) := by
  rw [process_eq, process_eq]
  exact (login_mirrors hclient ha hb hpassword).bind fun _ => session_mirrors hclient paths

end Publisher

/-! ## Operations -/

/-- What an operation gives. -/
inductive Answer
  | done
  | published (sent : Bool)
  | reported (report : Report)
deriving DecidableEq, Repr

namespace Answer
variable {α : Type}

def ofResult (f : α → Answer) : EStateM.Result Failure Session α → Except Failure Answer
  | .ok a _ => .ok (f a)
  | .error e _ => .error e

end Answer

theorem Publisher.Mirrors.answer_and_session {α : Type} {b : String} {x y : Action α}
    (h : Mirrors b x y) (f : α → Answer) (s : Session) :
    Answer.ofResult f (y (s.withPassword b)) = Answer.ofResult f (x s) ∧
      sessionAfter (y (s.withPassword b)) = (sessionAfter (x s)).withPassword b := by
  rw [h s]
  cases x s with
  | ok a t => exact ⟨rfl, rfl⟩
  | error f t => exact ⟨rfl, rfl⟩

namespace Operation

/-- The answer to an operation, or its failure. -/
def answer (p : Publisher) (s : Session) : Operation → Except Failure Answer
  | login => Answer.ofResult (fun _ => .done) (p.login s)
  | logout => Answer.ofResult (fun _ => .done) (p.logout s)
  | upload w d => Answer.ofResult .published (p.upload w d s)
  | uploadFile w path => Answer.ofResult .published (p.uploadFile w path s)
  | process w paths => Answer.ofResult .reported (p.process w paths s)

/-- Another password changes neither the answer to an operation nor, but for the password in its
calls, the session that it leaves. -/
theorem answer_after_withPassword {p : Publisher} (hclient : p.client.IgnoresPassword)
    {a b : String} (ha : a ≠ "") (hb : b ≠ "") (hpassword : p.config.password = some a)
    (s : Session) (o : Operation) :
    o.answer (p.withPassword b) (s.withPassword b) = o.answer p s ∧
      o.after (p.withPassword b) (s.withPassword b) = (o.after p s).withPassword b := by
  cases o with
  | login => exact (Publisher.login_mirrors hclient ha hb hpassword).answer_and_session _ s
  | logout => exact (Publisher.logout_mirrors hclient).answer_and_session _ s
  | upload w d => exact (Publisher.upload_mirrors hclient d).answer_and_session _ s
  | uploadFile w path => exact (Publisher.uploadFile_mirrors hclient path).answer_and_session _ s
  | process w paths =>
    exact (Publisher.process_mirrors hclient ha hb hpassword paths).answer_and_session _ s

end Operation

namespace Publisher

/-- The answers to some operations, one after the other. -/
def answersFrom (p : Publisher) (s : Session) : List Operation → List (Except Failure Answer)
  | [] => []
  | o :: ops => o.answer p s :: p.answersFrom (o.after p s) ops

theorem answersFrom_withPassword {p : Publisher} (hclient : p.client.IgnoresPassword)
    {a b : String} (ha : a ≠ "") (hb : b ≠ "") (hpassword : p.config.password = some a)
    (s : Session) (ops : List Operation) :
    (p.withPassword b).answersFrom (s.withPassword b) ops = p.answersFrom s ops ∧
      ops.foldl (fun t o => o.after (p.withPassword b) t) (s.withPassword b) =
        (ops.foldl (fun t o => o.after p t) s).withPassword b := by
  induction ops generalizing s with
  | nil => exact ⟨rfl, rfl⟩
  | cons o ops ih =>
    obtain ⟨hanswer, hafter⟩ := o.answer_after_withPassword hclient ha hb hpassword s
    obtain ⟨hanswers, hsession⟩ := ih (o.after p s)
    constructor
    · unfold answersFrom
      rw [hanswer, hafter, hanswers]
    · rw [List.foldl_cons, List.foldl_cons, hafter, hsession]

/-- Two publishers that differ only in their password, neither of them empty, through any
operations and on a site whose answers do not depend on it. -/
theorem run_independent_of_password (c : PublishConfig) (client : SiteClient) (a b : String)
    (hclient : client.IgnoresPassword) (ha : a ≠ "") (hb : b ≠ "") (ops : List Operation) :
    let p : Publisher := ⟨c.withPassword a, client⟩
    let q : Publisher := ⟨c.withPassword b, client⟩
    q.answersFrom .start ops = p.answersFrom .start ops ∧
    (q.after ops).output = (p.after ops).output ∧
    (q.after ops).logs = (p.after ops).logs ∧
    (q.after ops).loggedIn = (p.after ops).loggedIn ∧
    (q.after ops).calls = (p.after ops).calls.map (SiteCall.withPassword b) := by
  intro p q
  have hpassword : p.config.password = some a := rfl
  obtain ⟨hanswers, hsession⟩ :=
    answersFrom_withPassword (p := p) hclient ha hb hpassword .start ops
  have hafter : q.after ops = (p.after ops).withPassword b := hsession
  rw [hafter]
  exact ⟨hanswers, rfl, rfl, rfl, rfl⟩

/-- A site that refuses uploads, asked under two passwords. -/
theorem run_independent_of_password_of_refused_upload :
    let c : PublishConfig := { PublishConfig.default with username := some "tom" }
    let client : SiteClient := fun _ call => match call with
      | .upload _ _ _ _ => .error (.ofText "connection reset")
      | _ => .ok ()
    let w : Workspace := ⟨[([Utf8.ofText "a.vba"], .file [])], []⟩
    let ops : List Operation :=
      [.login, .upload w ⟨some "11", some "1.05", some "Fix", some "a.vba"⟩, .logout]
    let q : Publisher := ⟨c.withPassword "other", client⟩
    client.IgnoresPassword ∧ "secret" ≠ "" ∧ "other" ≠ "" ∧
    q.answersFrom .start ops =
      [.ok .done, .error (.ofText "connection reset"), .ok .done] ∧
    (q.after ops).calls =
      [.login "tom" "other", .upload 11 "1.05" "Fix" "a.vba", .logout] := by
  intro c client w ops q
  have hclient : client.IgnoresPassword := by
    intro password before call
    cases call <;> rfl
  have hsecret : "secret" ≠ "" := by decide
  have hother : "other" ≠ "" := by decide
  obtain ⟨hanswers, -, -, -, hcalls⟩ :=
    run_independent_of_password c client "secret" "other" hclient hsecret hother ops
  exact ⟨hclient, hsecret, hother, hanswers.trans rfl, hcalls.trans rfl⟩

end Publisher
end PluginRelease
