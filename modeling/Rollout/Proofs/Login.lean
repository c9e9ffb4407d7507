import Rollout.Proofs.Failure
import Rollout.Ssh.Connector
import Rollout.Ssh.Script

/-!
# Who is let in

What a network of servers is told is noted by the network itself, whatever it is: the sessions that are
begun, the attempts to log in with their verdicts, what is opened on a session, and its end.

* `Login.Tried`: the attempts of a login. With a password the agent has no part in them
  (`Login.run_agent`), and without one the keys are `Offered` in turn.
* `openSession_noted`: what is noted when a session is opened, or is not.
* `Guarded`: nothing is opened on a session that was not let in. `Keeps`: what can become of an open session
  without a breach of that.
* `openSession_conducted`: logins, and all runs over the sessions they open.
-/

namespace Rollout.Ssh

/-! ## Contacts -/

/-- Something that a server is told. -/
inductive Contact where
  | begun (session : Nat) (target : Target)
  | attempt (session : Nat) (a : Attempt) (accepted : Bool)
  | channel (session : Nat) (command : String)
  | fileService (session : Nat)
  | ended (session : Nat)
  deriving Repr, DecidableEq

/-- The session that something is opened on. -/
def Contact.opensOn? : Contact → Option Nat
  | .channel session _ | .fileService session => some session
  | _ => none

variable {σ : Type}

/-- The same network, with all contacts noted. -/
def Network.noting (n : Network σ) : Network (σ × List Contact) where
  files s := n.files s.1
  agentKeys s := n.agentKeys s.1
  reach t s :=
    match n.reach t s.1 with
    | (.ok session, s₁) => (.ok session, s₁, s.2 ++ [.begun session t])
    | (.error f, s₁) => (.error f, s₁, s.2)
  prompts session s := n.prompts session s.1
  judge session a s :=
    let (accepted, s₁) := n.judge session a s.1
    (accepted, s₁, s.2 ++ [.attempt session a accepted])
  exec session command s :=
    let (r, s₁) := n.exec session command s.1
    (r, s₁, s.2 ++ [.channel session command])
  openFiles session s :=
    let (r, s₁) := n.openFiles session s.1
    (r, s₁, s.2 ++ [.fileService session])
  create session path s :=
    let (r, s₁) := n.create session path s.1
    (r, s₁, s.2)
  write file bytes s :=
    let (r, s₁) := n.write file bytes s.1
    (r, s₁, s.2)
  finish file s := (n.finish file s.1, s.2)
  disconnect session s := (n.disconnect session s.1, s.2 ++ [.ended session])

/-- An attempt with its verdict, as it is noted. -/
def noted (session : Nat) (a : Attempt × Bool) : Contact := .attempt session a.1 a.2

variable {n : Network σ} {session : Nat} {t : Target} {s s₁ : σ} {log : List Contact}

/-! ## Attempts -/

namespace Login

/-- The attempts that are made of offers: in their order, up to the first that is accepted. -/
structure Offered (offers : List Attempt) (attempts : List (Attempt × Bool)) : Prop where
  inOrder : attempts.map Prod.fst <+: offers
  refused : ∀ a ∈ attempts.dropLast, a.2 = false
  exhausted : attempts.any (·.2) = false → attempts.map Prod.fst = offers

/-- The attempts of a login on a session, given the state in which it was begun. -/
structure Tried (n : Network σ) (session : Nat) (t : Target) (s : σ)
    (attempts : List (Attempt × Bool)) : Prop where
  /-- The password once, and if it is refused once more as the answer to all questions. -/
  password : t.password ≠ "" → ∃ s₁ v w,
    n.judge session (.password t.username t.password) s = (v, s₁) ∧
    attempts = (.password t.username t.password, v) :: if v then [] else
      [(.interactive t.username
        (List.replicate (n.prompts session s₁).length t.password), w)]
  /-- The keys of the agent, one after another. -/
  keys : t.password = "" → '\x00' ∉ t.username.toList →
    Offered ((n.agentKeys s).map (.key t.username)) attempts
  /-- A name that cannot be sent with a key. -/
  unsendable : t.password = "" → '\x00' ∈ t.username.toList → attempts = []

theorem offer_refused {a : Attempt} (as : List Attempt) (h : n.judge session a s = (false, s₁)) :
    offer n session (a :: as) s =
      ⟨(offer n session as s₁).accepted, (a, false) :: (offer n session as s₁).attempts,
        (offer n session as s₁).state⟩ := by
  simp only [offer, h]

theorem offer_accepted {a : Attempt} (as : List Attempt) (h : n.judge session a s = (true, s₁)) :
    offer n session (a :: as) s = ⟨true, [(a, true)], s₁⟩ := by
  simp only [offer, h]

theorem offer_any (as : List Attempt) : ∀ s : σ,
    (offer n session as s).accepted = (offer n session as s).attempts.any (·.2) := by
  induction as with
  | nil => exact fun _ => rfl
  | cons a as ih =>
    intro s
    rcases h : n.judge session a s with ⟨_ | _, s₁⟩
    · rw [offer_refused as h]
      simpa using ih s₁
    · rw [offer_accepted as h]
      rfl

theorem offer_offered (as : List Attempt) : ∀ s : σ, Offered as (offer n session as s).attempts := by
  induction as with
  | nil => exact fun _ => ⟨List.prefix_rfl, by simp [offer], fun _ => rfl⟩
  | cons a as ih =>
    intro s
    rcases h : n.judge session a s with ⟨_ | _, s₁⟩
    · obtain ⟨horder, hrefused, hexhausted⟩ := ih s₁
      rw [offer_refused as h]
      refine ⟨by simpa using horder, ?_, fun hany => ?_⟩
      · intro b hb
        -- What is before the last attempt is this one, or is before the last of the others.
        rcases hrest : (offer n session as s₁).attempts with _ | ⟨c, cs⟩
        · simp [hrest] at hb
        · rw [hrest] at hb hrefused
          rcases List.mem_cons.1 hb with rfl | hb
          · rfl
          · exact hrefused b hb
      · rw [List.map_cons, hexhausted (by simpa using hany)]
    · rw [offer_accepted as h]
      exact ⟨by simp, by simp, by simp⟩

theorem mem_of_isUnsendable {user : String} : isUnsendable user = true ↔ '\x00' ∈ user.toList := by
  simp [isUnsendable]

/-- **The attempts of a login** are those that are to be tried, and it is accepted if one of them is. -/
theorem run_tried (n : Network σ) (session : Nat) (t : Target) (s : σ) :
    Tried n session t s (run n session t s).attempts ∧
      (run n session t s).accepted = (run n session t s).attempts.any (·.2) := by
  by_cases hpassword : t.password = ""
  · have hrun : run n session t s = offer n session (keyOffers n t.username s) s := by
      rw [run, if_pos hpassword]
    rw [hrun]
    refine ⟨⟨fun h => absurd hpassword h, fun _ huser => ?_, fun _ huser => ?_⟩, offer_any _ s⟩
    · have hkeys : keyOffers n t.username s = (n.agentKeys s).map (.key t.username) :=
        if_neg (mt mem_of_isUnsendable.1 huser)
      rw [← hkeys]
      exact offer_offered _ s
    · rw [keyOffers, if_pos (mem_of_isUnsendable.2 huser)]
      rfl
  · rcases hfirst : n.judge session (.password t.username t.password) s with ⟨_ | _, s₁⟩
    · rcases hsecond : n.judge session (answersOf n session t s₁) s₁ with ⟨w, s₂⟩
      have hrun : run n session t s = ⟨w, [(.password t.username t.password, false),
          (answersOf n session t s₁, w)], s₂⟩ := by
        cases w <;> simp [run, hpassword, offer, hfirst, hsecond]
      rw [hrun]
      refine ⟨⟨fun _ => ⟨s₁, false, w, hfirst, ?_⟩, fun h => absurd h hpassword,
        fun h => absurd h hpassword⟩, by simp⟩
      simp [answersOf]
    · have hrun : run n session t s = ⟨true, [(.password t.username t.password, true)], s₁⟩ := by
        simp [run, hpassword, offer, hfirst]
      rw [hrun]
      exact ⟨⟨fun _ => ⟨s₁, true, true, hfirst, rfl⟩, fun h => absurd h hpassword,
        fun h => absurd h hpassword⟩, rfl⟩

/-- **With a password the agent is not asked**: any other one would do. -/
theorem run_agent (n : Network σ) (agent : σ → List String) (session : Nat) {t : Target}
    (h : t.password ≠ "") (s : σ) : run { n with agentKeys := agent } session t s = run n session t s := by
  have hoffer (as : List Attempt) : ∀ s : σ,
      offer { n with agentKeys := agent } session as s = offer n session as s := by
    induction as with
    | nil => exact fun _ => rfl
    | cons a as ih =>
      intro s
      simp only [offer, ih]
  simp only [run, if_neg h, hoffer]
  rfl

/-! ### What is noted -/

/-- A login of which all attempts are noted. -/
def noting (o : LoginOutcome σ) (session : Nat) (log : List Contact) :
    LoginOutcome (σ × List Contact) :=
  ⟨o.accepted, o.attempts, o.state, log ++ o.attempts.map (noted session)⟩

theorem offer_noting (as : List Attempt) : ∀ (s : σ) (log : List Contact),
    offer n.noting session as (s, log) = noting (offer n session as s) session log := by
  induction as with
  | nil => exact fun s log => by simp [offer, noting]
  | cons a as ih =>
    intro s log
    rcases h : n.judge session a s with ⟨v, s₁⟩
    have hnoting : n.noting.judge session a (s, log) = (v, s₁, log ++ [.attempt session a v]) := by
      simp only [Network.noting, h]
    cases v with
    | false =>
      rw [offer_refused as hnoting, offer_refused as h, ih]
      simp [noting, noted]
    | true =>
      rw [offer_accepted as hnoting, offer_accepted as h]
      rfl

theorem run_noting (s : σ) (log : List Contact) :
    run n.noting session t (s, log) = noting (run n session t s) session log := by
  by_cases hpassword : t.password = ""
  · rw [run, run, if_pos hpassword, if_pos hpassword]
    exact offer_noting _ s log
  simp only [run, if_neg hpassword, offer_noting]
  rcases offer n session [.password t.username t.password] s with ⟨v, attempts, s₁⟩
  cases v with
  | true => rfl
  | false =>
    -- The questions are those of the same state, so the answers are the same.
    have hanswers : answersOf n.noting session t (s₁, log ++ attempts.map (noted session)) =
        answersOf n session t s₁ := rfl
    simp [noting, offer_noting, hanswers]

end Login

/-! ## Sessions -/

theorem openSession_unreached {f : ReachFault} (h : n.reach t s = (.error f, s₁)) :
    openSession n t s = (.error (.connection t.host f.message f.suggestion), s₁) := by
  rw [openSession, h]

theorem openSession_reached (h : n.reach t s = (.ok session, s₁)) :
    openSession n t s = if (Login.run n session t s₁).accepted then
      (.ok session, (Login.run n session t s₁).state) else
      (.error (loginFailure t), n.disconnect session (Login.run n session t s₁).state) := by
  rw [openSession, h]

/-- **What is noted when a session was begun**: the attempts of the login, and the end of the session if
none of them is accepted. -/
theorem openSession_noted (h : n.reach t s = (.ok session, s₁)) (log : List Contact) :
    ∃ attempts s₂, Login.Tried n session t s₁ attempts ∧
      openSession n.noting t (s, log) = if attempts.any (·.2) then
        (.ok session, s₂, log ++ .begun session t :: attempts.map (noted session)) else
        (.error (loginFailure t), s₂,
          log ++ .begun session t :: (attempts.map (noted session) ++ [.ended session])) := by
  have hreach : n.noting.reach t (s, log) = (.ok session, s₁, log ++ [.begun session t]) := by
    simp only [Network.noting, h]
  obtain ⟨htried, haccepted⟩ := Login.run_tried n session t s₁
  rw [openSession_reached hreach, Login.run_noting]
  refine ⟨(Login.run n session t s₁).attempts, if (Login.run n session t s₁).accepted then
    (Login.run n session t s₁).state else n.disconnect session (Login.run n session t s₁).state,
    htried, ?_⟩
  rw [← haccepted]
  cases haccept : (Login.run n session t s₁).accepted with
  | true => simp [Login.noting, haccept]
  | false => simp [Login.noting, haccept, Network.noting]

/-- Noting changes nothing else. -/
theorem openSession_noting (n : Network σ) (t : Target) (s : σ) (log : List Contact) :
    ((openSession n.noting t (s, log)).1, (openSession n.noting t (s, log)).2.1) =
      openSession n t s := by
  rcases h : n.reach t s with ⟨f | session, s₁⟩
  · have hreach : n.noting.reach t (s, log) = (.error f, s₁, log) := by
      simp only [Network.noting, h]
    rw [openSession_unreached hreach, openSession_unreached h]
  · have hreach : n.noting.reach t (s, log) = (.ok session, s₁, log ++ [.begun session t]) := by
      simp only [Network.noting, h]
    rw [openSession_reached hreach, openSession_reached h, Login.run_noting]
    rcases Login.run n session t s₁ with ⟨_ | _, attempts, s₂⟩ <;> rfl

theorem openSession_agent (n : Network σ) (agent : σ → List String) (h : t.password ≠ "") (s : σ) :
    openSession { n with agentKeys := agent } t s = openSession n t s := by
  simp only [openSession, Login.run_agent n agent _ h]

/-! ## What is opened -/

/-- A session that was let in after it was last begun. -/
def Admitted (session : Nat) (log : List Contact) : Prop :=
  ∃ before a after, log = before ++ .attempt session a true :: after ∧ ∀ t, .begun session t ∉ after

/-- Whatever is opened, is opened on a session that was let in before. -/
def Guarded (log : List Contact) : Prop :=
  ∀ before c after, log = before ++ c :: after → ∀ session, c.opensOn? = some session →
    Admitted session before

theorem Admitted.append {more : List Contact} (h : Admitted session log)
    (hmore : ∀ t, .begun session t ∉ more) : Admitted session (log ++ more) := by
  obtain ⟨before, a, after, rfl, hafter⟩ := h
  refine ⟨before, a, after ++ more, by simp, fun t ht => ?_⟩
  rcases List.mem_append.1 ht with ht | ht
  · exact hafter t ht
  · exact hmore t ht

theorem Admitted.of_attempts {attempts : List (Attempt × Bool)} (h : attempts.any (·.2) = true)
    (log : List Contact) : Admitted session (log ++ attempts.map (noted session)) := by
  obtain ⟨⟨a, v⟩, ha, rfl⟩ := List.any_eq_true.1 h
  obtain ⟨before, after, rfl⟩ := List.append_of_mem ha
  exact ⟨log ++ before.map (noted session), a, after.map (noted session), by simp [noted],
    by simp [noted]⟩

namespace Guarded

theorem nil : Guarded [] := by
  intro before c after h
  simp at h

theorem concat {c : Contact} (h : Guarded log)
    (hc : ∀ session, c.opensOn? = some session → Admitted session log) : Guarded (log ++ [c]) := by
  intro before c' after heq session hopens
  rcases after.eq_nil_or_concat' with rfl | ⟨rest, last, rfl⟩
  · obtain ⟨rfl, hsame⟩ := List.append_inj' heq rfl
    obtain rfl := List.singleton_inj.1 hsame
    exact hc session hopens
  · rw [← List.cons_append, ← List.append_assoc] at heq
    exact h before c' rest (List.append_inj_left' heq rfl) session hopens

/-- Contacts that open nothing do no harm. -/
theorem append {more : List Contact} (h : Guarded log) (hmore : ∀ c ∈ more, c.opensOn? = none) :
    Guarded (log ++ more) := by
  induction more generalizing log with
  | nil => rwa [List.append_nil]
  | cons c more ih =>
    rw [List.append_cons]
    refine ih (h.concat fun session hopens => ?_) fun c' hc' => hmore c' (List.mem_cons_of_mem _ hc')
    rw [hmore c List.mem_cons_self] at hopens
    cases hopens

end Guarded

/-! ### Sessions and what is done on them -/

theorem openSession_guarded {s s' : σ × List Contact} {r : Except DeployError Nat}
    (h : openSession n.noting t s = (r, s')) (hs : Guarded s.2) :
    Guarded s'.2 ∧ ∀ session, r = .ok session → Admitted session s'.2 ∧
      ∀ other, Admitted other s.2 → Admitted other s'.2 := by
  obtain ⟨s, log⟩ := s
  rcases hreach : n.reach t s with ⟨f | session, s₁⟩
  · have hnoting : n.noting.reach t (s, log) = (.error f, s₁, log) := by
      simp only [Network.noting, hreach]
    rw [openSession_unreached hnoting, Prod.mk.injEq] at h
    obtain ⟨rfl, rfl⟩ := h
    exact ⟨hs, fun _ hr => by cases hr⟩
  obtain ⟨attempts, s₂, -, ho⟩ := openSession_noted hreach log
  have hquiet : ∀ c ∈ Contact.begun session t :: attempts.map (noted session), c.opensOn? = none := by
    simp only [List.forall_mem_cons, List.forall_mem_map]
    exact ⟨rfl, fun _ _ => rfl⟩
  rw [ho] at h
  cases hany : attempts.any (·.2) with
  | true =>
    simp only [hany, if_true, Prod.mk.injEq] at h
    obtain ⟨rfl, rfl⟩ := h
    refine ⟨hs.append hquiet, fun session' hr => ?_⟩
    obtain rfl : session = session' := by simpa using hr
    have hadmitted : Admitted session (log ++ .begun session t :: attempts.map (noted session)) := by
      rw [List.append_cons]
      exact Admitted.of_attempts hany _
    refine ⟨hadmitted, fun other hother => ?_⟩
    by_cases hsame : other = session
    · rw [hsame]
      exact hadmitted
    · exact hother.append (by simp [noted, hsame])
  | false =>
    simp only [hany, Bool.false_eq_true, if_false, Prod.mk.injEq] at h
    obtain ⟨rfl, rfl⟩ := h
    refine ⟨hs.append fun c hc => ?_, fun _ hr => by cases hr⟩
    rw [← List.cons_append, List.mem_append, List.mem_singleton] at hc
    rcases hc with hc | rfl
    · exact hquiet c hc
    · rfl

theorem connect_eq (n : Network σ) (t : Target) (s : σ) :
    (connector n).connect t s =
      ((openSession n t s).1.map fun session => ⟨session, t.host⟩, (openSession n t s).2) := by
  simp only [connector]
  rcases openSession n t s with ⟨e | session, s₁⟩ <;> rfl

theorem openTransfer_eq (n : Network σ) (t : Target) (s : σ) :
    (connector n).openTransfer t s =
      ((openSession n t s).1.map fun session => ⟨session, t.host⟩, (openSession n t s).2) := by
  simp only [connector]
  rcases openSession n t s with ⟨e | session, s₁⟩ <;> rfl

/-- The same, whatever a session is made into. -/
theorem opened_guarded {α : Type} {f : Nat → α} (number : α → Nat) (hf : ∀ k, number (f k) = k)
    {s s' : σ × List Contact} {r : Except DeployError α}
    (h : ((openSession n.noting t s).1.map f, (openSession n.noting t s).2) = (r, s'))
    (hs : Guarded s.2) : Guarded s'.2 ∧ ∀ a, r = .ok a → Admitted (number a) s'.2 ∧
      ∀ other, Admitted other s.2 → Admitted other s'.2 := by
  obtain ⟨rfl, rfl⟩ := Prod.mk.inj h
  obtain ⟨hguarded, hadmitted⟩ := openSession_guarded rfl hs
  refine ⟨hguarded, fun a ha => ?_⟩
  rcases hr : (openSession n.noting t s).1 with e | k
  all_goals rw [hr] at ha; cases ha
  rw [hf k]
  exact hadmitted k hr

/-- Nothing was opened where it may not be, and a session was let in. -/
def Safe (session : Nat) (s : σ × List Contact) : Prop := Guarded s.2 ∧ Admitted session s.2

variable {x : Session} {y : Transfer} {v v' : σ × List Contact} {g : Settings}

theorem Safe.concat {c : Contact} {w : σ} (h : Safe session v)
    (hc : ∀ k, c.opensOn? = some k → Admitted k v.2) (hbegun : ∀ t, c ≠ .begun session t) :
    Safe session (w, v.2 ++ [c]) :=
  ⟨h.1.concat hc, h.2.append fun t ht => hbegun t (List.mem_singleton.1 ht).symm⟩

theorem exec_noted (n : Network σ) (x : Session) (command : String) (v : σ × List Contact) :
    (exec n.noting x command v).2 =
      ((exec n x command v.1).2, v.2 ++ [.channel x.number command]) := by
  rcases hn : n.exec x.number command v.1 with ⟨f | ms, s₁⟩
  · simp only [exec, Network.noting, hn]
  · cases hr : Channel.result? ms <;> simp only [exec, Network.noting, hn, hr]

theorem exec_safe {command : String} {r : Except DeployError CommandResult}
    (h : exec n.noting x command v = (r, v')) (hs : Safe x.number v) : Safe x.number v' := by
  rw [show v' = _ from (congrArg Prod.snd h).symm.trans (exec_noted n x command v)]
  exact hs.concat (by simp [Contact.opensOn?, hs.2]) (by simp)

theorem deliver_noted {ε : Type} {write : List UInt8 → σ × List Contact → Option ε × (σ × List Contact)}
    (hwrite : ∀ chunk v, (write chunk v).2.2 = v.2) (total : Nat) (chunks : List (List UInt8)) :
    ∀ (sent : Nat) (v : σ × List Contact),
      (Copy.deliver write total sent chunks v).state.2 = v.2 := by
  induction chunks with
  | nil => exact fun _ _ => rfl
  | cons chunk chunks ih =>
    intro sent v
    have hv := hwrite chunk v
    rcases h : write chunk v with ⟨_ | e, v'⟩
    all_goals rw [h] at hv; simp only [Copy.deliver, h]
    · rw [ih, hv]
    · exact hv

/-- To find out at last that not all was read changes nothing. -/
theorem state_followed {ε : Type} (o : Copy.Outcome (σ × List Contact) ε) (e : Option ε) :
    (o.followed fun v => (e, v)).state = o.state := by
  unfold Copy.Outcome.followed
  split <;> rfl

/-- A file needs the file service of its session, and nothing else. -/
theorem copy_noted (n : Network σ) (y : Transfer) (source destination : String)
    (v : σ × List Contact) :
    (copy n.noting y source destination v).state.2 = v.2 ∨
      (copy n.noting y source destination v).state.2 = v.2 ++ [.fileService y.number] := by
  rcases hf : Copy.openSource (n.files v.1) source with e | ⟨p, node⟩
  · exact .inl (by simp only [copy, copyIn, Network.noting, hf])
  refine .inr ?_
  rcases ho : n.openFiles y.number v.1 with ⟨f | _, s₁⟩
  · simp only [copy, copyIn, Network.noting, hf, ho]
  rcases hc : n.create y.number destination s₁ with ⟨f | file, s₂⟩
  · simp only [copy, copyIn, Network.noting, hf, ho, hc]
  simp only [copy, copyIn, Network.noting, hf, ho, hc, state_followed, Copy.run]
  exact deliver_noted (fun _ _ => rfl) _ _ _ _

theorem upload_safe {source destination : String} {r : Except DeployError Unit}
    (h : (connector n.noting).upload y source destination v = (r, v')) (hs : Safe session v)
    (hy : Admitted y.number v.2) : Safe session v' := by
  have hv : v' = (copy n.noting y source destination v).state := (congrArg Prod.snd h).symm
  rcases copy_noted n y source destination v with hlog | hlog
  · rw [hv, Safe, hlog]
    exact hs
  · have hopened := hs.concat (c := .fileService y.number) (w := v'.1)
      (by simpa [Contact.opensOn?] using hy) (by simp)
    rwa [← hlog, ← hv] at hopened

/-! ### Whole runs -/

/-- From a state in which nothing is wrong and a session is let in, what is said leads to one in which
nothing is wrong, and the session is still let in unless something failed. -/
def Keeps (session : Nat) (p : Conduct (σ × List Contact)) : Prop :=
  ∀ v o v', p v o v' → Safe session v → Guarded v'.2 ∧ (o = none → Admitted session v'.2)

theorem Keeps.of_safe {p : Conduct (σ × List Contact)}
    (h : ∀ v o v', p v o v' → Safe session v → Safe session v') : Keeps session p :=
  fun v o v' hp hs => ⟨(h v o v' hp hs).1, fun _ => (h v o v' hp hs).2⟩

theorem Keeps.inTurn {α : Type} {p : α → Conduct (σ × List Contact)}
    (hp : ∀ a, Keeps session (p a)) (l : List α) : Keeps session (.InTurn p l) := by
  intro v o v' h hs
  induction h with
  | nil => exact ⟨hs.1, fun _ => hs.2⟩
  | stopped ha => exact hp _ _ _ _ ha hs
  | cons ha _ ih =>
    obtain ⟨hguarded, hadmitted⟩ := hp _ _ _ _ ha hs
    exact ih ⟨hguarded, hadmitted rfl⟩

theorem checked_safe {command : String} {o : Option DeployError}
    (h : Conduct.Checked (connector n.noting) x command v o v') (hs : Safe x.number v) :
    Safe x.number v' := by
  cases h with
  | unanswered h => exact exec_safe h hs
  | nonzero h => exact exec_safe h hs
  | zero h => exact exec_safe h hs

theorem renamed_safe {path : String} {d : Date} {o : Option DeployError}
    (h : Conduct.Renamed (connector n.noting) x path d v o v') (hs : Safe x.number v) :
    Safe x.number v' := by
  cases h with
  | unlisted h => exact exec_safe h hs
  | present h => exact exec_safe h hs
  | absent h _ hmoved => exact checked_safe hmoved (exec_safe h hs)

theorem archived_safe {name : String} {paths : List String} {d : Date} {o : Option DeployError}
    (h : Conduct.Archived (connector n.noting) x name paths d v o v') (hs : Safe x.number v) :
    Safe x.number v' := by
  cases h with
  | unlisted h => exact exec_safe h hs
  | present h => exact exec_safe h hs
  | unlocated h _ hz => exact exec_safe hz (exec_safe h hs)
  | missing h _ hz => exact exec_safe hz (exec_safe h hs)
  | packed h _ hz _ hpacked => exact checked_safe hpacked (exec_safe hz (exec_safe h hs))

/-- A file is sent over a session of its own, so if that is let in, it is besides the other one. -/
theorem sent_keeps (source destination : String) :
    Keeps session (.Sent (connector n.noting) t source destination) := by
  have hopen {v v₁ : σ × List Contact} {r : Except DeployError Transfer}
      (h : (connector n.noting).openTransfer t v = (r, v₁)) (hs : Safe session v) :=
    opened_guarded Transfer.number (fun _ => rfl) ((openTransfer_eq _ t v).symm.trans h)
      hs.1
  have hsent {v v₁ v₂ : σ × List Contact} {y : Transfer} {r : Except DeployError Unit}
      (hy : (connector n.noting).openTransfer t v = (.ok y, v₁))
      (h : (connector n.noting).upload y source destination v₁ = (r, v₂)) (hs : Safe session v) :
      Safe session ((connector n.noting).closeTransfer y v₂) := by
    obtain ⟨hguarded, hadmitted⟩ := hopen hy hs
    obtain ⟨hy, hothers⟩ := hadmitted y rfl
    exact (upload_safe h ⟨hguarded, hothers _ hs.2⟩ hy).concat (by simp [Contact.opensOn?]) (by simp)
  intro v o v' h hs
  cases h with
  | unreadable _ => exact ⟨hs.1, fun _ => hs.2⟩
  | irregular _ _ => exact ⟨hs.1, fun _ => hs.2⟩
  | refused _ h => exact ⟨(hopen h hs).1, fun ho => by cases ho⟩
  | broken _ hy h => exact ⟨(hsent hy h hs).1, fun _ => (hsent hy h hs).2⟩
  | whole _ hy h => exact ⟨(hsent hy h hs).1, fun _ => (hsent hy h hs).2⟩

theorem carried_keeps (o : Operation) :
    Keeps x.number (.Carried (connector n.noting) g x t o) := by
  intro v e v' h hs
  cases h with
  | raw h => exact Keeps.of_safe (fun _ _ _ => checked_safe) _ _ _ h hs
  | upload h => exact sent_keeps _ _ _ _ _ h hs
  | unlisted _ | interrupted _ => exact ⟨hs.1, fun _ => hs.2⟩
  | directory _ _ h => exact Keeps.inTurn (fun file => sent_keeps _ _) _ _ _ _ h hs
  | backup h => exact Keeps.of_safe (fun _ _ _ => renamed_safe) _ _ _ h hs
  | zipBackup h => exact Keeps.of_safe (fun _ _ _ => archived_safe) _ _ _ h hs

theorem execute_guarded (task : Task) (hs : Guarded v.2) :
    Guarded (Engine.execute (connector n.noting) g task v).state.2 := by
  have hopen {v₁ : σ × List Contact} {r : Except DeployError Session}
      (h : (connector n.noting).connect (Engine.targetOf g task) v = (r, v₁)) :=
    opened_guarded Session.number (fun _ => rfl) ((connect_eq _ _ v).symm.trans h) hs
  have hended := execute_ended (c := connector n.noting) (g := g) task v
  revert hended
  generalize (Engine.execute (connector n.noting) g task v).failure? = o
  generalize (Engine.execute (connector n.noting) g task v).state = v'
  intro hended
  cases hended with
  | refused h => exact (hopen h).1
  | served h hcommands =>
    obtain ⟨hguarded, hadmitted⟩ := hopen h
    obtain ⟨hguarded, -⟩ := Keeps.inTurn (fun command => carried_keeps _) _ _ _ _ hcommands
      ⟨hguarded, (hadmitted _ rfl).1⟩
    exact hguarded.concat (by simp [Contact.opensOn?])

theorem tasksFrom_guarded (total : Nat) (ts : List Task) : ∀ (index : Nat) (v : σ × List Contact),
    Guarded v.2 → Guarded (Run.tasksFrom (connector n.noting) g total index ts v).state.2 := by
  induction ts with
  | nil => exact fun _ _ hs => hs
  | cons task ts ih =>
    intro index v hs
    have hguarded := execute_guarded (n := n) (g := g) task hs
    rcases he : Engine.execute (connector n.noting) g task v with ⟨e | r, v₁, l⟩
    all_goals
      rw [he] at hguarded
      obtain ⟨record, ht⟩ := Run.task_eq total index he
    · rw [Run.tasksFrom_error ht]
      exact hguarded
    · rw [Run.tasksFrom_ok ht]
      exact ih (index + 1) v₁ hguarded

/-- **Logins.** A session is begun with a host that is reached, and there the right things are tried in
the right order and nothing else (`Login.Tried`). If one of them is accepted the session is open; else it
is ended, and the error tells the host and the user. With a password the agent has no part in it. Sessions
for commands and for files are both opened so, and in a whole run nothing is opened on a session on which
no attempt was accepted. -/
theorem openSession_conducted (n : Network σ) (t : Target) (s : σ) (log : List Contact) :
    (∀ f s₁, n.reach t s = (.error f, s₁) → openSession n.noting t (s, log) =
      (.error (.connection t.host f.message f.suggestion), s₁, log)) ∧
    (∀ session s₁, n.reach t s = (.ok session, s₁) → ∃ attempts s₂,
      Login.Tried n session t s₁ attempts ∧
      openSession n.noting t (s, log) = if attempts.any (·.2) then
        (.ok session, s₂, log ++ .begun session t :: attempts.map (noted session)) else
        (.error (.connection t.host ("Authentication failed for user '" ++ t.username ++ "'")
            (some "Check the password in the descriptor, or use --ask-pass")), s₂,
          log ++ .begun session t :: (attempts.map (noted session) ++ [.ended session]))) ∧
    ((openSession n.noting t (s, log)).1, (openSession n.noting t (s, log)).2.1) =
      openSession n t s ∧
    (t.password ≠ "" → ∀ agent : σ → List String,
      openSession { n with agentKeys := agent } t s = openSession n t s) ∧
    (connector n).connect t s =
      ((openSession n t s).1.map fun session => ⟨session, t.host⟩, (openSession n t s).2) ∧
    (connector n).openTransfer t s =
      ((openSession n t s).1.map fun session => ⟨session, t.host⟩, (openSession n t s).2) ∧
    ∀ (g : Settings) (ts : List Task),
      Guarded (Run.tasks (connector n.noting) g ts (s, [])).state.2 := by
  refine ⟨fun f s₁ h => ?_, fun session s₁ h => openSession_noted h log,
    openSession_noting n t s log, fun h agent => openSession_agent n agent h s, connect_eq n t s,
    openTransfer_eq n t s,
    fun g ts => ?_⟩
  · have hnoting : n.noting.reach t (s, log) = (.error f, s₁, log) := by
      simp only [Network.noting, h]
    exact openSession_unreached hnoting
  · rw [Run.tasks_eq]
    exact tasksFrom_guarded ts.length ts 1 (s, []) .nil

/-- A server that asks two questions, and takes the password as the answer to both. -/
example : (openSession Rehearsal.network.noting ⟨"web1", 22, "root", "pw"⟩
    ({ servers := [("web1", { accepted := [⟨"keyboard-interactive", "root", "pw|pw"⟩],
                              prompts := ["Password: ", "Again: "] })] }, [])).2.2 =
    [.begun 0 ⟨"web1", 22, "root", "pw"⟩, .attempt 0 (.password "root" "pw") false,
      .attempt 0 (.interactive "root" ["pw", "pw"]) true] := by
  decide +kernel

end Rollout.Ssh
