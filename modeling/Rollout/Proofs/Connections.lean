import Rollout.Proofs.ExitStatus
import Rollout.Proofs.Parting
import Rollout.Proofs.Utf8

/-!
# One process, two kinds of connections

A process that ends by itself leaves bytes and an exit status. Over SSH its output must be UTF-8, or the
command fails whatever its status; error output that is not UTF-8 is left out. On this machine both are read
whatever they are. So it is the bytes alone that can make a difference, and only if they are no text.

* `Completion.result`: what is made of a process on this machine. `Ssh.Runs`: a server ran it, and told of
  it in whatever pieces.
* `Ssh.exec_isText`, `Ssh.exec_unreadable`: what is made of it over SSH.
* `Ssh.Agree`, `Ssh.Part`: a task goes alike over both, or up to a command.
* `Ssh.connections_agree`: when both make the same of a process, and of a task.
  `Ssh.unreadable_output_fails` is a command that exits with 0 and fails its task over SSH alone.
-/

namespace Rollout

/-! ## Bytes that may be a text -/

namespace Utf8

/-- Whether bytes are those of a text. -/
def IsText (bytes : List UInt8) : Prop := ∃ text, bytes = encode text

variable {bytes : List UInt8}

/-- A text is read as it is also where anything can be read. -/
theorem ofUtf8?_of_isText (h : IsText bytes) :
    String.ofUtf8? bytes = some (String.ofUtf8Lossy bytes) := by
  obtain ⟨text, rfl⟩ := h
  have hlossy : decodeLossy (encode text) = text := by
    rw [decodeLossy, scan_encode, List.map_map]
    exact List.map_id text
  rw [String.ofUtf8?, decode?_eq_some_iff.2 rfl, String.ofUtf8Lossy, hlossy, Option.map_some]

theorem ofUtf8?_of_not_isText (h : ¬IsText bytes) : String.ofUtf8? bytes = none := by
  have hnone : decode? bytes = none := by
    rw [Option.eq_none_iff_forall_ne_some]
    exact fun text htext => h ⟨text, decode?_eq_some_iff.1 htext⟩
  rw [String.ofUtf8?, hnone, Option.map_none]

/-- What is no text is read as something where anything can be read. -/
theorem ofUtf8Lossy_ne_empty (h : ¬IsText bytes) : String.ofUtf8Lossy bytes ≠ "" := by
  intro hempty
  have hlossy : decodeLossy bytes = [] := by simpa [String.ofUtf8Lossy] using hempty
  have hscan : scan none bytes = [].map some := by simpa [decodeLossy] using hlossy
  exact h ⟨[], eq_encode_of_scan hscan⟩

end Utf8

/-! ## Processes -/

/-- A process that came to its end by itself: what it printed, and its exit status. -/
structure Completion where
  output : List UInt8
  errors : List UInt8
  status : UInt8
  deriving Repr, DecidableEq

/-- What is made of a process on this machine. -/
def Completion.result (p : Completion) : CommandResult :=
  Local.resultOf p.output p.errors (some p.status.toNat)

theorem Local.exec_completion {p : Completion} {host command : String} {t : Local.State} {files : Tree}
    {input : List UInt8} (hnul : command.toList.contains '\x00' = false)
    (hrun : Shell.run t.files t.input command.toList =
      (⟨p.output, p.errors, some p.status.toNat⟩, files, input)) :
    Local.exec host command t = (.ok p.result, { t with files, input }) := by
  simp only [Local.exec, hnul, hrun]
  rfl

namespace Ssh

open Utf8 (IsText)

/-- Messages that tell of a process: what it printed, in whatever pieces, and its exit status. -/
structure Channel.Tells (ms : List Message) (p : Completion) : Prop where
  output : output ms = p.output
  errors : errors ms = p.errors
  status : exitStatus? ms = some p.status.toUInt32

variable {σ : Type} {n : Network σ} {x : Session} {command : String} {s s₁ : σ} {p : Completion}

/-- A server ran a command as a process, and told of it. -/
def Runs (n : Network σ) (x : Session) (command : String) (s : σ) (p : Completion) (s₁ : σ) : Prop :=
  ∃ ms, n.exec x.number command s = (.ok ms, s₁) ∧ Channel.Tells ms p

/-- The error of a command whose output is no text. -/
def unreadable (x : Session) (command : String) : DeployError :=
  .remoteFault x.name command "Failed to read output: stream did not contain valid UTF-8"

/-- A status that a process can exit with is read as it is. -/
theorem Channel.signed_of_lt {code : UInt32} (h : code.toNat < 256) : signed code = code.toNat := by
  rw [signed, Word.count32, Int.bmod_def]
  omega

theorem Channel.Tells.exitCode {ms : List Message} (h : Channel.Tells ms p) :
    exitCode ms = p.status.toNat := by
  have hlt : p.status.toUInt32.toNat < 256 := by
    rw [UInt8.toNat_toUInt32]
    exact p.status.toNat_lt
  rw [Channel.exitCode, h.status, Option.map_some, Option.getD_some, signed_of_lt hlt,
    UInt8.toNat_toUInt32]

theorem exec_isText (h : Runs n x command s p s₁) (ho : IsText p.output) :
    exec n x command s =
      (.ok { p.result with stderr := (String.ofUtf8? p.errors).getD "" }, s₁) := by
  obtain ⟨ms, hms, htells⟩ := h
  have hresult : Channel.result? ms =
      some { p.result with stderr := (String.ofUtf8? p.errors).getD "" } := by
    rw [Channel.result?, htells.output, htells.errors, Utf8.ofUtf8?_of_isText ho, htells.exitCode]
    rfl
  simp only [exec, hms, hresult]

theorem exec_unreadable (h : Runs n x command s p s₁) (ho : ¬IsText p.output) :
    exec n x command s = (.error (unreadable x command), s₁) := by
  obtain ⟨ms, hms, htells⟩ := h
  have hresult : Channel.result? ms = none := by
    rw [Channel.result?, htells.output, Utf8.ofUtf8?_of_not_isText ho]
    rfl
  simp only [exec, hms, hresult]
  rfl

/-! ## Tasks -/

/-- A command runs as the same process over SSH and with another carrier, which makes of it what is made
of a process on this machine. -/
structure Carried (n : Network σ) (f : Carrier σ) (x : Session) (command : String) (s : σ)
    (p : Completion) (s₁ : σ) : Prop where
  there : Runs n x command s p s₁
  here : f x command s = (.ok p.result, s₁)

/-- Error output that is told over SSH, or left out there. -/
def LeftOut : Telling := fun t t' => t = t' ∨ t = ""

/-- Two outcomes of a task that was begun in one state, over SSH and with another carrier: the same end,
state and calls, but for how error output is told. -/
structure Agree (E : Telling) {α : Type} (o o' : Outcome σ α) : Prop where
  result : SameEnd E o.result o'.result
  state : o'.state = o.state
  calls : List.Forall₂ (Event.Near E) (calls o.trace) (calls o'.trace)

/-- The two runs part at a command, having agreed until then. Where it was to be run they did not both run
it as one process, or it was one that is not of a certain kind; and if its output is no text, the run over
SSH ended with that. -/
def Part (n : Network σ) (f : Carrier σ) (c : Connector σ) (E : Telling) (kind : Completion → Prop)
    {α : Type} (s : σ) (o o' : Outcome σ α) : Prop :=
  ∃ before before' x purpose command rest rest' there,
    there = (c.carrying (exec n)).replay before s ∧
    List.Forall₂ (Event.Near E) before before' ∧
    calls o.trace = before ++ .exec x purpose command (exec n x command there).1 :: rest ∧
    calls o'.trace = before' ++ .exec x purpose command (f x command there).1 :: rest' ∧
    ∀ p s₁, Carried n f x command there p s₁ →
      ¬kind p ∧ (¬IsText p.output → o.result = .error (unreadable x command))

variable {f : Carrier σ} {E : Telling} {kind : Completion → Prop}

/-- Carriers agree as long as the commands run as processes that both tell in the same way. -/
theorem agree_or_part (hkind : ∀ p, kind p → IsText p.output)
    (hE : ∀ p, kind p → E ((String.ofUtf8? p.errors).getD "") p.result.stderr) (c : Connector σ)
    (g : Settings) (t : Task) (s : σ) :
    Agree E (Engine.execute (c.carrying (exec n)) g t s) (Engine.execute (c.carrying f) g t s) ∨
      Part n f c E kind s (Engine.execute (c.carrying (exec n)) g t s)
        (Engine.execute (c.carrying f) g t s) := by
  let parting : Parting σ := fun x command s => ∀ p s₁, Carried n f x command s p s₁ → ¬kind p
  -- Where both carry a process of the kind, the answers are near; nowhere else need they be.
  have hanswers (x : Session) (command : String) (s : σ) :
      Answers E parting (exec n) f x command s := by
    by_cases h : ∃ p s₁, Carried n f x command s p s₁ ∧ kind p
    · obtain ⟨p, s₁, hp, hk⟩ := h
      exact .near (exec_isText hp.there (hkind p hk)) hp.here ⟨rfl, rfl, hE p hk⟩
    · exact .apart fun p s₁ hp hk => h ⟨p, s₁, hp, hk⟩
  cases Engine.execute_near hanswers c g t s with
  | alike hends hstate hcalls _ => exact .inl ⟨hends, hstate, hcalls⟩
  | apart hs hbefore ho ho' hd herror =>
    refine .inr ⟨_, _, _, _, _, _, _, _, hs, hbefore, ho, ho', fun p s₁ hp => ⟨hd p s₁ hp, fun hno => ?_⟩⟩
    exact herror _ (by rw [exec_unreadable hp.there hno])

/-- A process that exits with 0 goes well, over SSH if its output is text. -/
theorem raw_carried {v : Serving σ} (hp : Carried n f x command v.outside p s₁) (hz : p.status = 0)
    (c : Connector σ) (g : Settings) (target : Target) :
    ((Engine.dispatch (c.carrying (exec n)) g x target (.raw command) v).result = .ok () ↔
      IsText p.output) ∧
    (Engine.dispatch (c.carrying f) g x target (.raw command) v).result = .ok () := by
  have hcode : p.result.exitCode = 0 := by
    rw [Completion.result, Local.resultOf, hz]
    rfl
  rw [raw_ok_iff, raw_ok_iff]
  refine ⟨⟨?_, fun ho => ⟨_, s₁, exec_isText hp.there ho, hcode⟩⟩, p.result, s₁, hp.here, hcode⟩
  rintro ⟨r, s₂, hr, -⟩
  by_contra ho
  have herror : exec n x command v.outside = (.ok r, s₂) := hr
  rw [exec_unreadable hp.there ho] at herror
  cases herror

/-- **Both kinds of connections make the same of a process that printed text.** Over SSH error output that
is no text is left out, and output that is no text is a failure of the command, also if it exits with 0. On
this machine neither makes a difference. A task ends in the same way over both, with the same report, state
and calls, up to the first command of which they do not both tell the same process, or which prints what is
no text. If that is only its error output, nothing but the error output is told in two ways; otherwise the
task fails there over SSH. -/
theorem connections_agree (n : Network σ) (f : Carrier σ) (c : Connector σ) (g : Settings) :
    (∀ {x command s p s₁}, Runs n x command s p s₁ →
      (IsText p.output → IsText p.errors → exec n x command s = (.ok p.result, s₁)) ∧
      (IsText p.output → ¬IsText p.errors → p.result.stderr ≠ "" ∧
        exec n x command s = (.ok { p.result with stderr := "" }, s₁)) ∧
      (¬IsText p.output → exec n x command s = (.error (unreadable x command), s₁))) ∧
    (∀ {p : Completion} {host command : String} {t : Local.State} {files input},
      command.toList.contains '\x00' = false →
      Shell.run t.files t.input command.toList =
        (⟨p.output, p.errors, some p.status.toNat⟩, files, input) →
      Local.exec host command t = (.ok p.result, { t with files, input })) ∧
    (∀ {x command v p s₁}, Carried n f x command v.outside p s₁ → p.status = 0 → ∀ target,
      ((Engine.dispatch (c.carrying (exec n)) g x target (.raw command) v).result = .ok () ↔
        IsText p.output) ∧
      (Engine.dispatch (c.carrying f) g x target (.raw command) v).result = .ok ()) ∧
    ∀ t s,
      let o := Engine.execute (c.carrying (exec n)) g t s
      let o' := Engine.execute (c.carrying f) g t s
      (o.result = o'.result ∧ o'.state = o.state ∧ calls o.trace = calls o'.trace ∨
        Part n f c (· = ·) (fun p => IsText p.output ∧ IsText p.errors) s o o') ∧
      (Agree LeftOut o o' ∨ Part n f c LeftOut (fun p => IsText p.output) s o o') := by
  refine ⟨fun {x command s p s₁} h => ⟨fun ho he => ?_, fun ho he => ?_, exec_unreadable h⟩,
    Local.exec_completion, fun hp hz target => raw_carried hp hz c g target, fun t s => ⟨?_, ?_⟩⟩
  · rw [exec_isText h ho, Utf8.ofUtf8?_of_isText he]
    rfl
  · refine ⟨Utf8.ofUtf8Lossy_ne_empty he, ?_⟩
    rw [exec_isText h ho, Utf8.ofUtf8?_of_not_isText he]
    rfl
  · have hE : ∀ p : Completion, IsText p.output ∧ IsText p.errors →
        (String.ofUtf8? p.errors).getD "" = p.result.stderr := by
      rintro p ⟨-, he⟩
      rw [Utf8.ofUtf8?_of_isText he]
      rfl
    obtain ⟨hends, hstate, hcalls⟩ | hpart := agree_or_part (fun _ h => h.1) hE c g t s
    · exact .inl ⟨hends.eq, hstate, Event.eq_of_near hcalls⟩
    · exact .inr hpart
  · have hE : ∀ p : Completion, IsText p.output →
        LeftOut ((String.ofUtf8? p.errors).getD "") p.result.stderr := by
      intro p _
      by_cases he : IsText p.errors
      · rw [Utf8.ofUtf8?_of_isText he]
        exact .inl rfl
      · rw [Utf8.ofUtf8?_of_not_isText he]
        exact .inr rfl
    exact agree_or_part (fun _ h => h) hE c g t s

theorem connections_agree_on_text :
    let server : ServerScript :=
      { replies := [⟨"uptime", [.messages [.output [117], .output [112], .exitStatus 3]]⟩] }
    let s : Rehearsal := { servers := [("10.0.0.1", server)], sessions := [{ host := "10.0.0.1" }] }
    ∃ s₁, Runs Rehearsal.network ⟨0, "10.0.0.1"⟩ "uptime" s ⟨[117, 112], [], 3⟩ s₁ ∧
      exec Rehearsal.network ⟨0, "10.0.0.1"⟩ "uptime" s = (.ok ⟨"up", "", 3⟩, s₁) := by
  intro server s
  have hruns : Runs Rehearsal.network ⟨0, "10.0.0.1"⟩ "uptime" s ⟨[117, 112], [], 3⟩
      (Rehearsal.network.exec 0 "uptime" s).2 := ⟨_, rfl, ⟨rfl, rfl, rfl⟩⟩
  have hcommand := (connections_agree Rehearsal.network (exec Rehearsal.network)
    (connector Rehearsal.network) {}).1 hruns
  exact ⟨_, hruns, hcommand.1 ⟨['u', 'p'], by decide⟩ ⟨[], rfl⟩⟩

/-- A command that prints one byte and exits with 0 fails its task over SSH, and over SSH alone. -/
theorem unreadable_output_fails :
    let command := "printf \"\\377\""
    let messages : List Message := [.output [255], .exitStatus 0]
    let server : ServerScript :=
      { accepted := [⟨"password", "root", "secret"⟩], replies := [⟨command, [.messages messages]⟩] }
    let task : Task := ⟨"10.0.0.1", 22, "root", "secret", [command]⟩
    let p : Completion := ⟨[255], [], 0⟩
    let f : Carrier Rehearsal := fun x command s =>
      (.ok p.result, (Rehearsal.network.exec x.number command s).2)
    let c := connector Rehearsal.network
    let s : Rehearsal := { servers := [("10.0.0.1", server)] }
    Channel.Tells messages p ∧
      (Engine.execute (c.carrying (exec Rehearsal.network)) {} task s).result =
        .error (unreadable ⟨0, "10.0.0.1"⟩ command) ∧
      (Engine.execute (c.carrying f) {} task s).result = .ok { host := "10.0.0.1", executed := 1 } :=
  ⟨⟨rfl, rfl, rfl⟩, rfl, rfl⟩

end Ssh

end Rollout
