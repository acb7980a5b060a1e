import SandboxImage.Proofs.Podman.Starts
import SandboxImage.Proofs.Verifier.Outcomes

/-!
# Verifying with podman

Which starts of podman a verify run makes, and what comes of them. Commands are run one start each
up to the first one that podman breaks off (`Ran.attempts`), and the starts are those of the
commands that ran (`started_runChecks`); before them the instance is started, and after them it is
removed, once (`Connection.verify_starts`).
-/

namespace SandboxImage

/-! ## Starts of a run over any service -/

namespace Verifier

variable {σ : Type} {service : Service σ}

theorem started_conclude {g : Guard} (hg : g.held = true) (name : String)
    (run : Except Halt (List Outcome)) (s : σ) :
    started (conclude service name g run s).trace =
      started ((service.kill g.instanceId s).trace.map .note) := by
  cases hk : (service.kill g.instanceId s).answer <;>
    simp [conclude, Guard.release, Guard.drop, hg, tearDown, hk, Event.start?]

/-- Each command that was run made its start, also the last one. -/
theorem started_runChecks {g : Guard} (hg : g.held = true) (observer : Observer)
    (hcalm : ∀ done o, observer done o = false) {arguments : String → List String}
    (hexec : ∀ command s, (started ((service.exec g.instanceId command s).trace.map .note)).map
      Start.arguments = [arguments command])
    (h : Ran service g.instanceId checks s outputs stop s') (done : List Outcome) :
    (started (runChecks service g observer done checks s).trace).map Start.arguments =
      (checks.take (outputs.length + 1)).map fun c => arguments c.1.command := by
  induction h generalizing done with
  | nil => rfl
  | @ok c s output rest outputs stop s' hc _ ih =>
    obtain ⟨check, kind⟩ := c
    rw [runChecks_cons_of_ok service hg hc hcalm]
    simp [runCheck_of_held service hg, Event.start?, hexec, ih]
  | @error c s halt rest hc =>
    obtain ⟨check, kind⟩ := c
    rw [runChecks_cons_of_error service hg hc]
    simp [runCheck_of_held service hg, Event.start?, hexec]

theorem started_runOn (name : String) {p : Plan} {i : String} {s s' : σ}
    {arguments : String → List String} {removal : List String}
    (hexec : ∀ command s, (started ((service.exec i command s).trace.map .note)).map
      Start.arguments = [arguments command])
    (hkill : ∀ s, (started ((service.kill i s).trace.map .note)).map Start.arguments = [removal])
    (h : Ran service i (agenda p) s outputs stop s')
    (hpanic : (runChecks service (.hold i) .calm [] (agenda p) s).answer ≠ .error .panic) :
    (started (runOn service name p .calm i s).trace).map Start.arguments =
      ((agenda p).take (outputs.length + 1)).map (fun c => arguments c.1.command) ++
        [removal] := by
  have hchecks := started_runChecks (g := .hold i) rfl .calm (fun _ _ => rfl) hexec h []
  rw [runOn_of_ne_panic service hpanic]
  simp only [started_cons, started_append, started_conclude (g := .hold i) rfl, List.map_append,
    hchecks, Guard.hold_instanceId, hkill]
  rfl

end Verifier

namespace Podman
namespace Connection

open Verifier

variable {c : Connection} {m m' : Machine} {i : String}

/-! ## The service of a connection -/

theorem service_exec_apply (command : String) :
    c.service.exec i command m =
      ⟨(c.exec i command m).trace, (c.exec i command m).answer.mapError .error,
        (c.exec i command m).state⟩ := by
  simp [service]

theorem started_service_exec (command : String) (m : Machine) :
    (started ((c.service.exec i command m).trace.map .note)).map Start.arguments =
      [c.execArguments i command] := by
  rw [service_exec_apply, (c.asks_exec m i command).starts]
  rfl

theorem state_of_exec_ok (h : (c.service.exec i command m).answer = .ok output) :
    Leaves (m.attempt (c.execArguments i command)) output ∧
      (c.service.exec i command m).state = m.afterStart := by
  rw [service_exec_apply] at h ⊢
  rcases c.answer_exec m i command with ⟨o, hleaves, ho⟩ | ⟨-, text, htext⟩
  · rw [ho] at h
    cases h
    obtain ⟨r, hr⟩ := hleaves.exists_ok
    exact ⟨hleaves, (c.asks_exec m i command).state.trans (Machine.next_of_attempt hr)⟩
  · rw [htext] at h
    cases h

theorem breaks_of_exec_error (h : (c.service.exec i command m).answer = .error halt) :
    Breaks (m.attempt (c.execArguments i command)) ∧ ∃ text, halt = .error (.service text) := by
  rw [service_exec_apply] at h
  rcases c.answer_exec m i command with ⟨o, -, ho⟩ | ⟨hbreaks, text, htext⟩
  · rw [ho] at h
    cases h
  · rw [htext] at h
    cases h
    exact ⟨hbreaks, text, rfl⟩

theorem started_service_kill (m : Machine) :
    (started ((c.service.kill i m).trace.map .note)).map Start.arguments =
      [c.removeArguments i] :=
  congrArg (List.map Start.arguments) (c.asks_kill m i).starts

end Connection
end Podman

namespace Verifier

open Podman (Connection Machine Leaves Breaks)
open Podman.Connection

variable {c : Connection} {m m' : Machine} {i : String}

/-- Commands take the starts of podman one after the other. -/
theorem Ran.attempts (h : Ran c.service i checks m outputs stop m') :
    (∀ k output, outputs[k]? = some output → ∃ check kind, checks[k]? = some (check, kind) ∧
      Leaves (m.attemptAfter k (c.execArguments i check.command)) output) ∧
    (stop = none → m' = Machine.afterStart^[checks.length] m) ∧
    ∀ check halt, stop = some (check, halt) →
      (∃ kind, checks[outputs.length]? = some (check, kind)) ∧
        Breaks (m.attemptAfter outputs.length (c.execArguments i check.command)) ∧
          ∃ text, halt = .error (.service text) := by
  induction h with
  | nil => simp
  | @ok c' s output rest outputs stop s' hc _ ih =>
    obtain ⟨check, kind⟩ := c'
    obtain ⟨hleaves, hstate⟩ := state_of_exec_ok hc
    rw [hstate] at ih
    obtain ⟨houtputs, hnone, hsome⟩ := ih
    refine ⟨fun k o ho => ?_, hnone, hsome⟩
    cases k with
    | zero =>
      cases ho
      exact ⟨check, kind, rfl, hleaves⟩
    | succ k => exact houtputs k o ho
  | @error c' s halt rest hc =>
    refine ⟨by simp, by simp, fun check halt' hstop => ?_⟩
    cases hstop
    exact ⟨⟨_, rfl⟩, breaks_of_exec_error hc⟩

theorem panic_not_mem_answers (commands : List String) (m : Machine) :
    .error .panic ∉ c.service.answers i commands m := by
  induction commands generalizing m with
  | nil => exact List.not_mem_nil
  | cons command rest ih =>
    intro h
    rcases List.mem_cons.1 h with h | h
    · obtain ⟨-, text, htext⟩ := breaks_of_exec_error h.symm
      cases htext
    · exact ih _ h

end Verifier

namespace Podman
namespace Connection

open Verifier

variable (c : Connection) (name : String) {p : Plan} (capacity : Capacity) (m : Machine)

/-- Where no instance can be had, nothing else is started. -/
theorem verify_of_not_succeeds (hp : p.violation? = none)
    (h : ¬ Succeeds (m.attempt (c.runArguments name p.env capacity (m.nextInstance name)))) :
    let run := verify c.service name p capacity .calm m
    (started run.trace).map Start.arguments =
        [c.runArguments name p.env capacity (m.nextInstance name)] ∧
      ∃ text, run.answer = .error (.error (.acquisition name text)) := by
  obtain ⟨ha, -⟩ | ⟨-, text, hanswer⟩ := c.answer_acquire m name p.env capacity
  · exact absurd ha h
  · intro run
    have hrun : run = _ := verify_of_refused hp hanswer
    rw [hrun]
    refine ⟨?_, text, rfl⟩
    rw [started_cons]
    exact congrArg (List.map Start.arguments) (c.asks_acquire m name p.env capacity).starts

theorem verify_of_succeeds (hp : p.violation? = none)
    (h : Succeeds (m.attempt (c.runArguments name p.env capacity (m.nextInstance name)))) :
    verify c.service name p capacity .calm m =
      let i := m.nextInstance name
      let run := runOn c.service name p .calm i m.read.afterStart
      ⟨.acquire name p.env capacity (some i) ::
          ((c.acquire name p.env capacity m).trace.map .note ++ run.trace), run.answer,
        run.state⟩ := by
  obtain ⟨-, hanswer⟩ | ⟨ha, -⟩ := c.answer_acquire m name p.env capacity
  · have hstate : (c.acquire name p.env capacity m).state = m.read.afterStart := by
      obtain ⟨r, hr, -⟩ := h
      rw [(c.asks_acquire m name p.env capacity).state]
      exact Machine.next_of_attempt (m := m.read) hr
    rw [← hstate]
    exact verify_of_granted hp hanswer
  · exact absurd h ha

/-- Where an instance is had, the commands run on it up to the first one that podman breaks off,
and then it is removed. -/
theorem exists_outputs (hp : p.violation? = none)
    (h : Succeeds (m.attempt (c.runArguments name p.env capacity (m.nextInstance name)))) :
    let run := verify c.service name p capacity .calm m
    let i := m.nextInstance name
    let checks := agenda p
    ∃ outputs : List Output,
      (∀ k output, outputs[k]? = some output → ∃ check kind, checks[k]? = some (check, kind) ∧
        Leaves (m.attemptAfter (k + 1) (c.execArguments i check.command)) output) ∧
      (started run.trace).map Start.arguments = c.runArguments name p.env capacity i ::
        ((checks.take (outputs.length + 1)).map (fun e => c.execArguments i e.1.command) ++
          [c.removeArguments i]) ∧
      ((outputs.length = checks.length ∧ ∃ text,
          run.answer = .ok ⟨name, i, outcomes checks outputs, text⟩ ∧
          (text = none ↔ Succeeds (m.attemptAfter (checks.length + 1) (c.removeArguments i)))) ∨
        ∃ check kind reason, checks[outputs.length]? = some (check, kind) ∧
          Breaks (m.attemptAfter (outputs.length + 1) (c.execArguments i check.command)) ∧
          run.answer = .error (.error (.service
            ("check " ++ Text.quoted check.label ++ ": " ++ reason)))) := by
  intro run i checks
  have hrun : run = _ := c.verify_of_succeeds name capacity m hp h
  have hcalm : ∀ done o, Observer.calm done o = false := fun _ _ => rfl
  have hexec : .error .panic ∉ c.service.answers i (checks.map (·.1.command)) m.read.afterStart :=
    panic_not_mem_answers _ _
  obtain ⟨outputs, stop, m', hran, -, -, hanswer⟩ := runOn_calm c.service name hcalm hexec
  have hstarts := started_runOn name started_service_exec started_service_kill hran
    (runChecks_ne_panic c.service hcalm hexec)
  obtain ⟨houtputs, hnone, hsome⟩ := hran.attempts
  simp only [Machine.attemptAfter_afterStart, Machine.attemptAfter_read] at houtputs hsome
  refine ⟨outputs, houtputs, ?_, ?_⟩
  · have hfirst := congrArg (List.map Start.arguments) (c.asks_acquire m name p.env capacity).starts
    rw [hrun, started_cons, started_append, List.map_append, List.map_append, hstarts, hfirst]
    rfl
  · rw [hrun]
    cases stop with
    | none =>
      refine .inl ⟨hran.length_eq, _, hanswer, ?_⟩
      rw [teardownText_eq_none_iff, hnone rfl, ← Machine.attemptAfter_read]
      exact c.answer_kill _ i
    | some stop =>
      obtain ⟨check, halt⟩ := stop
      obtain ⟨⟨kind, hcheck⟩, hbreaks, text, rfl⟩ := hsome check halt rfl
      exact .inr ⟨check, kind, text, hcheck, hbreaks, hanswer⟩

/-- The starts of podman that verifying an image makes, whatever podman answers and whichever
start does not find it. An instance of the image is run, under a name made from the time. If that
does not succeed nothing else is started. If it does, the commands are run on it, one start each,
the smoke check last, up to the first one that podman breaks off; then the instance is removed. The
report has the output of each command with its exit code; a command that is broken off is named in
the error instead. -/
theorem verify_starts (hp : p.violation? = none) :
    let run := verify c.service name p capacity .calm m
    let starts := (started run.trace).map Start.arguments
    let checks := p.checks.map (fun c => (c, CheckKind.command)) ++
      p.smoke.toList.map fun c => (c, CheckKind.smoke)
    let i := instanceName name (m.clock m.readings) m.process
    let place := c.url.elim [] fun url => ["--url", url]
    let acquire := place ++
      (["run", "--creds", c.credential.exposed, "--detach", "--name", i, "--label",
        nameLabel ++ "=" ++ name, "--cpus", toString capacity.cpus.toNat, "--memory",
        toString capacity.memoryMb.toNat ++ "m"] ++
      (p.env.entries.flatMap fun e => ["--env", e.1 ++ "=" ++ e.2]) ++
      [name, "sleep", "infinity"])
    let exec (command : String) := place ++ ["exec", i, "/bin/sh", "-c", command]
    let remove := place ++ ["rm", "--force", "--time", "0", i]
    (¬ Succeeds (m.attempt acquire) ∧ starts = [acquire] ∧
        ∃ reason, run.answer = .error (.error (.acquisition name reason))) ∨
      (Succeeds (m.attempt acquire) ∧ ∃ outputs : List Output,
        (∀ k output, outputs[k]? = some output → ∃ check kind,
          checks[k]? = some (check, kind) ∧
            Leaves (m.attemptAfter (k + 1) (exec check.command)) output) ∧
        starts = acquire :: ((checks.take (outputs.length + 1)).map (fun e => exec e.1.command) ++
          [remove]) ∧
        ((outputs.length = checks.length ∧ ∃ text,
            run.answer = .ok ⟨name, i, outcomes checks outputs, text⟩ ∧
            (text = none ↔ Succeeds (m.attemptAfter (checks.length + 1) remove))) ∨
          ∃ check kind reason, checks[outputs.length]? = some (check, kind) ∧
            Breaks (m.attemptAfter (outputs.length + 1) (exec check.command)) ∧
            run.answer = .error (.error (.service
              ("check " ++ Text.quoted check.label ++ ": " ++ reason))))) := by
  intro run starts checks i place acquire exec remove
  by_cases h : Succeeds (m.attempt acquire)
  · exact .inr ⟨h, c.exists_outputs name capacity m hp h⟩
  · exact .inl ⟨h, c.verify_of_not_succeeds name capacity m hp h⟩

/-- A machine on which podman breaks off the second command that is run, and removes nothing. -/
def refusing : Machine where
  script
    | 1 => { ending := .exited 125, stderr := Text.encode "oops" }
    | 2 => { ending := .exited 125, stderr := Text.encode " Error: gone" }
    | 3 => { ending := .exited 1 }
    | _ => {}
  clock _ := 5
  process := 7
  scratch := "/tmp"

/-- The first command may exit with podman's own code; the third one is not run any more. -/
theorem verify_starts_refusing :
    let c : Connection := ⟨some "unix:///podman", ⟨"robot", "hunter2"⟩⟩
    let p : Plan := ⟨.empty, [⟨"first", "exit 125"⟩, ⟨"second", "true"⟩], some ⟨"last", "true"⟩⟩
    let run := verify c.service "image" p {} .calm refusing
    let i := instanceName "image" 5 7
    p.violation? = none ∧
      ((started run.trace).map Start.arguments).drop 1 =
        [["--url", "unix:///podman", "exec", i, "/bin/sh", "-c", "exit 125"],
          ["--url", "unix:///podman", "exec", i, "/bin/sh", "-c", "true"],
          ["--url", "unix:///podman", "rm", "--force", "--time", "0", i]] ∧
      ∃ reason, run.answer = .error (.error (.service
        ("check " ++ Text.quoted "second" ++ ": " ++ reason))) := by
  intro c p run i
  have hp : p.violation? = none := by decide
  have hattempt (k : Nat) (arguments : List String) (hk : k < 4)
      (h : arguments.all isPassable = true) :
      refusing.attemptAfter k arguments = .ok (refusing.script k) := by
    have hlast (j : Nat) (hj : j < k) : (refusing.script (refusing.starts + j)).last = false := by
      have hcases : j = 0 ∨ j = 1 ∨ j = 2 := by omega
      rcases hcases with rfl | rfl | rfl <;> rfl
    have hundisturbed : (refusing.script (refusing.starts + k)).Undisturbed := by
      have hcases : k = 0 ∨ k = 1 ∨ k = 2 ∨ k = 3 := by omega
      rcases hcases with rfl | rfl | rfl | rfl <;> exact ⟨rfl, rfl, rfl⟩
    rw [Machine.attemptAfter_of_present rfl hlast h hundisturbed]
    exact congrArg (fun j => Except.ok (refusing.script j)) (Nat.zero_add k)
  have hfirst : ¬ Breaks (refusing.attemptAfter 1 (c.execArguments i "exit 125")) := by
    rw [hattempt 1 _ (by decide) (by decide +kernel), ← exitCode?_eq_none_iff]
    decide +kernel
  have hsecond : Breaks (refusing.attemptAfter 2 (c.execArguments i "true")) := by
    rw [hattempt 2 _ (by decide) (by decide +kernel), ← exitCode?_eq_none_iff]
    decide +kernel
  rcases c.verify_starts "image" {} refusing hp with ⟨hacquire, -⟩ | ⟨-, outputs, houtputs, h⟩
  · refine absurd ⟨_, hattempt 0 _ (by decide) ?_, rfl⟩ hacquire
    decide +kernel
  · -- no output can stem from the second command
    have hlength : outputs.length ≤ 1 := by
      by_contra hlong
      obtain ⟨check, kind, hcheck, hleaves⟩ :=
        houtputs 1 _ (List.getElem?_eq_getElem (Nat.lt_of_not_le hlong))
      cases hcheck
      exact hleaves.not_breaks hsecond
    obtain ⟨hstarts, ⟨hall, -⟩ | ⟨check, kind, reason, hcheck, hbreaks, hanswer⟩⟩ := h
    · exact absurd (hall ▸ hlength) (by decide)
    · rcases (by omega : outputs.length = 0 ∨ outputs.length = 1) with hn | hn
      · rw [hn] at hcheck hbreaks
        cases hcheck
        exact absurd hbreaks hfirst
      · rw [hn] at hcheck hstarts
        cases hcheck
        refine ⟨hp, ?_, reason, hanswer⟩
        exact congrArg (List.drop 1) hstarts

end Connection
end Podman
end SandboxImage
