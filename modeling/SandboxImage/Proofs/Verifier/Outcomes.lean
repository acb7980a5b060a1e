import SandboxImage.Proofs.Verifier.Lifecycle
import SandboxImage.Service.Scripted

/-!
# What comes of the checks

A run whose observer takes nothing down. The checks run in order up to the first one that the
service cannot run, each outcome is handed on before the next command, and the entries of the report
are the outcomes (`ran_runChecks`). Killing the instance changes neither (`conclude_of_held`). The
whole run is `Verifier.verify_calm`.
-/

namespace SandboxImage

namespace Service

variable {σ : Type} (service : Service σ) (i : String)

/-- What the instance `i` answers to commands, one after the other. -/
def answers : List String → σ → List (Except Halt Output)
  | [], _ => []
  | c :: rest, s => (service.exec i c s).answer :: answers rest (service.exec i c s).state

/-- The state of the service after commands on the instance `i`. -/
def after (commands : List String) (s : σ) : σ :=
  commands.foldl (fun s c => (service.exec i c s).state) s

end Service

namespace Verifier

variable {σ : Type} (service : Service σ)

/-- The outcomes of the first checks, which left these outputs behind. -/
def outcomes (checks : List (Check × CheckKind)) (outputs : List Output) : List Outcome :=
  List.zipWith (fun c output => ⟨c.1, c.2, output⟩) checks outputs

/-- The events of checks with these outcomes: a command, and then its outcome. -/
def exchanges (i : String) (entries : List Outcome) : List Event :=
  entries.flatMap fun o => [.exec i o.check.command, .outcome o]

/-- The text of a failed teardown of the instance `i`. -/
def teardownText (i : String) : Except Error Unit → Option String
  | .ok () => none
  | .error (.teardown j reason) => some (Error.teardown j reason).message
  | .error e => some (Error.teardown i e.message).message

/-! ## The checks -/

/-- `Ran service i checks s outputs stop s'`: from the state `s` on the checks leave these outputs
behind, up to the check `stop` that cannot be run, if there is one, and the state is `s'` then. -/
inductive Ran (i : String) :
    List (Check × CheckKind) → σ → List Output → Option (Check × Halt) → σ → Prop
  | nil : Ran i [] s [] none s
  | ok : (service.exec i c.1.command s).answer = .ok output →
    Ran i rest (service.exec i c.1.command s).state outputs stop s' →
    Ran i (c :: rest) s (output :: outputs) stop s'
  | error : (service.exec i c.1.command s).answer = .error halt →
    Ran i (c :: rest) s [] (some (c.1, halt)) (service.exec i c.1.command s).state

namespace Ran

variable {service} {i : String} {checks : List (Check × CheckKind)} {s s' : σ}
  {outputs : List Output} {stop : Option (Check × Halt)} {check : Check} {halt : Halt}

theorem answers (h : Ran service i checks s outputs stop s') :
    (service.answers i (checks.map (·.1.command)) s).take outputs.length = outputs.map .ok := by
  induction h with
  | nil => rfl
  | ok hc _ ih => simp [Service.answers, hc, ih]
  | error => rfl

theorem state (h : Ran service i checks s outputs stop s') :
    s' = service.after i ((checks.map (·.1.command)).take (outputs.length + 1)) s := by
  induction h with
  | nil => rfl
  | ok _ _ ih => simp [Service.after, ih]
  | error => simp [Service.after]

theorem length_eq (h : Ran service i checks s outputs none s') :
    outputs.length = checks.length := by
  generalize hstop : none = stop at h
  induction h with
  | nil => rfl
  | ok _ _ ih => simp [ih hstop]
  | error => cases hstop

theorem getElem?_stop (h : Ran service i checks s outputs (some (check, halt)) s') :
    (∃ kind, checks[outputs.length]? = some (check, kind)) ∧
      (service.answers i (checks.map (·.1.command)) s)[outputs.length]? =
        some (.error halt) := by
  generalize hstop : some (check, halt) = stop at h
  induction h with
  | nil => cases hstop
  | ok _ _ ih => simpa [Service.answers] using ih hstop
  | @error c _ _ _ hc =>
    cases hstop
    exact ⟨⟨c.2, rfl⟩, by simp [Service.answers, hc]⟩

end Ran

section

variable {g : Guard} (hg : g.held = true)
include hg

theorem runCheck_of_held (check : Check) (s : σ) :
    runCheck service g check s =
      let ran := service.exec g.instanceId check.command s
      ⟨.note (.log ⟨.debug, "running " ++ Text.quoted check.label ++ ": " ++ check.command⟩) ::
          .exec g.instanceId check.command :: ran.trace.map .note,
        ran.answer.mapError (named check), ran.state⟩ := by
  simp [runCheck, Guard.exec, hg]

theorem runChecks_cons_of_error {check : Check} {halt : Halt} {s : σ}
    (hc : (service.exec g.instanceId check.command s).answer = .error halt) (observer : Observer)
    (kind : CheckKind) (rest : List (Check × CheckKind)) (done : List Outcome) :
    runChecks service g observer done ((check, kind) :: rest) s =
      ⟨(runCheck service g check s).trace, .error (named check halt),
        (service.exec g.instanceId check.command s).state⟩ := by
  simp [runChecks, runCheck_of_held service hg, hc]

theorem runChecks_cons_of_ok {check : Check} {output : Output} {s : σ} {observer : Observer}
    (hc : (service.exec g.instanceId check.command s).answer = .ok output)
    (hcalm : ∀ done o, observer done o = false)
    (kind : CheckKind) (rest : List (Check × CheckKind)) (done : List Outcome) :
    runChecks service g observer done ((check, kind) :: rest) s =
      let o : Outcome := ⟨check, kind, output⟩
      let later := runChecks service g observer (done ++ [o]) rest
        (service.exec g.instanceId check.command s).state
      ⟨(runCheck service g check s).trace ++
        .note (.log ⟨.info, summary o⟩) :: .outcome o :: later.trace, later.answer,
        later.state⟩ := by
  simp [runChecks, runCheck_of_held service hg, hc, hcalm]

/-- Checks run up to the first one that cannot be run, and the run has their outcomes. -/
theorem ran_runChecks {observer : Observer} (hcalm : ∀ done o, observer done o = false)
    (checks : List (Check × CheckKind)) (done : List Outcome) (s : σ) :
    let run := runChecks service g observer done checks s
    ∃ outputs stop, Ran service g.instanceId checks s outputs stop run.state ∧
      lifeOf run.trace = exchanges g.instanceId (outcomes checks outputs) ++
        stop.toList.map (fun c => .exec g.instanceId c.1.command) ∧
      run.answer = match stop with
        | none => .ok (done ++ outcomes checks outputs)
        | some (check, halt) => .error (named check halt) := by
  induction checks generalizing done s with
  | nil => exact ⟨[], none, .nil, rfl, by simp [runChecks, outcomes]⟩
  | cons c rest ih =>
    obtain ⟨check, kind⟩ := c
    have hcheck := runCheck_of_held service hg check s
    cases hc : (service.exec g.instanceId check.command s).answer with
    | error halt =>
      rw [runChecks_cons_of_error service hg hc]
      refine ⟨[], some (check, halt), .error hc, ?_, rfl⟩
      simp [hcheck, Event.ofLife, exchanges, outcomes]
    | ok output =>
      obtain ⟨outputs, stop, hran, hlife, hanswer⟩ := ih (done ++ [⟨check, kind, output⟩])
        (service.exec g.instanceId check.command s).state
      rw [runChecks_cons_of_ok service hg hc hcalm]
      refine ⟨output :: outputs, stop, .ok hc hran, ?_, ?_⟩
      · simp [hcheck, Event.ofLife, hlife, exchanges, outcomes]
      · simpa [outcomes] using hanswer

end

/-! ## The teardown -/

theorem teardownText_eq_none_iff {i : String} {r : Except Error Unit} :
    teardownText i r = none ↔ r = .ok () := by
  rcases r with e | ⟨⟩
  · cases e <;> simp [teardownText]
  · simp [teardownText]

theorem teardownText_eq (i : String) (r : Except Error Unit) :
    teardownText i r = match r.mapError (asTeardown i) with
      | .ok () => none
      | .error e => some e.message := by
  rcases r with e | ⟨⟩
  · cases e <;> rfl
  · rfl

theorem conclude_of_held {g : Guard} (hg : g.held = true) (name : String)
    (run : Except Halt (List Outcome)) (s : σ) :
    let killed := service.kill g.instanceId s
    let text := teardownText g.instanceId killed.answer
    (conclude service name g run s).answer =
        run.map (fun entries => ⟨name, g.instanceId, entries, text⟩) ∧
      ∀ t, text = some t → .note (.log ⟨.error, t⟩) ∈ (conclude service name g run s).trace := by
  simp only [teardownText_eq]
  cases hk : (service.kill g.instanceId s).answer with
  | error e => simp [conclude, Guard.release, Guard.drop, hg, tearDown, hk]
  | ok => simp [conclude, Guard.release, Guard.drop, hg, tearDown, hk]

/-! ## The whole run -/

/-- A run that no panic has ended releases the instance. -/
theorem runOn_of_ne_panic {name : String} {p : Plan} {observer : Observer} {i : String} {s : σ}
    (h : (runChecks service (.hold i) observer [] (agenda p) s).answer ≠ .error .panic) :
    runOn service name p observer i s =
      let run := runChecks service (.hold i) observer [] (agenda p) s
      let last := conclude service name (.hold i) run.answer run.state
      ⟨.note (.log ⟨.info, "acquired instance " ++ i ++ " of " ++ name⟩) ::
        (run.trace ++ last.trace), last.answer, last.state⟩ := by
  simp only [runOn, Step.bind_apply, Step.log_apply]
  generalize runChecks service (.hold i) observer [] (agenda p) s = run at h ⊢
  rcases run with ⟨trace, ⟨⟨e⟩ | ⟨⟩⟩ | entries, s'⟩
  · rfl
  · exact absurd rfl h
  · rfl

theorem named_error (check : Check) (e : Error) :
    named check (.error e) = .error (match e with
      | .service reason => .service ("check " ++ Text.quoted check.label ++ ": " ++ reason)
      | e => e) := by
  cases e <;> rfl

theorem Ran.ne_panic {i : String} {checks : List (Check × CheckKind)} {s s' : σ}
    {outputs : List Output} {stop : Option (Check × Halt)}
    (h : Ran service i checks s outputs stop s')
    (hexec : .error .panic ∉ service.answers i (checks.map (·.1.command)) s) :
    stop = none ∨ ∃ check e, stop = some (check, .error e) := by
  rcases stop with _ | ⟨check, e | ⟨⟩⟩
  · exact .inl rfl
  · exact .inr ⟨check, e, rfl⟩
  · exact absurd (List.mem_of_getElem? h.getElem?_stop.2) hexec

theorem runChecks_ne_panic {checks : List (Check × CheckKind)} {observer : Observer} {i : String}
    {s : σ} (hcalm : ∀ done o, observer done o = false)
    (hexec : .error .panic ∉ service.answers i (checks.map (·.1.command)) s) :
    (runChecks service (.hold i) observer [] checks s).answer ≠ .error .panic := by
  obtain ⟨outputs, stop, hran, -, hanswer⟩ :=
    ran_runChecks service (g := .hold i) rfl hcalm checks [] s
  rw [hanswer]
  rcases hran.ne_panic service hexec with rfl | ⟨check, e, rfl⟩
  · simp
  · simp [named_error]

/-- What comes of the checks is what comes of the run: only a failed teardown is added to it. -/
theorem runOn_calm (name : String) {p : Plan} {observer : Observer} {i : String} {s : σ}
    (hcalm : ∀ done o, observer done o = false)
    (hexec : .error .panic ∉ service.answers i ((agenda p).map (·.1.command)) s) :
    let run := runOn service name p observer i s
    ∃ outputs stop s', Ran service i (agenda p) s outputs stop s' ∧
      lifeOf run.trace = exchanges i (outcomes (agenda p) outputs) ++
        (stop.toList.map (fun c => .exec i c.1.command) ++ [.kill i]) ∧
      (∀ t, teardownText i (service.kill i s').answer = some t →
        .note (.log ⟨.error, t⟩) ∈ run.trace) ∧
      run.answer = match stop with
        | none => .ok ⟨name, i, outcomes (agenda p) outputs,
            teardownText i (service.kill i s').answer⟩
        | some (check, halt) => .error (named check halt) := by
  intro run
  have hrun : run = _ := runOn_of_ne_panic service (runChecks_ne_panic service hcalm hexec)
  obtain ⟨outputs, stop, hran, hlife, hanswer⟩ :=
    ran_runChecks service (g := .hold i) rfl hcalm (agenda p) [] s
  generalize runChecks service (.hold i) observer [] (agenda p) s = ran at hran hlife hanswer hrun
  obtain ⟨hreport, hlog⟩ := conclude_of_held service (g := .hold i) rfl name ran.answer ran.state
  rw [hrun]
  refine ⟨outputs, stop, ran.state, hran, ?_, ?_, ?_⟩
  · have hkill := lifeOf_conclude service (g := .hold i) rfl name ran.answer ran.state
    simp [Event.ofLife, hlife, hkill]
  · intro t ht
    simp [hlog t ht]
  · rw [hreport, hanswer]
    cases stop <;> rfl

/-- A run on an instance that was granted, where nothing panics. With `outputs` left behind by the
checks up to the first one that cannot be run, if there is one, these checks and no others ran; each
outcome was handed on right after its command; and the run answers with all outcomes, or with why
that check could not be run. A failed teardown is logged, and if there is a report it is in it. -/
theorem verify_calm {name : String} {p : Plan} {capacity : Capacity} {observer : Observer} {s : σ}
    {i : String} (hp : p.violation? = none)
    (ha : (service.acquire name p.env capacity s).answer = .ok i)
    (hcalm : ∀ done o, observer done o = false)
    (hexec : .error .panic ∉ service.answers i ((agenda p).map (·.1.command))
      (service.acquire name p.env capacity s).state) :
    let run := verify service name p capacity observer s
    let acquired := (service.acquire name p.env capacity s).state
    let checks := p.checks.map (fun c => (c, CheckKind.command)) ++
      p.smoke.toList.map fun c => (c, CheckKind.smoke)
    let commands := checks.map (·.1.command)
    let answers := service.answers i commands acquired
    ∃ outputs : List Output, answers.take outputs.length = outputs.map .ok ∧
      let entries := outcomes checks outputs
      let killed := service.kill i (service.after i (commands.take (outputs.length + 1)) acquired)
      let text := teardownText i killed.answer
      (∀ o ∈ entries, o.passed = true ↔ o.output.exit = 0) ∧
      (∀ t, text = some t → .note (.log ⟨.error, t⟩) ∈ run.trace) ∧
      ((outputs.length = checks.length ∧
          lifeOf run.trace = .acquire name p.env capacity (some i) ::
            (exchanges i entries ++ [.kill i]) ∧
          run.answer = .ok ⟨name, i, entries, text⟩) ∨
        ∃ check kind e, checks[outputs.length]? = some (check, kind) ∧
          answers[outputs.length]? = some (.error (.error e)) ∧
          lifeOf run.trace = .acquire name p.env capacity (some i) ::
            (exchanges i entries ++ [.exec i check.command, .kill i]) ∧
          run.answer = .error (.error (match e with
            | .service reason =>
              .service ("check " ++ Text.quoted check.label ++ ": " ++ reason)
            | e => e))) := by
  intro run acquired checks commands answers
  obtain ⟨outputs, stop, s', hran, hlife, hlog, hanswer⟩ :=
    runOn_calm service name hcalm hexec
  have hrun : run = _ := verify_of_granted hp ha
  cases hran.state
  refine ⟨outputs, hran.answers, fun o _ => by simp [Outcome.passed], ?_, ?_⟩
  · intro t ht
    rw [hrun]
    simp [hlog t ht]
  · have hlife : lifeOf run.trace = .acquire name p.env capacity (some i) ::
        (exchanges i (outcomes (agenda p) outputs) ++
          (stop.toList.map (fun c => .exec i c.1.command) ++ [.kill i])) := by
      rw [hrun]
      simpa [Event.ofLife] using hlife
    have hanswer := (congrArg Done.answer hrun).trans hanswer
    rcases hran.ne_panic service hexec with rfl | ⟨check, e, rfl⟩
    · exact .inl ⟨hran.length_eq, hlife, hanswer⟩
    · obtain ⟨⟨kind, hcheck⟩, herror⟩ := hran.getElem?_stop
      exact .inr ⟨check, kind, e, hcheck, herror, hlife,
        hanswer.trans (congrArg Except.error (named_error check e))⟩

/-- A service that loses the instance at the second of three checks, and cannot kill it. -/
def losing : Scripted.Script where
  execs := [.ok { exit := 3 }, .error (.error (.service "lost"))]
  kills := [.error (.service "stuck")]

/-- The first check fails and the run goes on; the second one is what the run answers with. -/
theorem verify_calm_losing :
    let p : Plan := ⟨.empty, [⟨"first", "true"⟩, ⟨"second", "true"⟩], some ⟨"last", "true"⟩⟩
    let answers := Scripted.service.answers "fake" ["true", "true", "true"] losing
    p.violation? = none ∧
      (Scripted.service.acquire "image" p.env {} losing).answer = .ok "fake" ∧
      .error .panic ∉ answers ∧
      (verify Scripted.service "image" p {} .calm losing).answer =
        .error (.error (.service ("check " ++ Text.quoted "second" ++ ": " ++ "lost"))) := by
  intro p answers
  have hp : p.violation? = none := by decide
  have ha : (Scripted.service.acquire "image" p.env {} losing).answer = .ok "fake" := rfl
  have hanswers : answers = [.ok { exit := 3 }, .error (.error (.service "lost")), .ok {}] := rfl
  have hexec : .error .panic ∉ answers := by simp [hanswers]
  have hcalm (done o) : Observer.calm done o = false := rfl
  refine ⟨hp, ha, hexec, ?_⟩
  obtain ⟨outputs, hoks, _, _, h⟩ := verify_calm Scripted.service hp ha hcalm hexec
  change answers.take outputs.length = _ at hoks
  rw [hanswers] at hoks
  -- the second answer is no output, so there is exactly one
  rcases outputs with _ | ⟨o, _ | ⟨o', rest⟩⟩
  · rcases h with ⟨hlength, _⟩ | ⟨_, _, _, _, herror, _⟩
    · cases hlength
    · cases herror
  · rcases h with ⟨hlength, _⟩ | ⟨check, kind, e, hcheck, herror, _, hanswer⟩
    · cases hlength
    · cases hcheck
      cases herror
      exact hanswer
  · simp at hoks

end Verifier
end SandboxImage
