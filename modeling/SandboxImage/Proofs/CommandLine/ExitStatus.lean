import SandboxImage.CommandLine.Program
import SandboxImage.Proofs.Credential.Form
import SandboxImage.Proofs.Podman.Verification

/-!
# The exit status of verifying

Verifying succeeds if everything does that comes before the report, and the policy has nothing
against the report. What must hold of podman is `Connection.Verifies` and `Connection.Passes`
(`Connection.answer_verify_iff`); the command line adds the template and the credential, without
which podman is not started (`CommandLine.run_verify_exit`).
-/

namespace SandboxImage

theorem Report.exitError?_eq_none_iff {r : Report} {policy : Policy} :
    r.exitError? policy = none ↔
      r.teardownError = none ∧ (policy = .strict → ∀ o ∈ r.entries, o.passed = true) := by
  have hfailures : r.failures.length = 0 ↔ ∀ o ∈ r.entries, o.passed = true := by
    simp [failures]
  unfold exitError?
  cases r.teardownError with
  | some text => simp
  | none =>
    rw [← hfailures]
    cases policy <;> simp

namespace Podman

theorem exit_eq_zero_iff (code : UInt8) : Int32.ofNat code.toNat = 0 ↔ code = 0 := by
  have hlt : code.toNat < 2 ^ 31 := Nat.lt_trans code.toNat_lt (by decide)
  rw [← Int32.toInt_inj, Int32.toInt_ofNat_of_lt hlt, ← UInt8.toNat_inj]
  simp

/-- An output has the exit code zero if the start that left it behind succeeded. -/
theorem Leaves.exit_iff (h : Leaves a output) : output.exit = 0 ↔ Succeeds a := by
  cases h with
  | @exited r code hcode _ =>
    rw [succeeds_ok_iff, hcode]
    simp [exit_eq_zero_iff, Ending.isSuccess]

namespace Connection

open Verifier

variable (c : Connection) (name : String) (p : Plan) (capacity : Capacity) (m : Machine)

/-- What a run that ends in a report takes: the plan is accepted, an instance is had, podman breaks
off none of the commands, and the instance is removed. -/
structure Verifies : Prop where
  accepted : p.violation? = none
  acquired : Succeeds (m.attempt (c.runArguments name p.env capacity (m.nextInstance name)))
  ran : ∀ k check kind, (agenda p)[k]? = some (check, kind) →
    ¬ Breaks (m.attemptAfter (k + 1) (c.execArguments (m.nextInstance name) check.command))
  removed : Succeeds
    (m.attemptAfter ((agenda p).length + 1) (c.removeArguments (m.nextInstance name)))

/-- Every command exits with zero. -/
def Passes : Prop :=
  ∀ k check kind, (agenda p)[k]? = some (check, kind) →
    Succeeds (m.attemptAfter (k + 1) (c.execArguments (m.nextInstance name) check.command))

variable {c name p capacity m}

theorem verify_ne_panic : (verify c.service name p capacity .calm m).answer ≠ .error .panic := by
  intro hanswer
  cases hp : p.violation? with
  | some violation =>
    rw [verify_of_violation hp] at hanswer
    cases hanswer
  | none =>
    by_cases h : Succeeds (m.attempt (c.runArguments name p.env capacity (m.nextInstance name)))
    · obtain ⟨outputs, -, -, ⟨-, text, hok, -⟩ | ⟨check, kind, reason, -, -, herror⟩⟩ :=
        c.exists_outputs name capacity m hp h
      · cases hok.symm.trans hanswer
      · cases herror.symm.trans hanswer
    · obtain ⟨-, text, herror⟩ := c.verify_of_not_succeeds name capacity m hp h
      cases herror.symm.trans hanswer

/-- Where there is an output for each command, each command has left its own. -/
theorem exists_leaves {checks : List (Check × CheckKind)} {outputs : List Output}
    {attempt : Nat → Check → Except SystemFault Response}
    (h : ∀ k output, outputs[k]? = some output → ∃ check kind,
      checks[k]? = some (check, kind) ∧ Leaves (attempt k check) output)
    (hlength : outputs.length = checks.length) {k : Nat} {check : Check} {kind : CheckKind}
    (hcheck : checks[k]? = some (check, kind)) :
    ∃ output, outputs[k]? = some output ∧ Leaves (attempt k check) output := by
  obtain ⟨hk, -⟩ := List.getElem?_eq_some_iff.1 hcheck
  have houtput : outputs[k]? = some outputs[k] := List.getElem?_eq_getElem (hlength ▸ hk)
  obtain ⟨check', kind', hcheck', hleaves⟩ := h k _ houtput
  cases hcheck.symm.trans hcheck'
  exact ⟨_, houtput, hleaves⟩

theorem answer_verify_iff {policy : Policy} :
    (∃ r, (verify c.service name p capacity .calm m).answer = .ok r ∧
        r.exitError? policy = none) ↔
      c.Verifies name p capacity m ∧ (policy = .strict → c.Passes name p m) := by
  constructor
  · rintro ⟨r, hanswer, hexit⟩
    obtain ⟨hteardown, hpassed⟩ := Report.exitError?_eq_none_iff.1 hexit
    have hp : p.violation? = none := by
      by_contra hp
      obtain ⟨violation, hp⟩ := Option.ne_none_iff_exists'.1 hp
      rw [verify_of_violation hp] at hanswer
      cases hanswer
    have h : Succeeds (m.attempt (c.runArguments name p.env capacity (m.nextInstance name))) := by
      by_contra h
      obtain ⟨-, text, herror⟩ := c.verify_of_not_succeeds name capacity m hp h
      cases herror.symm.trans hanswer
    obtain ⟨outputs, houtputs, -, ⟨hlength, text, hok, htext⟩ | ⟨_, _, _, -, -, herror⟩⟩ :=
      c.exists_outputs name capacity m hp h
    · cases hok.symm.trans hanswer
      refine ⟨⟨hp, h, fun k check kind hcheck => ?_, htext.1 hteardown⟩,
        fun hstrict k check kind hcheck => ?_⟩
      · obtain ⟨output, -, hleaves⟩ := exists_leaves houtputs hlength hcheck
        exact hleaves.not_breaks
      · obtain ⟨output, houtput, hleaves⟩ := exists_leaves houtputs hlength hcheck
        have hmem : (⟨check, kind, output⟩ : Outcome) ∈ outcomes (agenda p) outputs := by
          refine List.mem_of_getElem? (i := k) ?_
          simp [outcomes, List.getElem?_zipWith, hcheck, houtput]
        refine hleaves.exit_iff.1 ?_
        simpa [Outcome.passed] using hpassed hstrict _ hmem
    · cases herror.symm.trans hanswer
  · rintro ⟨⟨hp, h, hran, hremoved⟩, hpasses⟩
    obtain ⟨outputs, houtputs, -, ⟨hlength, text, hok, htext⟩ |
      ⟨check, kind, -, hcheck, hbreaks, -⟩⟩ := c.exists_outputs name capacity m hp h
    · refine ⟨_, hok, Report.exitError?_eq_none_iff.2 ⟨htext.2 hremoved, fun hstrict o ho => ?_⟩⟩
      obtain ⟨k, ho⟩ := List.mem_iff_getElem?.1 ho
      simp only [outcomes, List.getElem?_zipWith_eq_some] at ho
      obtain ⟨⟨check, kind⟩, output, hcheck, houtput, rfl⟩ := ho
      obtain ⟨output', houtput', hleaves⟩ := exists_leaves houtputs hlength hcheck
      cases houtput.symm.trans houtput'
      simpa [Outcome.passed] using hleaves.exit_iff.2 (hpasses hstrict k check kind hcheck)
    · exact absurd hbreaks (hran _ check kind hcheck)

end Connection
end Podman

namespace CommandLine

open Podman (Machine Connection Succeeds)

/-! ## Loading -/

/-- The template that a request is about: that of the file it names, or of the nearest template file
of the working directory, or the toolchain if there is no such file. -/
inductive Loads (around : Surroundings) : Option Files.Path → Template → Prop
  | named : Template.load around.files path = .ok t → Loads around (some path) t
  | nearest : around.directory = .ok directory →
    Template.nearest? around.files directory = some path →
    Template.load around.files path = .ok t → Loads around none t
  | toolchain : around.directory = .ok directory →
    Template.nearest? around.files directory = none → Loads around none Template.toolchain

theorem templateOf_some_eq_ok_iff {files : Files} {path : Files.Path} {t : Template} :
    templateOf files (some path) = .ok t ↔ Template.load files path = .ok t := by
  change (Template.load files path).mapError Failure.error = .ok t ↔ _
  cases Template.load files path <;> simp

variable {around : Surroundings}

theorem loads_iff {file : Option Files.Path} {t : Template} :
    Loads around file t ↔ loadTemplate around file = .ok t := by
  constructor
  · rintro (h | ⟨hdirectory, hnearest, h⟩ | ⟨hdirectory, hnearest⟩)
    · exact templateOf_some_eq_ok_iff.2 h
    · simp only [loadTemplate, templatePath, hdirectory, hnearest]
      exact templateOf_some_eq_ok_iff.2 h
    · simp only [loadTemplate, templatePath, hdirectory, hnearest]
      rfl
  · intro h
    cases file with
    | some path => exact .named (templateOf_some_eq_ok_iff.1 h)
    | none =>
      simp only [loadTemplate, templatePath] at h
      cases hdirectory : around.directory with
      | error fault =>
        rw [hdirectory] at h
        cases h
      | ok directory =>
        rw [hdirectory] at h
        cases hnearest : Template.nearest? around.files directory with
        | none =>
          simp only [hnearest] at h
          cases h
          exact .toolchain hdirectory hnearest
        | some path =>
          simp only [hnearest] at h
          exact .nearest hdirectory hnearest (templateOf_some_eq_ok_iff.1 h)

theorem loadTemplate_ne_takenDown {file : Option Files.Path} :
    loadTemplate around file ≠ .error .takenDown := by
  have hof (path : Option Files.Path) : templateOf around.files path ≠ .error .takenDown := by
    cases path with
    | none => simp [templateOf]
    | some path =>
      change (Template.load around.files path).mapError Failure.error ≠ _
      cases Template.load around.files path <;> simp
  intro h
  unfold loadTemplate at h
  cases hpath : templatePath around file with
  | ok path =>
    rw [hpath] at h
    exact hof path h
  | error f =>
    rw [hpath] at h
    cases h
    -- only the working directory is looked up before
    cases file with
    | some path => cases hpath
    | none =>
      simp only [templatePath] at hpath
      split at hpath <;> cases hpath

variable (url : Option String) (m : Machine)

/-! ## Connecting -/

theorem connect_of_error {e : Error} (h : Credential.ofVariable around.credential = .error e) :
    connect around url m = ⟨[], .error (.error e), m⟩ := by
  simp [connect, h]

theorem connect_of_ok {credential : Credential}
    (h : Credential.ofVariable around.credential = .ok credential) :
    Succeeds (m.attempt (Connection.versionArguments url)) ∧
        (connect around url m).answer = .ok ⟨url, credential⟩ ∧
        (connect around url m).state = m.afterStart ∨
      ¬ Succeeds (m.attempt (Connection.versionArguments url)) ∧
        ∃ e, (connect around url m).answer = .error (.error e) := by
  rcases Connection.answer_connect m url credential with ⟨hs, hok⟩ | ⟨hs, e, herror⟩
  · refine .inl ⟨hs, ?_, ?_⟩
    · simp [connect, h, hok]
    · obtain ⟨r, hr, -⟩ := hs
      have hstate := (Connection.asks_connect m url credential).state
      simp [connect, h, hok, hstate, Machine.next_of_attempt hr]
  · refine .inr ⟨hs, e, ?_⟩
    simp [connect, h, herror]

/-! ## Verifying -/

/-- What the end of a verify run means for the program. -/
def settled (policy : Policy) : Except Halt Report → Except Failure Unit
  | .error (.error e) => .error (.error e)
  | .error .panic => .error .takenDown
  | .ok report => judge report policy

theorem settled_eq_ok_iff {policy : Policy} {a : Except Halt Report} :
    settled policy a = .ok () ↔ ∃ r, a = .ok r ∧ r.exitError? policy = none := by
  cases a with
  | error halt => cases halt <;> simp [settled]
  | ok report => cases h : report.exitError? policy <;> simp [settled, judge, h]

theorem settled_ne_takenDown {policy : Policy} {a : Except Halt Report}
    (h : a ≠ .error .panic) : settled policy a ≠ .error .takenDown := by
  cases a with
  | error halt =>
    cases halt with
    | error e => simp [settled]
    | panic => exact absurd rfl h
  | ok report => cases h : report.exitError? policy <;> simp [settled, judge, h]

variable {url m} {t : Template} {policy : Policy} {c : Connection}

/-- What is printed and logged about a report has no part in the answer. -/
theorem answer_verify_of_connected (hc : (connect around url m).answer = .ok c) :
    (verify around url t policy m).answer =
      settled policy (Verifier.verify c.service t.name t.plan t.capacity .calm
        (connect around url m).state).answer := by
  cases hanswer : (Verifier.verify c.service t.name t.plan t.capacity .calm
      (connect around url m).state).answer with
  | error halt => cases halt <;> simp [verify, settled, hc, hanswer]
  | ok report =>
    cases hjudge : judge report policy with
    | error f => simp [verify, settled, hc, hanswer, hjudge]
    | ok =>
      cases hpassed : report.allPassed <;>
        simp [verify, settled, hc, hanswer, hjudge, hpassed]

/-- Without a connection the answer is that of connecting. -/
theorem verify_of_unconnected {f : Failure} (hc : (connect around url m).answer = .error f) :
    verify around url t policy m =
      ⟨(connect around url m).trace, .error f, (connect around url m).state⟩ := by
  simp [verify, hc]

theorem verify_ne_takenDown : (verify around url t policy m).answer ≠ .error .takenDown := by
  cases h : Credential.ofVariable around.credential with
  | error e =>
    rw [verify_of_unconnected (congrArg Done.answer (connect_of_error url m h))]
    simp
  | ok credential =>
    rcases connect_of_ok url m h with ⟨-, hok, -⟩ | ⟨-, e, herror⟩
    · rw [answer_verify_of_connected hok]
      exact settled_ne_takenDown Connection.verify_ne_panic
    · rw [verify_of_unconnected herror]
      simp

theorem answer_verify_iff {credential : Credential}
    (h : Credential.ofVariable around.credential = .ok credential) :
    (verify around url t policy m).answer = .ok () ↔
      Succeeds (m.attempt (Connection.versionArguments url)) ∧
        Connection.Verifies ⟨url, credential⟩ t.name t.plan t.capacity m.afterStart ∧
        (policy = .strict → Connection.Passes ⟨url, credential⟩ t.name t.plan m.afterStart) := by
  rcases connect_of_ok url m h with ⟨hs, hok, hstate⟩ | ⟨hs, e, herror⟩
  · rw [answer_verify_of_connected hok, settled_eq_ok_iff, hstate, and_iff_right hs]
    exact Connection.answer_verify_iff
  · rw [verify_of_unconnected herror]
    simp [hs]

/-! ## The program -/

variable {request : Request} {arguments : List Bytes} {name : Option String} {strict : Bool}

theorem run_of_request (h : Request.ofArguments arguments = .ok request) :
    run arguments around m =
      let done := request.run around m
      ⟨done.trace, exitOf done.trace done.answer, done.state⟩ := by
  simp [run, h]

theorem exitOf_code_eq_zero_iff {trace : List Event} {answer : Except Failure Unit} :
    (exitOf trace answer).code = 0 ↔ answer = .ok () := by
  cases answer <;> simp [exitOf]

/-- Without a template nothing is done, but lines may be logged. -/
theorem request_of_unloaded (request : Request) {f : Failure}
    (h : loadTemplate around request.file = .error f) :
    ∃ lines : List LogLine,
      request.run around m = ⟨lines.map fun l => .note (.log l), .error f, m⟩ := by
  unfold loadTemplate at h
  unfold Request.run
  cases hpath : templatePath around request.file with
  | error f' =>
    rw [hpath] at h
    cases h
    exact ⟨[], rfl⟩
  | ok path =>
    rw [hpath] at h
    change templateOf around.files path = .error f at h
    refine ⟨[⟨.info, provenance path⟩], ?_⟩
    simp [h]

/-- With a template the task is done with it. -/
theorem request_of_loaded (request : Request) (h : loadTemplate around request.file = .ok t) :
    ∃ lines : List LogLine,
      request.run around m =
        let done := perform around request.url t request.task m
        ⟨(lines.map fun l => .note (.log l)) ++ done.trace, done.answer, done.state⟩ := by
  unfold loadTemplate at h
  unfold Request.run
  cases hpath : templatePath around request.file with
  | error f =>
    rw [hpath] at h
    cases h
  | ok path =>
    rw [hpath] at h
    change templateOf around.files path = .ok t at h
    refine ⟨[⟨.info, provenance path⟩, ⟨.info, "template alias " ++ Text.quoted t.name⟩], ?_⟩
    simp [h]

theorem started_of_unloaded {f : Failure} (h : loadTemplate around request.file = .error f) :
    (request.run around m).answer = .error f ∧ started (request.run around m).trace = [] := by
  obtain ⟨lines, hrun⟩ := request_of_unloaded (m := m) request h
  rw [hrun]
  exact ⟨rfl, Builder.started_logAll lines⟩

theorem request_of_verify (hload : loadTemplate around request.file = .ok t)
    (htask : request.task = .verify name strict) :
    let done := verify around request.url (adjusted t name none none)
      (if strict then .strict else .lenient) m
    (request.run around m).answer = done.answer ∧
      started (request.run around m).trace = started done.trace := by
  obtain ⟨lines, hrun⟩ := request_of_loaded (m := m) request hload
  rw [hrun, htask]
  refine ⟨rfl, ?_⟩
  rw [started_append, Builder.started_logAll]
  rfl

theorem request_ne_takenDown (htask : request.task = .verify name strict) :
    (request.run around m).answer ≠ .error .takenDown := by
  cases hload : loadTemplate around request.file with
  | error f =>
    rw [(started_of_unloaded hload).1]
    rintro ⟨⟩
    exact loadTemplate_ne_takenDown hload
  | ok t =>
    rw [(request_of_verify hload htask).1]
    exact verify_ne_takenDown

/-- The conditions are those that the parts of the program test, in their order. -/
theorem answer_request_iff (htask : request.task = .verify name strict) :
    (request.run around m).answer = .ok () ↔ ∃ (t : Template) (credential : Credential),
      Loads around request.file t ∧
      credential.HeldBy around.credential ∧
      Succeeds (m.attempt (Connection.versionArguments request.url)) ∧
      let c : Connection := ⟨request.url, credential⟩
      c.Verifies (name.getD t.name) t.plan t.capacity m.afterStart ∧
        (strict = true → c.Passes (name.getD t.name) t.plan m.afterStart) := by
  simp only [loads_iff]
  cases hload : loadTemplate around request.file with
  | error f => simp [(started_of_unloaded hload).1]
  | ok t =>
    rw [(request_of_verify hload htask).1]
    cases hcredential : Credential.ofVariable around.credential with
    | error e =>
      have hnone (credential : Credential) : ¬ credential.HeldBy around.credential := by
        rw [← Credential.ofVariable_iff, hcredential]
        simp
      rw [verify_of_unconnected (congrArg Done.answer (connect_of_error request.url m hcredential))]
      simp [hnone]
    | ok credential =>
      have hheld (other : Credential) :
          other.HeldBy around.credential ↔ other = credential := by
        rw [← Credential.ofVariable_iff, hcredential, Except.ok.injEq, eq_comm]
      rw [answer_verify_iff hcredential]
      simp only [hheld, Except.ok.injEq, exists_eq_left', exists_and_left, exists_eq_left]
      cases strict <;> simp [adjusted]

theorem started_of_unready (htask : request.task = .verify name strict)
    (h : (∀ t, ¬ Loads around request.file t) ∨
      ∀ credential : Credential, ¬ credential.HeldBy around.credential) :
    started (request.run around m).trace = [] := by
  cases hload : loadTemplate around request.file with
  | error f => exact (started_of_unloaded hload).2
  | ok t =>
    have hcredential : ∃ e, Credential.ofVariable around.credential = .error e := by
      cases hcredential : Credential.ofVariable around.credential with
      | error e => exact ⟨e, rfl⟩
      | ok credential =>
        rcases h with h | h
        · exact absurd (loads_iff.2 hload) (h t)
        · exact absurd (Credential.ofVariable_iff.1 hcredential) (h credential)
    obtain ⟨e, hcredential⟩ := hcredential
    have hconnect := connect_of_error request.url m hcredential
    rw [(request_of_verify hload htask).2,
      verify_of_unconnected (congrArg Done.answer hconnect), hconnect]
    rfl

/-- Verifying exits with zero if there is a template, that of the given file, of the nearest one or
the toolchain, the credential is there and has its form, podman can be used, the plan is accepted,
an instance is had, podman breaks off none of the commands, the instance is removed and, where
failed checks are asked to fail the run, every command exits with zero. Otherwise it exits with one,
and never because it was taken down. Without a template or a credential podman is not started. -/
theorem run_verify_exit (h : Request.ofArguments arguments = .ok request)
    (htask : request.task = .verify name strict) :
    let done := run arguments around m
    (done.answer.code = 0 ↔ ∃ (t : Template) (credential : Credential),
      Loads around request.file t ∧
      credential.HeldBy around.credential ∧
      Succeeds (m.attempt (Connection.versionArguments request.url)) ∧
      let c : Connection := ⟨request.url, credential⟩
      c.Verifies (name.getD t.name) t.plan t.capacity m.afterStart ∧
        (strict = true → c.Passes (name.getD t.name) t.plan m.afterStart)) ∧
    (done.answer.code ≠ 0 → done.answer.code = 1 ∧
      ∃ f, f ≠ Failure.takenDown ∧ (request.run around m).answer = .error f) ∧
    ((∀ t, ¬ Loads around request.file t) ∨
      (∀ credential : Credential, ¬ credential.HeldBy around.credential) →
      started done.trace = []) := by
  intro done
  have hdone : done = _ := run_of_request h
  have hcode : done.answer.code = 0 ↔ (request.run around m).answer = .ok () := by
    rw [hdone]
    exact exitOf_code_eq_zero_iff
  refine ⟨hcode.trans (answer_request_iff htask), fun hne => ?_, fun hunready => ?_⟩
  · cases hanswer : (request.run around m).answer with
    | ok => exact absurd (hcode.2 hanswer) hne
    | error f =>
      refine ⟨?_, f, ?_, rfl⟩
      · rw [hdone]
        simp [hanswer, exitOf]
      · rintro rfl
        exact request_ne_takenDown htask hanswer
  · rw [hdone]
    exact started_of_unready htask hunready

/-- A machine on which one of the toolchain's checks fails, the smoke check. -/
def smoking : Machine where
  script
    | 8 => { ending := .exited 101, stderr := Text.encode "error: no space left on device" }
    | _ => {}
  clock _ := 5
  process := 7
  scratch := "/tmp"

/-- Surroundings without a template file. -/
def bare : Surroundings :=
  ⟨⟨fun _ => .error .notFound⟩, Text.encode "/work", some (Text.encode " robot:hunter2\n")⟩

/-- A failed check alone fails the run where that is asked for, and only there. -/
theorem run_verify_exit_smoking :
    let lenient := [Text.encode "verify"]
    let strict := [Text.encode "verify", Text.encode "--strict"]
    Request.ofArguments lenient = .ok ⟨none, none, .verify none false⟩ ∧
      Request.ofArguments strict = .ok ⟨none, none, .verify none true⟩ ∧
      (run strict bare smoking).answer.code = 1 ∧
      ∃ (t : Template) (credential : Credential),
        Loads bare none t ∧ credential.HeldBy bare.credential ∧
        Succeeds (smoking.attempt (Connection.versionArguments none)) ∧
        Connection.Verifies ⟨none, credential⟩ t.name t.plan t.capacity smoking.afterStart := by
  intro lenient strict
  have hlenient : Request.ofArguments lenient = .ok ⟨none, none, .verify none false⟩ := by
    decide +kernel
  have hstrict : Request.ofArguments strict = .ok ⟨none, none, .verify none true⟩ := by
    decide +kernel
  have hone : (run strict bare smoking).answer.code ≠ 0 := by decide +kernel
  have hzero : (run lenient bare smoking).answer.code = 0 := by decide +kernel
  obtain ⟨-, hfailed, -⟩ := run_verify_exit (m := smoking) hstrict rfl
  obtain ⟨hpassed, -, -⟩ := run_verify_exit (m := smoking) hlenient rfl
  obtain ⟨t, credential, hload, hheld, hversion, hverifies, -⟩ := hpassed.1 hzero
  exact ⟨hlenient, hstrict, (hfailed hone).1, t, credential, hload, hheld, hversion, hverifies⟩

end CommandLine
end SandboxImage
