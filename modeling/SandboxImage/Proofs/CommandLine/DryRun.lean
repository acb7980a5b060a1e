import SandboxImage.Proofs.Builder.Contract
import SandboxImage.Proofs.CommandLine.ExitStatus
import SandboxImage.Proofs.Containerfile.Lines

/-!
# Rendering as a dry run

What rendering comes to is decided by the template alone (`CommandLine.run_render`). Building
loads the same template and looks through the same recipe, after the name, which rendering does not
look at; so what is printed by the one is what the other writes into the file that podman is told to
read (`CommandLine.render_foretells_build`). Rendering asks nothing of the machine, so it does not
foretell that a build has no directory for that file.
-/

namespace SandboxImage

namespace Console

@[simp]
theorem transcript_nil : transcript [] = "" := rfl

@[simp]
theorem transcript_cons (e : Event) (trace : List Event) :
    transcript (e :: trace) = shown e ++ transcript trace :=
  String.join_cons

@[simp]
theorem transcript_append (t u : List Event) :
    transcript (t ++ u) = transcript t ++ transcript u := by
  rw [transcript, List.map_append, String.join_append]
  rfl

/-- The operator sees nothing of the log. -/
@[simp]
theorem transcript_map_log (lines : List LogLine) :
    transcript (lines.map fun l => .note (.log l)) = "" := by
  induction lines with
  | nil => rfl
  | cons l lines ih =>
    rw [List.map_cons, transcript_cons, ih]
    rfl

end Console

/-- A recipe that is rejected is rejected under every name. -/
theorem Builder.exists_violation {r : Recipe} {violation : Violation}
    (h : r.validate.violation = some violation) (name : String) :
    ∃ other, (verdict name r).violation = some other := by
  cases hblank : Text.isBlankText name with
  | true => exact ⟨_, congrArg Verdict.violation (verdict_of_blank hblank r)⟩
  | false => exact ⟨violation, (congrArg Verdict.violation (verdict_of_filled hblank r)).trans h⟩

namespace CommandLine

open Podman (Machine Connection Succeeds)

variable {around : Surroundings} {request : Request} {m : Machine} {t : Template}
  {url : Option String}

/-! ## Rendering -/

theorem render_of_violation {violation : Violation}
    (h : t.recipe.validate.violation = some violation) :
    render t m =
      ⟨t.recipe.validate.log.map fun l => .note (.log l), .error (.error (.invalid violation)),
        m⟩ := by
  unfold render
  rcases hv : t.recipe.validate with ⟨log, _ | v⟩
  · rw [hv] at h
    cases h
  · rw [hv] at h
    cases h
    simp [Step.logAll]

theorem render_of_accepted (h : t.recipe.validate.violation = none) :
    render t m =
      ⟨(t.recipe.validate.log.map fun l => .note (.log l)) ++
          [.print (t.recipe.containerfile t.name t.recipe.fingerprint)], .ok (), m⟩ := by
  unfold render
  rcases hv : t.recipe.validate with ⟨log, _ | v⟩
  · simp [Step.logAll]
  · rw [hv] at h
    cases h

/-- What rendering comes to, by what was loaded. -/
def rendition : Except Failure Template → Exit
  | .error f => ⟨1, "", f.written⟩
  | .ok t =>
    match t.recipe.validate.violation with
    | some violation => ⟨1, "", (Failure.error (.invalid violation)).written⟩
    | none => ⟨0, t.recipe.containerfile t.name t.recipe.fingerprint, ""⟩

theorem rendition_of_violation {violation : Violation}
    (h : t.recipe.validate.violation = some violation) :
    rendition (.ok t) = ⟨1, "", (Failure.error (.invalid violation)).written⟩ := by
  simp [rendition, h]

theorem rendition_of_valid (h : t.recipe.validate.violation = none) :
    rendition (.ok t) = ⟨0, t.recipe.containerfile t.name t.recipe.fingerprint, ""⟩ := by
  simp [rendition, h]

theorem rendition_code_eq_zero_iff :
    (rendition (.ok t)).code = 0 ↔ t.recipe.validate.violation = none := by
  cases h : t.recipe.validate.violation with
  | some violation => simp [rendition_of_violation h]
  | none => simp [rendition_of_valid h]

variable {arguments : List Bytes} {file : Option Files.Path}

theorem run_render (h : Request.ofArguments arguments = .ok ⟨file, url, .render⟩) :
    let done := run arguments around m
    done.answer = rendition (loadTemplate around file) ∧ started done.trace = [] ∧
      done.state = m := by
  intro done
  have hdone : done = _ := run_of_request h
  rw [hdone]
  cases hload : loadTemplate around file with
  | error f =>
    obtain ⟨lines, hrun⟩ := request_of_unloaded (m := m) ⟨file, url, .render⟩ hload
    rw [hrun]
    refine ⟨?_, Builder.started_logAll lines, rfl⟩
    simp [exitOf, rendition]
  | ok t =>
    obtain ⟨lines, hrun⟩ := request_of_loaded (m := m) ⟨file, url, .render⟩ hload
    rw [hrun, perform]
    cases hviolation : t.recipe.validate.violation with
    | some violation =>
      rw [render_of_violation hviolation]
      refine ⟨?_, ?_, rfl⟩
      · simp [exitOf, rendition_of_violation hviolation]
      · simp [Builder.started_logAll]
    | none =>
      rw [render_of_accepted hviolation]
      refine ⟨?_, ?_, rfl⟩
      · simp [exitOf, rendition_of_valid hviolation, Console.shown]
      · simp [Builder.started_logAll, Event.start?]

/-! ## Building -/

variable {c : Connection} {credential : Credential}

theorem started_connect (h : Credential.ofVariable around.credential = .ok credential) :
    started (connect around url m).trace =
      [⟨Connection.versionArguments url, [],
        (m.spawn (Connection.versionArguments url)).isOk⟩] := by
  have hstarts := (Connection.asks_connect m url credential).starts
  cases hanswer : (Connection.connect url credential m).answer with
  | error e => simp [connect, h, hanswer, hstarts]
  | ok c => simp [connect, h, hanswer, hstarts, Event.start?]

theorem build_of_connected (hc : (connect around url m).answer = .ok c) :
    let connected := connect around url m
    let done := Builder.build c.service t.name t.recipe t.capacity connected.state
    (∀ e, done.answer = .error e → (build around url t m).answer = .error (.error e)) ∧
      started (build around url t m).trace = started connected.trace ++ started done.trace := by
  intro connected done
  cases hanswer : done.answer with
  | error e => simp [build, hc, connected, done, hanswer]
  | ok result => simp [build, hc, connected, done, hanswer, Event.start?]

section

variable (hcredential : Credential.ofVariable around.credential = .ok credential)
  (hversion : Succeeds (m.attempt (Connection.versionArguments url)))
include hcredential hversion

theorem connect_of_succeeds :
    (connect around url m).answer = .ok ⟨url, credential⟩ ∧
      started (connect around url m).trace = [⟨Connection.versionArguments url, [], true⟩] ∧
      (connect around url m).state = m.afterStart := by
  obtain ⟨-, hok, hstate⟩ | ⟨hfails, -⟩ := connect_of_ok url m hcredential
  · refine ⟨hok, ?_, hstate⟩
    obtain ⟨r, hr, -⟩ := hversion
    rw [started_connect hcredential, Machine.spawn_of_attempt hr]
    rfl
  · exact absurd hversion hfails

/-- A build that is rejected has only asked podman for its version. -/
theorem build_of_violation {violation : Violation}
    (h : (Builder.verdict t.name t.recipe).violation = some violation) :
    (build around url t m).answer = .error (.error (.invalid violation)) ∧
      started (build around url t m).trace =
        [⟨Connection.versionArguments url, [], true⟩] := by
  obtain ⟨hok, hstarts, -⟩ := connect_of_succeeds hcredential hversion
  obtain ⟨hanswer, hbuild⟩ := build_of_connected (t := t) hok
  rw [Builder.build_of_violation h] at hanswer hbuild
  refine ⟨hanswer _ rfl, ?_⟩
  rw [hbuild, hstarts, Builder.started_logAll]
  rfl

variable (h : (Builder.verdict t.name t.recipe).violation = none)
include h

/-- A build that is accepted but has no directory fails with what hinders it. -/
theorem build_of_hindered {e : Error} (he : m.workspace.Hinders e) :
    (build around url t m).answer = .error (.error e) ∧
      started (build around url t m).trace =
        [⟨Connection.versionArguments url, [], true⟩] := by
  obtain ⟨hok, hstarts, hstate⟩ := connect_of_succeeds hcredential hversion
  obtain ⟨hanswer, hbuild⟩ := build_of_connected (t := t) hok
  have hprepared : m.afterStart.workspace.prepared = .error e := he.prepared_eq
  rw [hstate] at hanswer hbuild
  refine ⟨hanswer e ?_, ?_⟩
  · refine (congrArg Done.answer (Builder.build_of_accepted h)).trans ?_
    refine Builder.settle_eq_error_iff.2 (.inl ?_)
    exact congrArg Done.answer (Connection.build_of_unprepared _ _ _ hprepared)
  · rw [hbuild, hstarts, Connection.started_build_of_unprepared h _ hprepared]
    rfl

/-- A build that is accepted and has its directory starts podman once more, for the recipe. -/
theorem started_build_of_accepted {directory : String}
    (hdirectory : m.workspace.prepared = .ok directory) :
    let invocation := Podman.Invocation.build
      ⟨t.name, t.recipe, t.capacity, t.recipe.fingerprint⟩ directory
    ∃ began, started (build around url t m).trace =
      [⟨Connection.versionArguments url, [], true⟩,
        ⟨invocation.arguments url (some credential), invocation.files, began⟩] := by
  intro invocation
  obtain ⟨hok, hstarts, hstate⟩ := connect_of_succeeds hcredential hversion
  obtain ⟨-, hbuild⟩ := build_of_connected (t := t) hok
  have hprepared : m.afterStart.workspace.prepared = .ok directory := hdirectory
  rw [hstate] at hbuild
  rw [hbuild, hstarts, Connection.started_build_of_prepared h _ hprepared]
  exact ⟨_, rfl⟩

end

/-- Without a template every task fails, and starts nothing. -/
theorem run_of_unloaded {f : Failure} (h : Request.ofArguments arguments = .ok request)
    (hload : loadTemplate around request.file = .error f) :
    let done := run arguments around m
    done.answer.code = 1 ∧ started done.trace = [] := by
  obtain ⟨hanswer, hstarts⟩ := started_of_unloaded (m := m) hload
  rw [run_of_request h]
  exact ⟨by simp [hanswer, exitOf], hstarts⟩

variable {building : List Bytes} {cpus : Option UInt32} {memoryMb : Option UInt64}

/-- What a build may use is set in the template that is built, and nothing else of it. -/
theorem run_build (h : Request.ofArguments building = .ok ⟨file, url, .build none cpus memoryMb⟩)
    (hload : loadTemplate around file = .ok t) :
    let done := build around url (adjusted t none cpus memoryMb) m
    let built := run building around m
    (∀ f, done.answer = .error f → built.answer.code = 1 ∧ built.answer.stderr = f.written) ∧
      started built.trace = started done.trace := by
  intro done built
  have hbuilt : built = _ := run_of_request h
  obtain ⟨lines, hrun⟩ :=
    request_of_loaded (m := m) ⟨file, url, .build none cpus memoryMb⟩ hload
  rw [hbuilt, hrun, perform]
  refine ⟨fun f hf => ?_, ?_⟩
  · change done.answer = _ at hf
    simp [done, hf, exitOf]
  · simp [done, Builder.started_logAll]

section

variable (h : Request.ofArguments building = .ok ⟨file, url, .build none cpus memoryMb⟩)
  (hload : loadTemplate around file = .ok t)
  (hcredential : Credential.ofVariable around.credential = .ok credential)
  (hversion : Succeeds (m.attempt (Connection.versionArguments url)))
include h hload hcredential hversion

/-- A program that is to build what is rejected says so, and has only asked podman for its
version. -/
theorem run_build_of_violation {violation : Violation}
    (hviolation : (Builder.verdict t.name t.recipe).violation = some violation) :
    let built := run building around m
    started built.trace = [⟨Connection.versionArguments url, [], true⟩] ∧
      built.answer.code = 1 ∧
      built.answer.stderr = (Failure.error (.invalid violation)).written := by
  intro built
  obtain ⟨hfails, hbuilt⟩ := run_build (m := m) h hload
  obtain ⟨hanswer, hstarts⟩ :=
    build_of_violation (t := adjusted t none cpus memoryMb) hcredential hversion hviolation
  exact ⟨hbuilt.trans hstarts, hfails _ hanswer⟩

variable (hverdict : (Builder.verdict t.name t.recipe).violation = none)
include hverdict

/-- A program whose build is accepted but has no directory says what hinders it. -/
theorem run_build_of_hindered {e : Error} (he : m.workspace.Hinders e) :
    let built := run building around m
    started built.trace = [⟨Connection.versionArguments url, [], true⟩] ∧
      built.answer.code = 1 ∧ built.answer.stderr = (Failure.error e).written := by
  intro built
  obtain ⟨hfails, hbuilt⟩ := run_build (m := m) h hload
  obtain ⟨hanswer, hstarts⟩ := build_of_hindered (t := adjusted t none cpus memoryMb)
    hcredential hversion hverdict he
  exact ⟨hbuilt.trans hstarts, hfails _ hanswer⟩

/-- A program whose build has its directory starts podman once more, with a file that holds the
Containerfile. -/
theorem run_build_of_prepared {directory : String}
    (hdirectory : m.workspace.prepared = .ok directory) : ∃ path rest files began,
      started (run building around m).trace = [⟨Connection.versionArguments url, [], true⟩,
        ⟨(url.elim [] fun url => ["--url", url]) ++ ["build", "--creds", credential.exposed,
          "--tag", t.name, "--file", path] ++ rest, files, began⟩] ∧
      files.lookup path = some (t.recipe.containerfile t.name t.recipe.fingerprint) := by
  let capacity := (adjusted t none cpus memoryMb).capacity
  let request : BuildRequest := ⟨t.name, t.recipe, capacity, t.recipe.fingerprint⟩
  obtain ⟨-, hbuilt⟩ := run_build (m := m) h hload
  obtain ⟨began, hstarts⟩ := started_build_of_accepted (t := adjusted t none cpus memoryMb)
    hcredential hversion hverdict hdirectory
  refine ⟨directory ++ "/Containerfile", ["--iidfile", directory ++ "/image-id", "--cpu-period",
    "100000", "--cpu-quota", Podman.Invocation.cpuQuota capacity, "--memory",
    Podman.Invocation.memory capacity, directory],
    (Podman.Invocation.build request directory).files, began, ?_, List.lookup_cons_self⟩
  rw [hbuilt, hstarts, List.append_assoc]
  rfl

end

/-! ## The dry run -/

variable {rendering : List Bytes} {url' : Option String}

/-- Rendering starts nothing, changes nothing, and does not look at the credential. Where it
succeeds, a build of the same template under its own name, with a credential and a podman that can
be used, is refused because the name is blank; or it starts podman once more, to build from a file
that holds just what was rendered, whatever the build is allowed to use. Only a build that gets no
directory for that file ends before, with what hinders it. Where rendering fails the build fails as
well, without that start. -/
theorem render_foretells_build
    (hrender : Request.ofArguments rendering = .ok ⟨file, url', .render⟩)
    (hbuild : Request.ofArguments building = .ok ⟨file, url, .build none cpus memoryMb⟩)
    (hcredential : credential.HeldBy around.credential)
    (hversion : Succeeds (m.attempt (Connection.versionArguments url))) (m' : Machine) :
    let rendered := run rendering around m'
    let built := run building around m
    let place := url.elim [] fun url => ["--url", url]
    let version : Start :=
      ⟨place ++ ["version", "--format", "\x7b\x7b.Client.Version\x7d\x7d"], [], true⟩
    (started rendered.trace = [] ∧ rendered.state = m' ∧
      ∀ other n, (run rendering { around with credential := other } n).answer =
        rendered.answer) ∧
    (rendered.answer.code = 0 → ∃ t, Loads around file t ∧
      (Text.isBlankText t.name = true ∧ started built.trace = [version] ∧
          built.answer.code = 1 ∧ built.answer.stderr = "Error: invalid alias: is empty\n" ∨
        Text.isBlankText t.name = false ∧
          ((∀ e, ¬ m.workspace.Hinders e) → ∃ path rest files began,
            started built.trace = [version, ⟨place ++ ["build", "--creds", credential.exposed,
              "--tag", t.name, "--file", path] ++ rest, files, began⟩] ∧
            files.lookup path = some rendered.answer.stdout) ∧
          ∀ e, m.workspace.Hinders e → started built.trace = [version] ∧
            built.answer.code = 1 ∧ built.answer.stderr = (Failure.error e).written)) ∧
    (rendered.answer.code ≠ 0 → rendered.answer.code = 1 ∧ built.answer.code = 1 ∧
      ∀ start ∈ started built.trace, start = version) := by
  intro rendered built place version
  obtain ⟨hrendered, hnone, hstate⟩ :
      rendered.answer = rendition (loadTemplate around file) ∧ _ ∧ _ := run_render hrender
  refine ⟨⟨hnone, hstate, fun other n => ?_⟩, ?_⟩
  · rw [hrendered]
    exact (run_render hrender).1
  have hheld := Credential.ofVariable_iff.2 hcredential
  rw [hrendered]
  cases hload : loadTemplate around file with
  | error f =>
    obtain ⟨hcode, hstarts⟩ := run_of_unloaded (m := m) hbuild hload
    refine ⟨fun hzero => absurd hzero Nat.one_ne_zero, fun _ => ⟨rfl, hcode, ?_⟩⟩
    rw [hstarts]
    intro start hstart
    cases hstart
  | ok t =>
    refine ⟨fun hzero => ⟨t, loads_iff.2 hload, ?_⟩, fun hne => ?_⟩
    · have hvalid := rendition_code_eq_zero_iff.1 hzero
      -- the name is the one thing of the template that only building looks at
      cases hblank : Text.isBlankText t.name with
      | true =>
        obtain ⟨hstarts, hcode, hstderr⟩ := run_build_of_violation hbuild hload hheld hversion
          (congrArg Verdict.violation (Builder.verdict_of_blank hblank _))
        exact .inl ⟨rfl, hstarts, hcode, hstderr⟩
      | false =>
        have hverdict : (Builder.verdict t.name t.recipe).violation = none :=
          (congrArg Verdict.violation (Builder.verdict_of_filled hblank _)).trans hvalid
        refine .inr ⟨rfl, fun hgranted => ?_,
          fun e => run_build_of_hindered hbuild hload hheld hversion hverdict⟩
        obtain ⟨e, he⟩ | ⟨directory, hdirectory⟩ := m.workspace.hinders_or_prepared
        · exact absurd he (hgranted e)
        · rw [rendition_of_valid hvalid]
          exact run_build_of_prepared hbuild hload hheld hversion hverdict hdirectory
    · obtain ⟨violation, hviolation⟩ := Option.ne_none_iff_exists'.1
        (mt rendition_code_eq_zero_iff.2 hne)
      obtain ⟨other, hother⟩ := Builder.exists_violation hviolation t.name
      obtain ⟨hstarts, hcode, -⟩ := run_build_of_violation hbuild hload hheld hversion hother
      refine ⟨congrArg Exit.code (rendition_of_violation hviolation), hcode, fun start hstart => ?_⟩
      rw [hstarts] at hstart
      exact List.mem_singleton.1 hstart

/-- A machine on which podman can be used, but no image can be built. -/
def crowded : Machine where
  script
    | 0 => {}
    | _ => { ending := .exited 125, stderr := Text.encode "Error: no space left on device" }
  clock := id
  process := 7
  scratch := "/tmp"

/-- The same machine without a place for temporary directories. -/
def homeless : Machine :=
  { crowded with scratch := ⟨fun _ => ⟨Text.encode "/tmp", fun _ => some .notFound⟩⟩ }

/-- A template file, and nothing else. -/
def solitary : Files where
  find path :=
    if path = Text.encode "t.yml" then
      .ok ⟨[path], .file (Text.encode ("alias: m\nimage:\n  base: b\n  steps: [s]\n" ++
        "verify:\n  checks: [\x7blabel: l, command: c\x7d]\n"))⟩
    else .error .notFound

/-- The build is given what is rendered, though nothing comes of it; with no place for it, the build
is not started. -/
theorem render_foretells_build_crowded :
    let around : Surroundings :=
      ⟨solitary, Text.encode "/work", some (Text.encode "robot:hunter2")⟩
    let version : Start := ⟨["version", "--format", "\x7b\x7b.Client.Version\x7d\x7d"], [], true⟩
    let rendered := run (["--file", "t.yml", "render"].map Text.encode) around crowded
    let built := run (["--file", "t.yml", "build", "--cpus", "1"].map Text.encode) around
    rendered.answer.code = 0 ∧
      (∃ path rest files began, started (built crowded).trace = [version,
          ⟨["build", "--creds", "robot:hunter2", "--tag", "m", "--file", path] ++ rest, files,
            began⟩] ∧
        files.lookup path = some rendered.answer.stdout) ∧
      started (built homeless).trace = [version] := by
  intro around version rendered built
  let file := Text.encode "t.yml"
  let t : Template := ⟨"m", ⟨"b", "root", .empty, ["s"]⟩, {}, ⟨.empty, [⟨"l", "c"⟩], none⟩⟩
  have hrender : Request.ofArguments (["--file", "t.yml", "render"].map Text.encode) =
      .ok ⟨some file, none, .render⟩ := by
    decide +kernel
  have hbuild : Request.ofArguments (["--file", "t.yml", "build", "--cpus", "1"].map Text.encode) =
      .ok ⟨some file, none, .build none (some 1) none⟩ := by
    decide +kernel
  have hheld : Credential.HeldBy ⟨"robot", "hunter2"⟩ around.credential :=
    Credential.ofVariable_iff.1 (by decide +kernel)
  have hversion (m : Machine) (hpresent : m.present = true) (hr : m.script m.starts = {}) :
      Succeeds (m.attempt (Connection.versionArguments none)) := by
    refine ⟨_, Machine.attemptAfter_of_present (k := 0) hpresent nofun (by decide) ?_, ?_⟩
    · exact ⟨congrArg _ hr, congrArg _ hr, congrArg _ hr⟩
    · exact congrArg _ hr
  have hload : loadTemplate around (some file) = .ok t := by decide +kernel
  have hzero : rendered.answer.code = 0 := by
    obtain ⟨hanswer, -⟩ : rendered.answer = _ ∧ _ := run_render hrender
    rw [hanswer, hload]
    exact rendition_code_eq_zero_iff.2 (by decide)
  have hforetells (m : Machine) (hm : Succeeds (m.attempt (Connection.versionArguments none))) :=
    (render_foretells_build hrender hbuild hheld hm crowded).2.1 hzero
  have hgrants : crowded.workspace.Grants := Podman.Workspace.grants_scratch "/tmp" 0
  refine ⟨hzero, ?_, ?_⟩
  · obtain ⟨t', hload', h⟩ := hforetells crowded (hversion _ rfl rfl)
    cases hload.symm.trans (loads_iff.1 hload')
    obtain ⟨hblank, -⟩ | ⟨-, hstarts, -⟩ := h
    · exact absurd hblank (by decide)
    · exact hstarts hgrants.not_hinders
  · obtain ⟨t', -, h⟩ := hforetells homeless (hversion _ rfl rfl)
    obtain ⟨-, hstarts, -⟩ | ⟨-, -, hhindered⟩ := h
    · exact hstarts
    · exact (hhindered (.io .notFound) (.directory rfl)).1

end CommandLine
end SandboxImage
