import SandboxImage.Proofs.Digest.Delimited
import SandboxImage.Proofs.Podman.Building
import SandboxImage.Proofs.Podman.Verification
import SandboxImage.Proofs.Validation.Accepted

/-!
# Which starts can be passed to a process

A start with a NUL in one of its arguments fails before podman is looked for. The arguments of a
request are free of NUL exactly if the texts are that reach them: the name of an image, and
commands; environments are looked through. So this is what it takes for all starts of an accepted
run to be free of it, and for a run to end in a report where nothing but its own text stands against
it (`Podman.passes_iff_of_accepted`). That a verify run makes no other starts than those of its
requests is one lemma about all of its steps, whoever observes it (`Verifier.tellsOf_verify`).
-/

namespace SandboxImage

/-- No argument of the start holds a NUL. -/
def Start.Passes (s : Start) : Prop := ∀ a ∈ s.arguments, '\x00' ∉ a.toList

/-! ## Texts without NUL -/

theorem nul_not_mem_toDigits (n : Nat) : '\x00' ∉ Nat.toDigits 10 n := by
  intro h
  have hdigit := Nat.isDigit_of_mem_toDigits (by decide) (by decide) h
  exact absurd hdigit (by decide)

theorem nul_not_mem_hexDigest (input : Bytes) : '\x00' ∉ Blake3.hexDigest input := by
  have hdigit : ∀ k : Fin 16, '\x00' ≠ Nat.digitChar k := by decide
  intro h
  obtain ⟨k, hk⟩ := Blake3.exists_of_mem_hexDigest h
  exact hdigit k hk

theorem nul_not_mem_instanceName (image : String) (nanos : Nat) (process : UInt32) :
    '\x00' ∉ (instanceName image nanos process).toList := by
  simp only [instanceName, String.toList_append, String.toList_ofList]
  intro h
  rcases List.mem_append.1 h with h | h
  · exact absurd h (by decide)
  · exact nul_not_mem_hexDigest _ (List.mem_of_mem_take h)

theorem nul_not_mem_of_entryFault {e : String × String} (h : entryFault? e = none) :
    '\x00' ∉ e.1.toList ∧ '\x00' ∉ e.2.toList := by
  constructor
  · intro hmem
    have hname := continuesName_of_mem (isVariableName_of_entryFault h) hmem
    exact absurd hname (by decide)
  · intro hmem
    exact (ne_of_mem_plainValue (isPlainValue_of_entryFault h) hmem).2 rfl

/-! ## Steps all of whose starts have a property -/

/-- Every start that the step tells of has the property. -/
def TellsOf (P : Start → Prop) (step : Step Event σ α) : Prop :=
  ∀ s, ∀ x ∈ started (step s).trace, P x

namespace TellsOf

variable {σ α β : Type} {P : Start → Prop}

theorem pure (a : α) : TellsOf (σ := σ) P (pure a) := by
  intro s x hx
  cases hx

theorem tell {e : Event} (he : e.start? = none) : TellsOf (σ := σ) P (Step.tell e) := by
  intro s x hx
  simp [he] at hx

theorem log (level : Level) (text : String) : TellsOf (σ := σ) P (Step.log level text) :=
  tell rfl

/-- The second step may rely on how the first one was answered. -/
theorem bind {step : Step Event σ α} {f : α → Step Event σ β} (h : TellsOf P step)
    (hf : ∀ s, TellsOf P (f (step s).answer)) : TellsOf P (step >>= f) := by
  intro s x hx
  rw [Step.bind_apply, started_append] at hx
  rcases List.mem_append.1 hx with hx | hx
  · exact h s x hx
  · exact hf s _ x hx

end TellsOf

namespace Verifier

variable {σ : Type} {service : Service σ} {P : Start → Prop} {g : Guard}

theorem tellsOf_tearDown {i : String} (hkill : TellsOf P (Step.mapTrace .note (service.kill i))) :
    TellsOf P (tearDown service i) :=
  (TellsOf.log _ _).bind fun _ => (TellsOf.tell rfl).bind fun _ => hkill.bind fun _ => .pure _

theorem tellsOf_release (hkill : TellsOf P (Step.mapTrace .note (service.kill g.instanceId))) :
    TellsOf P (g.release service) := by
  unfold Guard.release
  split
  · exact (tellsOf_tearDown hkill).bind fun _ => .pure _
  · exact .pure _

theorem tellsOf_drop (hkill : TellsOf P (Step.mapTrace .note (service.kill g.instanceId))) :
    TellsOf P (g.drop service) := by
  unfold Guard.drop
  split
  · refine (tellsOf_tearDown hkill).bind fun _ => ?_
    split
    · exact .pure _
    · exact .log _ _
  · exact .pure _

theorem tellsOf_runChecks (observer : Observer) {checks : List (Check × CheckKind)}
    (hexec : ∀ c ∈ checks,
      TellsOf P (Step.mapTrace .note (service.exec g.instanceId c.1.command)))
    (done : List Outcome) : TellsOf P (runChecks service g observer done checks) := by
  induction checks generalizing done with
  | nil => exact .pure _
  | cons c rest ih =>
    obtain ⟨check, kind⟩ := c
    obtain ⟨hcheck, hrest⟩ := List.forall_mem_cons.1 hexec
    have hrun : TellsOf P (runCheck service g check) := by
      refine (TellsOf.log _ _).bind fun _ => TellsOf.bind ?_ fun _ => .pure _
      unfold Guard.exec
      split
      · exact (TellsOf.tell rfl).bind fun _ => hcheck
      · exact .pure _
    refine hrun.bind fun s => ?_
    split
    · exact .pure _
    · refine (TellsOf.log _ _).bind fun _ => (TellsOf.tell rfl).bind fun _ => ?_
      split
      · exact .pure _
      · exact ih hrest _

theorem tellsOf_conclude (name : String) (run : Except Halt (List Outcome))
    (hkill : TellsOf P (Step.mapTrace .note (service.kill g.instanceId))) :
    TellsOf P (conclude service name g run) := by
  refine (tellsOf_release hkill).bind fun s => (tellsOf_drop ?_).bind fun _ => ?_
  · unfold Guard.release
    split <;> exact hkill
  · split
    · exact .pure _
    · exact (TellsOf.log _ _).bind fun _ => .pure _

theorem mem_allChecks_iff {p : Plan} {check : Check} :
    check ∈ p.allChecks ↔ ∃ kind, (check, kind) ∈ agenda p := by
  simp [Plan.allChecks, agenda, exists_or]

/-- A verify run makes no other starts than its requests do. -/
theorem tellsOf_verify {name : String} {p : Plan} {capacity : Capacity} (observer : Observer)
    (hacquire : TellsOf P (Step.mapTrace .note (service.acquire name p.env capacity)))
    (hexec : ∀ s i, (service.acquire name p.env capacity s).answer = .ok i →
      ∀ check ∈ p.allChecks, TellsOf P (Step.mapTrace .note (service.exec i check.command)))
    (hkill : ∀ s i, (service.acquire name p.env capacity s).answer = .ok i →
      TellsOf P (Step.mapTrace .note (service.kill i))) :
    TellsOf P (verify service name p capacity observer) := by
  unfold verify
  split
  · exact .pure _
  · have hasked : TellsOf P (acquire service name p.env capacity) := by
      intro s x hx
      simp only [acquire, started_cons] at hx
      exact hacquire s x hx
    refine hasked.bind fun s => ?_
    simp only [acquire]
    cases hanswer : (service.acquire name p.env capacity s).answer with
    | error e => exact .pure _
    | ok i =>
      have hagenda : ∀ e ∈ agenda p,
          TellsOf P (Step.mapTrace .note (service.exec i e.1.command)) := by
        intro e he
        exact hexec s i hanswer e.1 (mem_allChecks_iff.2 ⟨e.2, he⟩)
      have hchecks := tellsOf_runChecks (g := .hold i) observer hagenda []
      refine (TellsOf.log _ _).bind fun _ => hchecks.bind fun _ => ?_
      split
      · exact (tellsOf_drop (hkill s i hanswer)).bind fun _ => .pure _
      · exact tellsOf_conclude name _ (hkill s i hanswer)

end Verifier

/-! ## The starts of podman -/

namespace Podman

theorem all_isPassable_iff {arguments : List String} :
    arguments.all isPassable = true ↔ ∀ a ∈ arguments, '\x00' ∉ a.toList := by
  simp [isPassable]

theorem tellsOf_passes {step : Step Note Machine α} {arguments : Machine → List String}
    {before : Machine → Machine} {files : List (String × String)}
    (h : ∀ m, Asks (step m) (before m) (arguments m) files)
    (ha : ∀ m, ∀ a ∈ arguments m, '\x00' ∉ a.toList) :
    TellsOf Start.Passes (Step.mapTrace .note step) := by
  intro m x hx
  rw [Step.mapTrace_apply, (h m).starts] at hx
  obtain rfl := List.mem_singleton.1 hx
  exact ha m

namespace Connection

variable {c : Connection} (hurl : ∀ u ∈ c.url, '\x00' ∉ u.toList)
  (hcredential : '\x00' ∉ c.credential.exposed.toList)

include hurl

theorem passes_arguments_iff (i : Invocation) (credential : Option Credential) :
    (∀ a ∈ i.arguments c.url credential, '\x00' ∉ a.toList) ↔ '\x00' ∉ i.command.toList ∧
      (∀ d ∈ credential, '\x00' ∉ d.exposed.toList) ∧ ∀ a ∈ i.rest, '\x00' ∉ a.toList := by
  have hplace : ∀ a ∈ c.url.elim [] (fun u => ["--url", u]), '\x00' ∉ a.toList := by
    cases h : c.url with
    | none => simp
    | some u => simpa using hurl u h
  rw [Invocation.arguments, List.forall_mem_append, and_iff_right hplace, List.forall_mem_cons,
    List.forall_mem_append]
  cases credential <;> simp

theorem passes_exec_iff {i : String} (hi : '\x00' ∉ i.toList) (command : String) :
    (∀ a ∈ c.execArguments i command, '\x00' ∉ a.toList) ↔ '\x00' ∉ command.toList := by
  rw [execArguments, passes_arguments_iff hurl]
  simp [Invocation.exec, hi]

theorem passes_remove {i : String} (hi : '\x00' ∉ i.toList) :
    ∀ a ∈ c.removeArguments i, '\x00' ∉ a.toList := by
  rw [removeArguments, passes_arguments_iff hurl]
  simp [Invocation.remove, hi]

include hcredential

theorem passes_build_iff {request : BuildRequest} {directory : String}
    (hdirectory : '\x00' ∉ directory.toList) :
    (∀ a ∈ c.buildArguments request directory, '\x00' ∉ a.toList) ↔
      '\x00' ∉ request.name.toList := by
  rw [buildArguments, passes_arguments_iff hurl]
  simp [Invocation.build, Invocation.cpuQuota, Invocation.memory, hcredential, hdirectory,
    nul_not_mem_toDigits]

theorem passes_run_iff {name i : String} {env : EnvTable} (capacity : Capacity)
    (henv : ∀ e ∈ env.entries, entryFault? e = none) (hi : '\x00' ∉ i.toList) :
    (∀ a ∈ c.runArguments name env capacity i, '\x00' ∉ a.toList) ↔ '\x00' ∉ name.toList := by
  have hsettings : ∀ a ∈ Invocation.settings env, '\x00' ∉ a.toList := by
    intro a ha
    obtain ⟨e, he, ha⟩ := List.mem_flatMap.1 ha
    obtain ⟨hname, hvalue⟩ := nul_not_mem_of_entryFault (henv e he)
    rcases List.mem_pair.1 ha with rfl | rfl
    · decide
    · simp [hname, hvalue]
  rw [runArguments, passes_arguments_iff hurl]
  simp only [Invocation.run, List.forall_mem_append, and_iff_left hsettings]
  simp [Invocation.memory, hcredential, hi, nul_not_mem_toDigits, nameLabel]

end Connection

/-! ## Runs -/

open Verifier

/-- Podman is always found, nothing disturbs its starts, and it does what it is asked to do. -/
structure Machine.Willing (m : Machine) : Prop where
  present : m.present = true
  stays : ∀ k, (m.script k).last = false
  undisturbed : ∀ k, (m.script k).Undisturbed
  succeeds : ∀ k, (m.script k).ending = .exited 0

/-- A machine on which podman succeeds with whatever it is asked to do. -/
def willing : Machine where
  script _ := {}
  clock := id
  process := 7
  scratch := "/tmp"

theorem willing_willing : willing.Willing :=
  ⟨rfl, fun _ => rfl, fun _ => ⟨rfl, rfl, rfl⟩, fun _ => rfl⟩

theorem Machine.Willing.attemptAfter {m : Machine} (hm : m.Willing) (k : Nat)
    {arguments : List String} (h : ∀ a ∈ arguments, '\x00' ∉ a.toList) :
    m.attemptAfter k arguments = .ok (m.script (m.starts + k)) :=
  attemptAfter_of_present hm.present (fun _ _ => hm.stays _) (all_isPassable_iff.2 h)
    (hm.undisturbed _)

theorem nul_not_mem_nextInstance (m : Machine) (name : String) :
    '\x00' ∉ (m.nextInstance name).toList :=
  nul_not_mem_instanceName _ _ _

theorem exists_not_passes {trace : List Event} {arguments : List String}
    (hmem : arguments ∈ (started trace).map Start.arguments)
    (h : ¬ ∀ a ∈ arguments, '\x00' ∉ a.toList) : ∃ s ∈ started trace, ¬ s.Passes := by
  obtain ⟨s, hs, rfl⟩ := List.mem_map.1 hmem
  exact ⟨s, hs, h⟩

theorem attempt_of_nul {arguments : List String} (h : ¬ ∀ a ∈ arguments, '\x00' ∉ a.toList)
    (m : Machine) : m.attempt arguments = .error .nulInArgument := by
  rw [← all_isPassable_iff] at h
  rw [Machine.attempt, Machine.spawn_of_not_passable h]
  rfl

/-- On a willing machine nothing else than a NUL breaks a command off. -/
theorem breaks_iff_of_willing {m : Machine} (hm : m.Willing) (k : Nat) {arguments : List String} :
    Breaks (m.attemptAfter k arguments) ↔ ¬ ∀ a ∈ arguments, '\x00' ∉ a.toList := by
  by_cases h : ∀ a ∈ arguments, '\x00' ∉ a.toList
  · refine iff_of_false (fun hbreaks => ?_) (not_not.2 h)
    rw [hm.attemptAfter k h] at hbreaks
    have hending := hm.succeeds (m.starts + k)
    cases hbreaks with
    | signalled hsignal => simp [hending] at hsignal
    | refused hcode => simp [hending] at hcode
  · refine iff_of_true ?_ h
    rw [Machine.attemptAfter, attempt_of_nul h]
    exact .notStarted

namespace Connection

section

variable {c : Connection} (hurl : ∀ u ∈ c.url, '\x00' ∉ u.toList)
  (hcredential : '\x00' ∉ c.credential.exposed.toList) {name : String} {p : Plan}
  (capacity : Capacity) {m : Machine}

include hurl hcredential

/-- A build without a directory starts nothing, so nothing of it can fail for its text. -/
theorem passes_build {r : Recipe} (h : (Builder.verdict name r).violation = none)
    (hnul : ∀ directory, m.workspace.prepared = .ok directory → '\x00' ∉ directory.toList) :
    (∀ s ∈ started (Builder.build c.service name r capacity m).trace, s.Passes) ↔
      '\x00' ∉ name.toList ∨ ∃ e, m.workspace.Hinders e := by
  obtain ⟨e, he⟩ | ⟨directory, hdirectory⟩ := m.workspace.hinders_or_prepared
  · rw [started_build_of_unprepared h capacity he.prepared_eq]
    exact iff_of_true nofun (.inr ⟨e, he⟩)
  · have hnone : ¬ ∃ e, m.workspace.Hinders e := by
      rintro ⟨e, he⟩
      cases he.prepared_eq.symm.trans hdirectory
    rw [started_build_of_prepared h capacity hdirectory, List.forall_mem_singleton,
      or_iff_left hnone]
    exact passes_build_iff hurl hcredential (hnul directory hdirectory)

theorem tellsOf_verify_passes (hp : p.violation? = none) (hname : '\x00' ∉ name.toList)
    (hcommands : ∀ check ∈ p.allChecks, '\x00' ∉ check.command.toList) (observer : Observer) :
    TellsOf Start.Passes (verify c.service name p capacity observer) := by
  have henv := p.entryFault?_of_accepted hp
  have hinstance : ∀ (m : Machine) i, (c.service.acquire name p.env capacity m).answer = .ok i →
      '\x00' ∉ i.toList := by
    intro m i hanswer
    obtain ⟨-, hok⟩ | ⟨-, text, herror⟩ := c.answer_acquire m name p.env capacity
    · obtain rfl : m.nextInstance name = i := Except.ok.inj (hok.symm.trans hanswer)
      exact nul_not_mem_nextInstance m name
    · cases herror.symm.trans hanswer
  apply tellsOf_verify
  · apply tellsOf_passes fun m => c.asks_acquire m name p.env capacity
    intro m
    exact (passes_run_iff hurl hcredential capacity henv (nul_not_mem_nextInstance m name)).2 hname
  · intro m i hanswer check hcheck m' x hx
    rw [Step.mapTrace_apply, service_exec_apply] at hx
    have hpasses := (passes_exec_iff hurl (hinstance m i hanswer) _).2 (hcommands check hcheck)
    exact tellsOf_passes (fun m => c.asks_exec m i check.command) (fun _ => hpasses) m' x hx
  · intro m i hanswer
    apply tellsOf_passes fun m => c.asks_kill m i
    intro _
    exact passes_remove hurl (hinstance m i hanswer)

/-- With a NUL in the name there is no instance. -/
theorem not_succeeds_run (hp : p.violation? = none) (hnul : '\x00' ∈ name.toList) (m : Machine) :
    let arguments := c.runArguments name p.env capacity (m.nextInstance name)
    (¬ ∀ a ∈ arguments, '\x00' ∉ a.toList) ∧ ¬ Succeeds (m.attempt arguments) := by
  intro arguments
  have hrefused : ¬ ∀ a ∈ arguments, '\x00' ∉ a.toList := by
    rw [passes_run_iff hurl hcredential capacity (p.entryFault?_of_accepted hp)
      (nul_not_mem_nextInstance m name)]
    exact not_not.2 hnul
  refine ⟨hrefused, ?_⟩
  rw [attempt_of_nul hrefused]
  exact not_succeeds_error

theorem nul_not_mem_name_of_verify (hp : p.violation? = none)
    (h : ∀ s ∈ started (verify c.service name p capacity .calm m).trace, s.Passes) :
    '\x00' ∉ name.toList := by
  intro hnul
  obtain ⟨hrefused, hfails⟩ := not_succeeds_run hurl hcredential capacity hp hnul m
  obtain ⟨hstarts, -⟩ := c.verify_of_not_succeeds name capacity m hp hfails
  obtain ⟨s, hs, hpasses⟩ := exists_not_passes (hstarts ▸ List.mem_singleton_self _) hrefused
  exact hpasses (h s hs)

theorem nul_not_mem_name_of_report (hp : p.violation? = none) {report : Report}
    (h : (verify c.service name p capacity .calm m).answer = .ok report) :
    '\x00' ∉ name.toList := by
  intro hnul
  obtain ⟨-, hfails⟩ := not_succeeds_run hurl hcredential capacity hp hnul m
  obtain ⟨-, text, herror⟩ := c.verify_of_not_succeeds name capacity m hp hfails
  cases herror.symm.trans h

/-- On a willing machine an accepted plan runs to its end, or is aborted by a check whose command
holds a NUL. -/
theorem verify_of_willing (hp : p.violation? = none) (hname : '\x00' ∉ name.toList)
    (hm : m.Willing) :
    let run := verify c.service name p capacity .calm m
    (∀ check ∈ p.allChecks, '\x00' ∉ check.command.toList) ∧ (∃ report, run.answer = .ok report) ∨
      ∃ check ∈ p.allChecks, '\x00' ∈ check.command.toList ∧
        (∃ s ∈ started run.trace, ¬ s.Passes) ∧
        ∃ reason, run.answer = .error (.error (.service
          ("check " ++ Text.quoted check.label ++ ": " ++ reason))) := by
  intro run
  have hinstance := nul_not_mem_nextInstance m name
  have hrun := (passes_run_iff hurl hcredential capacity (p.entryFault?_of_accepted hp)
    hinstance).2 hname
  have hgranted : Succeeds (m.attempt (c.runArguments name p.env capacity (m.nextInstance name))) :=
    ⟨_, hm.attemptAfter 0 hrun, hm.succeeds _⟩
  have hexec := passes_exec_iff hurl hinstance
  obtain ⟨outputs, houtputs, hstarts, hend⟩ := c.exists_outputs name capacity m hp hgranted
  rcases hend with ⟨hall, text, hanswer, -⟩ | ⟨check, kind, reason, hcheck, hbreaks, hanswer⟩
  · -- every command has an output, so none of them was broken off
    refine .inl ⟨fun check hcheck => ?_, _, hanswer⟩
    obtain ⟨kind, hmem⟩ := mem_allChecks_iff.1 hcheck
    obtain ⟨k, hk, hget⟩ := List.getElem_of_mem hmem
    obtain ⟨_, _, hget', hleaves⟩ := houtputs k _ (List.getElem?_eq_getElem (hall ▸ hk))
    rw [List.getElem?_eq_getElem hk, hget] at hget'
    cases hget'
    have hpasses := mt (breaks_iff_of_willing hm (k + 1)).2 hleaves.not_breaks
    exact (hexec check.command).1 (not_not.1 hpasses)
  · have hbroken := (breaks_iff_of_willing hm _).1 hbreaks
    have hnul : '\x00' ∈ check.command.toList := not_not.1 (mt (hexec check.command).2 hbroken)
    have hmem : (check, kind) ∈ agenda p := List.mem_of_getElem? hcheck
    have hstart : c.execArguments (m.nextInstance name) check.command ∈
        (started run.trace).map Start.arguments := by
      rw [hstarts]
      have hran : (check, kind) ∈ (agenda p).take (outputs.length + 1) :=
        List.mem_of_getElem? (List.getElem?_take_of_succ.trans hcheck)
      exact List.mem_cons_of_mem _ (List.mem_append_left _ (List.mem_map.2 ⟨_, hran, rfl⟩))
    exact .inr ⟨check, mem_allChecks_iff.2 ⟨kind, hmem⟩, hnul,
      exists_not_passes hstart hbroken, reason, hanswer⟩

/-- On a willing machine only a NUL keeps an accepted plan from its report. -/
theorem exists_report_iff_of_willing (hp : p.violation? = none) (hm : m.Willing) :
    (∃ report, (verify c.service name p capacity .calm m).answer = .ok report) ↔
      '\x00' ∉ name.toList ∧ ∀ check ∈ p.allChecks, '\x00' ∉ check.command.toList := by
  constructor
  · rintro ⟨report, hanswer⟩
    have hname := nul_not_mem_name_of_report hurl hcredential capacity hp hanswer
    obtain ⟨hcommands, -⟩ | ⟨check, -, -, -, reason, herror⟩ :=
      verify_of_willing hurl hcredential capacity hp hname hm
    · exact ⟨hname, hcommands⟩
    · cases herror.symm.trans hanswer
  · rintro ⟨hname, hcommands⟩
    obtain ⟨-, hanswer⟩ | ⟨check, hcheck, hnul, -⟩ :=
      verify_of_willing hurl hcredential capacity hp hname hm
    · exact hanswer
    · exact absurd hnul (hcommands check hcheck)

end
end Connection

/-- All starts of a build run that was accepted are free of NUL exactly if the name is, or there are
none because the build has no directory; those of all runs of a plan that was accepted, exactly if
the name and the commands are. Where podman is always found, nothing disturbs its starts and it does
what it is asked to do, this is also what it takes for a run of the plan to end in a report: a
command with a NUL is accepted, and aborts its run. -/
theorem passes_iff_of_accepted {c : Connection} (hurl : ∀ u ∈ c.url, '\x00' ∉ u.toList)
    (hcredential : '\x00' ∉ c.credential.exposed.toList) (name : String) (capacity : Capacity) :
    (∀ r m, (Builder.verdict name r).violation = none →
      (∀ directory, m.workspace.prepared = .ok directory → '\x00' ∉ directory.toList) →
      ((∀ s ∈ started (Builder.build c.service name r capacity m).trace, s.Passes) ↔
        '\x00' ∉ name.toList ∨ ∃ e, m.workspace.Hinders e)) ∧
    ∀ p : Plan, p.violation? = none →
      ((∀ observer m, ∀ s ∈ started (verify c.service name p capacity observer m).trace,
          s.Passes) ↔
        '\x00' ∉ name.toList ∧ ∀ check ∈ p.allChecks, '\x00' ∉ check.command.toList) ∧
      ∀ m, m.Willing →
        ((∃ report, (verify c.service name p capacity .calm m).answer = .ok report) ↔
          '\x00' ∉ name.toList ∧ ∀ check ∈ p.allChecks, '\x00' ∉ check.command.toList) ∧
        ('\x00' ∉ name.toList → (∃ check ∈ p.allChecks, '\x00' ∈ check.command.toList) →
          ∃ check ∈ p.allChecks, '\x00' ∈ check.command.toList ∧ ∃ reason,
            (verify c.service name p capacity .calm m).answer = .error (.error (.service
              ("check " ++ Text.quoted check.label ++ ": " ++ reason)))) := by
  refine ⟨fun r m h hnul => Connection.passes_build hurl hcredential capacity h hnul,
    fun p hp => ⟨⟨fun h => ?_, ?_⟩, fun m hm => ⟨?_, ?_⟩⟩⟩
  · have hname :=
      Connection.nul_not_mem_name_of_verify hurl hcredential capacity hp (h .calm willing)
    obtain ⟨hcommands, -⟩ | ⟨-, -, -, ⟨s, hs, hpasses⟩, -⟩ :=
      Connection.verify_of_willing hurl hcredential capacity hp hname willing_willing
    · exact ⟨hname, hcommands⟩
    · exact absurd (h .calm willing s hs) hpasses
  · rintro ⟨hname, hcommands⟩ observer
    exact Connection.tellsOf_verify_passes hurl hcredential capacity hp hname hcommands observer
  · exact Connection.exists_report_iff_of_willing hurl hcredential capacity hp hm
  · rintro hname ⟨check, hcheck, hnul⟩
    obtain ⟨hcommands, -⟩ | ⟨check', hcheck', hnul', -, hanswer⟩ :=
      Connection.verify_of_willing hurl hcredential capacity hp hname hm
    · exact absurd hnul (hcommands check hcheck)
    · exact ⟨check', hcheck', hnul', hanswer⟩

/-- A dollar, a quote and other spaces are passed as they stand. -/
theorem passes_iff_of_accepted_plain :
    let c : Connection := ⟨some "unix:///podman", ⟨"robot", "hunter2"⟩⟩
    let p : Plan :=
      ⟨.ofList [("A", "$x \"y\"")], [⟨"first", "echo\t\"$A\""⟩], some ⟨"last", "true"⟩⟩
    (∀ s ∈ started (Builder.build c.service "image" Builder.minimal {} willing).trace, s.Passes) ∧
      p.violation? = none ∧
      (∀ observer m, ∀ s ∈ started (verify c.service "image" p {} observer m).trace, s.Passes) ∧
      ∃ report, (verify c.service "image" p {} .calm willing).answer = .ok report := by
  intro c p
  have hname : '\x00' ∉ "image".toList := by decide
  have hp : p.violation? = none := by decide
  have hcommands : ∀ check ∈ p.allChecks, '\x00' ∉ check.command.toList := by decide
  have hnul (directory : String) (hdirectory : willing.workspace.prepared = .ok directory) :
      '\x00' ∉ directory.toList := by
    have htmp : willing.workspace.prepared = .ok "/tmp" :=
      Workspace.prepared_scratch "/tmp" 0
    cases htmp.symm.trans hdirectory
    decide
  obtain ⟨hbuild, hverify⟩ :=
    passes_iff_of_accepted (c := c) (by decide) (by decide) "image" {}
  obtain ⟨hstarts, hreport⟩ := hverify p hp
  exact ⟨(hbuild Builder.minimal willing (by decide) hnul).2 (.inl hname), hp,
    hstarts.2 ⟨hname, hcommands⟩, (hreport willing willing_willing).1.2 ⟨hname, hcommands⟩⟩

/-- Nothing refuses a command with a NUL, and the run of its plan is aborted. -/
theorem not_passes_nul :
    let c : Connection := ⟨none, ⟨"u", "p"⟩⟩
    let p : Plan := ⟨.empty, [⟨"x", "true \x00"⟩], none⟩
    let run := verify c.service "app" p {} .calm willing
    p.violation? = none ∧ (∃ s ∈ started run.trace, ¬ s.Passes) ∧
      run.answer = .error (.error (.service
        "check \"x\": couldn't run podman exec: nul byte found in provided data")) := by
  intro c p run
  have hp : p.violation? = none := by decide
  have hname : '\x00' ∉ "app".toList := by decide
  obtain ⟨hcommands, -⟩ | ⟨-, -, -, hstart, -⟩ := Connection.verify_of_willing (c := c)
    (by decide) (by decide) {} hp hname willing_willing
  · exact absurd hcommands (by decide)
  · exact ⟨hp, hstart, by decide +kernel⟩

end Podman
end SandboxImage
