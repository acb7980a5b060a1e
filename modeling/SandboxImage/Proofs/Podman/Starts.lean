import Mathlib.Logic.Function.Iterate
import SandboxImage.Builder
import SandboxImage.Podman.Service

/-!
# What starts of podman come to

Every request to the service starts podman once. There are two lemmas for each request, of one
shape: which start it makes and which machine that leaves (`Connection.asks_acquire` and its
siblings), and what it answers to each way in which the start can end (`Connection.answer_acquire`
and its siblings). How a start ends is up to the machine (`Machine.attempt`); when the end of a
command is a fault of podman, and not of the command, is the relation `Breaks`.
-/

namespace SandboxImage

/-- The starts that a trace tells of. -/
def started (trace : List Event) : List Start := trace.filterMap Event.start?

@[simp]
theorem started_nil : started [] = [] := rfl

@[simp]
theorem started_append (t u : List Event) : started (t ++ u) = started t ++ started u :=
  List.filterMap_append ..

@[simp]
theorem started_cons (e : Event) (t : List Event) :
    started (e :: t) = e.start?.toList ++ started t := by
  cases h : e.start? <;> simp [started, h]

namespace Builder

theorem started_logAll (lines : List LogLine) :
    started (lines.map fun l => Event.note (.log l)) = [] := by
  simp [started, Event.start?]

/-- A request that is accepted reaches the service, and nothing else starts anything. -/
theorem started_build {σ : Type} (service : Service σ) {name : String} {r : Recipe}
    (h : (verdict name r).violation = none) (capacity : Capacity) (s : σ) :
    started (build service name r capacity s).trace =
      started ((service.build ⟨name, r, capacity, r.fingerprint⟩ s).trace.map .note) := by
  rw [build_of_accepted h]
  simp [preamble, started_logAll, Event.start?]

end Builder

namespace Podman

/-- Podman is started, its output is read and its end is waited for. -/
structure Response.Undisturbed (r : Response) : Prop where
  started : r.refusal = none
  read : r.readFault = none
  waited : r.waitFault = none

/-- All of a start is had exactly if neither reading nor waiting fails. -/
theorem Response.collected_eq_ok_iff {r r' : Response} :
    r.collected = .ok r' ↔ r = r' ∧ r.readFault = none ∧ r.waitFault = none := by
  unfold collected
  cases r.readFault <;> cases r.waitFault <;> simp

namespace Machine

variable {m : Machine} {arguments : List String} {r : Response}

/-- What a start of podman comes to of which the output is read and the end is waited for. -/
def attempt (m : Machine) (arguments : List String) : Except SystemFault Response :=
  (m.spawn arguments).bind Response.collected

theorem spawn_of_attempt (h : m.attempt arguments = .ok r) : m.spawn arguments = .ok r := by
  unfold attempt at h
  cases hspawn : m.spawn arguments with
  | error fault =>
    rw [hspawn] at h
    cases h
  | ok r' =>
    rw [hspawn] at h
    obtain ⟨rfl, -⟩ := Response.collected_eq_ok_iff.1 h
    rfl

theorem spawn_of_not_passable (h : ¬ arguments.all isPassable = true) (m : Machine) :
    m.spawn arguments = .error .nulInArgument :=
  if_neg h

theorem next_of_spawn (h : m.spawn arguments = .ok r) : m.next arguments = m.afterStart := by
  by_cases hall : arguments.all isPassable = true
  · exact if_pos hall
  · rw [spawn_of_not_passable hall] at h
    cases h

theorem next_of_attempt (h : m.attempt arguments = .ok r) : m.next arguments = m.afterStart :=
  next_of_spawn (spawn_of_attempt h)

/-- The machine once its clock has been read again. -/
def read (m : Machine) : Machine := { m with readings := m.readings + 1 }

/-- The machine once a build has read the clock and has had its directory. -/
def entered (m : Machine) : Machine := { m.read with builds := m.builds + 1 }

@[simp]
theorem read_process (m : Machine) : m.read.process = m.process := rfl

@[simp]
theorem entered_spawn (m : Machine) (arguments : List String) :
    m.entered.spawn arguments = m.spawn arguments := rfl

@[simp]
theorem afterStart_workspace (m : Machine) : m.afterStart.workspace = m.workspace := rfl

/-- The name of the next instance of an image. -/
def nextInstance (m : Machine) (name : String) : String :=
  instanceName name (m.clock m.readings) m.process

/-- What a start comes to after `k` others. -/
def attemptAfter (m : Machine) (k : Nat) (arguments : List String) :
    Except SystemFault Response :=
  (afterStart^[k] m).attempt arguments

@[simp]
theorem attemptAfter_zero (m : Machine) (arguments : List String) :
    m.attemptAfter 0 arguments = m.attempt arguments := rfl

@[simp]
theorem attemptAfter_afterStart (m : Machine) (k : Nat) (arguments : List String) :
    m.afterStart.attemptAfter k arguments = m.attemptAfter (k + 1) arguments := rfl

/-- The clock has no part in how starts end. -/
@[simp]
theorem attemptAfter_read (m : Machine) (k : Nat) (arguments : List String) :
    m.read.attemptAfter k arguments = m.attemptAfter k arguments := by
  have h : afterStart^[k] m.read = (afterStart^[k] m).read := by
    induction k generalizing m with
    | zero => rfl
    | succ k ih => exact ih m.afterStart
  rw [attemptAfter, h]
  rfl

theorem attempt_of_undisturbed (h : m.spawn arguments = .ok r) (hr : r.Undisturbed) :
    m.attempt arguments = .ok r := by
  rw [attempt, h]
  exact Response.collected_eq_ok_iff.2 ⟨rfl, hr.read, hr.waited⟩

theorem spawn_of_present (hm : m.present = true) (h : arguments.all isPassable = true)
    (hr : (m.script m.starts).refusal = none) :
    m.spawn arguments = .ok (m.script m.starts) := by
  simp [spawn, h, hm, hr]

/-- As long as podman is not taken away, starts are answered from the script in order. -/
theorem attemptAfter_of_present {m : Machine} (hm : m.present = true) {k : Nat}
    (hlast : ∀ j < k, (m.script (m.starts + j)).last = false) {arguments : List String}
    (h : arguments.all isPassable = true) (hr : (m.script (m.starts + k)).Undisturbed) :
    m.attemptAfter k arguments = .ok (m.script (m.starts + k)) := by
  induction k generalizing m with
  | zero => exact attempt_of_undisturbed (spawn_of_present hm h hr.started) hr
  | succ k ih =>
    have hshift (j : Nat) : m.starts + (j + 1) = m.afterStart.starts + j := by
      change m.starts + (j + 1) = m.starts + 1 + j
      omega
    have hpresent : m.afterStart.present = true := by
      have hzero := hlast 0 (Nat.succ_pos k)
      simpa [afterStart, hm] using hzero
    have hrest : ∀ j < k, (m.afterStart.script (m.afterStart.starts + j)).last = false := by
      intro j hj
      have hnext := hlast (j + 1) (Nat.succ_lt_succ hj)
      rwa [hshift] at hnext
    rw [hshift] at hr ⊢
    exact ih hpresent hrest hr

end Machine

/-- Podman was started, and did what it was asked to do. -/
def Succeeds (a : Except SystemFault Response) : Prop :=
  ∃ r, a = .ok r ∧ r.ending = .exited 0

/-- A command was not run to its end: podman was not started, or what came of it could not be had,
or a signal ended it, or it has the code for its own faults and says so first in its error
output. -/
inductive Breaks : Except SystemFault Response → Prop
  | notStarted : Breaks (.error fault)
  | signalled : r.ending = .signalled signal dumped → Breaks (.ok r)
  | refused : r.ending = .exited 125 → blanks.all Text.isBlank = true →
    (Text.decodeLoosely r.stderr).toList = blanks ++ "Error:".toList ++ rest → Breaks (.ok r)

/-- A command was run to its end, with this output. -/
inductive Leaves : Except SystemFault Response → Output → Prop
  | exited : r.ending = .exited code → ¬ Breaks (.ok r) →
    Leaves (.ok r)
      ⟨Int32.ofNat code.toNat, Text.decodeLoosely r.stdout, Text.decodeLoosely r.stderr⟩

theorem Leaves.exists_ok (h : Leaves a output) : ∃ r, a = .ok r := by
  cases h with
  | exited => exact ⟨_, rfl⟩

theorem Leaves.not_breaks (h : Leaves a output) : ¬ Breaks a := by
  cases h with
  | exited _ h => exact h

theorem succeeds_ok_iff {r : Response} : Succeeds (.ok r) ↔ r.ending.isSuccess = true := by
  simp [Succeeds, Ending.isSuccess]

theorem not_succeeds_error {fault : SystemFault} : ¬ Succeeds (.error fault) := by
  rintro ⟨r, h, -⟩
  cases h

/-- Blanks in front of the word do not hide it. -/
theorem failedItself_iff {r : Response} :
    failedItself r = true ↔ ∃ blanks rest, blanks.all Text.isBlank = true ∧
      (Text.decodeLoosely r.stderr).toList = blanks ++ "Error:".toList ++ rest := by
  have hword : Text.trimStart "Error:".toList = "Error:".toList := by decide
  unfold failedItself
  generalize (Text.decodeLoosely r.stderr).toList = text
  rw [List.isPrefixOf_iff_prefix]
  constructor
  · rintro ⟨rest, h⟩
    refine ⟨text.takeWhile Text.isBlank, rest, List.all_takeWhile, ?_⟩
    rw [List.append_assoc, h]
    exact List.takeWhile_append_dropWhile.symm
  · rintro ⟨blanks, rest, hblanks, rfl⟩
    refine ⟨rest, ?_⟩
    rw [List.append_assoc, Text.trimStart_append _ _ hblanks]
    rfl

theorem exitCode?_eq_none_iff {r : Response} : exitCode? r = none ↔ Breaks (.ok r) := by
  constructor
  · intro h
    unfold exitCode? at h
    split at h
    next code hcode =>
      split at h
      next hfailed =>
        simp only [Bool.and_eq_true, beq_iff_eq] at hfailed
        obtain ⟨rfl, hfailed⟩ := hfailed
        obtain ⟨blanks, rest, hblanks, htext⟩ := failedItself_iff.1 hfailed
        exact .refused hcode hblanks htext
      next => cases h
    next signal dumped hsignal => exact .signalled hsignal
  · intro h
    cases h with
    | signalled h => simp [exitCode?, h]
    | refused h hblanks htext =>
      have hfailed := failedItself_iff.2 ⟨_, _, hblanks, htext⟩
      simp [exitCode?, h, hfailed]

theorem leaves_of_exitCode? {r : Response} {exit : Int32} (h : exitCode? r = some exit) :
    Leaves (.ok r) ⟨exit, Text.decodeLoosely r.stdout, Text.decodeLoosely r.stderr⟩ := by
  have hbreaks : ¬ Breaks (.ok r) := by
    rw [← exitCode?_eq_none_iff, h]
    exact Option.some_ne_none _
  unfold exitCode? at h
  split at h
  next code hcode =>
    split at h
    next => cases h
    next =>
      cases h
      exact .exited hcode hbreaks
  next => cases h

/-! ## Requests -/

/-- A step that starts nothing and leaves the machine as it is. -/
def Quiet (step : Step Note Machine α) : Prop :=
  ∀ m, started ((step m).trace.map .note) = [] ∧ (step m).state = m

/-- Something was done that made one start, with these arguments and files, on the machine `m`. -/
structure Asks (done : Done Note Machine α) (m : Machine) (arguments : List String)
    (files : List (String × String)) : Prop where
  starts : started (done.trace.map .note) = [⟨arguments, files, (m.spawn arguments).isOk⟩]
  state : done.state = m.next arguments

theorem quiet_pure (a : α) : Quiet (pure a) := fun _ => ⟨rfl, rfl⟩

theorem quiet_progress (lines : List String) : Quiet (Step.tellAll (lines.map .progress)) := by
  intro m
  simp [started, Event.start?]

theorem quiet_log (l : LogLine) : Quiet (Step.tell (.log l)) := fun _ => ⟨rfl, rfl⟩

theorem Quiet.bind {step : Step Note Machine α} {f : α → Step Note Machine β} (h : Quiet step)
    (hf : ∀ a, Quiet (f a)) : Quiet (step >>= f) := by
  intro m
  obtain ⟨hstarts, hstate⟩ := h m
  obtain ⟨hstarts', hstate'⟩ := hf (step m).answer (step m).state
  refine ⟨?_, hstate'.trans hstate⟩
  rw [Step.bind_apply, List.map_append, started_append, hstarts, hstarts']
  rfl

theorem quiet_reason (r : Response) : Quiet (reason r) := by
  unfold reason
  simp only
  split
  · exact (quiet_log _).bind fun _ => quiet_pure _
  · exact quiet_pure _

theorem quiet_reason_bind (r : Response) (f : String → α) :
    Quiet (reason r >>= fun text => pure (f text)) :=
  (quiet_reason r).bind fun _ => quiet_pure _

namespace Invocation

variable (i : Invocation) (url : Option String) (credential : Option Credential)

/-- What is done with a start, given what the start comes to. -/
theorem launch_bind {f : Except SystemFault Response → Step Note Machine α} {m : Machine}
    {a : Except SystemFault Response} (h : m.spawn (i.arguments url credential) = a) :
    (i.launch url credential >>= f) m =
      let done := f a (m.next (i.arguments url credential))
      ⟨.log ⟨.debug, i.shown credential⟩ ::
          .start ⟨i.arguments url credential, i.files, a.isOk⟩ :: done.trace,
        done.answer, done.state⟩ := by
  simp [launch, start, h]

/-- What is made of a start tells of no other one. -/
theorem asks_launch_bind {f : Except SystemFault Response → Step Note Machine α}
    (hf : ∀ a, Quiet (f a)) (m : Machine) :
    Asks ((i.launch url credential >>= f) m) m (i.arguments url credential) i.files := by
  obtain ⟨hstarts, hstate⟩ := hf (m.spawn (i.arguments url credential))
    (m.next (i.arguments url credential))
  rw [launch_bind i url credential rfl]
  refine ⟨?_, hstate⟩
  simp [hstarts, Event.start?]

theorem perform_bind (f : Except SystemFault Response → Step Note Machine α) :
    i.perform url credential >>= f =
      i.launch url credential >>= fun a => f (a.bind Response.collected) := by
  funext m
  simp [perform]

theorem answer_perform_bind {f : Except SystemFault Response → Step Note Machine α}
    (m : Machine) :
    ((i.perform url credential >>= f) m).answer =
      (f (m.attempt (i.arguments url credential))
        (m.next (i.arguments url credential))).answer := by
  rw [perform_bind, launch_bind i url credential rfl]
  rfl

theorem asks_perform_bind {f : Except SystemFault Response → Step Note Machine α}
    (hf : ∀ a, Quiet (f a)) (m : Machine) :
    Asks ((i.perform url credential >>= f) m) m (i.arguments url credential) i.files := by
  rw [perform_bind]
  exact asks_launch_bind i url credential (fun a => hf _) m

end Invocation

namespace Connection

variable (c : Connection) (m : Machine)

/-- Commands are run on the instance `i` with these arguments. -/
def execArguments (i command : String) : List String :=
  (Invocation.exec i command).arguments c.url none

/-- The instance `i` is removed with these arguments. -/
def removeArguments (i : String) : List String :=
  (Invocation.remove i).arguments c.url none

/-- The instance `i` is run with these arguments. -/
def runArguments (name : String) (env : EnvTable) (capacity : Capacity) (i : String) :
    List String :=
  (Invocation.run name env capacity i).arguments c.url (some c.credential)

theorem asks_exec (i command : String) :
    Asks (c.exec i command m) m (c.execArguments i command) [] := by
  refine Invocation.asks_perform_bind (Invocation.exec i command) _ _ (fun a => ?_) m
  rcases a with fault | r
  · exact quiet_pure _
  · dsimp only
    split
    · exact quiet_pure _
    · exact quiet_reason_bind r _

theorem answer_exec (i command : String) :
    (∃ output, Leaves (m.attempt (c.execArguments i command)) output ∧
        (c.exec i command m).answer = .ok output) ∨
      Breaks (m.attempt (c.execArguments i command)) ∧
        ∃ text, (c.exec i command m).answer = .error (.service text) := by
  rw [exec, Invocation.answer_perform_bind, ← execArguments]
  generalize m.attempt (c.execArguments i command) = a
  rcases a with fault | r
  · exact .inr ⟨.notStarted, _, rfl⟩
  · dsimp only
    cases h : exitCode? r with
    | some exit => exact .inl ⟨_, leaves_of_exitCode? h, rfl⟩
    | none => exact .inr ⟨exitCode?_eq_none_iff.1 h, _, rfl⟩

theorem asks_kill (i : String) : Asks (c.kill i m) m (c.removeArguments i) [] := by
  refine Invocation.asks_perform_bind (Invocation.remove i) _ _ (fun a => ?_) m
  rcases a with fault | r
  · exact quiet_pure _
  · dsimp only
    split
    · exact quiet_pure _
    · exact quiet_reason_bind r _

theorem answer_kill (i : String) :
    (c.kill i m).answer = .ok () ↔ Succeeds (m.attempt (c.removeArguments i)) := by
  rw [kill, Invocation.answer_perform_bind, ← removeArguments]
  generalize m.attempt (c.removeArguments i) = a
  rcases a with fault | r
  · simpa using not_succeeds_error
  · dsimp only
    rw [succeeds_ok_iff]
    cases r.ending.isSuccess <;> simp

/-! Before an instance or an image is asked for, the clock is read. -/

theorem now_bind (f : Nat → Step Note Machine α) :
    (now >>= f) m = f (m.clock m.readings) m.read := rfl

theorem state_bind (f : Machine → Step Note Machine α) : (Step.state >>= f) m = f m m := rfl

theorem asks_acquire (name : String) (env : EnvTable) (capacity : Capacity) :
    Asks (c.acquire name env capacity m) m.read
      (c.runArguments name env capacity (m.nextInstance name)) [] := by
  rw [acquire, now_bind, state_bind]
  refine Invocation.asks_perform_bind _ _ _ (fun a => ?_) _
  rcases a with fault | r
  · exact quiet_pure _
  · dsimp only
    split
    · exact quiet_pure _
    · exact quiet_reason_bind r _

theorem answer_acquire (name : String) (env : EnvTable) (capacity : Capacity) :
    let a := m.read.attempt (c.runArguments name env capacity (m.nextInstance name))
    Succeeds a ∧ (c.acquire name env capacity m).answer = .ok (m.nextInstance name) ∨
      ¬ Succeeds a ∧
        ∃ text, (c.acquire name env capacity m).answer = .error (.acquisition name text) := by
  rw [acquire, now_bind, state_bind, Invocation.answer_perform_bind, Machine.read_process,
    ← Machine.nextInstance, ← runArguments]
  generalize m.read.attempt (c.runArguments name env capacity (m.nextInstance name)) = a
  rcases a with fault | r
  · exact .inr ⟨not_succeeds_error, _, rfl⟩
  · dsimp only
    rw [succeeds_ok_iff]
    cases r.ending.isSuccess with
    | true => exact .inl ⟨rfl, rfl⟩
    | false => exact .inr ⟨Bool.false_ne_true, _, rfl⟩

/-- An image is built in this directory with these arguments. -/
def buildArguments (request : BuildRequest) (directory : String) : List String :=
  (Invocation.build request directory).arguments c.url (some c.credential)

theorem takeWorkspace_bind (f : Workspace → Step Note Machine α) :
    (takeWorkspace >>= f) m.read = f m.workspace m.entered := rfl

/-- Without a directory nothing is started. -/
theorem build_of_unprepared (request : BuildRequest) {e : Error}
    (h : m.workspace.prepared = .error e) : c.build request m = ⟨[], .error e, m.entered⟩ := by
  rw [build, now_bind, takeWorkspace_bind, h]
  rfl

/-- A build that has its directory starts podman once. -/
theorem asks_build (request : BuildRequest) {directory : String}
    (h : m.workspace.prepared = .ok directory) :
    Asks (c.build request m) m.entered (c.buildArguments request directory)
      (Invocation.build request directory).files := by
  rw [build, now_bind, takeWorkspace_bind, h]
  refine Invocation.asks_launch_bind _ _ _ (fun a => ?_) _
  rcases a with fault | r
  · exact quiet_pure _
  · exact Quiet.bind (quiet_progress _) fun _ => quiet_pure _

/-- What podman is told to read is the Containerfile of the recipe. -/
theorem containerfile_build (request : BuildRequest) (directory : String) (began : Bool) :
    (⟨c.buildArguments request directory, (Invocation.build request directory).files, began⟩ :
      Start).containerfile =
      some (request.recipe.containerfile request.name request.fingerprint) := by
  have hoperands : (⟨c.buildArguments request directory,
      (Invocation.build request directory).files, began⟩ : Start).operands =
        "--creds" :: c.credential.exposed :: (Invocation.build request directory).rest := by
    unfold buildArguments Invocation.arguments Start.operands
    cases c.url <;> rfl
  rw [Start.containerfile, hoperands]
  simp [operandsOf, Invocation.build]

section

variable {c m} {name : String} {r : Recipe} (h : (Builder.verdict name r).violation = none)
  (capacity : Capacity)
include h

/-- A request that is accepted starts podman once, if it has its directory. -/
theorem started_build_of_prepared {directory : String}
    (hdirectory : m.workspace.prepared = .ok directory) :
    let request : BuildRequest := ⟨name, r, capacity, r.fingerprint⟩
    let arguments := c.buildArguments request directory
    started (Builder.build c.service name r capacity m).trace =
      [⟨arguments, (Invocation.build request directory).files, (m.spawn arguments).isOk⟩] :=
  (Builder.started_build c.service h capacity m).trans (c.asks_build m _ hdirectory).starts

theorem started_build_of_unprepared {e : Error} (he : m.workspace.prepared = .error e) :
    started (Builder.build c.service name r capacity m).trace = [] := by
  refine (Builder.started_build c.service h capacity m).trans ?_
  change started ((c.build _ m).trace.map .note) = []
  rw [c.build_of_unprepared m _ he]
  rfl

end

/-- Podman is asked for its version with these arguments. -/
def versionArguments (url : Option String) : List String :=
  Invocation.version.arguments url none

theorem asks_connect (url : Option String) (credential : Credential) :
    Asks (connect url credential m) m (versionArguments url) [] := by
  refine Invocation.asks_perform_bind Invocation.version _ _ (fun a => ?_) m
  rcases a with fault | r
  · exact quiet_pure _
  · dsimp only
    split
    · exact (quiet_log _).bind fun _ => quiet_pure _
    · exact quiet_pure _

theorem answer_connect (url : Option String) (credential : Credential) :
    let a := m.attempt (versionArguments url)
    Succeeds a ∧ (connect url credential m).answer = .ok ⟨url, credential⟩ ∨
      ¬ Succeeds a ∧ ∃ e, (connect url credential m).answer = .error e := by
  rw [connect, Invocation.answer_perform_bind, ← versionArguments]
  generalize m.attempt (versionArguments url) = a
  rcases a with fault | r
  · exact .inr ⟨not_succeeds_error, _, rfl⟩
  · dsimp only
    rw [succeeds_ok_iff]
    cases r.ending.isSuccess with
    | true => exact .inl ⟨rfl, rfl⟩
    | false => exact .inr ⟨Bool.false_ne_true, _, rfl⟩

end Connection
end Podman
end SandboxImage
