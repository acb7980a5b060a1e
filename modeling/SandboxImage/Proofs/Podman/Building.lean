import SandboxImage.Proofs.Builder.Contract
import SandboxImage.Proofs.Podman.Starts
import SandboxImage.Proofs.Podman.Workspaces

/-!
# What a failed build is reported as

A build that was sent is settled if there is an image with an identifier, or the failure is one of
the build (`Builder.Settled`). Whether a run is settled is up to the service
(`Builder.settled_settle_iff`). With podman all builds are but for those that the system interrupts:
before podman is started, where its end can't be waited for, and where it has ended well but the
identifier can't be read (`Podman.Connection.answer_build_error`).
-/

namespace SandboxImage

namespace Builder

/-- There is an image with an identifier, or it is the build that has failed. -/
inductive Settled : Except Error BuildResult → Prop
  | built : result.image.imageId ≠ "" → Settled (.ok result)
  | failed : Settled (.error (.build fault))

/-- The builder adds no fault of another kind to those of the service. -/
theorem settled_settle_iff {name : String} {answer : Except Error BuiltImage} :
    Settled (settle name answer) ↔ ∀ e, answer = .error e → ∃ fault, e = .build fault := by
  cases answer with
  | error e =>
    constructor
    · rintro ⟨⟩ _ ⟨⟩
      exact ⟨_, rfl⟩
    · intro h
      obtain ⟨fault, rfl⟩ := h e rfl
      exact .failed
  | ok image =>
    refine iff_of_true ?_ fun e he => by cases he
    by_cases hempty : image.imageId = ""
    · rw [settle_of_empty hempty]
      exact .failed
    · rw [settle_of_ne hempty]
      exact .built hempty

end Builder

namespace Podman
namespace Connection

variable (c : Connection) (request : BuildRequest) (m : Machine)

/-- The build has its directory, and podman is started, which comes to this. -/
def Launches (r : Response) : Prop :=
  ∃ directory, m.workspace.prepared = .ok directory ∧
    m.spawn (c.buildArguments request directory) = .ok r

/-- Podman was started to build, all that it wrote was read, and its end was waited for. -/
structure Ends (r : Response) : Prop where
  launched : c.Launches request m r
  waited : r.waitFault = none
  read : r.readFault = none
  log : m.workspace.refusal .readLog = none

/-- The system interrupts the build: there is no directory for it, or podman was started but can't
be waited for, or has ended well but what it has left can't be had. -/
inductive Interrupts : Error → Prop
  | unprepared : m.workspace.Hinders e → Interrupts e
  | lost : c.Launches request m r → m.workspace.Loses r fault → Interrupts (.io fault)

variable {c request m} {r : Response}

theorem Launches.unique {r' : Response} (h : c.Launches request m r)
    (h' : c.Launches request m r') : r = r' := by
  obtain ⟨directory, hdirectory, hr⟩ := h
  obtain ⟨directory', hdirectory', hr'⟩ := h'
  obtain rfl := Except.ok.inj (hdirectory.symm.trans hdirectory')
  exact Except.ok.inj (hr.symm.trans hr')

theorem build_of_refused {directory : String} (hdirectory : m.workspace.prepared = .ok directory)
    {fault : SystemFault} (hspawn : m.spawn (c.buildArguments request directory) = .error fault) :
    (c.build request m).answer = .error (.build (.notStarted fault)) := by
  have hentered : m.entered.spawn ((Invocation.build request directory).arguments c.url
      (some c.credential)) = .error fault := hspawn
  rw [build, now_bind, takeWorkspace_bind, hdirectory]
  exact congrArg Done.answer (Invocation.launch_bind _ _ _ hentered)

/-- A build for which podman was started tells nothing but the lines of its output. -/
theorem build_of_launches (h : c.Launches request m r) :
    ∃ directory, m.workspace.prepared = .ok directory ∧
      let invocation := Invocation.build request directory
      let arguments := c.buildArguments request directory
      c.build request m =
        ⟨.log ⟨.debug, invocation.shown (some c.credential)⟩ ::
            .start ⟨arguments, invocation.files, true⟩ ::
            (Intake.whole (readOutput r)).told.map .progress,
          (m.workspace.outcome r).map fun imageId =>
            ⟨imageId, buildId request.fingerprint (m.clock m.readings)⟩,
          m.entered.next arguments⟩ := by
  obtain ⟨directory, hdirectory, hr⟩ := h
  have hentered : m.entered.spawn ((Invocation.build request directory).arguments c.url
      (some c.credential)) = .ok r := hr
  refine ⟨directory, hdirectory, ?_⟩
  rw [build, now_bind, takeWorkspace_bind, hdirectory]
  refine (Invocation.launch_bind _ _ _ hentered).trans ?_
  simp [buildArguments, Except.isOk, Except.toBool]

theorem answer_build_of_launches (h : c.Launches request m r) :
    (c.build request m).answer = (m.workspace.outcome r).map fun imageId =>
      ⟨imageId, buildId request.fingerprint (m.clock m.readings)⟩ := by
  obtain ⟨directory, -, hbuild⟩ := build_of_launches h
  rw [hbuild]

/-- Where podman is not started, either there is no directory or the build has failed. -/
theorem launches_or_error (c : Connection) (request : BuildRequest) (m : Machine) :
    (∃ r, c.Launches request m r) ∨
    ∃ e, (c.build request m).answer = .error e ∧
      (m.workspace.Hinders e ∨ ∃ fault, e = .build (.notStarted fault)) := by
  obtain ⟨e, hhinders⟩ | ⟨directory, hdirectory⟩ := m.workspace.hinders_or_prepared
  · refine .inr ⟨e, ?_, .inl hhinders⟩
    rw [c.build_of_unprepared m request hhinders.prepared_eq]
  · cases hspawn : m.spawn (c.buildArguments request directory) with
    | ok r => exact .inl ⟨r, directory, hdirectory, hspawn⟩
    | error fault => exact .inr ⟨_, build_of_refused hdirectory hspawn, .inr ⟨fault, rfl⟩⟩

theorem Interrupts.answer_eq {e : Error} (h : c.Interrupts request m e) :
    (c.build request m).answer = .error e := by
  cases h with
  | unprepared hhinders => rw [c.build_of_unprepared m request hhinders.prepared_eq]
  | lost hlaunches hloses => rw [answer_build_of_launches hlaunches, hloses.outcome_eq]; rfl

theorem Interrupts.ne_build {e : Error} (h : c.Interrupts request m e) (fault : BuildFault) :
    e ≠ .build fault := by
  rintro rfl
  obtain ⟨⟨⟩⟩ := h

/-- A build fails with a fault of its own, unless it is interrupted. -/
theorem answer_build_error {e : Error} (h : (c.build request m).answer = .error e) :
    (∃ fault, e = .build fault) ∨ c.Interrupts request m e := by
  obtain ⟨r, hr⟩ | ⟨e', he', hhinders | ⟨fault, rfl⟩⟩ := c.launches_or_error request m
  · rw [answer_build_of_launches hr] at h
    cases hout : m.workspace.outcome r with
    | ok imageId =>
      rw [hout] at h
      cases h
    | error e' =>
      rw [hout] at h
      cases h
      obtain ⟨fault, rfl⟩ | ⟨fault, rfl, hloses⟩ := Workspace.loses_of_outcome hout
      · exact .inl ⟨fault, rfl⟩
      · exact .inr (.lost hr hloses)
  · obtain rfl := Except.error.inj (he'.symm.trans h)
    exact .inr (.unprepared hhinders)
  · obtain rfl := Except.error.inj (he'.symm.trans h)
    exact .inl ⟨_, rfl⟩

end Connection
end Podman

namespace Builder

open Podman (Connection Machine Unreadable)
open Podman.Workspace (Completed)

/-- A build that is sent is settled exactly if the service fails with nothing but faults of builds.
With podman it is, unless the system interrupts it, and then the failure is that of the system.
Where all is granted that the build asks of its temporary directory, this is left: podman was
started but can't be waited for, or it has succeeded and has left no identifier, or one that is no
text. -/
theorem settled_build_iff {name : String} {r : Recipe} (h : (verdict name r).violation = none)
    (capacity : Capacity) :
    let request : BuildRequest := ⟨name, r, capacity, r.fingerprint⟩
    (∀ (σ : Type) (service : Service σ) (s : σ),
      Settled (build service name r capacity s).answer ↔
        ∀ e, (service.build request s).answer = .error e → ∃ fault, e = .build fault) ∧
    ∀ (c : Connection) (m : Machine),
      let answer := (build c.service name r capacity m).answer
      (Settled answer ↔ ∀ e, ¬ c.Interrupts request m e) ∧
      (∀ e, c.Interrupts request m e → answer = .error e) ∧
      (m.workspace.Grants → ∀ e, c.Interrupts request m e ↔ ∃ response fault, e = .io fault ∧
        c.Launches request m response ∧ (response.waitFault = some fault ∨
          Completed response ∧ Unreadable response fault)) := by
  intro request
  have hanswer {σ : Type} (service : Service σ) (s : σ) :
      (build service name r capacity s).answer = settle name (service.build request s).answer :=
    congrArg Done.answer (build_of_accepted h)
  refine ⟨fun σ service s => ?_, fun c m => ?_⟩
  · rw [hanswer]
    exact settled_settle_iff
  · intro answer
    have hcall : answer = settle name (c.build request m).answer := hanswer c.service m
    refine ⟨?_, fun e he => ?_, fun hgrants e => ⟨?_, ?_⟩⟩
    · rw [hcall, settled_settle_iff]
      constructor
      · intro hbuild e he
        obtain ⟨fault, hfault⟩ := hbuild e he.answer_eq
        exact he.ne_build fault hfault
      · intro hnone e he
        exact (Connection.answer_build_error he).resolve_right (hnone e)
    · rw [hcall, he.answer_eq]
      rfl
    · rintro (hhinders | ⟨hlaunches, hloses⟩)
      · exact absurd hhinders (hgrants.not_hinders e)
      · exact ⟨_, _, rfl, hlaunches, hgrants.loses_iff.1 hloses⟩
    · rintro ⟨response, fault, rfl, hlaunches, hlost⟩
      exact .lost hlaunches (hgrants.loses_iff.2 hlost)

/-- A machine on which podman succeeds and leaves this for the identifier of the image. -/
def leaving (imageId : Option Bytes) : Machine where
  script _ := { imageId }
  clock := id
  process := 7
  scratch := "/tmp"

/-- A recipe of one step. -/
def minimal : Recipe := ⟨"debian", "root", .empty, ["true"]⟩

theorem launches_leaving (imageId : Option Bytes) :
    Connection.Launches ⟨none, ⟨"robot", "hunter2"⟩⟩ ⟨"app", minimal, {}, minimal.fingerprint⟩
      (leaving imageId) { imageId } :=
  ⟨"/tmp", Podman.Workspace.prepared_scratch "/tmp" 0,
    Machine.spawn_of_present rfl (by decide +kernel) rfl⟩

/-- An identifier that is a line feed is none, and the build is what failed. -/
theorem settled_build_iff_blank :
    let c : Connection := ⟨none, ⟨"robot", "hunter2"⟩⟩
    (verdict "app" minimal).violation = none ∧
      Settled (build c.service "app" minimal {} (leaving (some [0x0A]))).answer := by
  intro c
  have h : (verdict "app" minimal).violation = none := by decide
  have hgrants : (leaving (some [0x0A])).workspace.Grants :=
    Podman.Workspace.grants_scratch "/tmp" 0
  obtain ⟨-, hpodman⟩ := settled_build_iff h {}
  obtain ⟨hsettled, -, hinterrupts⟩ := hpodman c (leaving (some [0x0A]))
  refine ⟨h, hsettled.2 fun e he => ?_⟩
  obtain ⟨response, fault, rfl, hlaunches, hlost⟩ := (hinterrupts hgrants e).1 he
  obtain rfl := Connection.Launches.unique hlaunches (launches_leaving _)
  obtain hwait | ⟨-, hnone | ⟨hsome, hbytes⟩⟩ := hlost
  · cases hwait
  · cases hnone
  · cases hsome
    exact absurd hbytes (by decide +kernel)

/-- A build that succeeds without leaving an identifier is not settled. -/
theorem not_settled_build_missing :
    let c : Connection := ⟨none, ⟨"robot", "hunter2"⟩⟩
    let answer := (build c.service "app" minimal {} (leaving none)).answer
    (verdict "app" minimal).violation = none ∧ answer = .error (.io .notFound) ∧
      ¬ Settled answer := by
  intro c answer
  have h : (verdict "app" minimal).violation = none := by decide
  have hloses : (leaving none).workspace.Loses { imageId := none } .notFound :=
    .unreadable ⟨rfl, rfl, rfl⟩ rfl (.missing rfl)
  have hbuild := Connection.Interrupts.lost (launches_leaving none) hloses
  have hanswer : answer = .error (.io .notFound) := by
    refine (congrArg Done.answer (build_of_accepted h)).trans ?_
    exact settle_eq_error_iff.2 (.inl hbuild.answer_eq)
  refine ⟨h, hanswer, fun hsettled => ?_⟩
  rw [hanswer] at hsettled
  cases hsettled

end Builder
end SandboxImage
