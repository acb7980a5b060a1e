import SandboxImage.CommandLine.Program
import SandboxImage.Proofs.Credential.Form
import SandboxImage.Proofs.Credential.Requests

/-!
# The password is a secret

Two credentials of one user make no difference to anything but the starts of podman that are given
the credential, neither in a session with podman nor on the command line
(`Credential.password_secret`).
-/

namespace SandboxImage

/-! ## The command line -/

namespace CommandLine

open Podman (Connection Connected)

variable {k k' : Credential} {around around' : Surroundings}
  (hk : Credential.ofVariable around.credential = .ok k)
  (hk' : Credential.ofVariable around'.credential = .ok k')
include hk hk'

theorem connect_alike {secret secret' : String} (url : Option String) :
    Step.Alike (Event.Alike secret secret') (Connected k k') Eq (connect around url)
      (connect around' url) := by
  simp only [connect, hk, hk']
  refine .bind (.mapTrace (Connection.connect_alike url)) fun a a' ha => ?_
  cases ha with
  | error e => exact .pure (.error _)
  | ok url => exact .bind_eq (.log _ _) fun _ => .pure (.ok url)

variable (h : k.Alike k')
include h

theorem build_sameBut (url : Option String) (t : Template) :
    Step.SameBut k.exposed k'.exposed (build around url t) (build around' url t) := by
  refine .bind (connect_alike hk hk' url) fun a a' ha => ?_
  cases ha with
  | error f => exact .pure rfl
  | ok url =>
    refine .bind_eq (Builder.build_sameBut (Connection.service_sameBut h url) _ _ _)
      fun answer => ?_
    cases answer with
    | error e => exact .pure rfl
    | ok result => exact .bind_eq (.tell (.same rfl)) fun _ => .pure rfl

theorem verify_sameBut (url : Option String) (t : Template) (policy : Policy) :
    Step.SameBut k.exposed k'.exposed (verify around url t policy)
      (verify around' url t policy) := by
  refine .bind (connect_alike hk hk' url) fun a a' ha => ?_
  cases ha with
  | error f => exact .pure rfl
  | ok url =>
    refine .bind_eq (.tell (.same rfl)) fun _ => ?_
    refine .bind_eq (Verifier.verify_sameBut (Connection.service_sameBut h url) _ _ _ _)
      fun answer => ?_
    cases answer with
    | error halt => cases halt <;> exact .pure rfl
    | ok report =>
      refine .bind_eq (.tell (.same rfl)) fun _ => ?_
      cases judge report policy with
      | error f => exact .pure rfl
      | ok =>
        dsimp only
        split
        · exact .bind_eq (.log _ _) fun _ => .pure rfl
        · exact .pure rfl

theorem perform_sameBut (url : Option String) (t : Template) (task : Task) :
    Step.SameBut k.exposed k'.exposed (perform around url t task)
      (perform around' url t task) := by
  cases task with
  | build name cpus memoryMb => exact build_sameBut hk hk' h url _
  | verify name strict => exact verify_sameBut hk hk' h url _ _
  | render =>
    unfold perform render
    dsimp only
    split
    · exact .bind_eq (.logAll _) fun _ => .pure rfl
    · exact .bind_eq (.logAll _) fun _ => .bind_eq (.tell (.same rfl)) fun _ => .pure rfl

variable (hfiles : around.files = around'.files) (hdirectory : around.directory = around'.directory)
include hfiles hdirectory

theorem Request.run_sameBut (r : Request) :
    Step.SameBut k.exposed k'.exposed (r.run around) (r.run around') := by
  have hpath : templatePath around r.file = templatePath around' r.file := by
    cases r.file <;> simp only [templatePath, hfiles, hdirectory]
  unfold Request.run
  rw [hpath, hfiles]
  split
  · exact .pure rfl
  · refine .bind_eq (.log _ _) fun _ => ?_
    split
    · exact .pure rfl
    · exact .bind_eq (.log _ _) fun _ => perform_sameBut hk hk' h r.url _ r.task

theorem run_sameBut (arguments : List Bytes) :
    Step.SameBut k.exposed k'.exposed (run arguments around) (run arguments around') := by
  rintro m _ rfl
  unfold run
  cases Request.ofArguments arguments with
  | error refusal => exact ⟨.nil, rfl, rfl⟩
  | ok request =>
    obtain ⟨htrace, hanswer, hstate⟩ :=
      Request.run_sameBut hk hk' h hfiles hdirectory request m m rfl
    refine ⟨htrace, ?_, hstate⟩
    -- what is printed is read off the trace
    have hprinted := Event.Alike.transcript_eq htrace
    dsimp only
    rw [hanswer]
    unfold exitOf
    rw [hprinted]

end CommandLine

namespace Credential

variable {text text' : String} {k k' : Credential}

theorem isPassable_exposed (hk : parse text = .ok k) (h : '\x00' ∉ text.toList) :
    Podman.isPassable k.exposed = true := by
  obtain ⟨-, htrimmed⟩ := parse_iff.1 hk
  rw [Podman.isPassable, ← htrimmed, Text.trimmed, String.toList_ofList, Bool.not_eq_true',
    List.contains_eq_mem, decide_eq_false_iff_not]
  exact fun hmem => h (Text.mem_of_mem_trim hmem)

/-- Nothing that a session with podman or a run of the program shows depends on the password. The
starts of builds and runs have the credential directly behind the command, and the other ones are
the same. -/
theorem password_secret (hk : parse text = .ok k) (hk' : parse text' = .ok k')
    (hnul : '\x00' ∉ text.toList) (hnul' : '\x00' ∉ text'.toList) (huser : k.user = k'.user) :
    k.dump = k'.dump ∧
    (∀ (actions : List Podman.Action) (m : Podman.Machine),
      Done.SameBut (Text.trimmed text) (Text.trimmed text')
        (Podman.Session.run text actions { machine := m })
        (Podman.Session.run text' actions { machine := m })) ∧
    ∀ (arguments : List Bytes) (files : Files) (directory : Except SystemFault Files.Path)
      (bytes bytes' : Bytes) (m : Podman.Machine), Text.decode? bytes = some text →
      Text.decode? bytes' = some text' →
      Done.SameBut (Text.trimmed text) (Text.trimmed text')
        (CommandLine.run arguments ⟨files, directory, some bytes⟩ m)
        (CommandLine.run arguments ⟨files, directory, some bytes'⟩ m) := by
  have h : k.Alike k' := ⟨huser, isPassable_exposed hk hnul, isPassable_exposed hk' hnul'⟩
  obtain ⟨hformed, htrimmed⟩ := parse_iff.1 hk
  obtain ⟨hformed', htrimmed'⟩ := parse_iff.1 hk'
  rw [htrimmed, htrimmed']
  refine ⟨?_, fun actions m => ?_, fun arguments files directory bytes bytes' m ht ht' => ?_⟩
  · rw [dump, dump, shown, shown, huser]
  · exact (Podman.Session.run_alike h hk hk' actions _ _ ⟨rfl, .none, .nil⟩).sameBut
  · let around : CommandLine.Surroundings := ⟨files, directory, some bytes⟩
    let around' : CommandLine.Surroundings := ⟨files, directory, some bytes'⟩
    have hheld : ofVariable around.credential = .ok k :=
      ofVariable_iff.2 (.text ht htrimmed hformed)
    have hheld' : ofVariable around'.credential = .ok k' :=
      ofVariable_iff.2 (.text ht' htrimmed' hformed')
    exact (CommandLine.run_sameBut hheld hheld' h rfl rfl arguments m m rfl).sameBut

/-- A machine on which nothing fails but the build. -/
def obliging : Podman.Machine where
  script _ := {}
  clock := id
  process := 7
  scratch := "/tmp"

/-- A password that is longer, and has a colon in it. -/
theorem password_secret_changed :
    let text := " robot:hunter2\n"
    let text' := "robot:correct:horse"
    let actions : List Podman.Action :=
      [.connect none, .acquire "image" .empty {}, .exec 0 "true", .kill 0]
    let around (text : String) : CommandLine.Surroundings :=
      ⟨⟨fun _ => .error .notFound⟩, Text.encode "/work", some (Text.encode text)⟩
    parse text = .ok ⟨"robot", "hunter2"⟩ ∧ parse text' = .ok ⟨"robot", "correct:horse"⟩ ∧
      Done.SameBut "robot:hunter2" "robot:correct:horse"
        (Podman.Session.run text actions { machine := obliging })
        (Podman.Session.run text' actions { machine := obliging }) ∧
      Done.SameBut "robot:hunter2" "robot:correct:horse"
        (CommandLine.run [Text.encode "build"] (around text) obliging)
        (CommandLine.run [Text.encode "build"] (around text') obliging) := by
  intro text text' actions around
  have hk : parse text = .ok ⟨"robot", "hunter2"⟩ := by decide
  have hk' : parse text' = .ok ⟨"robot", "correct:horse"⟩ := by decide
  have hnul : '\x00' ∉ text.toList ∧ '\x00' ∉ text'.toList := by decide
  obtain ⟨-, hsession, hrun⟩ := password_secret hk hk' hnul.1 hnul.2 rfl
  have htrimmed : Text.trimmed text = "robot:hunter2" := by decide
  have htrimmed' : Text.trimmed text' = "robot:correct:horse" := by decide
  rw [htrimmed, htrimmed'] at hsession hrun
  refine ⟨hk, hk', hsession actions obliging, hrun _ _ _ _ _ _ ?_ ?_⟩ <;> decide +kernel

end Credential
end SandboxImage
