import SandboxImage.Podman.Service
import SandboxImage.Proofs.Text.Utf8

/-!
# What becomes of a workspace

The directory of a build is had exactly if nothing hinders it (`Workspace.prepared_eq_error_iff`).
Of a build that was started, faults of other kinds than its own are those of waiting, of the file
for the identifier and of giving the directory up (`Workspace.loses_of_outcome`).
-/

namespace SandboxImage.Podman

/-- Podman did what it was asked to do, but what it has left for the identifier of the image is no
text, if it has left anything. -/
inductive Unreadable (r : Response) : SystemFault → Prop
  | missing : r.imageId = none → Unreadable r .notFound
  | notText : r.imageId = some bytes → Text.decode? bytes = none → Unreadable r .notText

theorem imageIdOf_eq_error_iff {r : Response} {e : Error} :
    imageIdOf r = .error e ↔ ∃ fault, e = .io fault ∧ Unreadable r fault := by
  unfold imageIdOf
  constructor
  · intro h
    split at h
    next hnone =>
      cases h
      exact ⟨_, rfl, .missing hnone⟩
    next bytes hsome =>
      split at h
      next => cases h
      next hbytes =>
        cases h
        exact ⟨_, rfl, .notText hsome hbytes⟩
  · rintro ⟨fault, rfl, ⟨hnone⟩ | ⟨hsome, hbytes⟩⟩
    · simp [hnone]
    · simp [hsome, hbytes]

namespace Workspace

variable {w : Workspace} {r : Response}

/-! ## Before the start -/

/-- Why a build does not get as far as starting podman: the first errand that is refused, or the
path that is no text. -/
inductive Hinders (w : Workspace) : Error → Prop
  | directory : w.refusal .makeDirectory = some fault → w.Hinders (.io fault)
  | containerfile : w.refusal .makeDirectory = none →
    w.refusal .writeContainerfile = some fault → w.Hinders (.io fault)
  | log : w.refusal .makeDirectory = none → w.refusal .writeContainerfile = none →
    w.refusal .makeLog = some fault → w.Hinders (.io fault)
  | path : w.refusal .makeDirectory = none → w.refusal .writeContainerfile = none →
    w.refusal .makeLog = none → (∀ text, w.path ≠ Text.encode text) →
    w.Hinders (.configuration (.pathNotText (w.path ++ Text.encode "/Containerfile")))

theorem Hinders.prepared_eq {e : Error} (h : w.Hinders e) : w.prepared = .error e := by
  unfold prepared grant
  cases h with
  | directory hmake =>
    rw [hmake]
    rfl
  | containerfile hmake hwrite =>
    rw [hmake, hwrite]
    rfl
  | log hmake hwrite hlog =>
    rw [hmake, hwrite, hlog]
    rfl
  | path hmake hwrite hlog hpath =>
    have hnone : Text.decode? w.path = none :=
      Option.eq_none_iff_forall_ne_some.2 fun text htext =>
        hpath text (Text.decode?_eq_some_iff.1 htext).symm
    rw [hmake, hwrite, hlog, hnone]
    rfl

theorem prepared_eq_of_path {directory : String} (hmake : w.refusal .makeDirectory = none)
    (hwrite : w.refusal .writeContainerfile = none) (hlog : w.refusal .makeLog = none)
    (hpath : w.path = Text.encode directory) : w.prepared = .ok directory := by
  unfold prepared grant
  rw [hmake, hwrite, hlog, hpath, Text.decode?_encode]
  rfl

theorem hinders_or_prepared (w : Workspace) :
    (∃ e, w.Hinders e) ∨ ∃ directory, w.prepared = .ok directory := by
  cases hmake : w.refusal .makeDirectory with
  | some fault => exact .inl ⟨_, .directory hmake⟩
  | none =>
    cases hwrite : w.refusal .writeContainerfile with
    | some fault => exact .inl ⟨_, .containerfile hmake hwrite⟩
    | none =>
      cases hlog : w.refusal .makeLog with
      | some fault => exact .inl ⟨_, .log hmake hwrite hlog⟩
      | none =>
        by_cases hpath : ∃ text, w.path = Text.encode text
        · obtain ⟨directory, hpath⟩ := hpath
          exact .inr ⟨directory, prepared_eq_of_path hmake hwrite hlog hpath⟩
        · exact .inl ⟨_, .path hmake hwrite hlog (not_exists.1 hpath)⟩

theorem prepared_eq_error_iff {e : Error} : w.prepared = .error e ↔ w.Hinders e := by
  refine ⟨fun h => ?_, Hinders.prepared_eq⟩
  obtain ⟨e', he'⟩ | ⟨directory, hdirectory⟩ := w.hinders_or_prepared
  · obtain rfl := Except.error.inj (he'.prepared_eq.symm.trans h)
    exact he'
  · cases hdirectory.symm.trans h

/-- A workspace of which nothing is refused, with a path that is a text. -/
structure Grants (w : Workspace) : Prop where
  granted : ∀ errand, w.refusal errand = none
  text : ∃ directory, w.path = Text.encode directory

theorem Grants.not_hinders (h : w.Grants) (e : Error) : ¬ w.Hinders e := by
  rintro (hmake | ⟨-, hwrite⟩ | ⟨-, -, hlog⟩ | ⟨-, -, -, hpath⟩)
  · simp [h.granted] at hmake
  · simp [h.granted] at hwrite
  · simp [h.granted] at hlog
  · obtain ⟨directory, hdirectory⟩ := h.text
    exact hpath directory hdirectory

/-- A text stands for workspaces that are granted. -/
theorem grants_scratch (path : String) (build : Nat) :
    ((path : Scratch).workspace build).Grants :=
  ⟨fun _ => rfl, path, rfl⟩

theorem prepared_scratch (path : String) (build : Nat) :
    ((path : Scratch).workspace build).prepared = .ok path :=
  prepared_eq_of_path rfl rfl rfl rfl

/-! ## After the start -/

/-- Podman ended well, and all of its output was read. -/
structure Completed (r : Response) : Prop where
  waited : r.waitFault = none
  read : r.readFault = none
  ending : r.ending = .exited 0

/-- What a build that was started fails with though nothing is said against the build: its end can't
be waited for, or it ended well but the identifier can't be read, or the directory not removed. -/
inductive Loses (w : Workspace) (r : Response) : SystemFault → Prop
  | wait : r.waitFault = some fault → w.Loses r fault
  | closed : Completed r → w.refusal .readImageId = some fault → w.Loses r fault
  | unreadable : Completed r → w.refusal .readImageId = none → Unreadable r fault → w.Loses r fault
  | kept : Completed r → w.refusal .readImageId = none → imageIdOf r = .ok imageId →
    w.refusal .removeDirectory = some fault → w.Loses r fault

theorem outcome_of_completed (h : Completed r) : w.outcome r = (do
    w.grant .readImageId
    let imageId ← imageIdOf r
    w.grant .removeDirectory
    return imageId) := by
  have hsuccess : r.ending.isSuccess = true := by simp [h.ending, Ending.isSuccess]
  simp only [outcome, h.waited, h.read, hsuccess, if_true]

/-- A build that fails is reported by what podman has written. -/
theorem outcome_of_failed (hwait : r.waitFault = none) (hread : r.readFault = none)
    (hending : r.ending ≠ .exited 0) :
    w.outcome r = .error (.build (buildFault { r with stderr := w.log r })) := by
  have hsuccess : r.ending.isSuccess = false := by simpa [Ending.isSuccess] using hending
  simp [outcome, hwait, hread, hsuccess]

theorem Loses.outcome_eq {fault : SystemFault} (h : w.Loses r fault) :
    w.outcome r = .error (.io fault) := by
  cases h with
  | wait hwait => simp [outcome, hwait]
  | closed hcompleted hid =>
    rw [outcome_of_completed hcompleted, grant, hid]
    rfl
  | unreadable hcompleted hid hread =>
    rw [outcome_of_completed hcompleted, grant, hid, imageIdOf_eq_error_iff.2 ⟨_, rfl, hread⟩]
    rfl
  | kept hcompleted hid hread hremove =>
    simp only [outcome_of_completed hcompleted, grant, hid, hread, hremove]
    rfl

/-- Every other failure is one of the build. -/
theorem loses_of_outcome {e : Error} (h : w.outcome r = .error e) :
    (∃ fault, e = .build fault) ∨ ∃ fault, e = .io fault ∧ w.Loses r fault := by
  cases hwait : r.waitFault with
  | some fault =>
    have hloses : w.Loses r fault := .wait hwait
    cases hloses.outcome_eq.symm.trans h
    exact .inr ⟨fault, rfl, hloses⟩
  | none =>
    cases hread : r.readFault with
    | some fault =>
      simp only [outcome, hwait, hread, Except.error.injEq] at h
      exact .inl ⟨_, h.symm⟩
    | none =>
      by_cases hending : r.ending = .exited 0
      · have hcompleted : Completed r := ⟨hwait, hread, hending⟩
        suffices ∃ fault, w.Loses r fault by
          obtain ⟨fault, hloses⟩ := this
          cases hloses.outcome_eq.symm.trans h
          exact .inr ⟨fault, rfl, hloses⟩
        cases hid : w.refusal .readImageId with
        | some fault => exact ⟨fault, .closed hcompleted hid⟩
        | none =>
          cases hof : imageIdOf r with
          | error e' =>
            obtain ⟨fault, -, hunreadable⟩ := imageIdOf_eq_error_iff.1 hof
            exact ⟨fault, .unreadable hcompleted hid hunreadable⟩
          | ok imageId =>
            cases hremove : w.refusal .removeDirectory with
            | some fault => exact ⟨fault, .kept hcompleted hid hof hremove⟩
            | none =>
              simp only [outcome_of_completed hcompleted, grant, hid, hof, hremove] at h
              cases h
      · rw [outcome_of_failed hwait hread hending] at h
        exact .inl ⟨_, (Except.error.inj h).symm⟩

/-- Where nothing of the directory is refused, only waiting and the identifier are left. -/
theorem Grants.loses_iff (h : w.Grants) {fault : SystemFault} :
    w.Loses r fault ↔ r.waitFault = some fault ∨ Completed r ∧ Unreadable r fault := by
  constructor
  · rintro (hwait | ⟨-, hid⟩ | ⟨hcompleted, -, hunreadable⟩ | ⟨-, -, -, hremove⟩)
    · exact .inl hwait
    · simp [h.granted] at hid
    · exact .inr ⟨hcompleted, hunreadable⟩
    · simp [h.granted] at hremove
  · rintro (hwait | ⟨hcompleted, hunreadable⟩)
    · exact .wait hwait
    · exact .unreadable hcompleted (h.granted _) hunreadable

end Workspace

/-! ## Machines that answer all alike -/

/-- A machine on which every start of podman comes to this. -/
def answering (r : Response) : Machine where
  script _ := r
  clock := id
  process := 7
  scratch := "/tmp"

theorem prepared_answering (r : Response) : (answering r).workspace.prepared = .ok "/tmp" :=
  Workspace.prepared_scratch "/tmp" 0

end SandboxImage.Podman
