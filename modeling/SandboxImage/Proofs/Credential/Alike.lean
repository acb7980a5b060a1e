import Mathlib.Data.List.Forall2
import SandboxImage.Builder
import SandboxImage.Console
import SandboxImage.Proofs.Podman.Starts
import SandboxImage.Verifier

/-!
# Steps that are alike

Two steps are alike if from related states they tell the same but for the secret that podman is
started with, give related answers and leave related states (`Step.Alike`). There is one lemma for
each way in which steps are put together, so what is put together alike from services that are alike
is alike: building and verifying are (`Builder.build_sameBut`, `Verifier.verify_sameBut`).
-/

namespace SandboxImage

/-- Two starts of podman that differ in a secret at most: builds and runs have it directly behind
the command, and the others have none. -/
inductive Start.Alike (secret secret' : String) : Start → Start → Prop
  | keyless (url : Option String) {command : String} {rest : List String}
    {files : List (String × String)} {began : Bool} : command ∈ ["version", "exec", "rm"] →
    Start.Alike secret secret'
      ⟨url.elim [] (fun u => ["--url", u]) ++ command :: rest, files, began⟩
      ⟨url.elim [] (fun u => ["--url", u]) ++ command :: rest, files, began⟩
  | keyed (url : Option String) {command : String} {rest : List String}
    {files : List (String × String)} {began : Bool} : command ∈ ["build", "run"] →
    Start.Alike secret secret'
      ⟨url.elim [] (fun u => ["--url", u]) ++ command :: "--creds" :: secret :: rest, files, began⟩
      ⟨url.elim [] (fun u => ["--url", u]) ++ command :: "--creds" :: secret' :: rest, files, began⟩

/-- Two events that differ in the secret of a start at most. -/
inductive Event.Alike (secret secret' : String) : Event → Event → Prop
  | same : e.start? = none → Event.Alike secret secret' e e
  | start : Start.Alike secret secret' s s' →
    Event.Alike secret secret' (.note (.start s)) (.note (.start s'))

/-- Two notes that differ in the secret of a start at most. -/
def Note.Alike (secret secret' : String) (n n' : Note) : Prop :=
  Event.Alike secret secret' (.note n) (.note n')

/-- What two steps have come to is the same up to the relations `R` of what was told, `A` of the
answers and `S` of the states. -/
structure Done.Alike (R : ε → ε → Prop) (A : α → α → Prop) (S : σ → σ → Prop)
    (done done' : Done ε σ α) : Prop where
  trace : List.Forall₂ R done.trace done'.trace
  answer : A done.answer done'.answer
  state : S done.state done'.state

namespace Step

/-- From states that are related by `S`, two steps come to the same up to the relations. -/
def Alike (R : ε → ε → Prop) (A : α → α → Prop) (S : σ → σ → Prop) (m m' : Step ε σ α) : Prop :=
  ∀ s s', S s s' → (m s).Alike R A S (m' s')

namespace Alike

variable {R : ε → ε → Prop} {A : α → α → Prop} {B : β → β → Prop} {S : σ → σ → Prop}

theorem pure {a a' : α} (h : A a a') : Alike R A S (Pure.pure a) (Pure.pure a') :=
  fun _ _ hs => ⟨.nil, h, hs⟩

theorem tell {e e' : ε} (h : R e e') : Alike R Eq S (Step.tell e) (Step.tell e') :=
  fun _ _ hs => ⟨.cons h .nil, rfl, hs⟩

theorem tellAll {es : List ε} (h : ∀ e ∈ es, R e e) :
    Alike R Eq S (Step.tellAll es) (Step.tellAll es) :=
  fun _ _ hs => ⟨List.forall₂_same.2 h, rfl, hs⟩

theorem state : Alike R S S Step.state Step.state :=
  fun _ _ hs => ⟨.nil, hs, hs⟩

theorem setState {s s' : σ} (h : S s s') : Alike R Eq S (Step.setState s) (Step.setState s') :=
  fun _ _ _ => ⟨.nil, rfl, h⟩

theorem bind {m m' : Step ε σ α} {f f' : α → Step ε σ β} (h : Alike R A S m m')
    (hf : ∀ a a', A a a' → Alike R B S (f a) (f' a')) : Alike R B S (m >>= f) (m' >>= f') := by
  intro s s' hs
  obtain ⟨htrace, hanswer, hstate⟩ := h s s' hs
  obtain ⟨htrace', hanswer', hstate'⟩ := hf _ _ hanswer _ _ hstate
  exact ⟨List.rel_append htrace htrace', hanswer', hstate'⟩

theorem bind_eq {m m' : Step ε σ α} {f f' : α → Step ε σ β} (h : Alike R Eq S m m')
    (hf : ∀ a, Alike R B S (f a) (f' a)) : Alike R B S (m >>= f) (m' >>= f') := by
  refine h.bind fun a a' ha => ?_
  rw [ha]
  exact hf a'

theorem mapTrace {δ : Type} {R : δ → δ → Prop} {f : ε → δ} {m m' : Step ε σ α}
    (h : Alike (fun e e' => R (f e) (f e')) A S m m') :
    Alike R A S (Step.mapTrace f m) (Step.mapTrace f m') := by
  intro s s' hs
  obtain ⟨htrace, hanswer, hstate⟩ := h s s' hs
  refine ⟨?_, hanswer, hstate⟩
  rw [mapTrace_apply, mapTrace_apply]
  exact List.forall₂_map_left_iff.2 (List.forall₂_map_right_iff.2 htrace)

end Alike
end Step

/-! ## What traces that are alike have in common -/

namespace Event

variable {secret secret' : String} {trace trace' : List Event}

theorem Alike.filterMap_eq {β : Type} (h : List.Forall₂ (Event.Alike secret secret') trace trace')
    {f : Event → Option β} (hf : ∀ s, f (.note (.start s)) = none) :
    trace.filterMap f = trace'.filterMap f := by
  induction h with
  | nil => rfl
  | cons he _ ih =>
    cases he with
    | same => rw [List.filterMap_cons, List.filterMap_cons, ih]
    | start => rw [List.filterMap_cons, List.filterMap_cons, hf, hf, ih]

theorem Alike.transcript_eq (h : List.Forall₂ (Event.Alike secret secret') trace trace') :
    Console.transcript trace = Console.transcript trace' := by
  have hshown : trace.map Console.shown = trace'.map Console.shown := by
    induction h with
    | nil => rfl
    | cons he _ ih =>
      cases he with
      | same => rw [List.map_cons, List.map_cons, ih]
      | start => rw [List.map_cons, List.map_cons, ih]; rfl
  rw [Console.transcript, Console.transcript, hshown]

theorem Alike.started (h : List.Forall₂ (Event.Alike secret secret') trace trace') :
    List.Forall₂ (Start.Alike secret secret') (started trace) (started trace') := by
  induction h with
  | nil => exact .nil
  | cons he _ ih =>
    cases he with
    | same hnone =>
      rw [started_cons, started_cons, hnone]
      exact ih
    | start hs => exact .cons hs ih

end Event

/-- Two runs of which nothing is different but a secret in the starts of podman. -/
structure Done.SameBut (secret secret' : String) (done done' : Done Event σ α) : Prop where
  answer : done.answer = done'.answer
  log : done.trace.filterMap Event.log? = done'.trace.filterMap Event.log?
  progress : done.trace.filterMap Event.progress? = done'.trace.filterMap Event.progress?
  console : Console.transcript done.trace = Console.transcript done'.trace
  starts : List.Forall₂ (Start.Alike secret secret') (started done.trace) (started done'.trace)

theorem Done.Alike.sameBut {secret secret' : String} {S : σ → σ → Prop}
    {done done' : Done Event σ α}
    (h : done.Alike (Event.Alike secret secret') Eq S done') :
    done.SameBut secret secret' done' where
  answer := h.answer
  log := Event.Alike.filterMap_eq h.trace fun _ => rfl
  progress := Event.Alike.filterMap_eq h.trace fun _ => rfl
  console := Event.Alike.transcript_eq h.trace
  starts := Event.Alike.started h.trace

/-! ## Steps and services that are the same but for a secret -/

/-- Two steps that are the same but for a secret. -/
abbrev Step.SameBut (secret secret' : String) (m m' : Step Event σ α) : Prop :=
  Step.Alike (Event.Alike secret secret') Eq Eq m m'

/-- Two services that are the same but for a secret. -/
structure Service.SameBut (secret secret' : String) (service service' : Service σ) : Prop where
  build request : Step.Alike (Note.Alike secret secret') Eq Eq (service.build request)
    (service'.build request)
  acquire name env capacity : Step.Alike (Note.Alike secret secret') Eq Eq
    (service.acquire name env capacity) (service'.acquire name env capacity)
  exec i command : Step.Alike (Note.Alike secret secret') Eq Eq (service.exec i command)
    (service'.exec i command)
  kill i : Step.Alike (Note.Alike secret secret') Eq Eq (service.kill i) (service'.kill i)

section

variable {secret secret' : String} {σ : Type}

theorem Step.Alike.log {S : σ → σ → Prop} (level : Level) (text : String) :
    Step.Alike (Event.Alike secret secret') Eq S (Step.log level text) (Step.log level text) :=
  .tell (.same rfl)

theorem Step.Alike.logAll {S : σ → σ → Prop} (lines : List LogLine) :
    Step.Alike (Event.Alike secret secret') Eq S (Step.logAll lines) (Step.logAll lines) := by
  refine .tellAll fun e he => ?_
  obtain ⟨l, -, rfl⟩ := List.mem_map.1 he
  exact .same rfl

variable {service service' : Service σ} (h : Service.SameBut secret secret' service service')
include h

/-! ## Building -/

theorem Builder.send_sameBut (request : BuildRequest) :
    Step.SameBut secret secret' (Builder.send service request) (Builder.send service' request) := by
  have hsubmit : Step.SameBut secret secret' (Builder.submit service request)
      (Builder.submit service' request) :=
    .bind_eq (.tell (.same rfl)) fun _ => .mapTrace (h.build request)
  refine .bind_eq (.log _ _) fun _ => .bind_eq hsubmit fun answer => ?_
  cases answer with
  | error e => exact .pure rfl
  | ok image =>
    refine .bind_eq (.log _ _) fun _ => ?_
    split
    · exact .pure rfl
    · exact .bind_eq (.log _ _) fun _ => .pure rfl

theorem Builder.build_sameBut (name : String) (r : Recipe) (capacity : Capacity) :
    Step.SameBut secret secret' (Builder.build service name r capacity)
      (Builder.build service' name r capacity) := by
  refine .bind_eq (.logAll _) fun _ => ?_
  split
  · exact .pure rfl
  · exact Builder.send_sameBut h _

/-! ## Verifying -/

namespace Verifier

theorem tearDown_sameBut (i : String) :
    Step.SameBut secret secret' (tearDown service i) (tearDown service' i) :=
  .bind_eq (.log _ _) fun _ => .bind_eq (.tell (.same rfl)) fun _ =>
    .bind_eq (.mapTrace (h.kill i)) fun _ => .pure rfl

namespace Guard

theorem exec_sameBut (g : Guard) (command : String) :
    Step.SameBut secret secret' (g.exec service command) (g.exec service' command) := by
  unfold exec
  split
  · exact .bind_eq (.tell (.same rfl)) fun _ => .mapTrace (h.exec _ _)
  · exact .pure rfl

theorem release_sameBut (g : Guard) :
    Step.SameBut secret secret' (g.release service) (g.release service') := by
  unfold release
  split
  · exact .bind_eq (tearDown_sameBut h _) fun _ => .pure rfl
  · exact .pure rfl

theorem drop_sameBut (g : Guard) :
    Step.SameBut secret secret' (g.drop service) (g.drop service') := by
  unfold drop
  split
  · refine .bind_eq (tearDown_sameBut h _) fun answer => ?_
    cases answer with
    | error e => exact .log _ _
    | ok => exact .pure rfl
  · exact .pure rfl

end Guard

theorem runCheck_sameBut (g : Guard) (check : Check) :
    Step.SameBut secret secret' (runCheck service g check) (runCheck service' g check) :=
  .bind_eq (.log _ _) fun _ => .bind_eq (g.exec_sameBut h _) fun _ => .pure rfl

/-- Each check is run alike, and those after it are if this one has left the same behind. -/
theorem runChecks_sameBut (g : Guard) (observer : Observer) (done : List Outcome)
    (checks : List (Check × CheckKind)) :
    Step.SameBut secret secret' (runChecks service g observer done checks)
      (runChecks service' g observer done checks) := by
  induction checks generalizing done with
  | nil => exact .pure rfl
  | cons c rest ih =>
    refine .bind_eq (runCheck_sameBut h g c.1) fun answer => ?_
    cases answer with
    | error halt => exact .pure rfl
    | ok output =>
      refine .bind_eq (.log _ _) fun _ => .bind_eq (.tell (.same rfl)) fun _ => ?_
      split
      · exact .pure rfl
      · exact ih _

theorem acquire_sameBut (name : String) (env : EnvTable) (capacity : Capacity) :
    Step.SameBut secret secret' (acquire service name env capacity)
      (acquire service' name env capacity) := by
  rintro s _ rfl
  obtain ⟨htrace, hanswer, hstate⟩ := h.acquire name env capacity s s rfl
  refine ⟨?_, congrArg (Except.mapError (asAcquisition name)) hanswer, hstate⟩
  unfold acquire
  simp only [hanswer]
  refine .cons (.same rfl) ?_
  exact List.forall₂_map_left_iff.2 (List.forall₂_map_right_iff.2 htrace)

theorem conclude_sameBut (name : String) (g : Guard) (run : Except Halt (List Outcome)) :
    Step.SameBut secret secret' (conclude service name g run)
      (conclude service' name g run) := by
  refine .bind_eq (g.release_sameBut h) fun released =>
    .bind_eq (released.2.drop_sameBut h) fun _ => ?_
  split
  · exact .pure rfl
  · exact .bind_eq (.log _ _) fun _ => .pure rfl

theorem runOn_sameBut (name : String) (p : Plan) (observer : Observer) (i : String) :
    Step.SameBut secret secret' (runOn service name p observer i)
      (runOn service' name p observer i) := by
  refine .bind_eq (.log _ _) fun _ =>
    .bind_eq (runChecks_sameBut h (.hold i) observer [] (agenda p)) fun run => ?_
  split
  · exact .bind_eq ((Guard.hold i).drop_sameBut h) fun _ => .pure rfl
  · exact conclude_sameBut h name (.hold i) run

theorem verify_sameBut (name : String) (p : Plan) (capacity : Capacity) (observer : Observer) :
    Step.SameBut secret secret' (verify service name p capacity observer)
      (verify service' name p capacity observer) := by
  unfold verify
  split
  · exact .pure rfl
  · refine .bind_eq (acquire_sameBut h name p.env capacity) fun answer => ?_
    cases answer with
    | error e => exact .pure rfl
    | ok i => exact runOn_sameBut h name p observer i

end Verifier
end
end SandboxImage
