import SandboxImage.Podman.Session
import SandboxImage.Proofs.Credential.Alike

/-!
# Requests with another password

The requests to podman on two connections that differ in the password are alike. Only builds and
runs are given the credential (`Invocation.launch_keyed`); the service as a whole is the same but
for it (`Connection.service_sameBut`). So each action of a client is, and therefore each session
(`Action.run_alike`, `Session.run_alike`).
-/

namespace SandboxImage

/-- Two credentials of one user, each of which can be passed to podman. -/
structure Credential.Alike (k k' : Credential) : Prop where
  user : k.user = k'.user
  passable : Podman.isPassable k.exposed = true
  passable' : Podman.isPassable k'.exposed = true

namespace Podman

variable {k k' : Credential}

theorem Quiet.alike {secret secret' : String} {step : Step Note Machine α} (h : Quiet step) :
    Step.Alike (Note.Alike secret secret') Eq Eq step step := by
  rintro m _ rfl
  refine ⟨List.forall₂_same.2 fun n hn => .same ?_, rfl, rfl⟩
  have hstarts := (h m).1
  rw [started, List.filterMap_eq_nil_iff] at hstarts
  exact hstarts _ (List.mem_map_of_mem hn)

namespace Invocation

variable (i : Invocation) (url : Option String)

theorem launch_keyless {secret secret' : String} (hi : i.command ∈ ["version", "exec", "rm"]) :
    Step.Alike (Note.Alike secret secret') Eq Eq (i.launch url none) (i.launch url none) := by
  rintro m _ rfl
  exact ⟨.cons (.same rfl) (.cons (.start (.keyless url hi)) .nil), rfl, rfl⟩

theorem perform_keyless {secret secret' : String} (hi : i.command ∈ ["version", "exec", "rm"]) :
    Step.Alike (Note.Alike secret secret') Eq Eq (i.perform url none) (i.perform url none) :=
  .bind_eq (i.launch_keyless url hi) fun _ => .pure rfl

theorem launch_keyed (h : k.Alike k') (hi : i.command ∈ ["build", "run"]) :
    Step.Alike (Note.Alike k.exposed k'.exposed) Eq Eq (i.launch url (some k))
      (i.launch url (some k')) := by
  have hshown : i.shown (some k) = i.shown (some k') := by
    simp [shown, Credential.shown, h.user]
  have hpassable : (i.arguments url (some k)).all isPassable =
      (i.arguments url (some k')).all isPassable := by
    simp [arguments, h.passable, h.passable']
  rintro m _ rfl
  have hspawn : m.spawn (i.arguments url (some k)) = m.spawn (i.arguments url (some k')) := by
    rw [Machine.spawn, Machine.spawn, hpassable]
  have hnext : m.next (i.arguments url (some k)) = m.next (i.arguments url (some k')) := by
    rw [Machine.next, Machine.next, hpassable]
  simp only [launch, start, Step.bind_apply, Step.tell_apply, List.singleton_append, hshown,
    hspawn, hnext]
  exact ⟨.cons (.same rfl) (.cons (.start (.keyed url hi)) .nil), rfl, rfl⟩

theorem perform_keyed (h : k.Alike k') (hi : i.command ∈ ["build", "run"]) :
    Step.Alike (Note.Alike k.exposed k'.exposed) Eq Eq (i.perform url (some k))
      (i.perform url (some k')) :=
  .bind_eq (i.launch_keyed url h hi) fun _ => .pure rfl

end Invocation

/-- Connections that are the same but for the credential. -/
inductive Connection.Alike (k k' : Credential) : Connection → Connection → Prop
  | mk (url : Option String) : Connection.Alike k k' ⟨url, k⟩ ⟨url, k'⟩

/-- Answers that are the same but for the credential of the connection. -/
inductive Connected (k k' : Credential) : Except ε Connection → Except ε Connection → Prop
  | error (e : ε) : Connected k k' (.error e) (.error e)
  | ok (url : Option String) : Connected k k' (.ok ⟨url, k⟩) (.ok ⟨url, k'⟩)

/-- A request that makes a start without credential is like itself. -/
theorem Asks.alike {secret secret' : String} {step : Step Note Machine α} {url : Option String}
    {command : String} {rest : List String} {files : List (String × String)}
    (hcommand : command ∈ ["version", "exec", "rm"])
    (h : ∀ m, Asks (step m) m (url.elim [] (fun u => ["--url", u]) ++ command :: rest) files) :
    Step.Alike (Note.Alike secret secret') Eq Eq step step := by
  rintro m _ rfl
  refine ⟨List.forall₂_same.2 fun n hn => ?_, rfl, rfl⟩
  cases n with
  | log | progress => exact .same rfl
  | start s =>
    have hmem : s ∈ started ((step m).trace.map .note) :=
      List.mem_filterMap.2 ⟨_, List.mem_map_of_mem hn, rfl⟩
    rw [(h m).starts] at hmem
    rw [List.mem_singleton.1 hmem]
    exact .start (.keyless url hcommand)

theorem now_alike {R : Note → Note → Prop} : Step.Alike R Eq Eq now now := by
  rintro m _ rfl
  exact ⟨.nil, rfl, rfl⟩

theorem takeWorkspace_alike {R : Note → Note → Prop} :
    Step.Alike R Eq Eq takeWorkspace takeWorkspace := by
  rintro m _ rfl
  exact ⟨.nil, rfl, rfl⟩

namespace Connection

variable (h : k.Alike k') (url : Option String)

theorem connect_alike {secret secret' : String} :
    Step.Alike (Note.Alike secret secret') (Connected k k') Eq (connect url k)
      (connect url k') := by
  refine .bind_eq (Invocation.version.perform_keyless url (by decide)) fun a => ?_
  rcases a with fault | r
  · exact .pure (.error _)
  · dsimp only
    split
    · exact .bind_eq (.tell (.same rfl)) fun _ => .pure (.ok url)
    · exact .pure (.error _)

theorem exec_alike {secret secret' : String} (i command : String) :
    Step.Alike (Note.Alike secret secret') Eq Eq (exec ⟨url, k⟩ i command)
      (exec ⟨url, k'⟩ i command) := by
  have hcommand : (Invocation.exec i command).command ∈ ["version", "exec", "rm"] :=
    List.mem_cons_of_mem _ List.mem_cons_self
  exact Asks.alike hcommand fun m => asks_exec ⟨url, k⟩ m i command

theorem kill_alike {secret secret' : String} (i : String) :
    Step.Alike (Note.Alike secret secret') Eq Eq (kill ⟨url, k⟩ i) (kill ⟨url, k'⟩ i) := by
  have hcommand : (Invocation.remove i).command ∈ ["version", "exec", "rm"] :=
    List.mem_cons_of_mem _ (List.mem_cons_of_mem _ List.mem_cons_self)
  exact Asks.alike hcommand fun m => asks_kill ⟨url, k⟩ m i

include h

theorem build_alike (request : BuildRequest) :
    Step.Alike (Note.Alike k.exposed k'.exposed) Eq Eq (build ⟨url, k⟩ request)
      (build ⟨url, k'⟩ request) := by
  refine .bind_eq now_alike fun nanos => .bind_eq takeWorkspace_alike fun w => ?_
  cases w.prepared with
  | error e => exact .pure rfl
  | ok directory =>
    let i := Invocation.build request directory
    have hcommand : i.command ∈ ["build", "run"] := List.mem_cons_self
    refine .bind_eq (i.launch_keyed url h hcommand) fun a => ?_
    rcases a with fault | r
    · exact .pure rfl
    · exact .bind_eq (quiet_progress _).alike fun _ => .pure rfl

theorem acquire_alike (name : String) (env : EnvTable) (capacity : Capacity) :
    Step.Alike (Note.Alike k.exposed k'.exposed) Eq Eq (acquire ⟨url, k⟩ name env capacity)
      (acquire ⟨url, k'⟩ name env capacity) := by
  refine .bind_eq now_alike fun nanos => .bind_eq .state fun m => ?_
  let i := Invocation.run name env capacity (instanceName name nanos m.process)
  have hcommand : i.command ∈ ["build", "run"] := List.mem_cons_of_mem _ List.mem_cons_self
  refine .bind_eq (i.perform_keyed url h hcommand) fun a => ?_
  rcases a with fault | r
  · exact .pure rfl
  · dsimp only
    split
    · exact .pure rfl
    · exact (quiet_reason_bind r _).alike

theorem service_sameBut :
    Service.SameBut k.exposed k'.exposed (service ⟨url, k⟩) (service ⟨url, k'⟩) where
  build := build_alike h url
  acquire := acquire_alike h url
  exec i command :=
    .bind_eq (exec_alike url i command) fun _ => .pure rfl
  kill i := kill_alike url i

end Connection

/-! ## Sessions -/

/-- Sessions that are the same but for the credential of their connections. -/
structure Session.Alike (k k' : Credential) (s s' : Session) : Prop where
  machine : s.machine = s'.machine
  connection : Option.Rel (Connection.Alike k k') s.connection s'.connection
  instances : List.Forall₂ (fun x x' => Connection.Alike k k' x.1 x'.1 ∧ x.2 = x'.2)
    s.instances s'.instances

theorem rel_getElem? {R : α → β → Prop} {l : List α} {l' : List β} (h : List.Forall₂ R l l')
    (n : Nat) : Option.Rel R l[n]? l'[n]? := by
  induction h generalizing n with
  | nil => exact .none
  | cons hx _ ih =>
    cases n with
    | zero => exact .some hx
    | succ n => exact ih n

namespace Session

variable {R : Event → Event → Prop}

theorem ask_alike {A : α → α → Prop} {step step' : Step Event Machine α}
    (h : Step.Alike R A Eq step step') :
    Step.Alike R A (Session.Alike k k') (ask step) (ask step') := by
  intro s s' hs
  obtain ⟨htrace, hanswer, hstate⟩ := h _ _ hs.machine
  exact ⟨htrace, hanswer, hstate, hs.connection, hs.instances⟩

theorem request_alike {secret secret' : String} {A : α → α → Prop}
    {step step' : Step Note Machine α}
    (h : Step.Alike (Note.Alike secret secret') A Eq step step') :
    Step.Alike (Event.Alike secret secret') A (Session.Alike k k') (request step)
      (request step') :=
  ask_alike (.mapTrace h)

theorem connected_alike {f : Connection → Step Event Session Answer}
    (hf : ∀ url, Step.Alike R Eq (Session.Alike k k') (f ⟨url, k⟩) (f ⟨url, k'⟩)) :
    Step.Alike R Eq (Session.Alike k k') (connected f) (connected f) := by
  refine .bind .state fun s s' hs => ?_
  obtain ⟨-, hc, -⟩ := hs
  generalize s.connection = c at hc ⊢
  generalize s'.connection = c' at hc ⊢
  cases hc with
  | none => exact .pure rfl
  | some hc =>
    obtain ⟨url⟩ := hc
    exact hf url

theorem acquired_alike {number : Nat} {f : Connection → String → Step Event Session Answer}
    (hf : ∀ url i, Step.Alike R Eq (Session.Alike k k') (f ⟨url, k⟩ i) (f ⟨url, k'⟩ i)) :
    Step.Alike R Eq (Session.Alike k k') (acquired number f) (acquired number f) := by
  refine .bind .state fun s s' hs => ?_
  have hx := rel_getElem? hs.instances number
  generalize s.instances[number]? = x at hx ⊢
  generalize s'.instances[number]? = x' at hx ⊢
  cases hx with
  | none => exact .pure rfl
  | @some x x' hx =>
    obtain ⟨c, i⟩ := x
    obtain ⟨c', i'⟩ := x'
    obtain ⟨⟨url⟩, rfl⟩ := hx
    exact hf url i

end Session

section

variable {text text' : String} (h : k.Alike k') (hk : Credential.parse text = .ok k)
  (hk' : Credential.parse text' = .ok k')
include h hk hk'

open Session in
/-- What a client is answered does not depend on the password, and the session goes on alike. -/
theorem Action.run_alike (action : Action) :
    Step.Alike (Event.Alike k.exposed k'.exposed) Eq (Session.Alike k k') (action.run text)
      (action.run text') := by
  cases action with
  | connect url =>
    simp only [run, hk, hk']
    refine .bind (request_alike (Connection.connect_alike url)) fun a a' ha => ?_
    cases ha with
    | error e => exact .pure rfl
    | ok url =>
      refine .bind .state fun s s' hs => .bind_eq (.setState ?_) fun _ => .pure rfl
      exact ⟨hs.machine, .some (.mk url), hs.instances⟩
  | build req =>
    refine connected_alike fun url =>
      .bind_eq (request_alike (Connection.build_alike h url req)) fun answer => ?_
    cases answer <;> exact .pure rfl
  | acquire name env capacity =>
    refine connected_alike fun url =>
      .bind_eq (request_alike (Connection.acquire_alike h url name env capacity))
        fun answer => ?_
    cases answer with
    | error e => exact .pure rfl
    | ok i =>
      refine .bind .state fun s s' hs => .bind_eq (.setState ?_) fun _ => .pure rfl
      exact ⟨hs.machine, hs.connection,
        List.rel_append hs.instances (.cons ⟨.mk url, rfl⟩ .nil)⟩
  | exec number command =>
    refine acquired_alike fun url i =>
      .bind_eq (request_alike (Connection.exec_alike url i command)) fun answer => ?_
    cases answer <;> exact .pure rfl
  | kill number =>
    refine acquired_alike fun url i =>
      .bind_eq (request_alike (Connection.kill_alike url i)) fun answer => ?_
    cases answer <;> exact .pure rfl
  | builder name recipe capacity =>
    refine connected_alike fun url =>
      .bind_eq (ask_alike (Builder.build_sameBut (Connection.service_sameBut h url) name recipe
        capacity)) fun answer => ?_
    cases answer with
    | error e => exact .pure rfl
    | ok result => exact .bind_eq (.tell (.same rfl)) fun _ => .pure rfl
  | verifier name plan capacity observer =>
    refine connected_alike fun url =>
      .bind_eq (ask_alike (Verifier.verify_sameBut (Connection.service_sameBut h url) name plan
        capacity observer)) fun answer => ?_
    cases answer with
    | error halt => cases halt <;> exact .pure rfl
    | ok report => exact .bind_eq (.tell (.same rfl)) fun _ => .pure rfl

/-- The sessions are alike after each action, so they are after all of them. -/
theorem Session.run_alike (actions : List Action) :
    Step.Alike (Event.Alike k.exposed k'.exposed) Eq (Session.Alike k k')
      (Session.run text actions) (Session.run text' actions) := by
  induction actions with
  | nil => exact .pure rfl
  | cons action rest ih =>
    exact .bind_eq (action.run_alike h hk hk') fun _ => .bind_eq ih fun _ => .pure rfl

end

end Podman

end SandboxImage
