import Mathlib.Data.List.Forall2
import SandboxImage.Verifier

/-!
# The life of an instance

Any number of verify runs over one service. Every instance that is acquired is killed once, before
its run ends and before another one is acquired, and nothing is run on an instance that is not live
(`Verifier.instance_lifecycle`). What can happen while an instance is live, or none is, is the
relation `Life`. The events of one run have one of three forms (`Verifier.RunLife`), so a run starts
and ends without a live instance, and runs can be put one after the other (`Life.append`).
-/

namespace SandboxImage

namespace Event

/-- The events in the life of instances, as opposed to what is told or printed on the way. -/
def ofLife : Event → Bool
  | .acquire .. | .exec .. | .kill _ | .outcome _ => true
  | .note _ | .build _ | .print _ => false

/-- The events between the acquisition of the instance `i` and its end. -/
def IsWork (i : String) : Event → Prop
  | .exec j _ => j = i
  | .outcome _ => True
  | _ => False

/-- The instances that are live after an event, given those before it. -/
def live (instances : List String) : Event → List String
  | .acquire _ _ _ (some i) => i :: instances
  | .kill i => instances.erase i
  | _ => instances

end Event

/-- The events of a trace that belong to the life of instances. -/
def lifeOf (trace : List Event) : List Event := trace.filter Event.ofLife

/-- The instances that are live at the end of a trace that starts without any. -/
def liveAfter (trace : List Event) : List String := trace.foldl Event.live []

@[simp]
theorem lifeOf_nil : lifeOf [] = [] := rfl

@[simp]
theorem lifeOf_cons (e : Event) (t : List Event) :
    lifeOf (e :: t) = if e.ofLife then e :: lifeOf t else lifeOf t :=
  List.filter_cons ..

@[simp]
theorem lifeOf_append (t u : List Event) : lifeOf (t ++ u) = lifeOf t ++ lifeOf u :=
  List.filter_append ..

@[simp]
theorem lifeOf_map_note (ns : List Note) : lifeOf (ns.map .note) = [] := by
  simp [lifeOf, Event.ofLife]

/-- What belongs to no instance's life changes nothing about what is live. -/
theorem liveAfter_lifeOf (t : List Event) : liveAfter (lifeOf t) = liveAfter t := by
  have h (e : Event) (he : e.ofLife = false) (l : List String) : Event.live l e = l := by
    cases e <;> first | rfl | cases he
  unfold liveAfter
  generalize [] = l
  induction t generalizing l with
  | nil => rfl
  | cons e t ih =>
    cases he : e.ofLife with
    | true => simp [he, ih]
    | false => simp [he, ih, h e he]

/-- In the trace `es` the instance `i` was acquired, and then only worked with. -/
def Held (i : String) (es : List Event) : Prop :=
  ∃ before n env c work, es = before ++ .acquire n env c (some i) :: work ∧
    ∀ e ∈ work, Event.IsWork i e

/-- In the trace `es` the instance `i` is only worked with until it is killed. -/
def Ends (i : String) (es : List Event) : Prop :=
  ∃ work rest, es = work ++ .kill i :: rest ∧ ∀ e ∈ work, Event.IsWork i e

theorem Held.cons (e : Event) (h : Held i es) : Held i (e :: es) := by
  obtain ⟨before, n, env, c, work, rfl, hw⟩ := h
  exact ⟨e :: before, n, env, c, work, rfl, hw⟩

/-- `Life p es q`: if at most the instance `p` is live, then `es` can happen, and `q` is what is
live afterwards. -/
inductive Life : Option String → List Event → Option String → Prop
  | nil : Life p [] p
  | refused : Life none es q → Life none (.acquire n env c none :: es) q
  | granted : Life (some i) es q → Life none (.acquire n env c (some i) :: es) q
  | work : Event.IsWork i e → Life (some i) es q → Life (some i) (e :: es) q
  | kill : Life none es q → Life (some i) (.kill i :: es) q

namespace Life

variable {p q r : Option String} {es fs : List Event} {i : String}

theorem append (h : Life p es q) (h' : Life q fs r) : Life p (es ++ fs) r := by
  induction h with
  | nil => exact h'
  | refused _ ih => exact .refused (ih h')
  | granted _ ih => exact .granted (ih h')
  | work he _ ih => exact .work he (ih h')
  | kill _ ih => exact .kill (ih h')

theorem append_inv (h : Life p (es ++ fs) r) : ∃ q, Life p es q ∧ Life q fs r := by
  induction es generalizing p with
  | nil => exact ⟨p, .nil, h⟩
  | cons e es ih =>
    cases h with
    | refused h =>
      obtain ⟨q, h1, h2⟩ := ih h
      exact ⟨q, .refused h1, h2⟩
    | granted h =>
      obtain ⟨q, h1, h2⟩ := ih h
      exact ⟨q, .granted h1, h2⟩
    | work he h =>
      obtain ⟨q, h1, h2⟩ := ih h
      exact ⟨q, .work he h1, h2⟩
    | kill h =>
      obtain ⟨q, h1, h2⟩ := ih h
      exact ⟨q, .kill h1, h2⟩

theorem of_work (h : ∀ e ∈ es, Event.IsWork i e) : Life (some i) es (some i) := by
  induction es with
  | nil => exact .nil
  | cons e es ih =>
    obtain ⟨he, h⟩ := List.forall_mem_cons.1 h
    exact .work he (ih h)

/-- An instance that is live at first, while none is in the end, was killed. -/
theorem ends (h : Life (some i) es none) : Ends i es := by
  induction es with
  | nil => cases h
  | cons e es ih =>
    cases h with
    | work he h =>
      obtain ⟨work, rest, rfl, hw⟩ := ih h
      exact ⟨e :: work, rest, rfl, List.forall_mem_cons.2 ⟨he, hw⟩⟩
    | kill => exact ⟨[], es, rfl, by simp⟩

/-- An instance that is live in the end was there at first, or was acquired since. -/
theorem work_or_held (h : Life p es q) (hq : q = some i) :
    (p = some i ∧ ∀ e ∈ es, Event.IsWork i e) ∨ Held i es := by
  induction h with
  | nil => exact .inl ⟨hq, by simp⟩
  | refused _ ih | kill _ ih =>
    rcases ih hq with ⟨h, _⟩ | h
    · cases h
    · exact .inr (h.cons _)
  | @granted j es q n env c _ ih =>
    rcases ih hq with ⟨h, hw⟩ | h
    · cases h
      exact .inr ⟨[], n, env, c, es, rfl, hw⟩
    · exact .inr (h.cons _)
  | work he _ ih =>
    rcases ih hq with ⟨h, hw⟩ | h
    · cases h
      exact .inl ⟨rfl, List.forall_mem_cons.2 ⟨he, hw⟩⟩
    · exact .inr (h.cons _)

theorem held (h : Life none es (some i)) : Held i es := by
  rcases h.work_or_held rfl with ⟨h, _⟩ | h
  · cases h
  · exact h

/-- The events say what is live. -/
theorem foldl_live (h : Life p es q) : es.foldl Event.live p.toList = q.toList := by
  induction h with
  | nil => rfl
  | refused _ ih | granted _ ih => exact ih
  | @work i e es q he _ ih => cases e <;> first | exact ih | exact absurd he id
  | kill _ ih => simpa [Event.live] using ih

end Life

namespace Verifier

variable {σ : Type} (service : Service σ)

/-! ## One run -/

theorem lifeOf_tearDown (i : String) (s : σ) :
    lifeOf (tearDown service i s).trace = [.kill i] := by
  simp [tearDown, Event.ofLife]

/-- A guard that is released gives its instance up to be killed. -/
theorem Guard.lifeOf_release {g : Guard} (h : g.held = true) (s : σ) :
    lifeOf (g.release service s).trace = [.kill g.instanceId] ∧
      (g.release service s).answer.2.held = false := by
  simp [release, h, lifeOf_tearDown]

/-- The end of a guard kills the instance if it is still there, and only then. -/
theorem Guard.lifeOf_drop (g : Guard) (s : σ) :
    lifeOf (g.drop service s).trace = if g.held then [.kill g.instanceId] else [] := by
  unfold drop
  split
  · simp only [Step.bind_apply, lifeOf_append, lifeOf_tearDown]
    rcases (tearDown service g.instanceId s).answer with e | ⟨⟩ <;> simp [Event.ofLife]
  · rfl

theorem Guard.isWork_exec (g : Guard) (command : String) (s : σ) :
    ∀ e ∈ lifeOf (g.exec service command s).trace, Event.IsWork g.instanceId e := by
  unfold exec
  split
  · simp [Event.ofLife, Event.IsWork]
  · simp

theorem isWork_runCheck (g : Guard) (check : Check) (s : σ) :
    ∀ e ∈ lifeOf (runCheck service g check s).trace, Event.IsWork g.instanceId e := by
  have h := g.isWork_exec service check.command s
  simpa [runCheck, Event.ofLife] using h

/-- Checks are work with the instance, whichever of them are run. -/
theorem isWork_runChecks (g : Guard) (observer : Observer) (checks : List (Check × CheckKind))
    (done : List Outcome) (s : σ) :
    ∀ e ∈ lifeOf (runChecks service g observer done checks s).trace,
      Event.IsWork g.instanceId e := by
  induction checks generalizing done s with
  | nil => simp [runChecks]
  | cons c rest ih =>
    obtain ⟨check, kind⟩ := c
    have hcheck := isWork_runCheck service g check s
    cases h : (runCheck service g check s).answer with
    | error halt => simpa [runChecks, h] using hcheck
    | ok output =>
      simp only [runChecks, Step.bind_apply, h, lifeOf_append]
      refine List.forall_mem_append.2 ⟨hcheck, ?_⟩
      refine List.forall_mem_append.2 ⟨by simp [Event.ofLife], ?_⟩
      refine List.forall_mem_append.2 ⟨by simp [Event.ofLife, Event.IsWork], ?_⟩
      split
      · simp
      · exact ih _ _

/-- A released guard has nothing left to kill when it goes. -/
theorem lifeOf_conclude {g : Guard} (h : g.held = true) (name : String)
    (run : Except Halt (List Outcome)) (s : σ) :
    lifeOf (conclude service name g run s).trace = [.kill g.instanceId] := by
  obtain ⟨hrelease, hheld⟩ := g.lifeOf_release service h s
  simp only [conclude, Step.bind_apply, lifeOf_append, hrelease, Guard.lifeOf_drop, hheld]
  rcases (g.release service s).answer.1 with e | ⟨⟩ <;> simp [Event.ofLife]

theorem lifeOf_runOn (name : String) (p : Plan) (observer : Observer) (i : String) (s : σ) :
    ∃ work, lifeOf (runOn service name p observer i s).trace = work ++ [.kill i] ∧
      ∀ e ∈ work, Event.IsWork i e := by
  refine ⟨_, ?_, isWork_runChecks service (.hold i) observer (agenda p) [] s⟩
  simp only [runOn, Step.bind_apply, lifeOf_append]
  have hlog : lifeOf (Step.log .info ("acquired instance " ++ i ++ " of " ++ name) s).trace = [] :=
    rfl
  rw [hlog, List.nil_append]
  congr 1
  -- only a panic leaves the kill to the end of the guard
  generalize (runChecks service (.hold i) observer [] (agenda p) _) = run
  rcases run with ⟨_, ⟨⟨e⟩ | ⟨⟩⟩ | entries, s'⟩
  · exact lifeOf_conclude service rfl name _ _
  · simp [Guard.lifeOf_drop]
  · exact lifeOf_conclude service rfl name _ _

/-- What is asked for in one run. -/
structure Request where
  name : String
  plan : Plan
  capacity : Capacity
  observer : Observer

/-- The run that is asked for. -/
def Request.run (service : Service σ) (q : Request) : Step Event σ (Except Halt Report) :=
  verify service q.name q.plan q.capacity q.observer

/-- The forms that the life of instances takes in one run: nothing is done with a plan that is
refused, nothing is run where no instance is granted, and else the instance is killed last. -/
inductive RunLife (q : Request) : List Event → Prop
  | rejected (h : q.plan.violation? ≠ none) : RunLife q []
  | refused (h : q.plan.violation? = none) :
    RunLife q [.acquire q.name q.plan.env q.capacity none]
  | granted (h : q.plan.violation? = none) (i : String) (work : List Event)
    (hwork : ∀ e ∈ work, Event.IsWork i e) :
    RunLife q (.acquire q.name q.plan.env q.capacity (some i) :: (work ++ [.kill i]))

theorem RunLife.life {q : Request} (h : RunLife q es) : Life none es none := by
  cases h with
  | rejected => exact .nil
  | refused => exact .refused .nil
  | granted _ i work hwork => exact .granted ((Life.of_work hwork).append (.kill .nil))

/-- Every run takes one of these forms, however it ends. -/
theorem runLife_run (q : Request) (s : σ) : RunLife q (lifeOf (q.run service s).trace) := by
  unfold Request.run
  cases hp : q.plan.violation? with
  | some violation =>
    rw [verify_of_violation hp]
    exact .rejected (by simp [hp])
  | none =>
    cases ha : (service.acquire q.name q.plan.env q.capacity s).answer with
    | error e =>
      rw [verify_of_refused hp ha]
      simpa [Event.ofLife] using RunLife.refused hp
    | ok i =>
      rw [verify_of_granted hp ha]
      obtain ⟨work, hrun, hwork⟩ := lifeOf_runOn service q.name q.plan q.observer i
        (service.acquire q.name q.plan.env q.capacity s).state
      simpa [Event.ofLife, hrun] using RunLife.granted hp i work hwork

/-! ## Any number of runs -/

/-- Runs over one service, one after the other. -/
def history : List Request → σ → List (Done Event σ (Except Halt Report))
  | [], _ => []
  | q :: rest, s => q.run service s :: history rest (q.run service s).state

theorem forall₂_history (requests : List Request) (s : σ) :
    List.Forall₂ (fun q run => RunLife q (lifeOf run.trace)) requests
      (history service requests s) := by
  induction requests generalizing s with
  | nil => exact .nil
  | cons q rest ih => exact .cons (runLife_run service q s) (ih _)

theorem take_history (requests : List Request) (s : σ) (k : Nat) :
    (history service requests s).take k = history service (requests.take k) s := by
  induction requests generalizing s k with
  | nil => simp [history]
  | cons q rest ih =>
    cases k with
    | zero => rfl
    | succ k => simp [history, ih]

theorem life_history (requests : List Request) (s : σ) :
    Life none (lifeOf ((history service requests s).flatMap Done.trace)) none := by
  induction requests generalizing s with
  | nil => exact .nil
  | cons q rest ih =>
    simp only [history, List.flatMap_cons, lifeOf_append]
    exact (runLife_run service q s).life.append (ih _)

/-- Over any number of runs, whatever the service answers, whichever plans are run and wherever an
observer or a command takes the program down: each run has one of the forms of `RunLife`, so that it
kills the instance it has acquired before it ends; an instance that is acquired is only worked with
until it is killed; commands, outcomes and kills happen only while the instance that they are about
is held; and none is live once any number of runs is over. -/
theorem instance_lifecycle (requests : List Request) (s : σ) :
    let runs := history service requests s
    let life := lifeOf (runs.flatMap Done.trace)
    List.Forall₂ (fun q run => RunLife q (lifeOf run.trace)) requests runs ∧
      (∀ before n env c i after,
        life = before ++ .acquire n env c (some i) :: after → Ends i after) ∧
      (∀ before e after, life = before ++ e :: after →
        (∀ n env c granted, e ≠ .acquire n env c granted) →
        ∃ i, Held i before ∧ (Event.IsWork i e ∨ e = .kill i)) ∧
      ∀ k, liveAfter ((runs.take k).flatMap Done.trace) = [] := by
  have hlife := life_history service requests s
  refine ⟨forall₂_history service requests s, ?_, ?_, fun k => ?_⟩
  · intro before n env c i after h
    rw [h] at hlife
    obtain ⟨q, _, hq⟩ := hlife.append_inv
    cases hq with
    | granted hq => exact hq.ends
    | work he => exact absurd he id
  · intro before e after h he
    rw [h] at hlife
    obtain ⟨q, hbefore, hq⟩ := hlife.append_inv
    cases hq with
    | refused | granted => exact (he _ _ _ _ rfl).elim
    | work hwork => exact ⟨_, hbefore.held, .inl hwork⟩
    | kill => exact ⟨_, hbefore.held, .inr rfl⟩
  · rw [take_history, ← liveAfter_lifeOf]
    exact (life_history service (requests.take k) s).foldl_live

end Verifier
end SandboxImage
