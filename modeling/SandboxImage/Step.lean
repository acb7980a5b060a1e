import SandboxImage.Log

/-!
# Steps of a run

A step takes a state, leaves a state, answers, and tells what happened on the way. The trace of two
steps in a row is the trace of the first followed by that of the second.
-/

namespace SandboxImage

/-- What a step comes to. -/
structure Done (ε σ α : Type) where
  trace : List ε
  answer : α
  state : σ

/-- A step over states `σ` that tells events `ε`. -/
def Step (ε σ α : Type) : Type := σ → Done ε σ α

namespace Step

variable {ε δ σ α β : Type}

/-- The step in which nothing happens. -/
protected def pure (a : α) : Step ε σ α := fun s => ⟨[], a, s⟩

/-- A step, and then one that depends on its answer. -/
protected def bind (m : Step ε σ α) (f : α → Step ε σ β) : Step ε σ β := fun s =>
  let first := m s
  let second := f first.answer first.state
  ⟨first.trace ++ second.trace, second.answer, second.state⟩

instance : Monad (Step ε σ) where
  pure := Step.pure
  bind := Step.bind

/-- Tells one event. -/
def tell (e : ε) : Step ε σ Unit := fun s => ⟨[e], (), s⟩

/-- Tells several events. -/
def tellAll (es : List ε) : Step ε σ Unit := fun s => ⟨es, (), s⟩

/-- Answers with the state. -/
def state : Step ε σ σ := fun s => ⟨[], s, s⟩

/-- Puts another state in place of the present one. -/
def setState (s : σ) : Step ε σ Unit := fun _ => ⟨[], (), s⟩

/-- The step with its events seen as other ones. -/
def mapTrace (f : ε → δ) (m : Step ε σ α) : Step δ σ α := fun s =>
  let done := m s
  ⟨done.trace.map f, done.answer, done.state⟩

@[simp]
theorem pure_apply (a : α) (s : σ) : (pure a : Step ε σ α) s = ⟨[], a, s⟩ := rfl

@[simp]
theorem bind_apply (m : Step ε σ α) (f : α → Step ε σ β) (s : σ) :
    (m >>= f) s =
      ⟨(m s).trace ++ (f (m s).answer (m s).state).trace,
        (f (m s).answer (m s).state).answer, (f (m s).answer (m s).state).state⟩ := rfl

@[simp]
theorem tell_apply (e : ε) (s : σ) : (tell e : Step ε σ Unit) s = ⟨[e], (), s⟩ := rfl

@[simp]
theorem tellAll_apply (es : List ε) (s : σ) : (tellAll es : Step ε σ Unit) s = ⟨es, (), s⟩ := rfl

@[simp]
theorem mapTrace_apply (f : ε → δ) (m : Step ε σ α) (s : σ) :
    mapTrace f m s = ⟨(m s).trace.map f, (m s).answer, (m s).state⟩ := rfl

end Step

section

variable {ε δ α : Type}

@[simp]
theorem mapError_ok (f : ε → δ) (a : α) : (Except.ok a).mapError f = .ok a := rfl

@[simp]
theorem mapError_error (f : ε → δ) (e : ε) :
    (Except.error e : Except ε α).mapError f = .error (f e) := rfl

end
end SandboxImage
