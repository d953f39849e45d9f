import SchemaMigration.Migration.Artifact

/-!
# `SchemaMigration.Generation.Production`: artifacts made one after the other

A `Production` is a computation that makes artifacts and may fail. What it made
before a failure stays made. Artifacts go to a sink only afterwards: a sink sees
them in order, up to the first one that it refuses.
-/

set_option autoImplicit false

namespace SchemaMigration

/-- Artifacts in order, and what they end with. -/
structure Production (α : Type) where
  artifacts : List Artifact
  outcome : Except Error α

namespace Production

variable {α β : Type}

/-- Makes nothing. -/
def pure (a : α) : Production α := ⟨[], .ok a⟩

/-- Goes on with the outcome, unless that is a failure. -/
def bind (p : Production α) (f : α → Production β) : Production β :=
  match p.outcome with
  | .ok a => ⟨p.artifacts ++ (f a).artifacts, (f a).outcome⟩
  | .error error => ⟨p.artifacts, .error error⟩

instance : Monad Production where
  pure := Production.pure
  bind := Production.bind

/-- Makes nothing and may fail. -/
def lift (outcome : Except Error α) : Production α := ⟨[], outcome⟩

/-- Makes one artifact. -/
def emit (artifact : Artifact) : Production Unit := ⟨[artifact], .ok ()⟩

@[simp] theorem pure_eq (a : α) : (Pure.pure a : Production α) = ⟨[], .ok a⟩ := rfl

theorem bind_of_ok {p : Production α} {a : α} (h : p.outcome = .ok a) (f : α → Production β) :
    p >>= f = ⟨p.artifacts ++ (f a).artifacts, (f a).outcome⟩ := by
  simp only [Bind.bind, Production.bind, h]

theorem bind_of_error {p : Production α} {error : Error} (h : p.outcome = .error error)
    (f : α → Production β) : p >>= f = ⟨p.artifacts, .error error⟩ := by
  simp only [Bind.bind, Production.bind, h]

@[simp] theorem lift_ok_bind (a : α) (f : α → Production β) : lift (.ok a) >>= f = f a :=
  bind_of_ok rfl f

@[simp] theorem lift_error_bind (error : Error) (f : α → Production β) :
    lift (.error error) >>= f = ⟨[], .error error⟩ :=
  bind_of_error rfl f

@[simp] theorem emit_bind (artifact : Artifact) (f : Unit → Production β) :
    emit artifact >>= f = ⟨artifact :: (f ()).artifacts, (f ()).outcome⟩ :=
  bind_of_ok rfl f

theorem outcome_bind_eq_ok_iff {p : Production α} {f : α → Production β} {b : β} :
    (p >>= f).outcome = .ok b ↔ ∃ a, p.outcome = .ok a ∧ (f a).outcome = .ok b := by
  cases h : p.outcome with
  | ok a => simp [bind_of_ok h]
  | error error => simp [bind_of_error h]

variable {m : Type → Type} [Monad m] {σ : Type}

/-- Gives artifacts to a sink, up to the first one that it refuses. The result is the sink as
it then is, and the error if there is one. -/
def offer (accept : σ → Artifact → m (Except Error Unit × σ)) (sink : σ) :
    List Artifact → m (σ × Except Error Unit)
  | [] => return (sink, .ok ())
  | artifact :: rest => do
    match ← accept sink artifact with
    | (.ok (), sink) => offer accept sink rest
    | (.error error, sink) => return (sink, .error error)

/-- Gives the artifacts of a production to a sink. The error is the sink's, or else the
production's. -/
def into (p : Production α) (accept : σ → Artifact → m (Except Error Unit × σ)) (sink : σ) :
    m (σ × Except Error α) := do
  match ← offer accept sink p.artifacts with
  | (sink, .ok ()) => return (sink, p.outcome)
  | (sink, .error error) => return (sink, .error error)

end Production

end SchemaMigration
