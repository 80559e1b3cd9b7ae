import StorageLayout.Log.Record

/-! Computations that tell what they do. Besides its outcome a traced computation has a trail: the
log records, warnings, host queries and notifications that it sent out, in order. A failure keeps
the trail up to it. Main facts: steps in a row may be grouped in any way, and nothing comes after a
step that failed. -/

namespace StorageLayout

/-- Who listens: a client under a name of its own, or the holder of the current user, who follows
the strict mode setting and is numbered by subscription. -/
inductive ListenerId where
  | client (name : String)
  | strictMode (serial : Nat)
  deriving DecidableEq, Repr

/-- A write that changed what a key reads as; `space` names the store. -/
structure Change where
  key : String
  old : Value
  new : Value
  space : String
  actor : String

/-- One thing that a computation sends out. `strictMode` tells the holder of the current user that
the setting it follows has been written; `written` is a write to the overrides of a store, which is
found by its place. -/
inductive Emission where
  | record (record : LogRecord)
  | deprecation (text : String)
  | query (user flags : Nat)
  | notified (listener : ListenerId) (change : Change)
  | strictMode (on : Bool)
  | written (place : Nat) (key : String) (value : Value)

/-- An outcome and what was sent out on the way to it. -/
structure Traced (α : Type) where
  outcome : Except Failure α
  trail : List Emission

namespace Traced

variable {α β : Type}

def done (value : α) : Traced α := ⟨.ok value, []⟩

def fail (failure : Failure) : Traced α := ⟨.error failure, []⟩

def ofExcept (outcome : Except Failure α) : Traced α := ⟨outcome, []⟩

/-- Goes on with the value of a computation unless it failed. -/
def andThen (first : Traced α) (next : α → Traced β) : Traced β :=
  match first.outcome with
  | .ok value => ⟨(next value).outcome, first.trail ++ (next value).trail⟩
  | .error failure => ⟨.error failure, first.trail⟩

/-- Changes the value of a computation. -/
def map (change : α → β) (traced : Traced α) : Traced β :=
  ⟨traced.outcome.map change, traced.trail⟩

instance : Monad Traced where
  pure := done
  bind := andThen

/-- A computation with something sent out before it. -/
def after (trail : List Emission) (next : Traced α) : Traced α :=
  ⟨next.outcome, trail ++ next.trail⟩

@[simp] theorem outcome_done (value : α) : (done value).outcome = .ok value := rfl

theorem andThen_of_ok {first : Traced α} {value : α} (ok : first.outcome = .ok value)
    (next : α → Traced β) : first.andThen next = after first.trail (next value) := by
  simp [andThen, after, ok]

theorem andThen_of_error {first : Traced α} {failure : Failure}
    (failed : first.outcome = .error failure) (next : α → Traced β) :
    first.andThen next = ⟨.error failure, first.trail⟩ := by
  simp [andThen, failed]

theorem map_eq_andThen (change : α → β) (traced : Traced α) :
    traced.map change = traced.andThen fun value => done (change value) := by
  unfold map andThen
  cases traced.outcome <;> simp [Except.map, done]

theorem andThen_eq_ok {first : Traced α} {next : α → Traced β} {value : β}
    (ok : (first.andThen next).outcome = .ok value) :
    ∃ middle, first.outcome = .ok middle ∧ (next middle).outcome = .ok value := by
  unfold andThen at ok
  split at ok
  · next middle reached => exact ⟨middle, reached, ok⟩
  · cases ok

theorem map_eq_ok {change : α → β} {traced : Traced α} {value : β}
    (ok : (traced.map change).outcome = .ok value) :
    ∃ before, traced.outcome = .ok before ∧ change before = value := by
  rw [map_eq_andThen] at ok
  obtain ⟨before, reached, same⟩ := andThen_eq_ok ok
  exact ⟨before, reached, Except.ok.inj same⟩

@[simp] theorem done_andThen (value : α) (next : α → Traced β) :
    (done value).andThen next = next value := by
  simp [andThen, done]

theorem filterMap_andThen {γ : Type} {pick : Emission → Option γ} {first : Traced α}
    {next : α → Traced β} (none : ∀ value, (next value).trail.filterMap pick = []) :
    (first.andThen next).trail.filterMap pick = first.trail.filterMap pick := by
  unfold andThen
  split
  · rw [List.filterMap_append, none, List.append_nil]
  · rfl

end Traced

abbrev Scoped (α : Type) := LogContext × Traced α

namespace Scoped

variable {α β : Type}

/-- Goes on in the context that a computation leaves, unless it failed. -/
def andThen (first : Scoped α) (next : LogContext → α → Scoped β) : Scoped β :=
  match first.2.outcome with
  | .ok value =>
    let second := next first.1 value
    (second.1, Traced.after first.2.trail second.2)
  | .error failure => (first.1, ⟨.error failure, first.2.trail⟩)

theorem andThen_eq {first : Scoped α} {next : LogContext → α → Scoped β} {context : LogContext}
    (before : first.1 = context) (kept : ∀ value, (next context value).1 = context) :
    andThen first next = (context, first.2.andThen fun value => (next context value).2) := by
  unfold andThen
  cases reached : first.2.outcome with
  | ok value => simp [Traced.andThen_of_ok reached, before, kept]
  | error failure => simp [Traced.andThen_of_error reached, before]

end Scoped

end StorageLayout
