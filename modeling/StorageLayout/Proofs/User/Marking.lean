import StorageLayout.Proofs.Log.Context
import StorageLayout.Proofs.User.Lookups

/-! What lookups mark. While roots are found, all that is logged is marked with the user and the
strategy, whichever strategy answers in the end, and a complaint of strict mode with the user.
Main statement: the marks come on top of those that were there before, and whatever the lookup is
and however it ends, the log context is the same after it as before. -/

namespace StorageLayout

/-- The records among what was sent out. -/
def Emission.records (trail : List Emission) : List LogRecord :=
  trail.filterMap fun emission =>
    match emission with
    | .record logged => some logged
    | _ => none

namespace Emission

@[simp] theorem records_append (first second : List Emission) :
    records (first ++ second) = records first ++ records second := List.filterMap_append

@[simp] theorem records_singleton (record : LogRecord) : records [.record record] = [record] := rfl

theorem records_andThen {α β : Type} {first : Traced α} {next : α → Traced β}
    (silent : ∀ value, records (next value).trail = []) :
    records (first.andThen next).trail = records first.trail := Traced.filterMap_andThen silent

end Emission

namespace Traced

variable {α β : Type} {context : LogContext}

def LogsIn (context : LogContext) (traced : Traced α) : Prop :=
  ∀ record ∈ Emission.records traced.trail, record.context = context

theorem logsIn_of_silent {traced : Traced α} (silent : Emission.records traced.trail = []) :
    traced.LogsIn context := by
  intro record member
  rw [silent] at member
  cases member

theorem LogsIn.andThen {first : Traced α} {next : α → Traced β} (before : first.LogsIn context)
    (rest : ∀ value, (next value).LogsIn context) : (first.andThen next).LogsIn context := by
  intro record member
  unfold Traced.andThen at member
  split at member
  · rw [Emission.records_append, List.mem_append] at member
    rcases member with early | late
    · exact before record early
    · exact rest _ record late
  · exact before record member

theorem logsIn_log (machine : Machine) {record : LogRecord} (marked : record.context = context) :
    (machine.log record).LogsIn context := by
  intro other member
  obtain rfl := List.mem_singleton.mp member
  exact marked

end Traced

namespace DiscoveryStrategy

variable (machine : Machine) (context : LogContext) (user : Nat)

theorem logsIn_environmentRoots (source : EnvironmentSource) :
    (environmentRoots machine context source user).LogsIn context := by
  unfold environmentRoots
  dsimp only
  split
  · exact Traced.logsIn_of_silent rfl
  · split
    · exact Traced.logsIn_of_silent rfl
    · exact Traced.logsIn_log machine rfl

theorem logsIn_askHost (enumerator : VolumeEnumerator) :
    (askHost machine context enumerator user).LogsIn context := by
  have report {α : Type} (outcome : Except Failure α) (answer : VolumeReport) :
      Traced.LogsIn context ⟨outcome,
        [.query user writableFlag, .record (reported context user answer)]⟩ := by
    intro record member
    obtain rfl := List.mem_singleton.mp member
    rfl
  unfold askHost
  split
  · split
    · exact Traced.logsIn_of_silent rfl
    · split <;> exact Traced.logsIn_of_silent rfl
  · dsimp only
    split
    · exact Traced.logsIn_of_silent rfl
    · exact Traced.logsIn_of_silent rfl
    · split <;> exact report _ _

theorem context_fellBack (fallbackName : String) (refused : QueryFailure) :
    (fellBack context user fallbackName refused).context = context := by
  unfold fellBack
  split <;> rfl

/-- Whatever the strategy is, and whatever it falls back on, all is logged in the context in which
it runs. -/
theorem logsIn_discover (strategy : DiscoveryStrategy) :
    (discover machine context strategy user).LogsIn context := by
  induction strategy with
  | environment source => exact logsIn_environmentRoots machine context user source
  | custom name roots => exact Traced.logsIn_of_silent rfl
  | volumes enumerator fallback ih =>
    rw [discover]
    refine (logsIn_askHost machine context user enumerator).andThen fun answer => ?_
    split
    · exact Traced.logsIn_of_silent rfl
    · exact (Traced.logsIn_log machine (context_fellBack context user _ _)).andThen fun _ => ih

end DiscoveryStrategy

namespace UserEnvironment

/-- Whether a call for a user is scoped and attributed: it leaves the log context that was there
before it, and all that it logs is marked with the user and the strategy on top of this context. -/
structure IsMarked {α : Type} (context : LogContext) (user : UserEnvironment) (call : Scoped α) :
    Prop where
  restored : call.1 = context
  marked : ∀ record ∈ Emission.records call.2.trail,
    context.Updates [("userHandle", .int user.handle), ("strategy", .text user.strategy.name)]
      record.context

variable (machine : Machine) (context : LogContext) (user : UserEnvironment)

theorem logsIn_findRoots : (user.findRoots machine context).LogsIn context := by
  refine (DiscoveryStrategy.logsIn_discover machine context user.handle user.strategy).andThen ?_
  intro found
  split
  · refine (Traced.logsIn_log machine rfl).andThen fun _ => ?_
    exact DiscoveryStrategy.logsIn_environmentRoots machine context user.handle _
  · exact Traced.logsIn_of_silent rfl

theorem isMarked_lookUp (lookup : Lookup) :
    IsMarked context user (user.lookUp machine context lookup) := by
  refine ⟨lookUp_fst machine context user lookup, fun record member => ?_⟩
  rw [trail_lookUp] at member
  rw [user.logsIn_findRoots machine (context.extend user.marks) record member]
  exact context.updates_extend (by simp) (by simp [Value.isNull])

theorem IsMarked.primaryOf {context : LogContext} {user : UserEnvironment}
    {found : Scoped (List Pathname)} (isMarked : IsMarked context user found)
    (accessor replacement : String) :
    IsMarked context user (UserEnvironment.primaryOf accessor replacement found) := by
  have silent (paths : List Pathname) : Emission.records (primary paths).trail = [] := by
    cases paths <;> rfl
  have same : Emission.records (UserEnvironment.primaryOf accessor replacement found).2.trail =
      Emission.records found.2.trail := Emission.records_andThen silent
  refine ⟨isMarked.restored, fun record member => isMarked.marked record ?_⟩
  rwa [same] at member

end UserEnvironment

/-- What strict mode sends out is at most one record, marked with the current user. -/
theorem CurrentUser.records_complaints (context : LogContext) (holder : CurrentUser)
    (lookup : Lookup) :
    (Emission.records (holder.complaints context lookup)).length =
        (if holder.strict then 1 else 0) ∧
      ∀ record ∈ Emission.records (holder.complaints context lookup),
        context.Updates [("userHandle", .int holder.current.handle)] record.context := by
  unfold complaints
  cases holder.strict with
  | false => exact ⟨rfl, fun record member => by cases member⟩
  | true =>
    refine ⟨rfl, fun record member => ?_⟩
    obtain rfl := List.mem_singleton.mp member
    exact context.updates_extend (List.nodup_singleton _) (by simp [Value.isNull])

/-- Lookups are scoped and attributed. Whatever the log context, the machine, the user and how this
user's roots are found, and whatever is asked for, the log context after a lookup is the one before
it, and all that is logged is marked with the user and the strategy on top of it. For a lookup that
does not name a user these are the current user and this user's strategy; in strict mode one record
comes before, which is marked with the user alone, and nothing comes after it if it cannot be
logged. -/
theorem lookups_are_marked (machine : Machine) (context : LogContext) :
    (∀ (user : UserEnvironment) (lookup : Lookup),
        UserEnvironment.IsMarked context user (user.lookUp machine context lookup)) ∧
      (∀ user : UserEnvironment,
        UserEnvironment.IsMarked context user (user.externalStorageDirectory machine context)) ∧
      (∀ (user : UserEnvironment) (name : Value),
        UserEnvironment.IsMarked context user
          (user.externalStoragePublicDirectory machine context name)) ∧
      ∀ (holder : CurrentUser) (lookup : Lookup),
        let found := holder.current.lookUp machine context lookup.ofCurrent
        (holder.lookUp machine context lookup).1 = context ∧
          UserEnvironment.IsMarked context holder.current found ∧
          ∃ complaints : List LogRecord,
            Emission.records (holder.lookUp machine context lookup).2.trail =
                complaints ++ (if (holder.barrier machine context lookup.accessor).isNone then
                  Emission.records found.2.trail else []) ∧
              complaints.length = (if holder.strict then 1 else 0) ∧
              ∀ record ∈ complaints,
                context.Updates [("userHandle", .int holder.current.handle)] record.context := by
  refine ⟨?_, ?_, ?_, ?_⟩
  · intro user lookup
    exact user.isMarked_lookUp machine context lookup
  · intro user
    exact (user.isMarked_lookUp machine context .roots).primaryOf _ _
  · intro user name
    exact (user.isMarked_lookUp machine context (.area .publicFiles name)).primaryOf _ _
  · intro holder lookup found
    refine ⟨CurrentUser.lookUp_fst machine context holder lookup,
      holder.current.isMarked_lookUp machine context lookup.ofCurrent,
      Emission.records (holder.complaints context lookup), ?_,
      holder.records_complaints context lookup⟩
    cases free : holder.barrier machine context lookup.accessor with
    | none =>
      rw [CurrentUser.lookUp_of_no_barrier free, Traced.after, Emission.records_append]
      rfl
    | some failure =>
      rw [CurrentUser.lookUp_of_barrier free, CurrentUser.complaints,
        if_pos (CurrentUser.strict_of_barrier free)]
      rfl

/-- A holder in strict mode of a user whose strategy finds nothing. -/
def hollowHolder : CurrentUser :=
  ⟨.given (.ok (.int 10)), none, none, true, ⟨10, none, .custom "hollow" fun _ => .ok []⟩⟩

-- The complaint keeps the strategy of the context around it, what is logged after that does not.
example :
    (Emission.records (hollowHolder.lookUp VolumeReport.bareMachine
        (some [("strategy", .text "outer")]) .roots).2.trail).map LogRecord.context =
      [some [("strategy", .text "outer"), ("userHandle", .int 10)],
        some [("strategy", .text "hollow"), ("userHandle", .int 10)],
        some [("strategy", .text "hollow"), ("userHandle", .int 10)]] := by rfl

end StorageLayout
