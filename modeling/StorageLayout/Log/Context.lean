import StorageLayout.Config.Value

namespace StorageLayout

/-- The marks of log records, in the order in which they were set; there may be no context. -/
abbrev LogContext := Option (Table Value)

namespace LogContext

/-- A context with marks added or replaced. Of a mark that is given more than once only the last
value counts, and null leaves a mark as it is. -/
def extend (context : LogContext) (marks : List (String × Value)) : LogContext :=
  some ((Table.ofPairs marks).foldl (fun table mark =>
    if mark.2.isNull then table else table.set mark.1 mark.2) (context.getD []))

/-- Runs a piece of work in a context with marks added, and puts the context from before back,
whatever the work leaves. -/
def within {α : Type} (context : LogContext) (marks : List (String × Value))
    (work : LogContext → LogContext × α) : LogContext × α :=
  (context, (work (context.extend marks)).2)

/-- A mark of a context; null if there is none. -/
def mark (context : LogContext) (name : String) : Value :=
  ((context.getD []).get? name).getD .null

@[simp] theorem within_snd {α : Type} (context : LogContext) (marks : List (String × Value))
    (work : LogContext → LogContext × α) :
    (context.within marks work).2 = (work (context.extend marks)).2 := rfl

end LogContext

end StorageLayout
