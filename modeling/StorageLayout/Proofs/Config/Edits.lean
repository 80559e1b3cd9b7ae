import StorageLayout.Config.Edit
import StorageLayout.Proofs.Config.Frame
import StorageLayout.Proofs.Config.Keys

/-! What edits in place come to. A write is made in full or not at all: once it creates a mapping
nothing can stop it, since a new mapping can be written and leads nowhere else. A removal that goes
down and back up again removes what it would remove entry by entry. Main statements: a write shows
its value at the key and nothing new beside it, and it fails without a trace and only if it must. -/

namespace StorageLayout

def Edit.ofWrite (document : Value) : Except WriteProblem Value → Edit Unit
  | .ok written => ⟨.ok (), written⟩
  | .error problem => ⟨.error (.write problem), document⟩

def Edit.ofRemoval (document : Value) : Option Value → Edit Bool
  | some left => ⟨.ok true, left⟩
  | none => ⟨.ok false, document⟩

namespace Value

theorem writeAt_eq (value new : Value) (segment : String) (rest : List String) (create : Bool) :
    value.writeAt segment rest new create =
      .ofWrite value (value.setAt segment rest new create) := by
  induction rest generalizing value segment with
  | nil =>
    rw [writeAt, setAt]
    split <;> rfl
  | cons next later ih =>
    rw [writeAt, setAt]
    split
    · cases found : value.child? segment with
      | some child =>
        simp only [ih]
        cases child.setAt next later new create with
        | ok written => rfl
        | error problem => simp [Edit.ofWrite, Edit.under, Except.map, withEntry_eq_self found]
      | none =>
        by_cases allowed : (create && value.isWritable) = true
        · -- What goes on in the new mapping does not fail any more.
          obtain ⟨rfl, -⟩ := Bool.and_eq_true_iff.mp allowed
          obtain ⟨inner, wrote⟩ := exists_setAt new (isOpenTo_new (next :: later))
          simp [allowed, ih, wrote, Edit.ofWrite, Edit.under, Except.map, withEntry_withEntry]
        · simp [allowed, Edit.ofWrite]
    · rfl

theorem ascend_of_kept {left : Value} (kept : left.isHollow = false) (prune : Bool)
    (before : List Hop) : ascend prune left before = ascend false left before := by
  cases before with
  | nil => rfl
  | cons hop before => simp [ascend, kept]

theorem isHollow_withEntry {value : Value} (mapping : value.isMapping = true) (segment : String)
    (child : Value) : (value.withEntry segment child).isHollow = false := by
  rw [Bool.eq_false_iff]
  intro hollow
  have held := child?_withEntry_same mapping segment child
  rw [isHollow_iff.mp hollow] at held
  cases held

/-- Going down to a place and back up removes what is there from all the mappings around it. -/
theorem ascend_descend (value : Value) (segment : String) (rest : List String) (prune : Bool)
    (before : List Hop) :
    (value.descend segment rest before).map (fun way =>
        ascend prune (way.1.holder.withoutEntry way.1.segment) way.2) =
      (value.deleteAt segment rest prune).map fun left => ascend prune left before := by
  induction rest generalizing value segment before with
  | nil =>
    unfold descend deleteAt
    split
    · cases value.child? segment <;> rfl
    · rfl
  | cons next later ih =>
    rw [deleteAt_cons]
    unfold descend
    split
    · next writable =>
      cases found : value.child? segment with
      | none => rfl
      | some child =>
        rw [Option.bind_some, Option.map_map]
        refine (ih child next (⟨value, segment⟩ :: before)).trans ?_
        cases child.deleteAt next later prune with
        | none => rfl
        | some inner =>
          simp only [Option.map_some, Function.comp_apply, ascend]
          split
          · rfl
          · rw [ascend_of_kept (isHollow_withEntry (isMapping_of_isWritable writable) ..) prune]
    · rfl

theorem removeAt_eq (value : Value) (segment : String) (rest : List String) (prune : Bool) :
    value.removeAt segment rest prune = .ofRemoval value (value.deleteAt segment rest prune) := by
  have around := ascend_descend value segment rest prune []
  unfold removeAt
  cases reached : value.descend segment rest [] with
  | none =>
    have nothing : value.deleteAt segment rest prune = none := by simpa [reached] using around.symm
    rw [nothing]
    rfl
  | some way =>
    rw [reached, Option.map_some] at around
    obtain ⟨left, removed, same⟩ := Option.map_eq_some_iff.mp around.symm
    rw [removed]
    exact congrArg (Edit.mk (.ok true)) same.symm

/-! ### Edits at keys -/

section

variable {document written left new : Value} {path : String} {key : Key}

theorem read?_eq_none (value : Value) {text : String} (hollow : "" ∈ Text.splitAt '.' text) :
    value.read? (.text text) = none := by
  obtain ⟨problem, refused⟩ := Key.exists_error_iff.mpr hollow
  exact read?_of_refused value refused

theorem read?_behind (value : Value) (parsed : Key.parse path = .ok key) (rest : String) :
    value.read? (.text (path ++ "." ++ rest)) =
      (value.at? key.segments).bind fun held => held.read? (.text rest) := by
  obtain ⟨segments, full⟩ := Key.parse_eq_ok_iff.mp parsed
  have pieces : Text.splitAt '.' (path ++ "." ++ rest) =
      Text.splitAt '.' path ++ Text.splitAt '.' rest := Text.splitAt_append '.' path rest
  by_cases hollow : "" ∈ Text.splitAt '.' rest
  · have hollowBehind : "" ∈ Text.splitAt '.' (path ++ "." ++ rest) := by
      rw [pieces]
      exact List.mem_append_right _ hollow
    rw [read?_eq_none _ hollowBehind]
    simp only [read?_eq_none _ hollow, Option.bind_fun_none]
  · obtain ⟨lower, parsedRest⟩ := Key.exists_parse_iff.mpr hollow
    have parsedBehind : Key.parse (path ++ "." ++ rest) =
        .ok ⟨key.first, key.rest ++ lower.segments⟩ := by
      refine Key.parse_eq_ok_iff.mpr ⟨?_, ?_⟩
      · rw [pieces, ← segments, ← Key.segments_of_parse parsedRest]
        rfl
      · rw [pieces]
        simp [full, hollow]
    simp only [read?_of_parse _ parsedBehind, read?_of_parse _ parsedRest]
    exact at?_append value key.segments lower.segments

theorem write_of_parse (parsed : Key.parse path = .ok key) (create : Bool) :
    document.write (.text path) new create = .ofWrite document (document.set key new create) := by
  simp only [write, Key.ofValue, parsed]
  exact writeAt_eq ..

theorem remove_of_parse (parsed : Key.parse path = .ok key) (prune : Bool) :
    document.remove (.text path) prune = .ofRemoval document (document.delete? key prune) := by
  simp only [remove, Key.ofValue, parsed]
  exact removeAt_eq ..

theorem write_eq_ok (parsed : Key.parse path = .ok key) {create : Bool} :
    document.write (.text path) new create = ⟨.ok (), written⟩ ↔
      document.set key new create = .ok written := by
  rw [write_of_parse parsed]
  cases document.set key new create <;> simp [Edit.ofWrite]

/-- Whether one key reads in a value as another key does in another value. -/
structure ReadsLike (value : Value) (name : String) (other : Value) (otherName : String) :
    Prop where
  has : value.has (.text name) = other.has (.text otherName)
  readOr : ∀ fallback,
    value.readOr (.text name) fallback = other.readOr (.text otherName) fallback

theorem readsLike_of_read? {value other : Value} {name otherName : String}
    (same : value.read? (.text name) = other.read? (.text otherName)) :
    ReadsLike value name other otherName := by
  constructor
  · rw [Value.has, Value.has, same]
  · intro fallback
    rw [Value.readOr, Value.readOr, same]

/-- What reads show after a write: its value at the key, what is in this value at the keys that lead
on from there, at keys beside it what they showed before, and above it mappings only. -/
theorem reads_after_write {create : Bool} (parsed : Key.parse path = .ok key)
    (wrote : document.write (.text path) new create = ⟨.ok (), written⟩) :
    (written.has (.text path) = true ∧ ∀ fallback, written.readOr (.text path) fallback = new) ∧
    (∀ rest, ReadsLike written (path ++ "." ++ rest) new rest) ∧
    (∀ other apart, Key.parse other = .ok apart → Beside key.segments apart.segments →
      ReadsLike written other document other) ∧
    ∀ above, above <+: key.segments → above ≠ key.segments →
      ∃ holder, written.at? above = some holder ∧ holder.isMapping = true := by
  have put : document.setAt key.first key.rest new create = .ok written :=
    (write_eq_ok parsed).mp wrote
  have held : written.at? key.segments = some new := at?_setAt_same put
  have reads : written.read? (.text path) = some new := (read?_of_parse written parsed).trans held
  refine ⟨⟨?_, fun fallback => ?_⟩, fun rest => ?_, fun other apart parsedOther beside => ?_, ?_⟩
  · rw [has, reads, Option.isSome_some]
  · rw [readOr, reads, Option.getD_some]
  · apply readsLike_of_read?
    rw [read?_behind written parsed, held, Option.bind_some]
  · apply readsLike_of_read?
    rw [read?_of_parse _ parsedOther, read?_of_parse _ parsedOther]
    exact (sameAt_setAt put beside).held
  · intro above leads proper
    exact at?_setAt_above put leads proper

/-- Null that is written in a new mapping, below a document that is read-only itself. -/
theorem reads_after_write_of_null :
    ∃ written, (mapping .proxy [("a", object [("x", .int 1)])]).write (.text "a.b.c") .null true =
        ⟨.ok (), written⟩ ∧
      written.has (.text "a.b.c") = true ∧ written.readOr (.text "a.b.c") (.int 0) = .null ∧
      written.readOr (.text "a.x") .null = .int 1 := by
  have parsed : Key.parse "a.b.c" = .ok ⟨"a", ["b", "c"]⟩ := rfl
  have parsedOther : Key.parse "a.x" = .ok ⟨"a", ["x"]⟩ := rfl
  have wrote : (mapping .proxy [("a", object [("x", .int 1)])]).write (.text "a.b.c") .null true =
      ⟨.ok (), mapping .proxy [("a", object [("x", .int 1), ("b", object [("c", .null)])])]⟩ := rfl
  obtain ⟨⟨has, reads⟩, -, frame, -⟩ := reads_after_write parsed wrote
  exact ⟨_, wrote, has, reads _, (frame "a.x" _ parsedOther (by decide)).readOr .null⟩

/-! ### Writes that fail -/

def HasOpenMappings (value : Value) : Prop :=
  ∀ place held, value.at? place = some held → held.isMapping = true → held.isWritable = true

theorem hasOpenMappings_of_isOpen {value : Value} (open_ : value.isOpen = true) :
    value.HasOpenMappings := fun _ _ found mapping =>
  isWritable_of_isOpen (allMappings_at? open_ found) mapping

/-- A write gives up the document as it was, for one of three kinds of reasons. -/
theorem write_eq_error {name : Value} {create : Bool} {failure : Failure}
    (failed : (document.write name new create).outcome = .error failure) :
    (document.write name new create).document = document ∧
      failure.kind ∈ [FailureKind.value, .key, .type] := by
  unfold write at failed ⊢
  cases parsed : Key.ofValue name with
  | error problem =>
    simp only [parsed, Except.error.injEq] at failed
    subst failed
    simp [Failure.kind]
  | ok key =>
    simp only [parsed, writeAt_eq] at failed ⊢
    cases wrote : document.setAt key.first key.rest new create with
    | ok written => simp [wrote, Edit.ofWrite] at failed
    | error problem =>
      simp only [wrote, Edit.ofWrite, Except.error.injEq] at failed
      subst failed
      cases problem <;> simp [Edit.ofWrite, Failure.kind, Failure.writeKind]

/-- If mappings are never read-only, all that stops a creating write is something else on its way. -/
theorem exists_setAt_iff {value : Value} {segment : String} {rest : List String}
    (open_ : value.HasOpenMappings) :
    (∃ written, value.setAt segment rest new true = .ok written) ↔
      ∀ above held, above <+: segment :: rest → above ≠ segment :: rest →
        value.at? above = some held → held.isMapping = true := by
  constructor
  · rintro ⟨written, wrote⟩ above held leads proper found
    exact isMapping_above_of_setAt wrote leads proper found
  · intro mappings
    apply exists_setAt
    intro above held leads proper found
    exact open_ above held found (mappings above held leads proper found)

/-- A write that fails leaves everything as it was. Where no mapping is read-only, a creating write
fails just if its key is empty, has an empty segment, or something above its place is no mapping. -/
theorem write_fails_without_trace (document new : Value) :
    (∀ name create failure, (document.write name new create).outcome = .error failure →
      (document.write name new create).document = document ∧
        failure.kind ∈ [FailureKind.value, .key, .type]) ∧
    (document.HasOpenMappings → ∀ path : String,
      (∃ failure, (document.write (.text path) new true).outcome = .error failure) ↔
        path = "" ∨ "" ∈ Text.splitAt '.' path ∨
          ∃ above held, above <+: Text.splitAt '.' path ∧ above ≠ Text.splitAt '.' path ∧
            document.at? above = some held ∧ held.isMapping = false) := by
  refine ⟨fun name create failure failed => write_eq_error failed, fun open_ path => ?_⟩
  by_cases hollow : "" ∈ Text.splitAt '.' path
  · obtain ⟨problem, refused⟩ := Key.exists_error_iff.mpr hollow
    simp [write, Key.ofValue, refused, hollow]
  · obtain ⟨key, parsed⟩ := Key.exists_parse_iff.mpr hollow
    have nonempty : path ≠ "" := by
      rintro rfl
      exact hollow (List.mem_singleton.mpr rfl)
    have fails : (∃ failure, (document.write (.text path) new true).outcome = .error failure) ↔
        ¬ ∃ written, document.setAt key.first key.rest new true = .ok written := by
      rw [write_of_parse parsed, set]
      cases document.setAt key.first key.rest new true <;> simp [Edit.ofWrite]
    rw [fails, exists_setAt_iff open_]
    simp only [← Key.segments_of_parse parsed, Key.segments] at hollow ⊢
    simp only [nonempty, hollow, false_or, not_forall, exists_prop, Bool.not_eq_true]

/-- Below something that is no mapping a write fails and changes nothing. -/
theorem write_fails_below_leaf :
    (∃ failure,
      ((object [("a", .int 1)]).write (.text "a.b") .null true).outcome = .error failure) ∧
    ((object [("a", .int 1)]).write (.text "a.b") .null true).document =
      object [("a", .int 1)] := by
  obtain ⟨unchanged, fails⟩ := write_fails_without_trace (object [("a", .int 1)]) .null
  have open_ : (object [("a", .int 1)]).HasOpenMappings := hasOpenMappings_of_isOpen rfl
  have leads : ["a"] <+: Text.splitAt '.' "a.b" := ⟨["b"], rfl⟩
  obtain ⟨failure, failed⟩ :=
    (fails open_ "a.b").mpr (.inr (.inr ⟨["a"], .int 1, leads, by decide, rfl, rfl⟩))
  exact ⟨⟨failure, failed⟩, (unchanged _ _ failure failed).1⟩

end

end Value

end StorageLayout
