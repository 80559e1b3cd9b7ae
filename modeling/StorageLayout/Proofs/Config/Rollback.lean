import StorageLayout.Proofs.Config.Merge
import StorageLayout.Proofs.Config.Reading
import StorageLayout.Proofs.Config.Runs

/-! Writes that are refused. The store takes them back by writing what the key read as before, which
is exact unless null stood at the key, or nothing stood there and an empty mapping or a read-only one
was on the way to it. -/

namespace StorageLayout

open Value

namespace Layer

/-- Whether overrides are not what they were once a write of a value has been taken back. Below a
read-only mapping a value that was put there stays, and null where it stood. -/
def IsForgotten (entries : Table Value) (key : Key) (value : Value) : Prop :=
  (object entries).get? key = some .null ∧
      (value.isNull = false ∨ (object entries).IsOpenTo key.segments) ∨
    value.isNull = false ∧ (object entries).get? key = none ∧
      ((object entries).HollowOnWay key.segments ∨ ¬ (object entries).IsOpenTo key.segments)

/-- Overrides after a write was taken back by writing what the key read as before. -/
def takenBack (entries written : Table Value) (text : String) : Table Value :=
  match writeOverride written text ((object entries).read text) with
  | .ok left => left
  | .error _ => written

section

variable {entries written : Table Value} {text : String} {key : Key} {value : Value}

private theorem null_or_held (found : Option Value) :
    found.getD .null = .null ∨ ∃ old, found = some old ∧ old.isNull = false := by
  rcases found with _ | old
  · exact .inl rfl
  · cases null : old.isNull with
    | true => exact .inl (eq_null_of_isNull null)
    | false => exact .inr ⟨old, rfl, null⟩

private theorem not_alike_of_gone {left : Table Value} {place : List String} {old : Value}
    (gone : (object left).at? place = none) (held : (object entries).at? place = some old) :
    ¬ (object left).Alike (object entries) := by
  intro alike
  have seen := alike.at? place
  rw [gone, held] at seen
  cases seen

/-- What was left where nothing or null stood tells the difference. -/
private theorem not_alike_of_left {left : Table Value} {place : List String}
    (here : (object left).at? place = some value) (present : value.isNull = false)
    (nothing : ((object entries).at? place).getD .null = .null) :
    ¬ (object left).Alike (object entries) := by
  intro alike
  have seen := alike.at? place
  rw [here] at seen
  generalize (object entries).at? place = found at nothing seen
  cases seen with
  | some inner =>
    have same := inner.isNull
    rw [Option.getD_some] at nothing
    rw [present, nothing] at same
    cases same

/-- What overrides are after a write was taken back has the kinds of mappings that they had. -/
theorem allMappings_takenBack {admitted : Access → Bool} (creatable : admitted .writable = true)
    (all : (object entries).allMappings admitted = true)
    (allWritten : (object written).allMappings admitted = true) :
    (object (takenBack entries written text)).allMappings admitted = true := by
  rw [takenBack]
  cases putBack : writeOverride written text ((object entries).read text) with
  | error failure => exact allWritten
  | ok left =>
    obtain ⟨key, parsed⟩ := exists_key_of_writeOverride putBack
    refine allMappings_writeOverride creatable allWritten ?_ putBack
    rw [read_eq _ parsed]
    cases held : (object entries).get? key with
    | none => rfl
    | some old => exact allMappings_at? all held

variable (written) in
theorem takenBack_of_null (parsed : Key.parse text = .ok key)
    (nothing : ((object entries).get? key).getD .null = .null) :
    discard written text = .ok (takenBack entries written text) := by
  rw [takenBack, read_eq _ parsed, nothing, writeOverride_null rfl]
  obtain ⟨left, discarded⟩ := exists_discard parsed written
  rw [discarded]

/-- A value that was written over or deleted is written again. -/
theorem takenBack_of_held (copyable : (object entries).isCopyable = true)
    (parsed : Key.parse text = .ok key) (wrote : writeOverride entries text value = .ok written)
    {old : Value} (held : (object entries).get? key = some old) (present : old.isNull = false) :
    (object (takenBack entries written text)).get? key = some old ∧
      (object (takenBack entries written text)).Alike (object entries) := by
  have oldCopyable : old.isCopyable = true := allMappings_at? copyable held
  rw [takenBack, read_eq _ parsed, held, Option.getD_some]
  have rewritten {restored : Value} (put : (object written).set key old true = .ok restored)
      (alike : restored.Alike (object entries)) :
      ∃ left, writeOverride written text old = .ok left ∧
        (object left).get? key = some old ∧ (object left).Alike (object entries) := by
    obtain ⟨left, rfl⟩ := exists_object_of_setAt put
    have assigned := (assign_eq_ok_of_parse parsed).mpr put
    exact ⟨left, (writeOverride_eq_ok present).mpr ⟨oldCopyable, assigned⟩, at?_setAt_same put,
      alike⟩
  cases null : value.isNull with
  | true =>
    rw [writeOverride_null null] at wrote
    rcases discard_cases parsed wrote with removed | ⟨-, rfl⟩
    · obtain ⟨restored, put, alike⟩ := setAt_deleteAt removed held
      obtain ⟨left, again, result⟩ := rewritten put alike
      rwa [again]
    · -- Nothing was removed, so what was there is written over itself if it can be.
      cases again : writeOverride written text old with
      | error failure => exact ⟨held, .refl _⟩
      | ok left =>
        obtain ⟨-, assigned⟩ := (writeOverride_eq_ok present).mp again
        have put := (assign_eq_ok_of_parse parsed).mp assigned
        dsimp only
        rw [setAt_held put held]
        exact ⟨held, .refl _⟩
  | false =>
    obtain ⟨-, assigned⟩ := (writeOverride_eq_ok null).mp wrote
    have put := (assign_eq_ok_of_parse parsed).mp assigned
    obtain ⟨left, again, result⟩ := rewritten (setAt_setAt put held) (.refl _)
    rwa [again]

/-- Removing what was not there before, or was null, once more. -/
private theorem takenBack_of_removal (parsed : Key.parse text = .ok key)
    (null : value.isNull = true) (wrote : writeOverride entries text value = .ok written)
    (nothing : ((object entries).get? key).getD .null = .null) :
    (object (takenBack entries written text)).Alike (object entries) ↔
      ¬ ((object entries).get? key = some .null ∧ (object entries).IsOpenTo key.segments) := by
  rw [writeOverride_null null] at wrote
  have again := takenBack_of_null written parsed nothing
  have removable := delete?_isSome_iff (object entries) key true
  rcases discard_cases parsed wrote with removed | ⟨stays, rfl⟩
  · rw [removed] at removable
    obtain ⟨held, open_⟩ := removable.mp rfl
    obtain ⟨old, held⟩ := Option.isSome_iff_exists.mp held
    obtain rfl : old = .null := by rwa [held, Option.getD_some] at nothing
    have gone : (object (takenBack entries written text)).get? key = none := by
      rcases discard_cases parsed again with removedAgain | ⟨-, same⟩
      · exact at?_deleteAt_same removedAgain
      · rw [same]
        exact at?_deleteAt_same removed
    exact iff_of_false (not_alike_of_gone gone held) fun kept => kept ⟨held, open_⟩
  · rcases discard_cases parsed again with removed | ⟨-, same⟩
    · rw [stays] at removed
      cases removed
    · rw [same]
      refine iff_of_true (.refl _) fun ⟨isNull, open_⟩ => ?_
      rw [stays, isNull] at removable
      simp [open_] at removable

/-- Removing what was put where nothing or null was before. -/
private theorem takenBack_of_put (parsed : Key.parse text = .ok key)
    (present : value.isNull = false) (wrote : writeOverride entries text value = .ok written)
    (nothing : ((object entries).get? key).getD .null = .null) :
    (object (takenBack entries written text)).Alike (object entries) ↔
      (object entries).get? key = none ∧ (object entries).IsOpenTo key.segments ∧
        ¬ (object entries).HollowOnWay key.segments := by
  obtain ⟨-, assigned⟩ := (writeOverride_eq_ok present).mp wrote
  have put := (assign_eq_ok_of_parse parsed).mp assigned
  have here : (object written).get? key = some value := at?_setAt_same put
  have removable := delete?_isSome_iff (object written) key true
  rw [here, Key.segments, isOpenTo_setAt put, ← Key.segments] at removable
  rcases discard_cases parsed (takenBack_of_null written parsed nothing) with
    removed | ⟨stays, same⟩
  · rw [removed] at removable
    obtain ⟨-, open_⟩ := removable.mp rfl
    have gone : (object (takenBack entries written text)).get? key = none :=
      at?_deleteAt_same removed
    cases held : (object entries).get? key with
    | some old =>
      exact iff_of_false (not_alike_of_gone gone held) fun ⟨absent, _, _⟩ => by cases absent
    | none =>
      by_cases hollow : (object entries).HollowOnWay key.segments
      · obtain ⟨above, nonempty, leads, empty⟩ := hollow
        obtain ⟨rest, again, lost⟩ :=
          deleteAt_setAt_of_hollow open_ held put nonempty leads empty
        obtain rfl := Option.some.inj (removed.symm.trans again)
        exact iff_of_false (not_alike_of_gone lost empty) fun ⟨_, _, full⟩ =>
          full ⟨above, nonempty, leads, empty⟩
      · have again := deleteAt_setAt open_ held put hollow
        rw [Option.some.inj (removed.symm.trans again)]
        exact iff_of_true (.refl _) ⟨rfl, open_, hollow⟩
  · rw [stays] at removable
    rw [same]
    refine iff_of_false (not_alike_of_left here present nothing) fun ⟨_, open_, _⟩ => ?_
    simp [open_] at removable

/-- Whether what stands at a key can be taken back: nothing read-only is on the way to it, or there is
something else than null, which can be written again. -/
def Restores (entries : Table Value) (key : Key) : Prop :=
  (object entries).IsOpenTo key.segments ∨ ((object entries).get? key).getD .null ≠ .null

theorem Restores.writeOverride (restores : Restores entries key)
    (parsed : Key.parse text = .ok key)
    (wrote : Layer.writeOverride entries text value = .ok written) : Restores written key := by
  cases null : value.isNull with
  | true =>
    rw [writeOverride_null null] at wrote
    rcases discard_cases parsed wrote with removed | ⟨-, rfl⟩
    · have open_ := ((delete?_isSome_iff _ _ _).mp (Option.isSome_of_eq_some removed)).2
      exact .inl (isOpenTo_deleteAt removed open_)
    · exact restores
  | false =>
    right
    rw [get?_writeOverride parsed null wrote, Option.getD_some]
    rintro rfl
    cases null

/-- After a write the overrides take what the key read as before. That gives back what they held
unless it is forgotten. -/
theorem takenBack_alike_iff (copyable : (object entries).isCopyable = true)
    (parsed : Key.parse text = .ok key) (wrote : writeOverride entries text value = .ok written) :
    (object (takenBack entries written text)).Alike (object entries) ↔
      ¬ IsForgotten entries key value := by
  rcases null_or_held ((object entries).get? key) with nothing | ⟨old, held, present⟩
  · cases null : value.isNull with
    | true =>
      rw [takenBack_of_removal parsed null wrote nothing, IsForgotten, null]
      simp
    | false =>
      rw [takenBack_of_put parsed null wrote nothing, IsForgotten, null]
      cases held : (object entries).get? key with
      | none => simp [and_comm]
      | some old =>
        rw [held, Option.getD_some] at nothing
        simp [nothing]
  · refine iff_of_true (takenBack_of_held copyable parsed wrote held present).2 ?_
    rw [IsForgotten, held]
    rintro (⟨isNull, -⟩ | ⟨-, absent, -⟩)
    · rw [Option.some.inj isNull] at present
      cases present
    · cases absent

end

/-- Layers are alike if they are the same or both overrides that hold alike values. -/
inductive Alike : Layer → Layer → Prop where
  | same (layer : Layer) : Alike layer layer
  | overrides {left right : Table Value} (alike : (object left).Alike (object right)) :
      Alike (overrides left) (overrides right)

theorem Alike.get {left right : Layer} (alike : Alike left right) (process : Environment)
    (text : String) : (left.get process text).Alike (right.get process text) := by
  cases alike with
  | same => exact .refl _
  | @overrides leftEntries rightEntries alike =>
    simp only [Layer.get]
    cases parsed : Key.parse text with
    | error problem =>
      rw [read_eq_null _ parsed, read_eq_null _ parsed]
      exact .refl .null
    | ok key =>
      have related := alike.at? key.segments
      rw [read_eq _ parsed, read_eq _ parsed, get?, get?]
      generalize (object leftEntries).at? key.segments = found at related ⊢
      generalize (object rightEntries).at? key.segments = other at related ⊢
      cases related with
      | none => exact .refl .null
      | some inner => exact inner

end Layer

namespace Document

/-- Whether two attempts at a document gave alike documents or the same failure. -/
inductive OutcomesAlike : Except Failure Document → Except Failure Document → Prop where
  | ok {left right : Document} (alike : left.Alike right) : OutcomesAlike (.ok left) (.ok right)
  | error (failure : Failure) : OutcomesAlike (.error failure) (.error failure)

theorem Alike.refl (document : Document) : document.Alike document :=
  ⟨Value.Alike.refl _, rfl⟩

theorem OutcomesAlike.refl (outcome : Except Failure Document) : OutcomesAlike outcome outcome := by
  cases outcome with
  | ok document => exact .ok (.refl document)
  | error failure => exact .error failure

end Document

theorem Layer.Alike.toDocument {left right : Layer} (alike : Layer.Alike left right)
    (process : Environment) :
    Document.OutcomesAlike (left.toDocument process) (right.toDocument process) := by
  cases alike with
  | same => exact .refl _
  | overrides alike => exact .ok ⟨by simpa using alike, by simp⟩

namespace Store

section

variable {process : Environment} {left right : List Layer}

variable (process) in
private theorem find?_alike (alike : List.Forall₂ Layer.Alike left right) (text : String)
    (index : Nat) :
    Option.Rel (fun found other => found.2.Alike other.2) (find? process text index left)
      (find? process text index right) := by
  induction alike generalizing index with
  | nil => exact .none
  | @cons layer other above otherAbove here _ ih =>
    have related := ih (index + 1)
    rw [find?, find?]
    generalize find? process text (index + 1) above = found at related ⊢
    generalize find? process text (index + 1) otherAbove = foundOther at related ⊢
    cases related with
    | some inner => exact .some inner
    | none =>
      have read := here.get process text
      dsimp only
      rw [read.isNull]
      split
      · exact .none
      · exact .some read

private theorem mergeOver_alike (alike : List.Forall₂ Layer.Alike left right)
    {document other : Document} (below : document.Alike other) :
    Document.OutcomesAlike (mergeOver process document left) (mergeOver process other right) := by
  induction alike generalizing document other with
  | nil => exact .ok below
  | @cons layer otherLayer above otherAbove here _ ih =>
    have related := here.toDocument process
    rw [mergeOver, mergeOver]
    generalize layer.toDocument process = laidOut at related ⊢
    generalize otherLayer.toDocument process = laidOutOther at related ⊢
    cases related with
    | error failure => exact .error failure
    | ok upper => exact ih (below.merge upper)

end

/-- Stores are alike if their layers are. -/
def Alike (left right : Store) : Prop := List.Forall₂ Layer.Alike left.layers right.layers

theorem Alike.get {left right : Store} (alike : Alike left right) (process : Environment)
    (text : String) : (left.get process text).Alike (right.get process text) := by
  have related := find?_alike process alike text 0
  rw [Store.get, Store.get]
  generalize find? process text 0 left.layers = found at related ⊢
  generalize find? process text 0 right.layers = foundOther at related ⊢
  cases related with
  | none => exact .refl .null
  | some found => exact found

theorem Alike.merged {left right : Store} (alike : Alike left right) (process : Environment) :
    Document.OutcomesAlike (left.merged process) (right.merged process) :=
  mergeOver_alike alike (.refl .empty)

theorem withLayer_eq_self {store : Store} {target : Nat} {layer : Layer}
    (here : store.layers[target]? = some layer) : store.withLayer target layer = store := by
  obtain ⟨inside, rfl⟩ := List.getElem?_eq_some_iff.mp here
  rw [withLayer, List.set_getElem_self]

theorem alike_withLayer {store : Store} {target : Nat} {layer other : Layer}
    (here : store.layers[target]? = some layer) (alike : Layer.Alike other layer) :
    Alike (store.withLayer target other) store := by
  obtain ⟨inside, rfl⟩ := List.getElem?_eq_some_iff.mp here
  apply List.forall₂_iff_get.mpr
  refine ⟨by simp [withLayer], fun index _ insideOther => ?_⟩
  by_cases same : target = index
  · subst same
    simpa [withLayer] using alike
  · simpa [withLayer, List.getElem_set_ne same] using Layer.Alike.same _

/-- A write that does not stand the check is taken back. -/
theorem writeLayer_invalid {process : Environment} {store : Store} {target : Nat}
    {entries written : Table Value} {text : String} {value : Value} {failure : Failure}
    (wrote : Layer.writeOverride entries text value = .ok written)
    (invalid : (store.withLayer target (.overrides written)).validate process = .error failure) :
    (store.writeLayer process target (.overrides entries) text value).store =
        store.withLayer target (.overrides (Layer.takenBack entries written text)) ∧
      value ∈ (store.writeLayer process target (.overrides entries) text value).values := by
  unfold writeLayer Layer.takenBack
  simp only [Layer.set, Layer.get, wrote, Except.map, invalid]
  cases Layer.writeOverride written text ((object entries).read text) <;> simp

/-- A write that is refused leaves the overrides as they were, unless it was put there at first and
what stood there is forgotten. -/
theorem writeLayer_error {process : Environment} {store : Store} {target : Nat}
    {entries : Table Value} {text : String} {value : Value} {failure : Failure}
    (here : store.layers[target]? = some (.overrides entries))
    (copyable : (object entries).isCopyable = true)
    (refused : (store.writeLayer process target (.overrides entries) text value).outcome =
      .error failure) :
    ∃ left, (store.writeLayer process target (.overrides entries) text value).store =
        store.withLayer target (.overrides left) ∧
      ((object left).Alike (object entries) ↔
        ¬ ∃ key, Key.parse text = .ok key ∧
          (∃ written, Layer.writeOverride entries text value = .ok written) ∧
          Layer.IsForgotten entries key value) := by
  cases wrote : Layer.writeOverride entries text value with
  | error problem =>
    refine ⟨entries, ?_, ?_⟩
    · rw [withLayer_eq_self here, writeLayer]
      simp only [Layer.set, wrote, Except.map]
    · simp [Value.Alike.refl]
  | ok written =>
    obtain ⟨key, parsed⟩ := Layer.exists_key_of_writeOverride wrote
    have alike := Layer.takenBack_alike_iff copyable parsed wrote
    cases checked : (store.withLayer target (.overrides written)).validate process with
    | ok _ =>
      rw [writeLayer] at refused
      simp only [Layer.set, wrote, Except.map, checked] at refused
      cases refused
    | error cause =>
      refine ⟨_, (writeLayer_invalid wrote checked).1, ?_⟩
      rw [alike]
      simp [parsed]

end Store

namespace Stores

/-- Telling listeners of a change ends in a failure only if a record cannot be logged. -/
theorem notify_error {occasion : Occasion} {write : Writer} {failure : Failure} {notice : Notice}
    {stores : Stores} {listeners : List Listener}
    (failed : (notify occasion write notice stores listeners).2.outcome = .error failure) :
    ∃ record, occasion.refusal record = some failure := by
  induction listeners generalizing notice stores with
  | nil => cases failed
  | cons listener rest ih =>
    rw [notify] at failed
    dsimp only at failed
    split at failed
    · exact ih failed
    · split at failed
      · next refused unlogged =>
        obtain rfl := Except.error.inj failed
        exact ⟨_, unlogged⟩
      · exact ih failed

end Stores

def Store.IsFresh (store : Store) : Prop :=
  ∀ entries, Layer.overrides entries ∈ store.layers → entries = []

namespace Stores

/-- Overrides that come about by writes can be copied. -/
theorem Reached.isCopyable {start stores : Stores} (reached : Reached start stores)
    (fresh : ∀ store ∈ start, store.IsFresh) {place : Nat} {store : Store}
    (here : stores[place]? = some store) {target : Nat} {entries : Table Value}
    (held : store.layers[target]? = some (.overrides entries)) :
    (Value.object entries).isCopyable = true := by
  obtain ⟨before, hereBefore, rewritten⟩ := reached.storeBefore here
  obtain ⟨inside, found⟩ := List.getElem?_eq_some_iff.mp held
  have insideBefore : target < before.layers.length := rewritten.layers.length_eq ▸ inside
  have step := (List.forall₂_iff_get.mp rewritten.layers).2 target insideBefore inside
  have freshBefore := fresh before (List.mem_of_getElem? hereBefore)
  have memberBefore := List.getElem_mem insideBefore
  simp only [List.get_eq_getElem, found] at step
  generalize before.layers[target] = layer at step memberBefore
  cases step with
  | same =>
    rw [freshBefore entries memberBefore]
    rfl
  | overrides copyable =>
    refine copyable ?_
    rw [freshBefore _ memberBefore]
    rfl

/-- A write that raises tells nobody and changes nothing but the overrides that it was for. These
are what they were, with every key and the effective document, exactly unless the write was put
there before it was refused and forgets what stood there. -/
theorem write_refused {start stores : Stores} (fresh : ∀ store ∈ start, store.IsFresh)
    (reached : Reached start stores) {place : Nat} {store : Store} {target : Nat}
    {entries : Table Value} (here : stores[place]? = some store)
    (top : store.overrideLayer? = some (target, .overrides entries)) {occasion : Occasion}
    {text : String} {value : Value} {actor : String} {failure : Failure}
    (refused : (write occasion stores place text value actor).2.outcome = .error failure)
    (logged : ∀ record, occasion.refusal record ≠ some failure) :
    (∀ listener change,
      .notified listener change ∉ (write occasion stores place text value actor).2.trail) ∧
    ∃ left, (write occasion stores place text value actor).1 =
        stores.set place (store.withLayer target (.overrides left)) ∧
      ((object left).Alike (object entries) ↔
        ¬ ∃ key, Key.parse text = .ok key ∧
          (∃ written, Layer.writeOverride entries text value = .ok written) ∧
          Layer.IsForgotten entries key value) ∧
      ((object left).Alike (object entries) → ∀ process,
        (∀ other, ((store.withLayer target (.overrides left)).get process other).Alike
          (store.get process other)) ∧
        Document.OutcomesAlike ((store.withLayer target (.overrides left)).merged process)
          (store.merged process)) := by
  have held := (Store.overrideLayer?_eq_some top).1
  have copyable := reached.isCopyable fresh here held
  rw [write, writeNested] at refused ⊢
  simp only [here, top, writeOverrides] at refused ⊢
  split at refused
  · next cause failed =>
    obtain rfl := Except.error.inj refused
    obtain ⟨left, put, alike⟩ := Store.writeLayer_error held copyable failed
    dsimp only
    refine ⟨by simp, left, by rw [put], alike, fun same process => ?_⟩
    have stores_alike := Store.alike_withLayer held (.overrides same)
    exact ⟨stores_alike.get process, stores_alike.merged process⟩
  · split at refused
    · obtain ⟨record, unlogged⟩ := notify_error refused
      exact absurd unlogged (logged record)
    · cases refused

/-- A write with nothing around it: no variables are set, nobody has subscribed, and every record
can be logged. -/
def bareOccasion : Occasion := ⟨[], none, [], fun _ => none, 2⟩

/-- A store that takes no value at one place. -/
def guarded : Store where
  space := "guarded"
  validator := some fun document =>
    match document.root.at? ["a", "b"] with
    | some _ => .error .noUserContext
    | none => .ok ()
  layers := [.overrides []]
  listeners := []

/-- An empty section that was written is forgotten once a write below it is refused. -/
theorem write_refused_below_empty :
    ∃ left, (write bareOccasion
          (write bareOccasion [guarded] 0 "a" (.object []) Store.systemActor).1 0 "a.b" (.int 1)
          Store.systemActor).1 = [guarded.withLayer 0 (.overrides left)] ∧
      ¬ (object left).Alike (object [("a", .object [])]) := by
  have fresh : ∀ store ∈ [guarded], store.IsFresh := by
    intro store member entries held
    obtain rfl := List.mem_singleton.mp member
    cases List.mem_singleton.mp held
    rfl
  have reached : Reached [guarded]
      (write bareOccasion [guarded] 0 "a" (.object []) Store.systemActor).1 :=
    .write .start bareOccasion 0 "a" (.object []) Store.systemActor
  have refused : (write bareOccasion
      (write bareOccasion [guarded] 0 "a" (.object []) Store.systemActor).1 0 "a.b" (.int 1)
      Store.systemActor).2.outcome = .error (.invalidDocument "guarded" .noUserContext) := rfl
  obtain ⟨-, left, put, alike, -⟩ :=
    write_refused fresh reached rfl rfl refused (by simp [bareOccasion])
  refine ⟨left, put, fun same => alike.mp same ⟨⟨"a", ["b"]⟩, rfl, ⟨_, rfl⟩, .inr ?_⟩⟩
  exact ⟨rfl, rfl, .inl ⟨["a"], by simp, by simp [Key.segments], rfl⟩⟩

end Stores

end StorageLayout
