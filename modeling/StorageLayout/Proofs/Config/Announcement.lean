import StorageLayout.Proofs.Config.Agreement
import StorageLayout.Proofs.Config.Bindings
import StorageLayout.Proofs.Config.Reading
import StorageLayout.Proofs.Config.Runs

namespace StorageLayout

namespace Value

def Differs (old new : Value) : Prop := old ≠ new ∧ old.agrees new = false

theorem differs_left {old new : Value} (self : old.agrees old = true) :
    Differs old new ↔ old.agrees new = false := by
  refine ⟨And.right, fun unequal => ⟨?_, unequal⟩⟩
  rintro rfl
  simp [self] at unequal

theorem differs_right {old new : Value} (self : new.agrees new = true) :
    Differs old new ↔ old.agrees new = false := by
  refine ⟨And.right, fun unequal => ⟨?_, unequal⟩⟩
  rintro rfl
  simp [self] at unequal

theorem not_differs_self (value : Value) : ¬ Differs value value := fun differs => differs.1 rfl

theorem not_differs_iff {old new : Value} :
    ¬ Differs old new ↔ old = new ∨ old.agrees new = true := by
  rw [Differs, not_and_or, not_not, Bool.not_eq_false]

def inside (value : Value) (place : List String) : Value := (value.at? place).getD .null

theorem null_inside (place : List String) : null.inside place = .null := by
  cases place with
  | nil => simp [inside]
  | cons segment rest =>
    have scalar : null.isMapping = false := rfl
    simp [inside, at?_cons, child?_eq_none scalar]

/-- What a key reads as decides what the keys below it read as. -/
theorem read_below (value : Value) {text other : String} {key lower : Key} {rest : List String}
    (parsed : Key.parse text = .ok key) (parsedOther : Key.parse other = .ok lower)
    (leads : lower.segments = key.segments ++ rest) :
    value.read other = (value.read text).inside rest := by
  rw [read_eq _ parsed, read_eq _ parsedOther, get?, get?, leads, at?_append]
  cases value.at? key.segments with
  | none => exact (null_inside rest).symm
  | some child => rfl

/-- A relation that holds at every place of values that it relates, and that relates null to nothing
but null. -/
structure Placewise (related : Value → Value → Prop) : Prop where
  at? : ∀ {left right : Value}, related left right → ∀ place,
    Option.Rel related (left.at? place) (right.at? place)
  isNull : ∀ {left right : Value}, related left right → left.isNull = right.isNull

theorem placewise_agrees : Placewise fun left right => left.agrees right = true :=
  ⟨at?_agrees, isNull_of_agrees⟩

theorem Placewise.flip {related : Value → Value → Prop} (placewise : Placewise related) :
    Placewise fun left right => related right left where
  at? := by
    intro left right whole place
    have further := placewise.at? whole place
    generalize right.at? place = found at further ⊢
    generalize left.at? place = foundOther at further ⊢
    cases further with
    | none => exact .none
    | some child => exact .some child
  isNull whole := (placewise.isNull whole).symm

theorem Placewise.inside {related : Value → Value → Prop} (placewise : Placewise related)
    {left right : Value} (whole : related left right) (place : List String)
    (present : (left.inside place).isNull = false) :
    related (left.inside place) (right.inside place) := by
  have further := placewise.at? whole place
  rw [Value.inside, Value.inside] at *
  generalize left.at? place = found at further present ⊢
  generalize right.at? place = foundOther at further ⊢
  cases further with
  | none => cases present
  | some child => exact child

end Value

namespace Layer

def IsTree (process : Environment) (layer : Layer) : Prop :=
  ∃ value : Value, ∀ text, layer.get process text = value.read text

theorem isTree_constants (process : Environment) (data : Value) :
    IsTree process (constants data) := ⟨_, fun _ => rfl⟩

theorem isTree_document (process : Environment) (path : Option Pathname) (data : Value) :
    IsTree process (document path data) := ⟨_, fun _ => rfl⟩

theorem agrees_boundValue (environment : Environment) (bindings : Table String) (text : String) :
    (boundValue environment bindings text).agrees (boundValue environment bindings text) = true := by
  rcases boundValue_cases environment bindings text with
    null | ⟨truth, bool⟩ | ⟨value, plain⟩
  · rw [null]; rfl
  · rw [bool]; cases truth <;> rfl
  · rw [plain]; simp [Value.agrees]

end Layer

namespace Store

section

variable {process : Environment} {text other : String} {key lower : Key} {rest : List String}

private theorem valueIn_below_of_null {trees : List Layer}
    (areTrees : ∀ layer ∈ trees, Layer.IsTree process layer) (parsed : Key.parse text = .ok key)
    (parsedOther : Key.parse other = .ok lower) (leads : lower.segments = key.segments ++ rest)
    (null : (valueIn process text trees).isNull = true) :
    (valueIn process other trees).isNull = true := by
  induction trees with
  | nil => rfl
  | cons layer above ih =>
    have areTreesAbove : ∀ layer ∈ above, Layer.IsTree process layer := by
      intro layer member
      exact areTrees layer (List.mem_cons_of_mem _ member)
    rw [valueIn] at null ⊢
    split at null
    · next nullAbove =>
      obtain ⟨value, reads⟩ := areTrees layer List.mem_cons_self
      rw [if_pos (ih areTreesAbove nullAbove), reads,
        value.read_below parsed parsedOther leads, ← reads, Value.eq_null_of_isNull null,
        Value.null_inside]
      rfl
    · next present => exact absurd null present

/-- Below a key a stack of documents has at least what it has inside the value of the key. -/
private theorem valueIn_below {trees : List Layer}
    (areTrees : ∀ layer ∈ trees, Layer.IsTree process layer) (parsed : Key.parse text = .ok key)
    (parsedOther : Key.parse other = .ok lower) (leads : lower.segments = key.segments ++ rest)
    (present : ((valueIn process text trees).inside rest).isNull = false) :
    valueIn process other trees = (valueIn process text trees).inside rest := by
  induction trees with
  | nil =>
    rw [valueIn, Value.null_inside] at present
    cases present
  | cons layer above ih =>
    have areTreesAbove : ∀ layer ∈ above, Layer.IsTree process layer := by
      intro layer member
      exact areTrees layer (List.mem_cons_of_mem _ member)
    rw [valueIn] at present
    split at present
    · next nullAbove =>
      obtain ⟨value, reads⟩ := areTrees layer List.mem_cons_self
      have nullOther := valueIn_below_of_null areTreesAbove parsed parsedOther leads nullAbove
      rw [valueIn, if_pos nullOther, valueIn, if_pos nullAbove, reads, reads,
        value.read_below parsed parsedOther leads]
    · next presentAbove =>
      have inside := ih areTreesAbove present
      have presentOther : ¬ (valueIn process other above).isNull = true := by simp [inside, present]
      rw [valueIn, if_neg presentOther, valueIn, if_neg presentAbove, inside]

/-- What a write does to a key where a variable is set: the key was in the overrides only before it
or only after it, as something else than the variable says. -/
def ShowsVariable (bound before after : Value) : Prop :=
  bound.isNull = false ∧
    (before.isNull = false ∧ after.isNull = true ∧ before.agrees bound = false ∨
      before.isNull = true ∧ after.isNull = false ∧ bound.agrees after = false)

end

section

variable {process : Environment} {trees : List Layer} {source : EnvironmentSource}
  {bindings : Table String} {text other : String} {key lower : Key} {rest : List String}

variable (process trees source bindings) in
/-- What a key reads as below the overrides: a variable, or else what the documents have. -/
def valueBelow (text : String) : Value :=
  valueIn process text (trees ++ [.environment source bindings])

private theorem valueBelow_eq (text : String) :
    valueBelow process trees source bindings text =
      if (Layer.boundValue (source.resolve process) bindings text).isNull then
        valueIn process text trees
      else Layer.boundValue (source.resolve process) bindings text := by
  rw [valueBelow, valueIn_append]
  rfl

/-- What is related to what a key reads as below the overrides is so at every key below it, unless
a variable shows there. -/
private theorem related_below {related : Value → Value → Prop} (placewise : Value.Placewise related)
    (areTrees : ∀ layer ∈ trees, Layer.IsTree process layer) (parsed : Key.parse text = .ok key)
    (parsedOther : Key.parse other = .ok lower) (leads : lower.segments = key.segments ++ rest)
    {value : Value} (whole : related value (valueBelow process trees source bindings text))
    (present : (value.inside rest).isNull = false)
    (unset : (Layer.boundValue (source.resolve process) bindings other).isNull = true) :
    related (value.inside rest) (valueBelow process trees source bindings other) := by
  have further := placewise.inside whole rest present
  have presentBelow : ((valueBelow process trees source bindings text).inside rest).isNull = false :=
    (placewise.isNull further).symm.trans present
  have below : valueBelow process trees source bindings other =
      (valueBelow process trees source bindings text).inside rest := by
    rw [valueBelow_eq other, if_pos unset]
    rw [valueBelow_eq text] at presentBelow ⊢
    split at presentBelow
    · next unsetText =>
      rw [if_pos unsetText]
      exact valueIn_below areTrees parsed parsedOther leads presentBelow
    · next setText =>
      -- Inside the value of a variable there is nothing, so both keys would be the same.
      cases rest with
      | nil =>
        rw [List.append_nil] at leads
        obtain rfl := Key.eq_of_segments leads
        rw [Key.text_eq_of_parse parsedOther parsed] at unset
        exact absurd unset setText
      | cons segment more =>
        rw [Value.inside, Value.at?_scalar (Layer.isMapping_boundValue _)] at presentBelow
        cases presentBelow
  rwa [below]

private theorem related_under {related : Value → Value → Prop} (placewise : Value.Placewise related)
    (areTrees : ∀ layer ∈ trees, Layer.IsTree process layer) (parsed : Key.parse text = .ok key)
    (parsedOther : Key.parse other = .ok lower) (leads : lower.segments = key.segments ++ rest)
    {value top : Value}
    (whole : related value
      (if top.isNull then valueBelow process trees source bindings text else top))
    (present : (value.inside rest).isNull = false) (absent : (top.inside rest).isNull = true)
    (unset : (Layer.boundValue (source.resolve process) bindings other).isNull = true) :
    related (value.inside rest) (valueBelow process trees source bindings other) := by
  split at whole
  · exact related_below placewise areTrees parsed parsedOther leads whole present unset
  · have further := placewise.inside whole rest present
    rw [placewise.isNull further, absent] at present
    cases present

variable (process trees source bindings) in
/-- Documents, variables over them, and overrides on top. -/
def stack (entries : Table Value) : List Layer :=
  trees ++ [.environment source bindings] ++ [.overrides entries]

theorem valueIn_stack (entries : Table Value) (text : String) :
    valueIn process text (stack trees source bindings entries) =
      if ((Value.object entries).read text).isNull then
        valueBelow process trees source bindings text
      else (Value.object entries).read text :=
  valueIn_append ..

/-- If a key reads as nothing else after its overrides were rewritten, a key below it does exactly
if a variable comes to light there or is hidden. -/
theorem differs_iff_showsVariable (areTrees : ∀ layer ∈ trees, Layer.IsTree process layer)
    (parsed : Key.parse text = .ok key) (parsedOther : Key.parse other = .ok lower)
    (leads : lower.segments = key.segments ++ rest) {before after : Table Value}
    (quiet : ((Value.object before).read text).isNull = true ∧
        ((Value.object after).read text).isNull = true ∨
      (valueIn process text (stack trees source bindings before)).agrees
        (valueIn process text (stack trees source bindings after)) = true) :
    Value.Differs (valueIn process other (stack trees source bindings before))
        (valueIn process other (stack trees source bindings after)) ↔
      ShowsVariable (Layer.boundValue (source.resolve process) bindings other)
        ((Value.object before).read other) ((Value.object after).read other) := by
  have oldInside := (Value.object before).read_below parsed parsedOther leads
  have newInside := (Value.object after).read_below parsed parsedOther leads
  have present {value : Value} (inside : (value.inside rest).isNull = false) :
      ¬ value.isNull = true := by
    intro null
    rw [Value.eq_null_of_isNull null, Value.null_inside] at inside
    cases inside
  have self := Layer.agrees_boundValue (source.resolve process) bindings other
  have shown (set_ : ¬ (Layer.boundValue (source.resolve process) bindings other).isNull = true) :
      valueBelow process trees source bindings other =
        Layer.boundValue (source.resolve process) bindings other := by
    rw [valueBelow_eq, if_neg set_]
  rw [valueIn_stack, valueIn_stack] at quiet ⊢
  rw [oldInside, newInside, ShowsVariable]
  generalize (Value.object before).read text = old at *
  generalize (Value.object after).read text = new at *
  cases oldNull : (old.inside rest).isNull with
  | true =>
    cases newNull : (new.inside rest).isNull with
    | true => simp [Value.Differs]
    | false =>
      have agree := quiet.resolve_left fun both => present newNull both.2
      rw [if_neg (present newNull)] at agree
      by_cases unset : (Layer.boundValue (source.resolve process) bindings other).isNull = true
      · have further := related_under Value.placewise_agrees.flip areTrees parsed parsedOther leads
          agree newNull oldNull unset
        simp [unset, Value.Differs, further]
      · simp [unset, shown unset, Value.differs_left self]
  | false =>
    have agree := quiet.resolve_left fun both => present oldNull both.1
    rw [if_neg (present oldNull)] at agree
    cases newNull : (new.inside rest).isNull with
    | true =>
      by_cases unset : (Layer.boundValue (source.resolve process) bindings other).isNull = true
      · have further := related_under Value.placewise_agrees areTrees parsed parsedOther leads
          agree oldNull newNull unset
        simp [unset, Value.Differs, further]
      · simp [unset, shown unset, Value.differs_right self]
    | false =>
      rw [if_neg (present newNull)] at agree
      have further := Value.placewise_agrees.inside agree rest oldNull
      simp [Value.Differs, further]

def overrideAt (store : Store) (text : String) : Value :=
  (store.overrides?.map fun entries => (Value.object entries).read text).getD .null

theorem overrideAt_append (store : Store) {lower : List Layer} {entries : Table Value}
    (layers : store.layers = lower ++ [.overrides entries]) (text : String) :
    store.overrideAt text = (Value.object entries).read text := by
  rw [overrideAt, overrides?, store.overrideLayer?_append layers]
  rfl

/-- A write that succeeds puts the new overrides in place of the old ones. -/
theorem writeLayer_ok {store : Store} {target : Nat} {entries : Table Value} {value : Value}
    (ok : (store.writeLayer process target (.overrides entries) text value).outcome = .ok ()) :
    ∃ written, Layer.writeOverride entries text value = .ok written ∧
      store.writeLayer process target (.overrides entries) text value =
        ⟨store.withLayer target (.overrides written), .ok (), [value]⟩ := by
  unfold writeLayer at ok ⊢
  simp only [Layer.set] at ok ⊢
  cases wrote : Layer.writeOverride entries text value with
  | error failure =>
    rw [wrote] at ok
    cases ok
  | ok written =>
    simp only [wrote, Except.map] at ok ⊢
    cases valid : (store.withLayer target (.overrides written)).validate process with
    | ok _ => exact ⟨written, rfl, rfl⟩
    | error failure =>
      simp only [valid] at ok
      split at ok
      · cases ok
      · cases ok

/-- If a write counts as no change, nothing was or is in the overrides, or the key reads as
something equal. -/
theorem readChanged_eq_false {lower : List Layer} {before after : Layer} {rewritten : Bool}
    (removed : rewritten = false → (after.get process text).isNull = true)
    (unchanged : readChanged lower.length rewritten
      (find? process text 0 (lower ++ [before])) (find? process text 0 (lower ++ [after])) = false) :
    (before.get process text).isNull = true ∧ (after.get process text).isNull = true ∨
      (valueIn process text (lower ++ [before])).agrees
        (valueIn process text (lower ++ [after])) = true := by
  rw [← find?_value process text 0, ← find?_value process text 0]
  unfold readChanged at unchanged
  rw [find?_append_singleton, find?_append_singleton] at *
  by_cases oldNull : (before.get process text).isNull = true
  · by_cases newNull : (after.get process text).isNull = true
    · exact .inl ⟨oldNull, newNull⟩
    · right
      rw [if_pos oldNull, if_neg newNull] at *
      cases found : find? process text 0 lower with
      | none => simpa [found, Value.changed] using unchanged
      | some entry =>
        obtain ⟨index, value⟩ := entry
        have inside := (find?_spec found).2.1
        have apart : index ≠ lower.length := by omega
        simpa [found, Value.changed, apart] using unchanged
  · right
    rw [if_neg oldNull] at *
    by_cases newNull : (after.get process text).isNull = true
    · rw [if_pos newNull] at *
      cases found : find? process text 0 lower with
      | none => simpa [found, Value.changed] using unchanged
      | some entry =>
        obtain ⟨index, value⟩ := entry
        have inside := (find?_spec found).2.1
        have apart : lower.length ≠ index := by omega
        simpa [found, Value.changed, apart] using unchanged
    · rw [if_neg newNull] at *
      have put : rewritten = true := by
        by_contra kept
        exact newNull (removed (by simpa using kept))
      simpa [put, Value.changed] using unchanged

end

end Store

namespace Notice

@[simp] theorem follow_key (notice : Notice) (emission : Emission) :
    (notice.follow emission).change.key = notice.change.key := by
  unfold follow overwritten
  split
  · split
    · split
      · split
        · rfl
        · split <;> rfl
      · rfl
    · rfl
  · rfl

theorem foldl_follow_key (trail : List Emission) (notice : Notice) :
    (trail.foldl follow notice).change.key = notice.change.key := by
  induction trail generalizing notice with
  | nil => rfl
  | cons emission rest ih => rw [List.foldl_cons, ih, follow_key]

end Notice

namespace Stores

/-- Unless telling listeners ends in a failure, each of them hears of a change of the key. -/
theorem notify_ok {occasion : Occasion} {write : Writer} {notice : Notice} {stores : Stores}
    {listeners : List Listener}
    (ok : (notify occasion write notice stores listeners).2.outcome = .ok ()) :
    ∀ listener ∈ listeners, ∃ change, change.key = notice.change.key ∧
      .notified listener.id change ∈ (notify occasion write notice stores listeners).2.trail := by
  induction listeners generalizing notice stores with
  | nil => simp
  | cons first rest ih =>
    rw [notify] at ok ⊢
    dsimp only at ok ⊢
    generalize perform occasion write first stores (first.react notice.change) = told at ok ⊢
    have follow := Notice.foldl_follow_key told.2.trail notice
    intro listener member
    rcases List.mem_cons.mp member with rfl | later
    · refine ⟨notice.change, rfl, ?_⟩
      split
      · simp [Traced.after]
      · split
        · simp
        · simp [Traced.after]
    · split at ok
      · obtain ⟨change, same, heard⟩ := ih ok listener later
        exact ⟨change, same.trans follow, by simp [Traced.after, heard]⟩
      · split at ok
        · cases ok
        · obtain ⟨change, same, heard⟩ := ih ok listener later
          exact ⟨change, same.trans follow, by simp [Traced.after, heard]⟩

section

variable (occasion : Occasion) (write : Writer) (stores : Stores) (place : Nat) (store : Store)
  (target : Nat) (entries : Table Value) (text : String) (value : Value) (actor : String)

/-- All that a write to overrides can come to: it fails, and what was put is taken back; or its
value stays, the key reads as something else, and listeners are told; or it stays and nobody is
told. -/
inductive WriteResult : Stores × Traced Unit → Prop where
  | refused {failure : Failure}
      (failed : (store.writeLayer occasion.environment target (.overrides entries) text
        value).outcome = .error failure) :
      WriteResult (stores.set place (store.writeLayer occasion.environment target
          (.overrides entries) text value).store,
        ⟨.error failure, (store.writeLayer occasion.environment target (.overrides entries) text
          value).values.map (Emission.written place text)⟩)
  | announced {written : Table Value} {notice : Notice}
      (wrote : Layer.writeOverride entries text value = .ok written)
      (put : store.writeLayer occasion.environment target (.overrides entries) text value =
        ⟨store.withLayer target (.overrides written), .ok (), [value]⟩)
      (change : notice.change = ⟨text, store.get occasion.environment text,
        (store.withLayer target (.overrides written)).get occasion.environment text, store.space,
        actor⟩)
      (changed : Store.readChanged target (!value.isNull)
        (Store.find? occasion.environment text 0 store.layers)
        (Store.find? occasion.environment text 0
          (store.withLayer target (.overrides written)).layers) = true) :
      WriteResult ((notify occasion write notice
          (stores.set place (store.withLayer target (.overrides written))) store.listeners).1,
        Traced.after [.written place text value] (notify occasion write notice
          (stores.set place (store.withLayer target (.overrides written))) store.listeners).2)
  | unannounced {written : Table Value}
      (wrote : Layer.writeOverride entries text value = .ok written)
      (put : store.writeLayer occasion.environment target (.overrides entries) text value =
        ⟨store.withLayer target (.overrides written), .ok (), [value]⟩)
      (unchanged : Store.readChanged target (!value.isNull)
        (Store.find? occasion.environment text 0 store.layers)
        (Store.find? occasion.environment text 0
          (store.withLayer target (.overrides written)).layers) = false) :
      WriteResult (stores.set place (store.withLayer target (.overrides written)),
        ⟨.ok (), [.written place text value]⟩)

end

section

variable (occasion : Occasion) {stores : Stores} {place : Nat} {store : Store} {target : Nat}
  {entries : Table Value}

theorem result_writeNested (here : stores[place]? = some store)
    (top : store.overrideLayer? = some (target, .overrides entries)) (depth : Nat) (text : String)
    (value : Value) (actor : String) :
    WriteResult occasion (writeNested occasion depth) stores place store target entries text value
      actor (writeNested occasion (depth + 1) stores place text value actor) := by
  rw [writeNested]
  simp only [here, top, writeOverrides]
  cases outcome : (store.writeLayer occasion.environment target (.overrides entries) text
      value).outcome with
  | error failure => exact .refused outcome
  | ok _ =>
    obtain ⟨written, wrote, put⟩ := Store.writeLayer_ok outcome
    rw [put]
    dsimp only
    split
    · next changed => exact .announced wrote put rfl changed
    · next unchanged => exact .unannounced wrote put (by simpa using unchanged)

theorem result_write (here : stores[place]? = some store)
    (top : store.overrideLayer? = some (target, .overrides entries)) (text : String) (value : Value)
    (actor : String) :
    WriteResult occasion (writeNested occasion occasion.depth) stores place store target entries
      text value actor (write occasion stores place text value actor) :=
  result_writeNested occasion here top occasion.depth text value actor

end

/-- A write that succeeds puts its value in the overrides. If the key reads as something else then,
listeners are told, and otherwise nothing else comes of it. -/
theorem write_cases {occasion : Occasion} {stores : Stores} {place : Nat} {store : Store}
    {target : Nat} {entries : Table Value} (here : stores[place]? = some store)
    (top : store.overrideLayer? = some (target, .overrides entries)) {text : String} {value : Value}
    {actor : String} (ok : (write occasion stores place text value actor).2.outcome = .ok ()) :
    ∃ written, Layer.writeOverride entries text value = .ok written ∧
      ((∃ depth notice last told, notice.change.key = text ∧
          notify occasion (writeNested occasion depth) notice
            (stores.set place (store.withLayer target (.overrides written))) store.listeners =
              (last, told) ∧
          write occasion stores place text value actor =
            (last, Traced.after [.written place text value] told)) ∨
        Store.readChanged target (!value.isNull)
            (Store.find? occasion.environment text 0 store.layers)
            (Store.find? occasion.environment text 0
              (store.withLayer target (.overrides written)).layers) = false ∧
          write occasion stores place text value actor =
            (stores.set place (store.withLayer target (.overrides written)),
              ⟨.ok (), [.written place text value]⟩)) := by
  have result := result_write occasion here top text value actor
  generalize write occasion stores place text value actor = came at ok result ⊢
  cases result with
  | refused failed => cases ok
  | @announced written notice wrote put change changed =>
    exact ⟨written, wrote, .inl ⟨_, notice, _, _, by rw [change], rfl, rfl⟩⟩
  | unannounced wrote put unchanged => exact ⟨_, wrote, .inr ⟨unchanged, rfl⟩⟩

/-- A write that succeeds is announced to all listeners, or to none of them. In the second case a
key at or below the one written reads as something else than before exactly if a variable comes to
light there or is hidden. -/
theorem write_announces {process : Environment} {trees : List Layer} {source : EnvironmentSource}
    {bindings : Table String} (areTrees : ∀ layer ∈ trees, Layer.IsTree process layer)
    {stores : Stores} {place : Nat} {store : Store} {entries : Table Value}
    (here : stores[place]? = some store)
    (layers : store.layers = Store.stack trees source bindings entries)
    {occasion : Occasion} (surrounded : occasion.environment = process) {text : String} {value : Value} {actor : String}
    (ok : (write occasion stores place text value actor).2.outcome = .ok ()) :
    (∀ listener ∈ store.listeners, ∃ change, change.key = text ∧
        .notified listener.id change ∈ (write occasion stores place text value actor).2.trail) ∨
      (∀ listener change,
        .notified listener change ∉ (write occasion stores place text value actor).2.trail) ∧
      ∃ after, (write occasion stores place text value actor).1[place]? = some after ∧
        ∀ other, other = text ∨ (∃ rest, other = text ++ "." ++ rest) →
          (∃ key, Key.parse other = .ok key) →
          (Value.Differs (store.get process other) (after.get process other) ↔
            Store.ShowsVariable (Layer.boundValue (source.resolve process) bindings other)
              (store.overrideAt other) (after.overrideAt other)) := by
  subst surrounded
  obtain ⟨written, wrote, ⟨depth, notice, last, told, key, notified, put⟩ | ⟨unchanged, put⟩⟩ :=
    write_cases here (store.overrideLayer?_append layers) ok
  · left
    rw [put] at ok ⊢
    have notifyOk : (notify occasion (writeNested occasion depth) notice
        (stores.set place (store.withLayer
          (trees ++ [Layer.environment source bindings]).length (.overrides written)))
        store.listeners).2.outcome = .ok () := notified ▸ ok
    intro listener member
    obtain ⟨change, same, heard⟩ := notify_ok notifyOk listener member
    rw [notified] at heard
    exact ⟨change, same.trans key, List.mem_append_right _ heard⟩
  · right
    obtain ⟨key, parsed⟩ := Layer.exists_key_of_writeOverride wrote
    have layersAfter : (store.withLayer (trees ++ [Layer.environment source bindings]).length
        (.overrides written)).layers = Store.stack trees source bindings written :=
      Store.layers_withLayer_append layers _
    have inside : place < stores.length := (List.getElem?_eq_some_iff.mp here).1
    refine ⟨by simp [put], _, by rw [put]; exact List.getElem?_set_self inside, ?_⟩
    rintro other below ⟨lower, parsedOther⟩
    have leads : ∃ rest, lower.segments = key.segments ++ rest := by
      rcases below with rfl | ⟨rest, rfl⟩
      · obtain rfl := Except.ok.inj (parsed.symm.trans parsedOther)
        exact ⟨[], by simp⟩
      · exact ⟨_, Key.segments_append parsed parsedOther⟩
    obtain ⟨rest, leads⟩ := leads
    rw [Store.get_eq_valueIn, Store.get_eq_valueIn, Store.overrideAt_append _ layers,
      Store.overrideAt_append _ layersAfter, layersAfter, layers]
    by_cases same : written = entries
    · -- Below a read-only mapping a removal does nothing.
      subst same
      refine iff_of_false (Value.not_differs_self _) fun ⟨_, shows⟩ => ?_
      rcases shows with ⟨present, null, -⟩ | ⟨null, present, -⟩ <;> simp [present] at null
    · have quiet : ((Value.object entries).read text).isNull = true ∧
            ((Value.object written).read text).isNull = true ∨
          (Store.valueIn occasion.environment text (Store.stack trees source bindings entries)).agrees
            (Store.valueIn occasion.environment text (Store.stack trees source bindings written)) =
              true := by
        rw [layersAfter, layers] at unchanged
        refine Store.readChanged_eq_false (fun removed => ?_) unchanged
        have null : value.isNull = true := by simpa using removed
        rw [Layer.writeOverride_null null] at wrote
        have gone := (Layer.get?_discard parsed wrote).resolve_right fun stuck => same stuck.1
        show ((Value.object written).read text).isNull = true
        rw [Value.read_eq _ parsed, gone]
        rfl
      exact Store.differs_iff_showsVariable areTrees parsed parsedOther leads quiet

end Stores

end StorageLayout
