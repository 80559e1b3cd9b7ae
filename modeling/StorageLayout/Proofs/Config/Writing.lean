import StorageLayout.Proofs.Config.Places

namespace StorageLayout.Value

/-- Where a write goes on below a segment: in the entry there, or in a new mapping. -/
def childOrNew (value : Value) (segment : String) : Value :=
  (value.child? segment).getD (object [])

theorem childOrNew_of_some {value child : Value} {segment : String}
    (found : value.child? segment = some child) : value.childOrNew segment = child := by
  simp [childOrNew, found]

theorem childOrNew_of_none {value : Value} {segment : String}
    (absent : value.child? segment = none) : value.childOrNew segment = object [] := by
  simp [childOrNew, absent]

@[simp] theorem at?_new (segment : String) (rest : List String) :
    (object []).at? (segment :: rest) = none := by
  simp [at?_cons, child?]

theorem setAt_nil_eq_ok {value new written : Value} {segment : String} {create : Bool} :
    value.setAt segment [] new create = .ok written ↔
      value.isWritable = true ∧ written = value.withEntry segment new := by
  unfold setAt
  by_cases writable : value.isWritable = true <;> simp [writable, eq_comm]

theorem setAt_cons_eq_ok {value new written : Value} {segment next : String}
    {later : List String} {create : Bool} :
    value.setAt segment (next :: later) new create = .ok written ↔
      value.isMapping = true ∧
      (value.child? segment = none → create = true ∧ value.isWritable = true) ∧
      ∃ inner, (value.childOrNew segment).setAt next later new create = .ok inner ∧
        written = value.withEntry segment inner := by
  have map_eq_ok (outcome : Except WriteProblem Value) :
      outcome.map (value.withEntry segment) = .ok written ↔
        ∃ inner, outcome = .ok inner ∧ written = value.withEntry segment inner := by
    cases outcome <;> simp [Except.map, eq_comm]
  rw [setAt]
  by_cases isMapping : value.isMapping = true
  · cases found : value.child? segment with
    | some child => simp [isMapping, childOrNew, found, map_eq_ok]
    | none =>
      by_cases allowed : (create && value.isWritable) = true
      · have both := Bool.and_eq_true_iff.mp allowed
        simp [isMapping, childOrNew, found, both.1, both.2, map_eq_ok]
      · have refused : ¬(create = true ∧ value.isWritable = true) := by simpa using allowed
        simp [isMapping, allowed, refused]
  · simp [isMapping]

theorem deleteAt_nil_eq_some {value left : Value} {segment : String} {prune : Bool} :
    value.deleteAt segment [] prune = some left ↔
      value.isWritable = true ∧ (value.child? segment).isSome ∧
        left = value.withoutEntry segment := by
  unfold deleteAt
  by_cases writable : value.isWritable = true
  · cases found : value.child? segment <;> simp [writable, eq_comm]
  · simp [writable]

theorem deleteAt_cons (value : Value) (segment next : String) (later : List String)
    (prune : Bool) :
    value.deleteAt segment (next :: later) prune =
      if value.isWritable then
        (value.child? segment).bind fun child =>
          (child.deleteAt next later prune).map fun inner =>
            if prune && inner.isHollow then value.withoutEntry segment
            else value.withEntry segment inner
      else none := by
  conv => lhs; unfold deleteAt
  cases value.child? segment with
  | none => rfl
  | some child => cases removed : child.deleteAt next later prune <;> simp [removed]

theorem deleteAt_cons_eq_some {value left : Value} {segment next : String} {later : List String}
    {prune : Bool} :
    value.deleteAt segment (next :: later) prune = some left ↔
      value.isWritable = true ∧
      ∃ child inner, value.child? segment = some child ∧
        child.deleteAt next later prune = some inner ∧
        left = if prune && inner.isHollow then value.withoutEntry segment
          else value.withEntry segment inner := by
  rw [deleteAt_cons]
  by_cases writable : value.isWritable = true
  · rw [if_pos writable]
    constructor
    · intro removed
      obtain ⟨child, found, mapped⟩ := Option.bind_eq_some_iff.mp removed
      obtain ⟨inner, removedInner, same⟩ := Option.map_eq_some_iff.mp mapped
      exact ⟨writable, child, inner, found, removedInner, same.symm⟩
    · rintro ⟨-, child, inner, found, removedInner, rfl⟩
      simp [found, removedInner]
  · simp [writable]

theorem at?_setAt_same {value new written : Value} {segment : String} {rest : List String}
    {create : Bool} (wrote : value.setAt segment rest new create = .ok written) :
    written.at? (segment :: rest) = some new := by
  induction rest generalizing value segment written with
  | nil =>
    obtain ⟨writable, rfl⟩ := setAt_nil_eq_ok.mp wrote
    simpa using child?_withEntry_same (isMapping_of_isWritable writable) segment new
  | cons next later ih =>
    obtain ⟨isMapping, -, inner, wroteInner, rfl⟩ := setAt_cons_eq_ok.mp wrote
    rw [at?_cons, child?_withEntry_same isMapping]
    exact ih wroteInner

/-- Above the place of a write there are only mappings afterwards. -/
theorem at?_setAt_above {value new written : Value} {segment : String} {rest place : List String}
    {create : Bool} (wrote : value.setAt segment rest new create = .ok written)
    (above : place <+: segment :: rest) (proper : place ≠ segment :: rest) :
    ∃ child, written.at? place = some child ∧ child.isMapping = true := by
  induction rest generalizing value segment written place with
  | nil =>
    obtain ⟨writable, rfl⟩ := setAt_nil_eq_ok.mp wrote
    cases place with
    | nil => exact ⟨_, at?_nil _, by simpa using isMapping_of_isWritable writable⟩
    | cons name more => simp_all
  | cons next later ih =>
    obtain ⟨isMapping, -, inner, wroteInner, rfl⟩ := setAt_cons_eq_ok.mp wrote
    cases place with
    | nil => exact ⟨_, at?_nil _, by simpa using isMapping⟩
    | cons name more =>
      obtain ⟨rfl, aboveRest⟩ := List.cons_prefix_cons.mp above
      rw [at?_cons, child?_withEntry_same isMapping]
      exact ih wroteInner aboveRest fun same => proper (by rw [same])

theorem at?_setAt_below {value new written : Value} {segment : String} {rest : List String}
    {create : Bool} (wrote : value.setAt segment rest new create = .ok written)
    (place : List String) : written.at? (segment :: rest ++ place) = new.at? place := by
  rw [at?_append, at?_setAt_same wrote]
  rfl

theorem at?_deleteAt_same {value left : Value} {segment : String} {rest : List String}
    {prune : Bool} (removed : value.deleteAt segment rest prune = some left) :
    left.at? (segment :: rest) = none := by
  induction rest generalizing value segment left with
  | nil =>
    obtain ⟨-, -, rfl⟩ := deleteAt_nil_eq_some.mp removed
    simp
  | cons next later ih =>
    obtain ⟨writable, child, inner, found, removedInner, rfl⟩ := deleteAt_cons_eq_some.mp removed
    rw [at?_cons]
    split
    · simp
    · rw [child?_withEntry_same (isMapping_of_isWritable writable)]
      exact ih removedInner

/-- Writing what was there before over another value gives the document back. -/
theorem setAt_setAt {value old new written : Value} {segment : String} {rest : List String}
    {create : Bool} (wrote : value.setAt segment rest new create = .ok written)
    (held : value.at? (segment :: rest) = some old) :
    written.setAt segment rest old true = .ok value := by
  induction rest generalizing value segment written with
  | nil =>
    obtain ⟨writable, rfl⟩ := setAt_nil_eq_ok.mp wrote
    rw [at?_singleton] at held
    apply setAt_nil_eq_ok.mpr
    refine ⟨by simpa using writable, ?_⟩
    rw [withEntry_withEntry, withEntry_eq_self held]
  | cons next later ih =>
    obtain ⟨isMapping, -, inner, wroteInner, rfl⟩ := setAt_cons_eq_ok.mp wrote
    rw [at?_cons] at held
    obtain ⟨child, found, heldInner⟩ := Option.bind_eq_some_iff.mp held
    rw [childOrNew_of_some found] at wroteInner
    have rewritten := child?_withEntry_same isMapping segment inner
    apply setAt_cons_eq_ok.mpr
    refine ⟨by simpa using isMapping, ?_, child, ?_, ?_⟩
    · simp [rewritten]
    · simpa [childOrNew, rewritten] using ih wroteInner heldInner
    · rw [withEntry_withEntry, withEntry_eq_self found]

theorem setAt_held {value old written : Value} {segment : String} {rest : List String}
    {create : Bool} (wrote : value.setAt segment rest old create = .ok written)
    (held : value.at? (segment :: rest) = some old) : written = value := by
  induction rest generalizing value segment written with
  | nil =>
    obtain ⟨-, rfl⟩ := setAt_nil_eq_ok.mp wrote
    rw [at?_singleton] at held
    exact withEntry_eq_self held
  | cons next later ih =>
    obtain ⟨-, -, inner, wroteInner, rfl⟩ := setAt_cons_eq_ok.mp wrote
    rw [at?_cons] at held
    obtain ⟨child, found, heldInner⟩ := Option.bind_eq_some_iff.mp held
    rw [childOrNew_of_some found] at wroteInner
    rw [ih wroteInner heldInner, withEntry_eq_self found]

private theorem alike_entry {value restored : Value} {segment : String} {child inner : Value}
    (outlines : restored.outline = value.outline) (found : value.child? segment = some child)
    (rewritten : restored.child? segment = some inner) (alike : Alike inner child)
    (others : ∀ name, segment ≠ name → restored.child? name = value.child? name) :
    Alike restored value := by
  apply alike_of_entries outlines
  intro name
  by_cases same : segment = name
  · subst same
    rw [found, rewritten]
    exact .some alike
  · rw [others name same]
    cases value.child? name with
    | none => exact .none
    | some other => exact .some (.refl other)

/-- What was deleted can be written again. Only the order of entries tells the difference. -/
theorem setAt_deleteAt {value old left : Value} {segment : String} {rest : List String}
    {prune : Bool} (removed : value.deleteAt segment rest prune = some left)
    (held : value.at? (segment :: rest) = some old) :
    ∃ restored, left.setAt segment rest old true = .ok restored ∧ restored.Alike value := by
  induction rest generalizing value segment left with
  | nil =>
    obtain ⟨writable, -, rfl⟩ := deleteAt_nil_eq_some.mp removed
    rw [at?_singleton] at held
    have writableLeft : (value.withoutEntry segment).isWritable = true := by simpa using writable
    refine ⟨_, setAt_nil_eq_ok.mpr ⟨writableLeft, rfl⟩, ?_⟩
    refine alike_entry ?_ held (child?_withEntry_same (isMapping_of_isWritable writableLeft) ..)
      (.refl old) fun name other => ?_
    · rw [outline_withEntry, outline_withoutEntry]
    · rw [child?_withEntry_other _ _ other, child?_withoutEntry_other _ other]
  | cons next later ih =>
    obtain ⟨writable, child, inner, found, removedInner, rfl⟩ := deleteAt_cons_eq_some.mp removed
    rw [at?_cons, found] at held
    obtain ⟨restored, wrote, alike⟩ := ih removedInner held
    by_cases pruned : (prune && inner.isHollow) = true
    · have hollow := isHollow_iff.mp (Bool.and_eq_true_iff.mp pruned).2
      subst hollow
      rw [if_pos pruned]
      have writableLeft : (value.withoutEntry segment).isWritable = true := by
        simpa using writable
      refine ⟨(value.withoutEntry segment).withEntry segment restored, ?_, ?_⟩
      · refine setAt_cons_eq_ok.mpr
          ⟨isMapping_of_isWritable writableLeft, fun _ => ⟨rfl, writableLeft⟩, restored, ?_, rfl⟩
        simpa [childOrNew] using wrote
      · refine alike_entry ?_ found
          (child?_withEntry_same (isMapping_of_isWritable writableLeft) ..) alike
          fun name other => ?_
        · rw [outline_withEntry, outline_withoutEntry]
        · rw [child?_withEntry_other _ _ other, child?_withoutEntry_other _ other]
    · rw [if_neg pruned]
      have isMapping := isMapping_of_isWritable writable
      have rewritten := child?_withEntry_same isMapping segment inner
      refine ⟨value.withEntry segment restored, ?_, ?_⟩
      · apply setAt_cons_eq_ok.mpr
        refine ⟨by simpa using isMapping, by simp [rewritten], restored, ?_, ?_⟩
        · simpa [childOrNew, rewritten] using wrote
        · rw [withEntry_withEntry]
      · exact alike_entry (outline_withEntry ..) found (child?_withEntry_same isMapping ..) alike
          fun name other => child?_withEntry_other _ _ other

/-! ### Kinds of mappings in a value -/

section

variable {admitted : Access → Bool}

theorem allMappings_of_mem {entries : Table Value} (all : allMappingsUnder admitted entries = true)
    {entry : String × Value} (member : entry ∈ entries) :
    entry.2.allMappings admitted = true := by
  induction entries with
  | nil => simp at member
  | cons head rest ih =>
    simp only [allMappingsUnder, Bool.and_eq_true] at all
    rcases List.mem_cons.mp member with rfl | later
    · exact all.1
    · exact ih all.2 later

theorem allMappingsUnder_of_forall {entries : Table Value}
    (each : ∀ entry ∈ entries, entry.2.allMappings admitted = true) :
    allMappingsUnder admitted entries = true := by
  induction entries with
  | nil => rfl
  | cons head rest ih =>
    simp only [allMappingsUnder, Bool.and_eq_true]
    exact ⟨each head (by simp), ih fun entry member => each entry (by simp [member])⟩

theorem allMappings_child? {value child : Value} {segment : String}
    (all : value.allMappings admitted = true) (found : value.child? segment = some child) :
    child.allMappings admitted = true := by
  cases value with
  | mapping access entries =>
    simp only [allMappings, Bool.and_eq_true] at all
    exact allMappings_of_mem all.2 (Table.mem_of_get? found)
  | _ => simp [child?] at found

theorem allMappings_at? {value child : Value} {place : List String}
    (all : value.allMappings admitted = true) (found : value.at? place = some child) :
    child.allMappings admitted = true := by
  induction place generalizing value with
  | nil => simp_all
  | cons segment rest ih =>
    rw [at?_cons] at found
    obtain ⟨inner, entered, further⟩ := Option.bind_eq_some_iff.mp found
    exact ih (allMappings_child? all entered) further

theorem allMappings_withEntry {value child : Value} (segment : String)
    (all : value.allMappings admitted = true) (allChild : child.allMappings admitted = true) :
    (value.withEntry segment child).allMappings admitted = true := by
  cases value with
  | mapping access entries =>
    simp only [allMappings, Bool.and_eq_true] at all
    simp only [withEntry, allMappings, Bool.and_eq_true]
    refine ⟨all.1, allMappingsUnder_of_forall fun entry member => ?_⟩
    rcases Table.mem_set member with rfl | old
    · exact allChild
    · exact allMappings_of_mem all.2 old
  | _ => exact all

theorem allMappings_withoutEntry {value : Value} (segment : String)
    (all : value.allMappings admitted = true) :
    (value.withoutEntry segment).allMappings admitted = true := by
  cases value with
  | mapping access entries =>
    simp only [allMappings, Bool.and_eq_true] at all
    simp only [withoutEntry, allMappings, Bool.and_eq_true]
    refine ⟨all.1, allMappingsUnder_of_forall fun entry member => ?_⟩
    exact allMappings_of_mem all.2 (List.mem_filter.mp member).1
  | _ => exact all

/-- A write creates only mappings that can be written. -/
theorem allMappings_setAt (creatable : admitted .writable = true) {value new written : Value}
    {segment : String} {rest : List String} {create : Bool}
    (all : value.allMappings admitted = true) (allNew : new.allMappings admitted = true)
    (wrote : value.setAt segment rest new create = .ok written) :
    written.allMappings admitted = true := by
  induction rest generalizing value segment written with
  | nil =>
    obtain ⟨-, rfl⟩ := setAt_nil_eq_ok.mp wrote
    exact allMappings_withEntry segment all allNew
  | cons next later ih =>
    obtain ⟨-, -, inner, wroteInner, rfl⟩ := setAt_cons_eq_ok.mp wrote
    refine allMappings_withEntry segment all (ih ?_ wroteInner)
    unfold childOrNew
    cases found : value.child? segment with
    | none => simp [allMappings, allMappingsUnder, creatable]
    | some child => exact allMappings_child? all found

theorem allMappings_deleteAt {value left : Value} {segment : String} {rest : List String}
    {prune : Bool} (all : value.allMappings admitted = true)
    (removed : value.deleteAt segment rest prune = some left) :
    left.allMappings admitted = true := by
  induction rest generalizing value segment left with
  | nil =>
    obtain ⟨-, -, rfl⟩ := deleteAt_nil_eq_some.mp removed
    exact allMappings_withoutEntry segment all
  | cons next later ih =>
    obtain ⟨-, child, inner, found, removedInner, rfl⟩ := deleteAt_cons_eq_some.mp removed
    split
    · exact allMappings_withoutEntry segment all
    · exact allMappings_withEntry segment all (ih (allMappings_child? all found) removedInner)

end

theorem isWritable_of_isOpen {value : Value} (open_ : value.isOpen = true)
    (isMapping : value.isMapping = true) : value.isWritable = true := by
  cases value <;> simp_all [isOpen, allMappings, Value.isMapping, entries?, isWritable]

/-! ### Places to which writable mappings lead -/

/-- Whether whatever stands above a place is a mapping that can be written. -/
def IsOpenTo (value : Value) (place : List String) : Prop :=
  ∀ above holder, above <+: place → above ≠ place → value.at? above = some holder →
    holder.isWritable = true

theorem isOpenTo_nil (value : Value) : value.IsOpenTo [] := by
  intro above holder leads proper
  exact absurd (List.prefix_nil.mp leads) proper

theorem isOpenTo_cons {value : Value} {segment : String} {rest : List String} :
    value.IsOpenTo (segment :: rest) ↔
      value.isWritable = true ∧
        ∀ child, value.child? segment = some child → child.IsOpenTo rest := by
  constructor
  · intro open_
    refine ⟨open_ [] value List.nil_prefix (by simp) (at?_nil value), ?_⟩
    intro child found above holder leads proper reached
    refine open_ (segment :: above) holder (by simpa using leads) (by simpa using proper) ?_
    rw [at?_cons, found]
    exact reached
  · rintro ⟨writable, inner⟩ above holder leads proper reached
    cases above with
    | nil =>
      obtain rfl := at?_nil_eq_some.mp reached
      exact writable
    | cons name more =>
      obtain ⟨rfl, leadsOn⟩ := List.cons_prefix_cons.mp leads
      rw [at?_cons] at reached
      obtain ⟨child, found, further⟩ := Option.bind_eq_some_iff.mp reached
      exact inner child found more holder leadsOn (by simpa using proper) further

theorem isOpenTo_new (place : List String) : (object []).IsOpenTo place := by
  cases place with
  | nil => exact isOpenTo_nil _
  | cons segment rest => exact isOpenTo_cons.mpr ⟨rfl, fun child found => by cases found⟩

theorem isOpenTo_setAt {value new written : Value} {segment : String} {rest : List String}
    {create : Bool} (wrote : value.setAt segment rest new create = .ok written) :
    written.IsOpenTo (segment :: rest) ↔ value.IsOpenTo (segment :: rest) := by
  induction rest generalizing value segment written with
  | nil =>
    obtain ⟨writable, rfl⟩ := setAt_nil_eq_ok.mp wrote
    simp [isOpenTo_cons, isOpenTo_nil, writable]
  | cons next later ih =>
    obtain ⟨isMapping, -, inner, wroteInner, rfl⟩ := setAt_cons_eq_ok.mp wrote
    have rewritten := child?_withEntry_same isMapping segment inner
    have below := ih wroteInner
    rw [isOpenTo_cons, rewritten]
    refine Iff.trans ?_ isOpenTo_cons.symm
    cases found : value.child? segment with
    | none =>
      rw [childOrNew_of_none found] at below
      simp [below, isOpenTo_new]
    | some child =>
      rw [childOrNew_of_some found] at below
      simp [below]

theorem isOpenTo_deleteAt {value left : Value} {segment : String} {rest : List String}
    {prune : Bool} (removed : value.deleteAt segment rest prune = some left)
    (open_ : value.IsOpenTo (segment :: rest)) : left.IsOpenTo (segment :: rest) := by
  induction rest generalizing value segment left with
  | nil =>
    obtain ⟨writable, -, rfl⟩ := deleteAt_nil_eq_some.mp removed
    simp [isOpenTo_cons, isOpenTo_nil, writable]
  | cons next later ih =>
    obtain ⟨writable, child, inner, found, removedInner, rfl⟩ := deleteAt_cons_eq_some.mp removed
    have openInner := ih removedInner ((isOpenTo_cons.mp open_).2 child found)
    split
    · simp [isOpenTo_cons, writable]
    · rw [isOpenTo_cons, child?_withEntry_same (isMapping_of_isWritable writable)]
      simp [writable, openInner]

theorem isOpenTo_of_isOpen {value : Value} {place : List String} (open_ : value.isOpen = true)
    (mappings : ∀ above holder, above <+: place → above ≠ place →
      value.at? above = some holder → holder.isMapping = true) : value.IsOpenTo place := by
  intro above holder leads proper found
  exact isWritable_of_isOpen (allMappings_at? open_ found)
    (mappings above holder leads proper found)

/-- There were only mappings above the place of a write. -/
theorem isMapping_above_of_setAt {value new written holder : Value} {segment : String}
    {rest above : List String} {create : Bool}
    (wrote : value.setAt segment rest new create = .ok written) (leads : above <+: segment :: rest)
    (proper : above ≠ segment :: rest) (found : value.at? above = some holder) :
    holder.isMapping = true := by
  induction rest generalizing value segment written above with
  | nil =>
    obtain ⟨writable, -⟩ := setAt_nil_eq_ok.mp wrote
    obtain rfl : above = [] := by
      cases above with
      | nil => rfl
      | cons name more => simp_all
    obtain rfl := at?_nil_eq_some.mp found
    exact isMapping_of_isWritable writable
  | cons next later ih =>
    obtain ⟨isMapping, -, inner, wroteInner, -⟩ := setAt_cons_eq_ok.mp wrote
    cases above with
    | nil =>
      obtain rfl := at?_nil_eq_some.mp found
      exact isMapping
    | cons name more =>
      obtain ⟨rfl, leadsOn⟩ := List.cons_prefix_cons.mp leads
      rw [at?_cons] at found
      obtain ⟨child, entered, further⟩ := Option.bind_eq_some_iff.mp found
      rw [childOrNew_of_some entered] at wroteInner
      exact ih wroteInner leadsOn (by simpa using proper) further

theorem exists_setAt {value : Value} {segment : String} {rest : List String} (new : Value)
    (open_ : value.IsOpenTo (segment :: rest)) :
    ∃ written, value.setAt segment rest new true = .ok written := by
  induction rest generalizing value segment with
  | nil => exact ⟨_, setAt_nil_eq_ok.mpr ⟨(isOpenTo_cons.mp open_).1, rfl⟩⟩
  | cons next later ih =>
    obtain ⟨writable, inner⟩ := isOpenTo_cons.mp open_
    have openInner : (value.childOrNew segment).IsOpenTo (next :: later) := by
      cases found : value.child? segment with
      | none =>
        rw [childOrNew_of_none found]
        exact isOpenTo_new _
      | some child =>
        rw [childOrNew_of_some found]
        exact inner child found
    obtain ⟨written, wrote⟩ := ih openInner
    exact ⟨_, setAt_cons_eq_ok.mpr
      ⟨isMapping_of_isWritable writable, fun _ => ⟨rfl, writable⟩, written, wrote, rfl⟩⟩

/-- What is there can be deleted if only writable mappings are on the way, and nothing else can. -/
theorem deleteAt_isSome_iff {value : Value} {segment : String} {rest : List String}
    {prune : Bool} :
    (value.deleteAt segment rest prune).isSome ↔
      (value.at? (segment :: rest)).isSome ∧ value.IsOpenTo (segment :: rest) := by
  induction rest generalizing value segment with
  | nil =>
    rw [at?_singleton, isOpenTo_cons, Option.isSome_iff_exists]
    simp only [deleteAt_nil_eq_some]
    constructor
    · rintro ⟨left, writable, held, -⟩
      exact ⟨held, writable, fun child _ => isOpenTo_nil child⟩
    · rintro ⟨held, writable, -⟩
      exact ⟨_, writable, held, rfl⟩
  | cons next later ih =>
    rw [at?_cons, isOpenTo_cons, Option.isSome_iff_exists]
    simp only [deleteAt_cons_eq_some]
    constructor
    · rintro ⟨left, writable, child, inner, found, removed, -⟩
      obtain ⟨held, openInner⟩ := ih.mp (Option.isSome_of_eq_some removed)
      rw [found, Option.bind_some]
      refine ⟨held, writable, fun other foundOther => ?_⟩
      obtain rfl := Option.some.inj foundOther
      exact openInner
    · rintro ⟨held, writable, inner⟩
      obtain ⟨target, reached⟩ := Option.isSome_iff_exists.mp held
      obtain ⟨child, found, further⟩ := Option.bind_eq_some_iff.mp reached
      have removable := ih.mpr ⟨Option.isSome_of_eq_some further, inner child found⟩
      obtain ⟨left, removed⟩ := Option.isSome_iff_exists.mp removable
      exact ⟨_, writable, child, left, found, removed, rfl⟩

theorem delete?_isSome_iff (value : Value) (key : Key) (prune : Bool) :
    (value.delete? key prune).isSome ↔ (value.get? key).isSome ∧ value.IsOpenTo key.segments :=
  deleteAt_isSome_iff

/-! ### Deleting what a write created -/

/-- Whether an empty mapping stands on the way to a place or at it, the outermost one apart. -/
def HollowOnWay (value : Value) (place : List String) : Prop :=
  ∃ above, above ≠ [] ∧ above <+: place ∧ value.at? above = some (object [])

theorem not_hollowOnWay_new (place : List String) : ¬ (object []).HollowOnWay place := by
  rintro ⟨above, nonempty, -, found⟩
  cases above with
  | nil => exact nonempty rfl
  | cons segment rest => simp at found

theorem HollowOnWay.of_entry {value child : Value} {segment : String} {place : List String}
    (found : value.child? segment = some child) (hollow : child.HollowOnWay place) :
    value.HollowOnWay (segment :: place) := by
  obtain ⟨above, -, leads, empty⟩ := hollow
  exact ⟨segment :: above, by simp, by simpa using leads, by simpa [at?_cons, found] using empty⟩

/-- Deleting what a creating write put somewhere gives the document back, if only writable mappings
were on the way and none of them was empty. -/
theorem deleteAt_setAt {value new written : Value} {segment : String} {rest : List String}
    (open_ : value.IsOpenTo (segment :: rest)) (absent : value.at? (segment :: rest) = none)
    (wrote : value.setAt segment rest new true = .ok written)
    (full : ¬ value.HollowOnWay (segment :: rest)) :
    written.deleteAt segment rest true = some value := by
  induction rest generalizing value segment written with
  | nil =>
    obtain ⟨writable, rfl⟩ := setAt_nil_eq_ok.mp wrote
    rw [at?_singleton] at absent
    have rewritten := child?_withEntry_same (isMapping_of_isWritable writable) segment new
    apply deleteAt_nil_eq_some.mpr
    refine ⟨by simpa using writable, by simp [rewritten], ?_⟩
    rw [withoutEntry_withEntry absent]
  | cons next later ih =>
    obtain ⟨isMapping, -, inner, wroteInner, rfl⟩ := setAt_cons_eq_ok.mp wrote
    obtain ⟨writable, openInner⟩ := isOpenTo_cons.mp open_
    have rewritten := child?_withEntry_same isMapping segment inner
    rw [at?_cons] at absent
    cases found : value.child? segment with
    | none =>
      rw [childOrNew_of_none found] at wroteInner
      have removed := ih (isOpenTo_new _) (by simp) wroteInner (not_hollowOnWay_new _)
      refine deleteAt_cons_eq_some.mpr
        ⟨by simpa using writable, inner, object [], rewritten, removed, ?_⟩
      rw [withoutEntry_withEntry found]
      rfl
    | some child =>
      rw [childOrNew_of_some found] at wroteInner
      rw [found] at absent
      have removed := ih (openInner child found) absent wroteInner
        fun hollow => full (.of_entry found hollow)
      have kept : ¬ (true && child.isHollow) = true := by
        intro hollow
        have empty := isHollow_iff.mp (Bool.and_eq_true_iff.mp hollow).2
        exact full ⟨[segment], by simp, by simp, by simp [found, empty]⟩
      refine deleteAt_cons_eq_some.mpr
        ⟨by simpa using writable, inner, child, rewritten, removed, ?_⟩
      rw [if_neg kept, withEntry_withEntry, withEntry_eq_self found]

/-- An empty mapping on the way is pruned with what a creating write put below it. -/
theorem deleteAt_setAt_of_hollow {value new written : Value} {segment : String}
    {rest above : List String} (open_ : value.IsOpenTo (segment :: rest))
    (absent : value.at? (segment :: rest) = none)
    (wrote : value.setAt segment rest new true = .ok written) (nonempty : above ≠ [])
    (leads : above <+: segment :: rest) (hollow : value.at? above = some (object [])) :
    ∃ left, written.deleteAt segment rest true = some left ∧ left.at? above = none := by
  induction rest generalizing value segment written above with
  | nil =>
    have whole : above = [segment] := by
      cases above with
      | nil => exact absurd rfl nonempty
      | cons name more => simp_all
    rw [whole, absent] at hollow
    cases hollow
  | cons next later ih =>
    obtain ⟨isMapping, -, inner, wroteInner, rfl⟩ := setAt_cons_eq_ok.mp wrote
    obtain ⟨writable, openInner⟩ := isOpenTo_cons.mp open_
    have rewritten := child?_withEntry_same isMapping segment inner
    cases above with
    | nil => exact absurd rfl nonempty
    | cons name more =>
      obtain ⟨rfl, leadsOn⟩ := List.cons_prefix_cons.mp leads
      rw [at?_cons] at hollow absent
      obtain ⟨child, found, emptyBelow⟩ := Option.bind_eq_some_iff.mp hollow
      rw [childOrNew_of_some found] at wroteInner
      rw [found] at absent
      cases more with
      | nil =>
        -- The child itself is the empty mapping, and deleting leaves it as empty as it was.
        obtain rfl := at?_nil_eq_some.mp emptyBelow
        have removed := deleteAt_setAt (isOpenTo_new _) absent wroteInner (not_hollowOnWay_new _)
        refine ⟨_, deleteAt_cons_eq_some.mpr
          ⟨by simpa using writable, inner, object [], rewritten, removed, rfl⟩, ?_⟩
        simp [isHollow]
      | cons second others =>
        obtain ⟨left, removed, gone⟩ :=
          ih (openInner child found) absent wroteInner (by simp) leadsOn emptyBelow
        refine ⟨_, deleteAt_cons_eq_some.mpr
          ⟨by simpa using writable, inner, left, rewritten, removed, rfl⟩, ?_⟩
        rw [at?_cons]
        split
        · simp
        · rw [withEntry_withEntry, child?_withEntry_same isMapping]
          exact gone

end StorageLayout.Value
