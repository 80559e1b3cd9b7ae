import StorageLayout.Proofs.Config.Edits

/-! What a removal takes away: what is at its place and, if it prunes, the mappings above that hold
nothing but the way there. Main statements: a removal takes away exactly this, and nothing at all if
a mapping on the way is read-only; and what a creating write put where nothing was goes without a
trace, unless the write went on in an empty mapping or on its way passed a read-only one. -/

namespace StorageLayout.Value

/-- Whether a value holds nothing but a way to a place, through mappings with one entry each. What
is at the place is left open. -/
inductive LeadsOnlyTo : Value → List String → Prop where
  | here (value : Value) : LeadsOnlyTo value []
  | through {holder child : Value} {segment : String} {rest : List String}
      (found : holder.child? segment = some child)
      (only : ∀ name, name ≠ segment → holder.child? name = none)
      (further : LeadsOnlyTo child rest) : LeadsOnlyTo holder (segment :: rest)

theorem leadsOnlyTo_cons {holder child : Value} {segment : String} {rest : List String}
    (found : holder.child? segment = some child) :
    holder.LeadsOnlyTo (segment :: rest) ↔
      (∀ name, name ≠ segment → holder.child? name = none) ∧ child.LeadsOnlyTo rest := by
  constructor
  · intro way
    cases way with
    | through entered only further =>
      obtain rfl := Option.some.inj (entered.symm.trans found)
      exact ⟨only, further⟩
  · rintro ⟨only, further⟩
    exact .through found only further

theorem isHollow_iff_child? {value : Value} (writable : value.isWritable = true) :
    value.isHollow = true ↔ ∀ name, value.child? name = none := by
  constructor
  · intro hollow name
    rw [isHollow_iff.mp hollow]
    rfl
  · intro nothing
    cases value with
    | mapping access entries =>
      cases entries with
      | nil => simpa [isHollow, isWritable] using writable
      | cons entry rest => simpa [child?, Table.get?] using nothing entry.1
    | _ => cases writable

/-- Without an entry a mapping is empty if it holds no other. -/
theorem isHollow_withoutEntry {value : Value} (writable : value.isWritable = true)
    (segment : String) :
    (value.withoutEntry segment).isHollow = true ↔
      ∀ name, name ≠ segment → value.child? name = none := by
  rw [isHollow_iff_child? (by simpa using writable)]
  constructor
  · intro nothing name other
    rw [← child?_withoutEntry_other value other.symm]
    exact nothing name
  · intro only name
    by_cases same : name = segment
    · rw [same, child?_withoutEntry_same]
    · rw [child?_withoutEntry_other value (Ne.symm same)]
      exact only name same

section

variable {value left : Value} {segment : String} {rest : List String}

theorem isMapping_deleteAt {prune : Bool}
    (removed : value.deleteAt segment rest prune = some left) : left.isMapping = true := by
  cases rest with
  | nil =>
    obtain ⟨writable, -, rfl⟩ := deleteAt_nil_eq_some.mp removed
    simpa using isMapping_of_isWritable writable
  | cons next later =>
    obtain ⟨writable, child, inner, -, -, rfl⟩ := deleteAt_cons_eq_some.mp removed
    split <;> simpa using isMapping_of_isWritable writable

theorem isHollow_deleteAt (removed : value.deleteAt segment rest true = some left) :
    left.isHollow = true ↔ value.LeadsOnlyTo (segment :: rest) := by
  induction rest generalizing value segment left with
  | nil =>
    obtain ⟨writable, held, rfl⟩ := deleteAt_nil_eq_some.mp removed
    obtain ⟨child, found⟩ := Option.isSome_iff_exists.mp held
    rw [isHollow_withoutEntry writable, leadsOnlyTo_cons found]
    exact ⟨fun only => ⟨only, .here child⟩, And.left⟩
  | cons next later ih =>
    obtain ⟨writable, child, inner, found, removedInner, rfl⟩ := deleteAt_cons_eq_some.mp removed
    rw [leadsOnlyTo_cons found, ← ih removedInner, Bool.true_and]
    by_cases hollow : inner.isHollow = true
    · rw [if_pos hollow, isHollow_withoutEntry writable]
      exact ⟨fun only => ⟨only, hollow⟩, And.left⟩
    · rw [if_neg hollow, isHollow_withEntry (isMapping_of_isWritable writable)]
      simp [hollow]

/-- Above its place a removal takes away the mappings that hold nothing but the way there, if it
prunes. -/
theorem at?_deleteAt_above {prune : Bool} {above more : List String}
    (removed : value.deleteAt segment rest prune = some left)
    (way : segment :: rest = above ++ more) (nonempty : above ≠ []) (proper : more ≠ []) :
    left.at? above = none ↔
      prune = true ∧ ∃ holder, value.at? above = some holder ∧ holder.LeadsOnlyTo more := by
  induction rest generalizing value segment left above with
  | nil =>
    -- The way has one segment only, so nothing but the outermost mapping is above.
    obtain ⟨name, others, rfl⟩ := List.exists_cons_of_ne_nil nonempty
    simp_all
  | cons next later ih =>
    obtain ⟨writable, child, inner, found, removedInner, rfl⟩ := deleteAt_cons_eq_some.mp removed
    obtain ⟨name, others, rfl⟩ := List.exists_cons_of_ne_nil nonempty
    obtain ⟨rfl, wayOn⟩ := List.cons.inj way
    have entered (place : List String) :
        value.at? (segment :: place) = child.at? place := by simp [at?_cons, found]
    have kept : (value.withEntry segment inner).child? segment = some inner :=
      child?_withEntry_same (isMapping_of_isWritable writable) segment inner
    simp only [entered]
    cases others with
    | nil =>
      obtain rfl : next :: later = more := wayOn
      cases prune with
      | false => simp [kept]
      | true =>
        have hollow := isHollow_deleteAt removedInner
        by_cases empty : inner.isHollow = true
        · simp [empty, hollow.mp empty]
        · simp [empty, kept, mt hollow.mpr empty]
    | cons second further =>
      have below := ih removedInner wayOn (by simp)
      rw [← below, at?_cons]
      split
      · next pruned =>
        -- What was pruned was empty, so nothing is left below it either.
        rw [isHollow_iff.mp (Bool.and_eq_true_iff.mp pruned).2]
        simp
      · rw [kept, Option.bind_some]

end

section

variable {document written left new : Value} {path : String} {key : Key}

/-- A removal tells whether something stood at its key with only writable mappings above. If so this
is gone with all below it, and so is whatever above it led nowhere else, if the removal prunes; the
document itself stays, and beside the key nothing changes. If not, everything stays. -/
theorem remove_takes_only_the_way (document : Value) (parsed : Key.parse path = .ok key)
    (prune : Bool) :
    ∃ found left, document.remove (.text path) prune = ⟨.ok found, left⟩ ∧
      (found = true ↔ document.has (.text path) = true ∧ document.IsOpenTo key.segments) ∧
      (found = false → left = document) ∧
      (found = true →
        (left.has (.text path) = false ∧
          ∀ rest, left.has (.text (path ++ "." ++ rest)) = false) ∧
        (∀ other apart, Key.parse other = .ok apart → Beside key.segments apart.segments →
          ReadsLike left other document other) ∧
        (∀ above more, key.segments = above ++ more → above ≠ [] → more ≠ [] →
          (left.at? above = none ↔
            prune = true ∧
              ∃ holder, document.at? above = some holder ∧ holder.LeadsOnlyTo more)) ∧
        left.isMapping = true) := by
  rw [remove_of_parse parsed, delete?]
  have removable : (document.deleteAt key.first key.rest prune).isSome ↔
      (document.at? key.segments).isSome ∧ document.IsOpenTo key.segments := deleteAt_isSome_iff
  rw [has, read?_of_parse document parsed]
  cases removed : document.deleteAt key.first key.rest prune with
  | none =>
    rw [removed] at removable
    refine ⟨false, document, rfl, ?_, fun _ => rfl, fun found => absurd found Bool.false_ne_true⟩
    simpa using removable
  | some left =>
    rw [removed] at removable
    have gone : left.at? key.segments = none := at?_deleteAt_same removed
    refine ⟨true, left, rfl, ?_, fun missed => absurd missed.symm Bool.false_ne_true,
      fun _ => ⟨⟨?_, ?_⟩, ?_, ?_, isMapping_deleteAt removed⟩⟩
    · simpa using removable
    · rw [has, read?_of_parse left parsed, gone, Option.isSome_none]
    · intro rest
      rw [has, read?_behind left parsed, gone, Option.bind_none, Option.isSome_none]
    · intro other apart parsedOther beside
      apply readsLike_of_read?
      rw [read?_of_parse _ parsedOther, read?_of_parse _ parsedOther]
      exact (sameAt_deleteAt removed beside).held
    · intro above more way nonempty proper
      exact at?_deleteAt_above removed way nonempty proper

/-- Mappings that held nothing but the way to what was removed go with it. -/
theorem remove_takes_whole_way :
    ∃ left, (object [("a", object [("b", object [("c", .int 1)])]), ("x", .null)]).remove
        (.text "a.b.c") true = ⟨.ok true, left⟩ ∧
      left.at? ["a"] = none ∧ left.has (.text "x") = true := by
  have parsed : Key.parse "a.b.c" = .ok ⟨"a", ["b", "c"]⟩ := rfl
  have single (segment : String) (child : Value) :
      ∀ name, name ≠ segment → (object [(segment, child)]).child? name = none := by
    intro name other
    simp [child?, Table.get?, other.symm]
  obtain ⟨found, left, removed, -, -, taken⟩ := remove_takes_only_the_way
    (object [("a", object [("b", object [("c", .int 1)])]), ("x", .null)]) parsed true
  obtain rfl : true = found := Except.ok.inj (congrArg Edit.outcome removed)
  obtain ⟨-, frame, pruned, -⟩ := taken rfl
  refine ⟨left, removed, ?_, (frame "x" ⟨"x", []⟩ rfl (by decide)).has⟩
  refine (pruned ["a"] ["b", "c"] rfl (by simp) (by simp)).mpr ⟨rfl, _, rfl, ?_⟩
  exact .through rfl (single _ _) (.through rfl (single _ _) (.here _))

/-! ### Removing what a write created -/

/-- Whether a mapping is the deepest one on the way to a place. -/
structure IsDeepest (value : Value) (place above : List String) (holder : Value) : Prop where
  leads : above <+: place
  held : value.at? above = some holder
  mapping : holder.isMapping = true
  deepest : ∀ longer lower, longer <+: place → value.at? longer = some lower →
    lower.isMapping = true → longer <+: above

/-- A mapping that does not hold the next segment of the way is the deepest one on it. -/
theorem isDeepest_of_missing {value holder : Value} {segment : String} (above rest : List String)
    (held : value.at? above = some holder) (mapping : holder.isMapping = true)
    (missing : holder.child? segment = none) :
    value.IsDeepest (above ++ segment :: rest) above holder where
  leads := List.prefix_append above _
  held := held
  mapping := mapping
  deepest := by
    intro longer lower leads found _
    rcases List.prefix_or_prefix_of_prefix leads (List.prefix_append above (segment :: rest))
      with shorter | ⟨more, rfl⟩
    · exact shorter
    · rw [at?_append, held, Option.bind_some] at found
      cases more with
      | nil => simp
      | cons name further =>
        obtain ⟨rfl, -⟩ := List.cons_prefix_cons.mp ((List.prefix_append_right_inj above).mp leads)
        simp [at?_cons, missing] at found

theorem IsDeepest.not_hollowOnWay {value holder : Value} {place above : List String}
    (deepest : value.IsDeepest place above holder)
    (kept : above = [] ∨ holder.entries? ≠ some []) : ¬ value.HollowOnWay place := by
  rintro ⟨empty, nonempty, leads, found⟩
  obtain ⟨more, rfl⟩ := deepest.deepest empty _ leads found rfl
  have held := deepest.held
  rw [at?_append, found, Option.bind_some] at held
  cases more with
  | nil =>
    obtain rfl := at?_nil_eq_some.mp held
    rcases kept with outermost | full
    · exact nonempty (by simpa using outermost)
    · exact full rfl
  | cons segment rest => simp at held

/-- Removing what a creating write put where nothing was, if the deepest mapping on the way was the
document itself or held something. It gives the document back exactly if all mappings on the way can
be written: a write passes one that is read-only, but a removal does not and leaves what was
written. -/
theorem remove_undoes_write {holder : Value} {above : List String}
    (parsed : Key.parse path = .ok key) (absent : document.has (.text path) = false)
    (wrote : document.write (.text path) new true = ⟨.ok (), written⟩)
    (deepest : document.IsDeepest key.segments above holder)
    (kept : above = [] ∨ holder.entries? ≠ some []) :
    (document.IsOpenTo key.segments → written.remove (.text path) true = ⟨.ok true, document⟩) ∧
      (¬ document.IsOpenTo key.segments →
        written.remove (.text path) true = ⟨.ok false, written⟩) := by
  have put : document.setAt key.first key.rest new true = .ok written :=
    (write_eq_ok parsed).mp wrote
  rw [remove_of_parse parsed]
  constructor
  · intro open_
    have nothing : document.at? key.segments = none := by
      simpa [has, read?_of_parse document parsed] using absent
    have removed : written.delete? key true = some document :=
      deleteAt_setAt open_ nothing put (deepest.not_hollowOnWay kept)
    rw [removed, Edit.ofRemoval]
  · intro closed
    have refused : written.delete? key true = none := by
      rw [← Option.not_isSome_iff_eq_none, delete?_isSome_iff]
      exact fun removable => closed ((isOpenTo_setAt put).mp removable.2)
    rw [refused, Edit.ofRemoval]

/-- An empty mapping that was written goes with the mapping that was created for it; what was written
below a read-only mapping stays. -/
theorem remove_undoes_write_of_empty :
    (∃ written, (object [("a", object [("x", .int 1)])]).write (.text "a.b.c") (object []) true =
        ⟨.ok (), written⟩ ∧
      written.remove (.text "a.b.c") true = ⟨.ok true, object [("a", object [("x", .int 1)])]⟩) ∧
    ∃ written, (object [("s", mapping .proxy [("a", object [("x", .int 1)])])]).write
        (.text "s.a.b") (.int 1) true = ⟨.ok (), written⟩ ∧
      written.remove (.text "s.a.b") true = ⟨.ok false, written⟩ := by
  constructor
  · have parsed : Key.parse "a.b.c" = .ok ⟨"a", ["b", "c"]⟩ := rfl
    have wrote : (object [("a", object [("x", .int 1)])]).write (.text "a.b.c") (object []) true =
        ⟨.ok (), object [("a", object [("x", .int 1), ("b", object [("c", object [])])])]⟩ := rfl
    have open_ : (object [("a", object [("x", .int 1)])]).IsOpenTo ["a", "b", "c"] :=
      isOpenTo_of_isOpen rfl fun _ _ => isMapping_above_of_setAt ((write_eq_ok parsed).mp wrote)
    have deepest : (object [("a", object [("x", .int 1)])]).IsDeepest ["a", "b", "c"] ["a"]
        (object [("x", .int 1)]) := isDeepest_of_missing ["a"] ["c"] rfl rfl rfl
    exact ⟨_, wrote,
      (remove_undoes_write parsed rfl wrote deepest (.inr (by simp [entries?]))).1 open_⟩
  · have parsed : Key.parse "s.a.b" = .ok ⟨"s", ["a", "b"]⟩ := rfl
    have wrote : (object [("s", mapping .proxy [("a", object [("x", .int 1)])])]).write
        (.text "s.a.b") (.int 1) true =
        ⟨.ok (), object [("s", mapping .proxy [("a", object [("x", .int 1), ("b", .int 1)])])]⟩ := rfl
    have deepest : (object [("s", mapping .proxy [("a", object [("x", .int 1)])])]).IsDeepest
        ["s", "a", "b"] ["s", "a"] (object [("x", .int 1)]) :=
      isDeepest_of_missing ["s", "a"] [] rfl rfl rfl
    have closed : ¬ (object [("s", mapping .proxy [("a", object [("x", .int 1)])])]).IsOpenTo
        ["s", "a", "b"] := by
      intro open_
      have writable := open_ ["s"] _ (List.prefix_append ["s"] ["a", "b"]) (by simp) rfl
      cases writable
    exact ⟨_, wrote,
      (remove_undoes_write parsed rfl wrote deepest (.inr (by simp [entries?]))).2 closed⟩

end

end StorageLayout.Value
