import StorageLayout.Proofs.Config.Announcement
import StorageLayout.Proofs.Config.Frame
import StorageLayout.Proofs.Config.Rollback

/-! What a write shows. Beside its key a write changes neither what keys read as nor what the
effective document has. At the key the value is laid over what the layers below have there. What
listeners write while they are told of it counts as written too. -/

namespace StorageLayout

/-- Whether something that is sent out leaves a place in the overrides of a store alone: it is not
written to this store, or beside the place. -/
def Emission.Spares (store : Nat) (place : List String) : Emission → Prop
  | written target text _ =>
    target = store → ∀ key, Key.parse text = .ok key → Value.Beside key.segments place
  | _ => True

namespace Store

section

variable {process : Environment} {lower : List Layer} {entries : Table Value}

def shown (process : Environment) (store : Store) (key : Key) : Except Failure (Option Value) :=
  (store.merged process).map fun document => document.root.get? key

theorem shown_append {store : Store} (layers : store.layers = lower ++ [.overrides entries])
    (key : Key) :
    store.shown process key =
      (mergeOver process .empty lower).map fun below =>
        (below.root.merge (.object entries)).get? key := by
  rw [shown, merged_append layers]
  cases mergeOver process .empty lower with
  | error failure => rfl
  | ok below =>
    simp only [Except.map, Document.root_merge, Document.root_ofTable]

/-- A write to a layer, whether it is taken back or not, changes nothing beside its key. -/
theorem sameAt_writeLayer {store : Store} (layers : store.layers = lower ++ [.overrides entries])
    {text : String} {value : Value} {place : List String}
    (beside :
      ∀ put ∈ (store.writeLayer process lower.length (.overrides entries) text value).values,
        ∀ key, Key.parse text = .ok key → Value.Beside key.segments place) :
    ∃ left, (store.writeLayer process lower.length (.overrides entries) text value).store.layers =
        lower ++ [.overrides left] ∧
      Value.SameAt place (.object left) (.object entries) := by
  unfold writeLayer at beside ⊢
  cases wrote : (Layer.overrides entries).set text value with
  | error failure => exact ⟨entries, layers, .refl _ _⟩
  | ok layer =>
    obtain ⟨_, written, ⟨⟩, wroteEntries, rfl⟩ := Layer.set_eq_ok.mp wrote
    obtain ⟨key, parsed⟩ := Layer.exists_key_of_writeOverride wroteEntries
    have put (apart : Value.Beside key.segments place) :=
      Layer.sameAt_writeOverride parsed wroteEntries apart
    simp only [wrote] at beside ⊢
    split
    · next valid =>
      simp only [valid] at beside
      exact ⟨written, layers_withLayer_append layers _, put (beside value (by simp) key parsed)⟩
    · next failure invalid =>
      simp only [invalid] at beside
      split
      · next layer putBack =>
        obtain ⟨_, restored, ⟨⟩, wroteBack, rfl⟩ := Layer.set_eq_ok.mp putBack
        simp only [putBack] at beside
        have apart := beside value (by simp) key parsed
        refine ⟨restored, layers_withLayer_append layers _, ?_⟩
        exact (Layer.sameAt_writeOverride parsed wroteBack apart).trans (put apart)
      · next unrestored stuck =>
        simp only [stuck] at beside
        exact ⟨written, layers_withLayer_append layers _, put (beside value (by simp) key parsed)⟩

section

variable {store : Store} {text : String} {key : Key}

/-- Overrides that settle the place of a key in the same way show the same there. -/
theorem shows_of_sameAt {after : Store} {left : Table Value}
    (layers : store.layers = lower ++ [.overrides entries])
    (layersAfter : after.layers = lower ++ [.overrides left]) (parsed : Key.parse text = .ok key)
    (same : Value.SameAt key.segments (.object left) (.object entries)) (process : Environment) :
    after.get process text = store.get process text ∧
      after.shown process key = store.shown process key := by
  constructor
  · rw [get_append layersAfter, get_append layers, same.read parsed]
  · have merges (below : Document) : (below.root.merge (.object left)).get? key =
        (below.root.merge (.object entries)).get? key := same.at?_merge below.root
    simp only [shown_append layersAfter, shown_append layers, merges]

/-- What the overrides have at a key is what it reads as, and is laid over what is below. -/
theorem shows_of_held (layers : store.layers = lower ++ [.overrides entries])
    (parsed : Key.parse text = .ok key) {value : Value}
    (held : (Value.object entries).get? key = some value) (present : value.isNull = false)
    (process : Environment) :
    store.get process text = value ∧
      store.shown process key =
        (mergeOver process .empty lower).map fun below =>
          some ((below.root.get? key).elim value fun old => old.merge value) := by
  constructor
  · have reads : (Value.object entries).read text = value := by
      rw [Value.read_eq _ parsed, held, Option.getD_some]
    rw [get_append layers, reads, present]
    rfl
  · have merges (below : Document) : (below.root.merge (.object entries)).get? key =
        some ((below.root.get? key).elim value fun old => old.merge value) :=
      Value.at?_merge_of_held below.root held
    simp only [shown_append layers, merges]

end

end

end Store

namespace Stores

def KeepsAt (place : List String) (before after : Store) : Prop :=
  ∀ lower entries, before.layers = lower ++ [.overrides entries] →
    ∃ left, after.layers = lower ++ [.overrides left] ∧
      Value.SameAt place (.object left) (.object entries)

theorem holdsOfStore_keepsAt (process : Environment) (store : Nat) (place : List String) :
    HoldsOfStore process (Emission.Spares store place) store (KeepsAt place) where
  trans first second lower entries layers := by
    obtain ⟨middle, layersBetween, same⟩ := first lower entries layers
    obtain ⟨left, layersAfter, further⟩ := second lower middle layersBetween
    exact ⟨left, layersAfter, further.trans same⟩
  listeners store heard lower entries layers := ⟨entries, layers, .refl _ _⟩
  put {store target layer} text value top spared lower entries layers := by
    obtain ⟨rfl, rfl⟩ := Prod.mk.inj
      (Option.some.inj (top.symm.trans (store.overrideLayer?_append layers)))
    exact Store.sameAt_writeLayer layers fun put member => spared put member rfl

/-- A write that succeeds puts its value first; everything else comes of telling listeners. -/
theorem write_put_first {occasion : Occasion} {stores : Stores} {place : Nat} {store : Store}
    {target : Nat} {entries : Table Value} (here : stores[place]? = some store)
    (top : store.overrideLayer? = some (target, .overrides entries)) {text : String} {value : Value}
    {actor : String} (ok : (write occasion stores place text value actor).2.outcome = .ok ()) :
    ∃ written rest, Layer.writeOverride entries text value = .ok written ∧
      (write occasion stores place text value actor).2.trail = .written place text value :: rest ∧
      ∀ allowed related, HoldsAcross occasion.environment allowed related →
        (∀ emission ∈ rest, allowed emission) →
        related (stores.set place (store.withLayer target (.overrides written)))
          (write occasion stores place text value actor).1 := by
  obtain ⟨written, wrote, ⟨depth, notice, last, told, -, notified, result⟩ | ⟨-, result⟩⟩ :=
    write_cases here top ok
  · refine ⟨written, told.trail, wrote, by rw [result]; rfl, fun allowed related holds sent => ?_⟩
    have kept := holds.notify (holds.writeNested depth) notice
      (stores.set place (store.withLayer target (.overrides written))) store.listeners
    rw [notified] at kept
    rw [result]
    exact kept sent
  · refine ⟨written, [], wrote, by rw [result], fun allowed related holds _ => ?_⟩
    rw [result]
    exact holds.refl _

/-- What a write that succeeds shows. Keys beside all that is written to the store on the way, by
the write itself and by listeners, read as before, and so does the effective document there. Unless
listeners write there again, the key itself reads as the value, and the effective document has the
value laid over what the layers below the overrides have. -/
theorem write_effect {stores : Stores} {place : Nat} {store : Store} {lower : List Layer}
    {entries : Table Value} (here : stores[place]? = some store)
    (layers : store.layers = lower ++ [.overrides entries]) {occasion : Occasion} {text : String}
    {value : Value} {actor : String}
    (ok : (write occasion stores place text value actor).2.outcome = .ok ()) :
    ∃ key after told, Key.parse text = .ok key ∧
      (write occasion stores place text value actor).1[place]? = some after ∧
      (write occasion stores place text value actor).2.trail = .written place text value :: told ∧
      (∀ other beside, Key.parse other = .ok beside →
        (∀ emission ∈ (write occasion stores place text value actor).2.trail,
          emission.Spares place beside.segments) →
        ∀ process, after.get process other = store.get process other ∧
          after.shown process beside = store.shown process beside) ∧
      (value.isNull = false → (∀ emission ∈ told, emission.Spares place key.segments) →
        ∀ process, after.get process text = value ∧
          after.shown process key =
            (Store.mergeOver process .empty lower).map fun below =>
              some ((below.root.get? key).elim value fun old => old.merge value)) := by
  have top := store.overrideLayer?_append layers
  obtain ⟨written, told, wrote, trail, further⟩ := write_put_first here top ok
  obtain ⟨key, parsed⟩ := Layer.exists_key_of_writeOverride wrote
  have inside : place < stores.length := (List.getElem?_eq_some_iff.mp here).1
  have hereWritten :
      (stores.set place (store.withLayer lower.length (.overrides written)))[place]? =
        some (store.withLayer lower.length (.overrides written)) := List.getElem?_set_self inside
  have layersWritten := Store.layers_withLayer_append layers (.overrides written)
  -- What listeners do leaves the overrides on top, whichever places it spares.
  have settled (spared : List String)
      (sent : ∀ emission ∈ told, emission.Spares place spared) :
      ∃ after left, (write occasion stores place text value actor).1[place]? = some after ∧
        after.layers = lower ++ [.overrides left] ∧
        Value.SameAt spared (.object left) (.object written) := by
    have holds := holdsOfStore_keepsAt occasion.environment place spared
    obtain ⟨after, reached, kept⟩ := further _ _ holds.holdsAcross sent _ hereWritten
    obtain ⟨left, layersAfter, same⟩ := kept lower written layersWritten
    exact ⟨after, left, reached, layersAfter, same⟩
  have rewritten := (holdsAcross_rewritten occasion.environment).writeNested (occasion.depth + 1) stores
    place text value actor fun _ _ => trivial
  have insideAfter : place < (write occasion stores place text value actor).1.length :=
    rewritten.length_eq ▸ inside
  have reached := List.getElem?_eq_getElem insideAfter
  refine ⟨key, _, told, parsed, reached, trail, ?_, ?_⟩
  · intro other beside parsedOther sent process
    rw [trail] at sent
    have apart : Value.Beside key.segments beside.segments :=
      sent _ List.mem_cons_self rfl key parsed
    obtain ⟨after, left, found, layersAfter, same⟩ := settled beside.segments fun emission member =>
      sent emission (List.mem_cons_of_mem _ member)
    obtain rfl := Option.some.inj (reached.symm.trans found)
    have whole := same.trans (Layer.sameAt_writeOverride parsed wrote apart)
    exact Store.shows_of_sameAt layers layersAfter parsedOther whole process
  · intro present sent process
    obtain ⟨after, left, found, layersAfter, same⟩ := settled key.segments sent
    obtain rfl := Option.some.inj (reached.symm.trans found)
    have held : (Value.object left).get? key = some value :=
      same.held.trans (Layer.get?_writeOverride parsed present wrote)
    exact Store.shows_of_held layersAfter parsed held present process

/-- A store in which every change of one key is answered by a write to another. -/
def answering : Store where
  space := "answering"
  validator := none
  layers := [.overrides []]
  listeners := [⟨.client "follower", 0, fun _ => [.assign "b" (.int 1)]⟩]

/-- A key beside the one written can read as something else if a listener writes it. -/
theorem write_effect_answered :
    (write bareOccasion [answering] 0 "a" (.int 1) Store.systemActor).2.outcome = .ok () ∧
      Key.parse "a" = .ok ⟨"a", []⟩ ∧ Key.parse "b" = .ok ⟨"b", []⟩ ∧ Value.Beside ["a"] ["b"] ∧
      answering.get [] "b" = .null ∧
      ∃ after,
        (write bareOccasion [answering] 0 "a" (.int 1) Store.systemActor).1[0]? = some after ∧
        after.get [] "b" = .int 1 := by
  exact ⟨rfl, rfl, rfl, by decide, rfl, _, rfl, rfl⟩

/-- A store in which a number is where a key has to go through. -/
def blocked : Store where
  space := "blocked"
  validator := none
  layers := [.constants (.object [("a", .int 1), ("c", .object [("d", .int 2)])]), .overrides []]
  listeners := []

/-- A write through a number hides it, and what is beside it stays. -/
theorem write_effect_blocked :
    ∃ after, (write bareOccasion [blocked] 0 "a.b" (.int 3) Store.systemActor).1[0]? = some after ∧
      after.get [] "c.d" = blocked.get [] "c.d" ∧ after.get [] "a.b" = .int 3 := by
  have ok : (write bareOccasion [blocked] 0 "a.b" (.int 3) Store.systemActor).2.outcome = .ok () :=
    rfl
  have parsed : Key.parse "a.b" = .ok ⟨"a", ["b"]⟩ := rfl
  have parsedOther : Key.parse "c.d" = .ok ⟨"c", ["d"]⟩ := rfl
  have sent : (write bareOccasion [blocked] 0 "a.b" (.int 3) Store.systemActor).2.trail =
      [.written 0 "a.b" (.int 3)] := rfl
  have layers : blocked.layers =
      [.constants (.object [("a", .int 1), ("c", .object [("d", .int 2)])])] ++ [.overrides []] :=
    rfl
  obtain ⟨key, after, told, parsedKey, reached, trail, frame, effect⟩ :=
    write_effect rfl layers ok
  obtain rfl := Except.ok.inj (parsed.symm.trans parsedKey)
  obtain rfl : [] = told := List.tail_eq_of_cons_eq (sent.symm.trans trail)
  have apart : ∀ emission ∈ [Emission.written 0 "a.b" (.int 3)], emission.Spares 0 ["c", "d"] := by
    intro emission member
    obtain rfl := List.mem_singleton.mp member
    intro _ key parsedAgain
    obtain rfl := Except.ok.inj (parsed.symm.trans parsedAgain)
    decide
  refine ⟨after, reached, ?_, ?_⟩
  · exact (frame "c.d" _ parsedOther (sent ▸ apart) []).1
  · exact (effect rfl (by simp) []).1

end Stores

end StorageLayout
