import StorageLayout.Proofs.Config.Runs
import StorageLayout.Settings.Store

namespace StorageLayout

section

variable {ε α : Type} {outcome : Except ε α}

theorem eq_ok_of_toOption {value : α} (reached : outcome.toOption = some value) :
    outcome = .ok value := by
  cases outcome with
  | ok other => rw [Option.some.inj reached]
  | error failure => cases reached

end

namespace Layer

theorem readFile_eq_ok {room : Json5.Room} {path : Pathname} {data : List UInt8} {layer : Layer}
    (read : readFile room path data = .ok layer) :
    ∃ content, content.isMapping = true ∧ layer = .document (some path) content := by
  unfold readFile at read
  split at read
  · cases read
  · exact ⟨_, rfl, (Except.ok.inj read).symm⟩
  · next value _ _ =>
    split at read
    · next mapping => exact ⟨value, mapping, (Except.ok.inj read).symm⟩
    · cases read

theorem ofPath_eq_ok {machine : Machine} {context : LogContext} {name : String} {strict : Bool}
    {layer : Layer} (made : (ofPath machine context name strict).outcome = .ok layer) :
    ∃ path content, content.isMapping = true ∧ layer = .document path content := by
  unfold ofPath at made
  split at made
  · cases made
  · next path _ =>
    split at made
    · cases made
    · cases made
    · obtain ⟨content, mapping, rfl⟩ := readFile_eq_ok made
      exact ⟨_, content, mapping, rfl⟩
    · cases made
    · cases made
    · split at made
      · cases made
      · obtain ⟨-, -, rfl⟩ := Traced.map_eq_ok made
        exact ⟨_, _, rfl, rfl⟩

end Layer

namespace Settings

/-- The documents below the variables: the standard settings and a file over them. -/
def documents (path : Option Pathname) (content : Value) : List Layer :=
  [.constants (.object standard.document), .document path content]

/-- A store of settings whose file has a given content and whose overrides have given entries. -/
structure IsLayered (source : EnvironmentSource) (content : Value) (entries : Table Value)
    (store : Store) : Prop where
  mapping : content.isMapping = true
  copyable : (Value.object entries).isCopyable = true
  layers : ∃ path, store.layers =
    documents path content ++ [.environment source bindings] ++ [.overrides entries]

section

variable {machine : Machine} {context : LogContext} {source : EnvironmentSource}
  {path : Option String} {name : String} {strict : Bool}
  (chosen : chooseFile (source.resolve machine.environment) path = (name, strict))

include chosen

/-- If the settings file cannot be read the store is not built. -/
theorem buildStore_of_unread {failure : Failure}
    (unread : (Layer.ofPath machine context name strict).outcome =
      .error failure) :
    (buildStore machine context source path).outcome = .error failure := by
  rw [buildStore, chosen]
  show (Traced.andThen (Layer.ofPath machine context name strict) _).outcome = _
  rw [Traced.andThen_of_error unread]

/-- Once the settings file has been read, building the store comes down to checking it. -/
theorem buildStore_of_read {file : Layer}
    (read : (Layer.ofPath machine context name strict).outcome = .ok file) :
    (buildStore machine context source path).outcome =
      ((storeOver source file).validate machine.environment).map fun _ => storeOver source file := by
  rw [buildStore, chosen]
  show (Traced.andThen (Layer.ofPath machine context name strict) _).outcome = _
  rw [Traced.andThen_of_ok read]
  show (Traced.andThen (Traced.ofExcept ((storeOver source file).validate _)) _).outcome = _
  cases (storeOver source file).validate machine.environment <;> rfl

end

/-- A store of settings that has been built is the standard one over the content of a file, and it
is valid. -/
theorem buildStore_eq_storeOver {machine : Machine} {context : LogContext}
    {source : EnvironmentSource} {path : Option String} {store : Store}
    (built : (buildStore machine context source path).outcome = .ok store) :
    ∃ found content, content.isMapping = true ∧ store = storeOver source (.document found content) ∧
      store.validate machine.environment = .ok () := by
  obtain ⟨file, read, checked⟩ := Traced.andThen_eq_ok built
  obtain ⟨_, valid, made⟩ := Traced.andThen_eq_ok checked
  obtain ⟨found, content, mapping, rfl⟩ := Layer.ofPath_eq_ok read
  obtain rfl := Except.ok.inj made
  exact ⟨found, content, mapping, rfl, valid⟩

/-- Nothing was written to a store of settings that has been built. -/
theorem buildStore_eq_ok {machine : Machine} {context : LogContext} {source : EnvironmentSource}
    {path : Option String} {store : Store}
    (built : (buildStore machine context source path).outcome = .ok store) :
    ∃ content, IsLayered source content [] store ∧
      store.validate machine.environment = .ok () := by
  obtain ⟨found, content, mapping, rfl, valid⟩ := buildStore_eq_storeOver built
  exact ⟨content, ⟨mapping, rfl, found, rfl⟩, valid⟩

/-- Writes leave all layers of a store of settings as they are except for the overrides. -/
theorem IsLayered.rewritten {source : EnvironmentSource} {content : Value} {entries : Table Value}
    {before after : Store} (layered : IsLayered source content entries before)
    (rewritten : Store.Rewritten before after) :
    ∃ later, IsLayered source content later after := by
  obtain ⟨mapping, copyable, path, layers⟩ := layered
  have related := rewritten.layers
  rw [layers] at related
  obtain ⟨_, _, ⟨⟩, related, standardKept⟩ := List.forall₂_cons_left_iff.mp related
  obtain ⟨_, _, ⟨⟩, related, fileKept⟩ := List.forall₂_cons_left_iff.mp related
  obtain ⟨_, _, ⟨⟩, related, variablesKept⟩ := List.forall₂_cons_left_iff.mp related
  obtain ⟨top, _, topRewritten, related, overridesKept⟩ := List.forall₂_cons_left_iff.mp related
  obtain rfl := List.forall₂_nil_left_iff.mp related
  subst overridesKept variablesKept fileKept
  cases topRewritten with
  | same => exact ⟨entries, mapping, copyable, path, standardKept⟩
  | @overrides _ later kept => exact ⟨later, mapping, kept copyable, path, standardKept⟩

def emptyFile : FileTree := ⟨[(["settings"], .file [0x7b, 0x7d])]⟩

theorem find_emptyFile :
    emptyFile.find ⟨.working, ["settings"]⟩ = .ok (.file [0x7b, 0x7d]) := rfl

/-- A machine with an empty settings file, on which a variable gives strict mode. -/
def variableMachine (strictMode : String) : Machine where
  environment := [("DROIDENV_STRICT_USER", strictMode)]
  workingDirectory := ⟨.root, []⟩
  userId := none
  files := emptyFile

def emptyFileStore : Store := storeOver none (.document (some ⟨.working, ["settings"]⟩) (.object []))

/-- Unless the variable is in the way, the store over the empty file is built. -/
theorem emptyFileStore_built (strictMode : String)
    (valid : (emptyFileStore.validate (variableMachine strictMode).environment).toOption = some ()) :
    (buildStore (variableMachine strictMode) none none (some "settings")).outcome =
      .ok emptyFileStore := by
  have named : (Pathname.parse "settings").expandHome (variableMachine strictMode).homeOf =
      .ok ⟨.working, ["settings"]⟩ := rfl
  have found : (variableMachine strictMode).files.find ⟨.working, ["settings"]⟩ =
      .ok (.file [0x7b, 0x7d]) := find_emptyFile
  have opened : (Layer.ofPath (variableMachine strictMode) none "settings" true).outcome =
      .ok (.document (some ⟨.working, ["settings"]⟩) (.object [])) := by
    unfold Layer.ofPath
    simp only [named, found]
    rfl
  have chosen : chooseFile (EnvironmentSource.resolve none (variableMachine strictMode).environment)
      (some "settings") = ("settings", true) := rfl
  refine (buildStore_of_read chosen opened).trans ?_
  show (emptyFileStore.validate _).map _ = _
  rw [eq_ok_of_toOption valid]
  rfl

end Settings

namespace Stores

/-- What a run makes of a store of settings. -/
theorem Reached.isLayered {start stores : Stores} (reached : Reached start stores) {place : Nat}
    {built store : Store} (origin : start[place]? = some built) (here : stores[place]? = some store)
    {source : EnvironmentSource} {content : Value} {entries : Table Value}
    (layered : Settings.IsLayered source content entries built) :
    ∃ later, Settings.IsLayered source content later store := by
  obtain ⟨before, found, rewritten⟩ := reached.storeBefore here
  obtain rfl := Option.some.inj (origin.symm.trans found)
  exact layered.rewritten rewritten

end Stores

end StorageLayout
