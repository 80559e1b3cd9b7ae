import Mathlib
import StorageLayout.Proofs.User.Lookups

/-! Users apart from each other. Where users share out one parent of all their roots, each of them
has a root of their own in it, named by their number. Main statement: whatever two users look up,
all of it lies below their own roots, and nothing that one of them finds is, holds or lies below
anything that the other one finds. -/

namespace StorageLayout

namespace Pathname

def IsWithin (path root : Pathname) : Prop :=
  path.anchor = root.anchor ∧ root.components <+: path.components

theorem isWithin_append (root : Pathname) (components : List Codes) :
    (root.append components).IsWithin root :=
  ⟨rfl, List.prefix_append root.components components⟩

theorem IsWithin.trans {path middle root : Pathname} (first : path.IsWithin middle)
    (second : middle.IsWithin root) : path.IsWithin root :=
  ⟨first.1.trans second.1, second.2.trans first.2⟩

theorem IsWithin.eq_of_length {path left right : Pathname} (first : path.IsWithin left)
    (second : path.IsWithin right)
    (long : left.components.length = right.components.length) : left = right := by
  have inside : left.components <+: right.components :=
    List.prefix_of_prefix_length_le first.2 second.2 long.le
  have components : left.components = right.components := inside.eq_of_length long
  have anchor : left.anchor = right.anchor := first.1.symm.trans second.1
  cases left
  cases right
  exact congrArg₂ Pathname.mk anchor components

theorem absolute_join (working path : Pathname) (component : Codes) :
    absolute working (path.join component) = (absolute working path).join component := by
  unfold absolute
  by_cases rooted : path.isAbsolute = true
  · have joined : (path.join component).isAbsolute = true := rooted
    rw [if_pos rooted, if_pos joined]
  · have joined : ¬ (path.join component).isAbsolute = true := rooted
    rw [if_neg rooted, if_neg joined]
    simp [join]

theorem isSegment_toString (number : Nat) : IsSegment (toString number) := by
  have digit {code : Code} (member : code ∈ Text.codes (toString number)) :
      ∃ c : Char, code = .char c ∧ c.isDigit = true := by
    obtain ⟨c, written, rfl⟩ := List.mem_map.mp member
    rw [Nat.toString_eq_repr, Nat.toList_repr] at written
    exact ⟨c, rfl, Nat.isDigit_of_mem_toDigits (by decide) (by decide) written⟩
  have other {c : Char} (noDigit : c.isDigit = false) :
      .char c ∉ Text.codes (toString number) := by
    intro member
    obtain ⟨_, same, isDigit⟩ := digit member
    rw [← Code.char.inj same, noDigit] at isDigit
    cases isDigit
  constructor
  · intro none_
    exact Nat.repr_ne_empty (Text.codes_injective none_)
  · intro same
    exact other (c := '.') rfl (by rw [same]; decide)
  · intro same
    exact other (c := '.') rfl (by rw [same]; decide)
  · exact other rfl
  · exact other rfl

theorem join_injective (base : Pathname) : Function.Injective base.join := by
  intro left right same
  have components : base.components ++ [left] = base.components ++ [right] :=
    congrArg Pathname.components same
  exact List.singleton_inj.mp (List.append_cancel_left components)

theorem not_isWithin_of_ne {base path other : Pathname} {left right : Codes}
    (distinct : left ≠ right) (below : path.IsWithin (base.join left))
    (otherBelow : other.IsWithin (base.join right)) : ¬ path.IsWithin other := by
  intro within
  have long : (base.join left).components.length = (base.join right).components.length := by
    simp [join]
  exact distinct (base.join_injective (below.eq_of_length (within.trans otherBelow) long))

end Pathname

namespace DiscoveryStrategy

/-- A host that cannot be asked for volumes leaves it to the environment. -/
theorem select_of_unasked {host : Option HostCapabilities}
    (unasked : ∀ capabilities, host = some capabilities →
      capabilities.supportsVolumeQuery = false) (source : EnvironmentSource) :
    select host source = environment source := by
  rcases select_cases host source with ⟨capabilities, _, given, supported, -⟩ | chosen
  · rw [unasked capabilities given] at supported
    cases supported
  · exact chosen

/-- The root of a user: what the number of the user reads as behind the parent of all roots. -/
def userRoot (machine : Machine) (target : String) (user : Nat) : Pathname :=
  rootAt machine (Pathname.joined target (toString user))

theorem userRoot_eq_join (machine : Machine) (target : String) (user : Nat) :
    userRoot machine target user = (rootAt machine target).join (toString user) := by
  have read := Pathname.parse_joined (Pathname.isSegment_toString user) target
  rw [userRoot, rootAt, read]
  exact Pathname.absolute_join _ _ _

/-- Nothing below the root of one user lies below anything that is below the root of another. -/
theorem not_isWithin_of_users {machine : Machine} {target : String} {user other : Nat}
    {path otherPath : Pathname} (distinct : user ≠ other)
    (below : path.IsWithin (userRoot machine target user))
    (otherBelow : otherPath.IsWithin (userRoot machine target other)) :
    ¬ path.IsWithin otherPath := by
  have named : Text.codes (toString user) ≠ Text.codes (toString other) := by
    intro same
    exact distinct (Nat.repr_injective (Text.codes_injective same))
  rw [userRoot_eq_join] at below otherBelow
  exact Pathname.not_isWithin_of_ne named below otherBelow

end DiscoveryStrategy

namespace UserEnvironment

/-- The storage of a user can be made, and everything that is looked up in it is the root of the
user with what the lookup adds. -/
theorem lookUp_shared {machine : Machine} {host : Option HostCapabilities}
    {source : EnvironmentSource} {target : String}
    (rooted : machine.workingDirectory.isAbsolute = true)
    (unasked : ∀ capabilities, host = some capabilities →
      capabilities.supportsVolumeQuery = false)
    (shared : (source.resolve machine.environment).get? DiscoveryStrategy.sharedVariable =
      some target)
    (some_ : target ≠ "") {handle : Value} {user : Nat}
    (valid : User.checkHandle handle = .ok user) (context : LogContext) :
    ∃ storage, create handle host source none = .ok storage ∧
      ∀ {lookup : Lookup} {components : List Codes}, lookup.Adds components →
        (storage.lookUp machine context lookup).2.outcome =
          .ok [(DiscoveryStrategy.userRoot machine target user).append components] := by
  have made : create handle host source none = .ok ⟨user, source, .environment source⟩ := by
    simp [create, valid, DiscoveryStrategy.select_of_unasked unasked source]
  refine ⟨_, made, ?_⟩
  intro lookup components adds
  have looked : (source.resolve machine.environment).lookup? DiscoveryStrategy.sharedVariable =
      some target := by
    simp [Environment.lookup?, shared, some_]
  have found : (externalDirs machine context
      ⟨user, source, .environment source⟩).2.outcome =
        .ok [DiscoveryStrategy.userRoot machine target user] := by
    simp [externalDirs, findRoots, DiscoveryStrategy.discover, DiscoveryStrategy.environmentRoots,
      looked, DiscoveryStrategy.userRoot_eq_join]
  have absolute : ∀ root ∈ [DiscoveryStrategy.userRoot machine target user],
      root.isAbsolute = true := by
    intro root member
    obtain rfl := List.mem_singleton.mp member
    exact DiscoveryStrategy.isAbsolute_rootAt rooted _
  exact lookUp_of_adds found absolute adds

/-- Users who share out one parent of all their roots are kept apart. Whatever two of them look up,
each finds one path, which lies below this user's root, and neither path is the same as, lies below
or holds the other one. -/
theorem users_are_isolated {machine : Machine} {host : Option HostCapabilities}
    {source : EnvironmentSource} {target : String}
    (rooted : machine.workingDirectory.isAbsolute = true)
    (unasked : ∀ capabilities, host = some capabilities →
      capabilities.supportsVolumeQuery = false)
    (shared : (source.resolve machine.environment).get? DiscoveryStrategy.sharedVariable =
      some target)
    (some_ : target ≠ "") {first second : Value} {user other : Nat}
    (valid : User.checkHandle first = .ok user) (otherValid : User.checkHandle second = .ok other)
    (distinct : user ≠ other) {lookup otherLookup : Lookup} (accepted : lookup.IsValid)
    (otherAccepted : otherLookup.IsValid) (context otherContext : LogContext) :
    ∃ storage otherStorage path otherPath,
      create first host source none = .ok storage ∧
      create second host source none = .ok otherStorage ∧
      (storage.lookUp machine context lookup).2.outcome = .ok [path] ∧
      (otherStorage.lookUp machine otherContext otherLookup).2.outcome = .ok [otherPath] ∧
      path.IsWithin (DiscoveryStrategy.userRoot machine target user) ∧
      otherPath.IsWithin (DiscoveryStrategy.userRoot machine target other) ∧
      ¬ path.IsWithin otherPath ∧ ¬ otherPath.IsWithin path := by
  obtain ⟨components, adds⟩ := accepted
  obtain ⟨otherComponents, otherAdds⟩ := otherAccepted
  obtain ⟨storage, made, answers⟩ := lookUp_shared rooted unasked shared some_ valid context
  obtain ⟨otherStorage, otherMade, otherAnswers⟩ :=
    lookUp_shared rooted unasked shared some_ otherValid otherContext
  have below := Pathname.isWithin_append (DiscoveryStrategy.userRoot machine target user) components
  have otherBelow :=
    Pathname.isWithin_append (DiscoveryStrategy.userRoot machine target other) otherComponents
  exact ⟨storage, otherStorage, _, _, made, otherMade, answers adds, otherAnswers otherAdds,
    below, otherBelow, DiscoveryStrategy.not_isWithin_of_users distinct below otherBelow,
    DiscoveryStrategy.not_isWithin_of_users distinct.symm otherBelow below⟩

/-- A machine on which users share out a directory that is named in a roundabout way. -/
def sharingMachine : Machine where
  environment := [(DiscoveryStrategy.sharedVariable, "../media//./emulated/")]
  workingDirectory := ⟨.root, ["srv"]⟩
  userId := none
  files := .empty

/-- Users 1 and 10 are kept apart, although one number begins the other, and a directory of the one
is named by the rest of it. -/
theorem one_is_isolated_from_ten :
    ∃ storage otherStorage path otherPath,
      create (.int 1) none none none = .ok storage ∧
      create (.int 10) none none none = .ok otherStorage ∧
      (storage.lookUp sharingMachine none (.area .publicFiles (.text "0"))).2.outcome =
        .ok [path] ∧
      (otherStorage.lookUp sharingMachine none .roots).2.outcome = .ok [otherPath] ∧
      path.IsWithin ⟨.root, ["srv", "..", "media", "emulated", "1"]⟩ ∧
      otherPath.IsWithin ⟨.root, ["srv", "..", "media", "emulated", "10"]⟩ ∧
      ¬ path.IsWithin otherPath ∧ ¬ otherPath.IsWithin path := by
  have rooted : sharingMachine.workingDirectory.isAbsolute = true := by decide
  have unasked : ∀ capabilities : HostCapabilities, none = some capabilities →
      capabilities.supportsVolumeQuery = false := by
    intro capabilities given
    cases given
  have shared : (EnvironmentSource.resolve none sharingMachine.environment).get?
      DiscoveryStrategy.sharedVariable = some "../media//./emulated/" := rfl
  have accepted : (Lookup.area .publicFiles (.text "0")).IsValid := by
    rw [← Value.ofCodes_codes "0"]
    exact ⟨_, .area (.publicFiles (by decide))⟩
  have root : DiscoveryStrategy.userRoot sharingMachine "../media//./emulated/" 1 =
      ⟨.root, ["srv", "..", "media", "emulated", "1"]⟩ := by decide
  have otherRoot : DiscoveryStrategy.userRoot sharingMachine "../media//./emulated/" 10 =
      ⟨.root, ["srv", "..", "media", "emulated", "10"]⟩ := by decide
  rw [← root, ← otherRoot]
  exact users_are_isolated rooted unasked shared (by decide) rfl rfl (by decide) accepted
    ⟨_, .roots⟩ none none

end UserEnvironment

end StorageLayout
