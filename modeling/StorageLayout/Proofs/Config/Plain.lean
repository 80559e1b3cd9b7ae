import StorageLayout.Proofs.Config.Writing

namespace StorageLayout

namespace Table

variable {α : Type}

theorem keys_set (entries : Table α) (key : String) (value : α) :
    keys (set entries key value) =
      if key ∈ keys entries then keys entries else keys entries ++ [key] := by
  induction entries with
  | nil => simp [set, keys]
  | cons entry rest ih =>
    simp only [keys] at ih ⊢
    by_cases same : entry.1 = key
    · simp [set, same]
    · by_cases known : key ∈ rest.map Prod.fst
      · simp [set, same, ih, known]
      · simp [set, same, Ne.symm same, ih, known]

theorem nodup_keys_set {entries : Table α} (distinct : (keys entries).Nodup) (key : String)
    (value : α) : (keys (set entries key value)).Nodup := by
  rw [keys_set]
  split
  · exact distinct
  · next new =>
    refine List.nodup_append.mpr ⟨distinct, by simp, fun known member other single => ?_⟩
    rw [List.mem_singleton.mp single]
    exact ne_of_mem_of_not_mem member new

end Table

namespace Value

/-- Whether every mapping that can be reached in a value is writable and has no name twice. -/
inductive IsPlain : Value → Prop where
  | leaf {value : Value} (scalar : value.isMapping = false) : IsPlain value
  | branch {entries : Table Value} (distinct : entries.keys.Nodup)
      (inner : ∀ entry ∈ entries, IsPlain entry.2) : IsPlain (.object entries)

theorem isPlain_new : (object []).IsPlain := .branch (by simp [Table.keys]) (by simp)

theorem IsPlain.child? {value child : Value} {segment : String} (plain : value.IsPlain)
    (found : value.child? segment = some child) : child.IsPlain := by
  cases plain with
  | leaf scalar =>
    rw [child?_eq_none scalar] at found
    cases found
  | branch distinct inner => exact inner _ (Table.mem_of_get? found)

theorem IsPlain.withEntry {value child : Value} (plain : value.IsPlain) (inner : child.IsPlain)
    (segment : String) : (value.withEntry segment child).IsPlain := by
  cases plain with
  | leaf scalar => exact .leaf (by rw [isMapping_withEntry, scalar])
  | branch distinct entries =>
    refine .branch (Table.nodup_keys_set distinct segment child) fun entry member => ?_
    rcases Table.mem_set member with rfl | old
    · exact inner
    · exact entries entry old

theorem IsPlain.setAt {value new written : Value} {segment : String} {rest : List String}
    {create : Bool} (plain : value.IsPlain) (newPlain : new.IsPlain)
    (wrote : value.setAt segment rest new create = .ok written) : written.IsPlain := by
  induction rest generalizing value segment written with
  | nil =>
    obtain ⟨-, rfl⟩ := setAt_nil_eq_ok.mp wrote
    exact plain.withEntry newPlain segment
  | cons next later ih =>
    obtain ⟨-, -, inner, wroteInner, rfl⟩ := setAt_cons_eq_ok.mp wrote
    refine plain.withEntry (ih ?_ wroteInner) segment
    cases found : value.child? segment with
    | none => rw [childOrNew_of_none found]; exact isPlain_new
    | some child => rw [childOrNew_of_some found]; exact plain.child? found

end Value

end StorageLayout
