import CopysetWatch.Raft.Record
import Mathlib.Data.List.Nodup

/-!
# Fields of a replica

Fields are listed in the order of their keys. Some of them, picked by their keys, are therefore
known as soon as one knows which values these keys have; so are the replicators of a record. Fields
under distinct keys are the same in whatever order they are put together.
-/

namespace CopysetWatch.Raft

/-- Fields picked by their keys are the only entries, in the order of their keys, that these keys
have. -/
theorem filter_toList_eq {fields : Fields} {keep : String → Bool}
    {entries : List (String × String)}
    (hascending : entries.Pairwise fun a b => compare a.1 b.1 = .lt)
    (hmem : ∀ key value, (key, value) ∈ entries ↔ keep key ∧ fields[key]? = some value) :
    (fields.toList.filter fun field => keep field.1) = entries := by
  have hordered : (fields.toList.filter fun field => keep field.1).Pairwise
      fun a b => compare a.1 b.1 = .lt := fields.ordered_keys_toList.filter _
  have hnodup {l : List (String × String)} (h : l.Pairwise fun a b => compare a.1 b.1 = .lt) :
      l.Nodup := by
    apply h.imp
    rintro a b hlt rfl
    simp at hlt
  apply List.Perm.eq_of_pairwise _ hordered hascending
  · rw [List.perm_ext_iff_of_nodup (hnodup hordered) (hnodup hascending)]
    rintro ⟨key, value⟩
    rw [List.mem_filter, Std.ExtTreeMap.mem_toList_iff_getElem?_eq_some, hmem]
    exact and_comm
  · intro a b _ _ hab hba
    exact absurd hba (Std.OrientedCmp.not_lt_of_lt hab)

/-- Where no key is repeated, the fields have the values that they are put together from. -/
theorem getElem?_ofList_eq_some_iff {entries : List (String × String)}
    (hdistinct : (entries.map Prod.fst).Nodup) {key value : String} :
    (Std.ExtTreeMap.ofList entries : Fields)[key]? = some value ↔ (key, value) ∈ entries := by
  have hpairwise : entries.Pairwise fun a b => ¬compare a.1 b.1 = .eq := by
    simpa [List.Nodup, List.pairwise_map] using hdistinct
  constructor
  · intro hvalue
    have hkey : key ∈ entries.map Prod.fst := by
      by_contra hno
      rw [Std.ExtTreeMap.getElem?_ofList_of_contains_eq_false (by simpa using hno)] at hvalue
      cases hvalue
    obtain ⟨⟨_, value'⟩, hmem, rfl⟩ := List.mem_map.mp hkey
    rw [Std.ExtTreeMap.getElem?_ofList_of_mem (by simp) hpairwise hmem] at hvalue
    cases hvalue
    exact hmem
  · exact Std.ExtTreeMap.getElem?_ofList_of_mem (by simp) hpairwise

/-- Where no key is repeated, fields can be put together in any order. -/
theorem ofList_eq_of_perm {entries entries' : List (String × String)}
    (hdistinct : (entries.map Prod.fst).Nodup) (hperm : entries'.Perm entries) :
    (Std.ExtTreeMap.ofList entries' : Fields) = .ofList entries := by
  have hdistinct' : (entries'.map Prod.fst).Nodup := (hperm.map _).nodup_iff.mpr hdistinct
  apply Std.ExtTreeMap.ext_getElem?
  intro key
  apply Option.ext
  intro value
  rw [getElem?_ofList_eq_some_iff hdistinct, getElem?_ofList_eq_some_iff hdistinct',
    hperm.mem_iff]

/-- Fields with the same replicator keys have the same replicators. -/
theorem Record.replicatorsOf_congr {fields fields' : Fields}
    (h : ∀ key, Record.isReplicatorKey key → fields'[key]? = fields[key]?) :
    Record.replicatorsOf fields' = Record.replicatorsOf fields := by
  unfold Record.replicatorsOf
  congr 1
  apply filter_toList_eq (fields.ordered_keys_toList.filter _)
  intro key value
  rw [List.mem_filter, Std.ExtTreeMap.mem_toList_iff_getElem?_eq_some, and_comm]
  exact and_congr_right fun hkey => by rw [h key hkey]

end CopysetWatch.Raft
