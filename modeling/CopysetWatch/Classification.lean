import Std.Data.ExtTreeMap

/-!
# Classifications

A copyset that was observed is healthy or has one problem. The problems have an order, which
lists and reports follow; a problem named after an unusual raft state comes behind all others.
-/

namespace CopysetWatch

/-- What can be wrong with a copyset. -/
inductive Problem where
  | noLeader
  | peersInsufficient
  | logIndexGapTooBig
  | installingSnapshot
  | minorityPeerOffline
  | majorityPeerOffline
  | parseError
  | inconsistent
  /-- A replica is in an unusual raft state of this name. -/
  | otherState (name : String)
  deriving DecidableEq, Repr, Inhabited

namespace Problem

/-- The problems that are not named after a state, in their order. -/
def fixed : List Problem :=
  [.noLeader, .peersInsufficient, .logIndexGapTooBig, .installingSnapshot, .minorityPeerOffline,
    .majorityPeerOffline, .parseError, .inconsistent]

/-- The state a problem is named after, if it is named after one. -/
def stateName : Problem → Option String
  | .otherState name => some name
  | _ => none

/-- The place of a problem in the order; the problems named after states share the last one. -/
def rank (p : Problem) : Nat :=
  fixed.idxOf p

/-- The fixed problems come first, and the ones named after states follow by those names. -/
instance : Ord Problem where
  compare := compareLex (compareOn rank) (compareOn fun p => p.stateName.getD "")

/-- The words for a problem. -/
def words : Problem → String
  | .noLeader => "no leader"
  | .peersInsufficient => "peers insufficient"
  | .logIndexGapTooBig => "log index gap too big"
  | .installingSnapshot => "installing snapshot"
  | .minorityPeerOffline => "minority peer offline"
  | .majorityPeerOffline => "majority peer offline"
  | .parseError => "parse error"
  | .inconsistent => "inconsistent"
  | .otherState name => "state " ++ name

/-- Every problem is a fixed one or named after a state. -/
theorem mem_fixed_or_stateName (p : Problem) : p ∈ fixed ∨ ∃ name, p = .otherState name := by
  cases p <;> simp [fixed]

/-- A problem is found at its rank if it is fixed, and nothing is found there otherwise. -/
theorem fixed_getElem?_rank (p : Problem) :
    fixed[p.rank]? = if p ∈ fixed then some p else none := by
  split
  case isTrue hmem =>
    have hlt := List.idxOf_lt_length_of_mem hmem
    rw [rank, List.getElem?_eq_getElem hlt, List.getElem_idxOf]
  case isFalse hmem =>
    rw [rank, List.idxOf_eq_length hmem, List.getElem?_eq_none (Nat.le_refl _)]

/-- The rank and the name of a state tell all problems apart. -/
theorem eq_of_rank_eq {p q : Problem} (hrank : p.rank = q.rank)
    (hname : p.stateName.getD "" = q.stateName.getD "") : p = q := by
  have hfound := fixed_getElem?_rank p
  rw [hrank, fixed_getElem?_rank q] at hfound
  rcases mem_fixed_or_stateName p with hp | ⟨s, rfl⟩
  · have hq : q ∈ fixed ∧ p = q := by simpa [hp, eq_comm] using hfound
    exact hq.2
  · rcases mem_fixed_or_stateName q with hq | ⟨t, rfl⟩
    · have hp : otherState s ∉ fixed := by simp [fixed]
      rw [if_pos hq, if_neg hp] at hfound
      cases hfound
    · simpa [stateName] using hname

instance : Std.TransCmp (compare : Problem → Problem → Ordering) :=
  inferInstanceAs (Std.TransCmp (compareLex _ _))

instance : Std.LawfulEqCmp (compare : Problem → Problem → Ordering) where
  eq_of_compare := by
    intro p q h
    obtain ⟨hrank, hname⟩ := Ordering.then_eq_eq.mp h
    exact eq_of_rank_eq (Std.LawfulEqCmp.eq_of_compare hrank)
      (Std.LawfulEqCmp.eq_of_compare hname)

end Problem

/-- A class of copysets: all of them, the healthy ones, or those with one problem. -/
inductive Classification where
  /-- Every observed copyset, whatever its health. -/
  | total
  | healthy
  | problem (problem : Problem)
  deriving DecidableEq, Repr, Inhabited

namespace Classification

/-- Whether a class holds the copysets of one problem. -/
def isProblem : Classification → Bool
  | .problem _ => true
  | _ => false

/-- The words for a class. -/
def words : Classification → String
  | .total => "total"
  | .healthy => "healthy"
  | .problem p => p.words

/-- The class of a copyset that has a problem or none. -/
def ofProblem? : Option Problem → Classification
  | none => .healthy
  | some p => .problem p

end Classification

end CopysetWatch
