import CopysetWatch.Text.Blank
import CopysetWatch.Text.Numeral
import Std.Data.ExtTreeMap

/-!
# Group ids

A copyset is named across the whole cluster by one 64-bit word that holds its logical pool in
the high half and its number within the pool in the low half. Comparing the words compares the
pools first, so an ascending list of group ids goes pool by pool.
-/

namespace CopysetWatch

/-- The name of a copyset across the whole cluster. -/
structure GroupId where
  /-- The packed word. -/
  raw : UInt64
  deriving DecidableEq, Repr, Inhabited

namespace GroupId

/-- The group id of a copyset within a logical pool. -/
def pack (pool copyset : UInt32) : GroupId :=
  ⟨(pool.toUInt64 <<< 32) ||| copyset.toUInt64⟩

/-- The logical pool of a copyset. -/
def pool (id : GroupId) : UInt32 :=
  (id.raw >>> 32).toUInt32

/-- The number of a copyset within its logical pool. -/
def copyset (id : GroupId) : UInt32 :=
  id.raw.toUInt32

/-- The logical pool of a copyset and its number within it. -/
def unpack (id : GroupId) : UInt32 × UInt32 :=
  (id.pool, id.copyset)

instance : Ord GroupId where
  compare a b := compare a.raw b.raw

theorem compare_def (a b : GroupId) : compare a b = compare a.raw b.raw :=
  rfl

instance : Std.TransCmp (compare : GroupId → GroupId → Ordering) where
  eq_swap := by
    intro a b
    simp only [compare_def]
    exact Std.OrientedCmp.eq_swap
  isLE_trans := by
    intro a b c hab hbc
    simp only [compare_def] at *
    exact Std.TransCmp.isLE_trans hab hbc

instance : Std.LawfulEqCmp (compare : GroupId → GroupId → Ordering) where
  eq_of_compare := by
    intro a b h
    simp only [compare_def] at h
    cases a
    cases b
    exact congrArg GroupId.mk (Std.LawfulEqCmp.eq_of_compare h)

/-- The decimal text of a group id. -/
def text (id : GroupId) : String :=
  id.raw.toNat.repr

/-- The group id a decimal text names; blanks around it are ignored. -/
def parse (text : String) : Except Text.NumeralFault GroupId :=
  (Text.readUInt64 (Text.trim text.toList)).map GroupId.mk

end GroupId

end CopysetWatch
