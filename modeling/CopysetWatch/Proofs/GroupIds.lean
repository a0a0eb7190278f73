import CopysetWatch.GroupId
import CopysetWatch.Proofs.Text.Decimals
import Mathlib.Algebra.Group.Nat.Defs
import Mathlib.Data.UInt
import Mathlib.Logic.Function.Basic

/-!
# Group ids as pairs, words and texts

A group id is a pool and a number within it, a word of 64 bits and a decimal. Each of these
determines the others: every word holds one pair, words are in the order of their pairs, pools
first, and a text is read as a group id exactly if it writes the word, with blanks around it or
without.
-/

namespace CopysetWatch.GroupId

/-! ### Pairs and words -/

/-- The pool is the high half of the word. -/
theorem toNat_pool (id : GroupId) : id.pool.toNat = id.raw.toNat / 2 ^ 32 := by
  have hhigh : (id.raw >>> 32).toNat = id.raw.toNat / 2 ^ 32 := by
    rw [UInt64.toNat_shiftRight]
    exact Nat.shiftRight_eq_div_pow id.raw.toNat 32
  have hraw := id.raw.toNat_lt
  rw [pool, UInt64.toNat_toUInt32, hhigh]
  omega

/-- The number within the pool is the low half of the word. -/
theorem toNat_copyset (id : GroupId) : id.copyset.toNat = id.raw.toNat % 2 ^ 32 :=
  UInt64.toNat_toUInt32 id.raw

/-- A pool and a number within it are packed side by side. -/
theorem toNat_raw_pack (pool copyset : UInt32) :
    (pack pool copyset).raw.toNat = pool.toNat * 2 ^ 32 + copyset.toNat := by
  have hpool := pool.toNat_lt
  have hhigh : (pool.toUInt64 <<< 32).toNat = pool.toNat <<< 32 := by
    rw [UInt64.toNat_shiftLeft, UInt32.toNat_toUInt64]
    refine Nat.mod_eq_of_lt (?_ : pool.toNat <<< 32 < 2 ^ 64)
    rw [Nat.shiftLeft_eq]
    omega
  -- The halves share no bit, so that `|||` adds them.
  calc (pack pool copyset).raw.toNat = pool.toNat <<< 32 ||| copyset.toNat := by
        rw [pack, UInt64.toNat_or, hhigh, UInt32.toNat_toUInt64]
    _ = pool.toNat <<< 32 + copyset.toNat :=
      (Nat.shiftLeft_add_eq_or_of_lt copyset.toNat_lt pool.toNat).symm
    _ = pool.toNat * 2 ^ 32 + copyset.toNat := by rw [Nat.shiftLeft_eq]

/-- A packed group id holds its logical pool. -/
theorem pool_pack (pool copyset : UInt32) : (pack pool copyset).pool = pool := by
  have hlow := copyset.toNat_lt
  rw [← UInt32.toNat_inj, toNat_pool, toNat_raw_pack]
  omega

/-- A packed group id holds its number within the pool. -/
theorem copyset_pack (pool copyset : UInt32) : (pack pool copyset).copyset = copyset := by
  have hlow := copyset.toNat_lt
  rw [← UInt32.toNat_inj, toNat_copyset, toNat_raw_pack]
  omega

/-- Unpacking gives back what was packed. -/
theorem unpack_pack (pool copyset : UInt32) : (pack pool copyset).unpack = (pool, copyset) := by
  rw [unpack, pool_pack, copyset_pack]

/-- Every group id is packed from what it unpacks to. -/
theorem pack_pool_copyset (id : GroupId) : pack id.pool id.copyset = id := by
  have hraw : (pack id.pool id.copyset).raw = id.raw := by
    rw [← UInt64.toNat_inj, toNat_raw_pack, toNat_pool, toNat_copyset]
    omega
  cases id
  exact congrArg GroupId.mk hraw

/-- Each word is packed from one pair. -/
theorem bijective_raw_pack :
    Function.Bijective fun halves : UInt32 × UInt32 => (pack halves.1 halves.2).raw := by
  constructor
  · intro halves halves' hraw
    have hid : pack halves.1 halves.2 = pack halves'.1 halves'.2 := congrArg GroupId.mk hraw
    rw [← Prod.eta halves, ← unpack_pack, hid, unpack_pack]
  · intro raw
    exact ⟨(⟨raw⟩ : GroupId).unpack, congrArg GroupId.raw (pack_pool_copyset ⟨raw⟩)⟩

/-- Of numbers that are put together from halves, the high halves are compared first. -/
theorem compare_halves {high low high' low' : Nat} (hlow : low < 2 ^ 32) (hlow' : low' < 2 ^ 32) :
    compare (high * 2 ^ 32 + low) (high' * 2 ^ 32 + low') =
      (compare high high').then (compare low low') := by
  rcases Nat.lt_trichotomy high high' with hhigh | rfl | hhigh
  · have hless : high * 2 ^ 32 + low < high' * 2 ^ 32 + low' := by omega
    rw [Nat.compare_eq_lt.mpr hhigh, Nat.compare_eq_lt.mpr hless, Ordering.lt_then]
  · rw [Nat.compare_eq_eq.mpr rfl, Ordering.eq_then, Nat.compare_eq_ite_lt, Nat.compare_eq_ite_lt]
    simp only [Nat.add_lt_add_iff_left]
  · have hmore : high' * 2 ^ 32 + low' < high * 2 ^ 32 + low := by omega
    rw [Nat.compare_eq_gt.mpr hhigh, Nat.compare_eq_gt.mpr hmore, Ordering.gt_then]

/-- Group ids go pool by pool, and within a pool by their numbers. -/
theorem compare_eq_then (a b : GroupId) :
    compare a b = (compare a.pool b.pool).then (compare a.copyset b.copyset) := by
  have hraw (id : GroupId) : id.raw.toNat = id.pool.toNat * 2 ^ 32 + id.copyset.toNat := by
    rw [← toNat_raw_pack, pack_pool_copyset]
  calc compare a b = compare a.raw.toNat b.raw.toNat := UInt64.compare_eq_toNat_compare_toNat _ _
    _ = (compare a.pool.toNat b.pool.toNat).then (compare a.copyset.toNat b.copyset.toNat) := by
      rw [hraw a, hraw b, compare_halves a.copyset.toNat_lt b.copyset.toNat_lt]
    _ = (compare a.pool b.pool).then (compare a.copyset b.copyset) := by
      rw [UInt32.compare_eq_toNat_compare_toNat, UInt32.compare_eq_toNat_compare_toNat]

/-! ### Words and texts -/

/-- The text of a group id is a word. -/
theorem isWord_text (id : GroupId) : Text.IsWord id.text :=
  Text.isWord_repr _

/-- A text is read as the group id whose word it writes. -/
theorem parse_eq_ok_iff {text : String} {id : GroupId} :
    parse text = .ok id ↔ Text.IsNumeral id.raw.toNat (Text.trim text.toList) := by
  rw [← Text.readUInt64_eq_ok_iff, parse]
  cases Text.readUInt64 (Text.trim text.toList) with
  | error fault => exact ⟨nofun, nofun⟩
  | ok raw =>
    constructor
    · intro h
      rw [← Except.ok.inj h]
    · intro h
      rw [Except.ok.inj h]
      rfl

/-- The text of a group id is read as this group id. -/
theorem parse_text (id : GroupId) : parse id.text = .ok id := by
  rw [parse_eq_ok_iff, id.isWord_text.isPhrase.trimmed]
  exact .inl (Text.isDecimal_repr id.raw.toNat).toIsDigits

/-- Blanks around a text do not matter. -/
theorem parse_append_append {before behind : String}
    (hblanks : ∀ c ∈ before.toList ++ behind.toList, Text.isBlank c) (text : String) :
    parse (before ++ text ++ behind) = parse text := by
  rw [List.forall_mem_append] at hblanks
  rw [parse, parse, String.toList_append, String.toList_append,
    Text.trim_append_right hblanks.2, Text.trim_append_left hblanks.1]

/-- **Pairs, words and texts of group ids determine each other.** Packing gives each word of 64 bits
for one pair of 32 bits, and unpacking takes it back. The order of group ids is that of their pairs,
the pool before the number. The text of a group id is read as this group id whatever blanks are
around it, and a text is read as a group id exactly if, once it is trimmed, it writes the word. The
text of a group id is the only decimal of its word without a zero in front that could be dropped. -/
theorem packed_ordered_and_written :
    (Function.Bijective fun halves : UInt32 × UInt32 => (pack halves.1 halves.2).raw) ∧
    (∀ pool copyset, (pack pool copyset).unpack = (pool, copyset)) ∧
    (∀ raw : UInt64, pack (⟨raw⟩ : GroupId).pool (⟨raw⟩ : GroupId).copyset = ⟨raw⟩) ∧
    (∀ a b : GroupId,
      compare a b = (compare a.pool b.pool).then (compare a.copyset b.copyset)) ∧
    (∀ (id : GroupId) (before behind : String),
      (∀ c ∈ before.toList ++ behind.toList, Text.isBlank c) →
      parse (before ++ id.text ++ behind) = .ok id) ∧
    (∀ (text : String) (id : GroupId),
      parse text = .ok id ↔ Text.IsNumeral id.raw.toNat (Text.trim text.toList)) ∧
    ∀ (id : GroupId) (digits : String),
      Text.IsDecimal id.raw.toNat digits.toList ↔ digits = id.text := by
  refine ⟨bijective_raw_pack, unpack_pack, fun raw => pack_pool_copyset ⟨raw⟩, compare_eq_then,
    ?_, fun _ _ => parse_eq_ok_iff, ?_⟩
  · intro id before behind hblanks
    rw [parse_append_append hblanks, parse_text]
  · intro id digits
    rw [Text.isDecimal_iff, String.toList_inj, text]

theorem packed_ordered_and_written_between_blanks :
    (∀ c ∈ "\u3000 ".toList ++ "\t".toList, Text.isBlank c) ∧
      parse ("\u3000 " ++ (pack 1 1).text ++ "\t") = .ok (pack 1 1) := by
  have hblanks : ∀ c ∈ "\u3000 ".toList ++ "\t".toList, Text.isBlank c :=
    List.all_eq_true.mp (by decide)
  obtain ⟨-, -, -, -, hread, -, -⟩ := packed_ordered_and_written
  exact ⟨hblanks, hread (pack 1 1) "\u3000 " "\t" hblanks⟩

end CopysetWatch.GroupId
