import CopysetWatch.Duration
import CopysetWatch.Proofs.Text.Numerals

/-!
# Durations that are written

The text of a duration is exact to the millisecond, so it is read back as the same duration where
this is a whole number of milliseconds or seconds that fits 64 bits. Every duration that a text
writes is one of these, minutes and hours being counted in seconds.
-/

namespace CopysetWatch.Duration

/-- Whether some text writes a duration. -/
def IsWritten (d : Duration) : Prop :=
  ∃ text, parse text = .value d

/-- Minutes and hours whose seconds fit 64 bits are so many seconds. -/
theorem exists_eq_ofSeconds_of_ofScaled {count : UInt64} {scale : Nat} {d : Duration}
    (h : ofScaled count scale = .value d) : ∃ n : UInt64, d = ofSeconds n.toNat := by
  unfold ofScaled at h
  split at h
  case isTrue hfits =>
    refine ⟨.ofNat (count.toNat * scale), ?_⟩
    rw [UInt64.toNat_ofNat_of_lt' hfits]
    exact (Outcome.value.inj h).symm
  case isFalse => cases h

/-- A duration that a text writes is a number of milliseconds or seconds that fits 64 bits. -/
theorem IsWritten.cases {d : Duration} (h : d.IsWritten) :
    ∃ n : UInt64, d = ofMillis n.toNat ∨ d = ofSeconds n.toNat := by
  obtain ⟨text, h⟩ := h
  unfold parse at h
  dsimp only at h
  split at h
  case h_1 => cases h
  case h_2 count _ =>
    unfold ofUnit at h
    split at h
    · exact ⟨count, .inl (Outcome.value.inj h).symm⟩
    split at h
    · exact ⟨count, .inr (Outcome.value.inj h).symm⟩
    split at h
    · exact (exists_eq_ofSeconds_of_ofScaled h).imp fun _ => .inr
    split at h
    · exact (exists_eq_ofSeconds_of_ofScaled h).imp fun _ => .inr
    · cases h

/-- A numeral and a unit are read as so many of this unit. -/
theorem parse_repr_append {count : UInt64} {unit : String} {d : Duration} (hne : unit ≠ "")
    (hall : unit.toList.all fun c => !Text.isBlank c && !c.isDigit)
    (hd : ∀ text, ofUnit text count unit.toList = .value d) :
    parse (count.toNat.repr ++ unit) = .value d := by
  have hunit : ∀ c ∈ unit.toList, ¬Text.isBlank c ∧ ¬c.isDigit := by simpa using hall
  have hdigits : ∀ c ∈ count.toNat.repr.toList, c.isDigit := fun _ => Text.isDigit_of_mem_repr
  have hend : ∀ c ∈ unit.toList.head?, ¬c.isDigit :=
    fun c hc => (hunit c (List.mem_of_mem_head? hc)).2
  have hbody : Text.trim (count.toNat.repr ++ unit).toList =
      count.toNat.repr.toList ++ unit.toList := by
    rw [String.toList_append]
    refine Text.trim_of_forall_not_isBlank fun c hc => ?_
    obtain hc | hc := List.mem_append.mp hc
    · exact Text.not_isBlank_of_isDigit (hdigits c hc)
    · exact (hunit c hc).1
  have hafter : unitAfter unit.toList = unit.toList := by
    have hnil : unit.toList.isEmpty = false := by simpa using hne
    rw [unitAfter, hnil]
    exact Text.trim_of_forall_not_isBlank fun c hc => (hunit c hc).1
  simp only [parse, hbody, Text.takeWhile_isDigit_append hdigits hend,
    Text.dropWhile_isDigit_append hdigits hend, hafter, Text.readUInt64_repr, hd]

/-- So many seconds are written as such. -/
theorem parse_text_ofSeconds (n : UInt64) :
    parse (ofSeconds n.toNat).text = .value (ofSeconds n.toNat) := by
  have hmillis : (ofSeconds n.toNat).millis = n.toNat * 1000 := by
    change n.toNat * 1000000000 / 1000000 = n.toNat * 1000
    omega
  have htext : (ofSeconds n.toNat).text = n.toNat.repr ++ "s" := by
    rw [text, hmillis, if_pos (Nat.mul_mod_left _ _), Nat.mul_div_cancel _ (by decide)]
  rw [htext]
  exact parse_repr_append (by decide) (by decide) fun _ => rfl

/-- So many milliseconds are written in seconds, if they are whole ones. -/
theorem parse_text_ofMillis (n : UInt64) :
    parse (ofMillis n.toNat).text = .value (ofMillis n.toNat) := by
  have hmillis : (ofMillis n.toNat).millis = n.toNat :=
    Nat.mul_div_cancel _ (by decide)
  by_cases hwhole : n.toNat % 1000 = 0
  · have hseconds : ofMillis n.toNat = ofSeconds (n / 1000).toNat := by
      have hnanos : n.toNat * 1000000 = n.toNat / 1000 * 1000000000 := by omega
      rw [UInt64.toNat_div]
      exact congrArg Duration.mk hnanos
    rw [hseconds]
    exact parse_text_ofSeconds _
  · have htext : (ofMillis n.toNat).text = n.toNat.repr ++ "ms" := by
      rw [text, hmillis, if_neg hwhole]
    rw [htext]
    exact parse_repr_append (by decide) (by decide) fun _ => rfl

/-- **A duration that some text writes is read back from its own text.** -/
theorem IsWritten.parse_text {d : Duration} (h : d.IsWritten) : parse d.text = .value d := by
  obtain ⟨n, rfl | rfl⟩ := h.cases
  · exact parse_text_ofMillis n
  · exact parse_text_ofSeconds n

end CopysetWatch.Duration
