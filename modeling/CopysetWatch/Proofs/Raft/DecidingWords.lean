import CopysetWatch.Proofs.FirstAndLast
import CopysetWatch.Proofs.Raft.Notation
import CopysetWatch.Proofs.Text.Readings
import CopysetWatch.Proofs.Text.Words

/-!
# The word that decides a line

What a leader says of a follower is decided by the first word that mentions a snapshot or assigns no
number where one is due. If there is none, the last next index and the last number of entries in
flight count. All other words are asides: without them, the line says the same.
-/

namespace CopysetWatch.Raft.Replicator

/-- The keys that tell how far replication has come. -/
def progressKeys : List String :=
  ["next_index", "flying_append_entries_size"]

/-- A word that assigns something to a key. -/
def HasKey (key word : String) : Prop :=
  ∃ value, word = key ++ "=" ++ value

/-- A word that assigns a number to a key. -/
def Assigns (key : String) (n : UInt64) (word : String) : Prop :=
  ∃ value, word = key ++ "=" ++ value ∧ Text.IsNumeral n.toNat value.toList

/-- A word that ends the reading of a line. -/
inductive IsDecisive (word : String) : Prop
  | marker (hbare : '=' ∉ word.toList) (hmentions : "snapshot".toList <:+: word.toList)
  | illValued {key value : String} (hkey : key ∈ progressKeys)
      (hword : word = key ++ "=" ++ value)
      (hvalue : ¬∃ n : UInt64, Text.IsNumeral n.toNat value.toList)

/-- The number that a key has after some words, which is the one of the last word with this key. -/
inductive Value (key : String) (ws : List String) : Option UInt64 → Prop
  | none (habsent : ∀ word ∈ ws, ¬HasKey key word) : Value key ws none
  | last {word : String} {n : UInt64} (hlast : IsLast (HasKey key) ws word)
      (hassigns : Assigns key n word) : Value key ws (some n)

/-- What the words of a line say. -/
inductive Verdict (line : String) (ws : List String) : Replicator → Prop
  | decided {word : String} (hfirst : IsFirst IsDecisive ws word) :
      Verdict line ws (if '=' ∈ word.toList then .malformed line else .installingSnapshot)
  | undecided {nextIndex flying : Option UInt64} (hnone : ∀ word ∈ ws, ¬IsDecisive word)
      (hnext : Value "next_index" ws nextIndex)
      (hflying : Value "flying_append_entries_size" ws flying) :
      Verdict line ws (nextIndex.elim (.malformed line) (.replicating · (flying.getD 0)))

/-! ### Kinds of words -/

section

variable {key key' word : String} {n : UInt64}

theorem equals_not_mem_of_mem_progressKeys (h : key ∈ progressKeys) : '=' ∉ key.toList := by
  revert key
  decide

/-- An assignment has one key and one value. -/
theorem assignment_inj {value value' : String} (hkey : '=' ∉ key.toList)
    (hkey' : '=' ∉ key'.toList) (h : key ++ "=" ++ value = key' ++ "=" ++ value') :
    key = key' ∧ value = value' := by
  have hcut := cut_assignment hkey value
  rw [h, cut_assignment hkey' value', Option.some.injEq, Prod.mk.injEq] at hcut
  exact ⟨String.toList_inj.mp hcut.1.symm, String.toList_inj.mp hcut.2.symm⟩

theorem HasKey.equals_mem (h : HasKey key word) : '=' ∈ word.toList := by
  obtain ⟨value, rfl⟩ := h
  simp

/-- A word has one key only. -/
theorem HasKey.unique (h : HasKey key word) (h' : HasKey key' word) (hkey : '=' ∉ key.toList)
    (hkey' : '=' ∉ key'.toList) : key = key' := by
  obtain ⟨value, rfl⟩ := h
  obtain ⟨value', hword⟩ := h'
  exact (assignment_inj hkey hkey' hword).1

theorem Assigns.hasKey (h : Assigns key n word) : HasKey key word := by
  obtain ⟨value, hword, -⟩ := h
  exact ⟨value, hword⟩

/-- A word assigns one number only. -/
theorem Assigns.unique {m : UInt64} (h : Assigns key n word) (h' : Assigns key m word)
    (hkey : '=' ∉ key.toList) : n = m := by
  obtain ⟨value, rfl, hn⟩ := h
  obtain ⟨value', hword, hm⟩ := h'
  obtain ⟨-, rfl⟩ := assignment_inj hkey hkey hword
  rw [← Text.readUInt64_eq_ok_iff] at hn hm
  exact Except.ok.inj (hn.symm.trans hm)

/-- A number that is assigned to a key of progress decides nothing. -/
theorem Assigns.not_isDecisive (h : Assigns key n word) (hkey : key ∈ progressKeys) :
    ¬IsDecisive word := by
  obtain ⟨value, rfl, hn⟩ := h
  rintro (⟨hbare, -⟩ | ⟨hkey', hword, hvalue⟩)
  · exact hbare (by simp)
  · obtain ⟨-, rfl⟩ := assignment_inj (equals_not_mem_of_mem_progressKeys hkey)
      (equals_not_mem_of_mem_progressKeys hkey') hword
    exact hvalue ⟨n, hn⟩

/-- An aside has no key of progress. -/
theorem not_hasKey_of_isAside (h : IsAside word) (hkey : key ∈ progressKeys) :
    ¬HasKey key word := by
  intro hhas
  cases h with
  | assignment hword hother hnext hflying =>
    obtain rfl := HasKey.unique ⟨_, rfl⟩ hhas hother (equals_not_mem_of_mem_progressKeys hkey)
    simp [progressKeys, hnext, hflying] at hkey
  | bare hword hbare => exact hbare hhas.equals_mem

/-- An aside decides nothing. -/
theorem not_isDecisive_of_isAside (h : IsAside word) : ¬IsDecisive word := by
  rintro (⟨hbare, hmentions⟩ | ⟨hkey, hword, -⟩)
  · cases h with
    | assignment => exact hbare (by simp)
    | bare _ _ hsilent => exact hsilent hmentions
  · exact not_hasKey_of_isAside h hkey ⟨_, hword⟩

/-- A word is an aside, decides the line or assigns a number to a key of progress. -/
theorem word_cases (h : Text.IsWord word) :
    IsAside word ∨ IsDecisive word ∨ ∃ key ∈ progressKeys, ∃ n, Assigns key n word := by
  by_cases hequals : '=' ∈ word.toList
  case neg =>
    by_cases hmentions : "snapshot".toList <:+: word.toList
    · exact .inr (.inl (.marker hequals hmentions))
    · exact .inl (.bare h hequals hmentions)
  case pos =>
    obtain ⟨front, back, hsplit, hfront⟩ := List.eq_append_cons_of_mem hequals
    obtain rfl : word = .ofList front ++ "=" ++ .ofList back := by
      rw [← String.toList_inj]
      simp [hsplit]
    have hkey : '=' ∉ (String.ofList front).toList := by rwa [String.toList_ofList]
    by_cases hprogress : .ofList front ∈ progressKeys
    · by_cases hvalue : ∃ n : UInt64, Text.IsNumeral n.toNat (String.ofList back).toList
      · obtain ⟨n, hn⟩ := hvalue
        exact .inr (.inr ⟨_, hprogress, n, _, rfl, hn⟩)
      · exact .inr (.inl (.illValued hprogress rfl hvalue))
    · simp only [progressKeys, List.mem_cons, List.not_mem_nil, or_false, not_or] at hprogress
      exact .inl (.assignment h hkey hprogress.1 hprogress.2)

end

/-! ### Reading word by word -/

section

variable {key line word : String} {ws before rest : List String} {n flying : UInt64}
  {nextIndex : Option UInt64}

theorem Value.unique {m m' : Option UInt64} (h : Value key ws m) (h' : Value key ws m')
    (hkey : '=' ∉ key.toList) : m = m' := by
  cases h with
  | none habsent =>
    cases h' with
    | none => rfl
    | last hlast hassigns => exact absurd hassigns.hasKey (habsent _ hlast.mem)
  | last hlast hassigns =>
    cases h' with
    | none habsent => exact absurd hassigns.hasKey (habsent _ hlast.mem)
    | last hlast' hassigns' =>
      obtain rfl := hlast.unique hlast'
      rw [hassigns.unique hassigns' hkey]

/-- A word with another key, or none, leaves a key its number. -/
theorem Value.concat {m : Option UInt64} (h : Value key ws m) (hword : ¬HasKey key word) :
    Value key (ws ++ [word]) m := by
  cases h with
  | none habsent =>
    refine .none fun other hother => ?_
    rcases List.mem_append.mp hother with hother | hother
    · exact habsent other hother
    · rwa [List.mem_singleton.mp hother]
  | last hlast hassigns => exact .last (hlast.concat hword) hassigns

/-- A word that assigns a number to a key sets its number. -/
theorem Assigns.value_concat (h : Assigns key n word) (ws : List String) :
    Value key (ws ++ [word]) (some n) :=
  .last (isLast_concat h.hasKey) h

/-- What has been found when some words are read and none of them decides. -/
structure Found (ws : List String) (nextIndex : Option UInt64) (flying : UInt64) : Prop where
  undecided : ∀ word ∈ ws, ¬IsDecisive word
  nextIndex : Value "next_index" ws nextIndex
  flying : ∃ count : Option UInt64, Value "flying_append_entries_size" ws count ∧
    flying = count.getD 0

theorem found_nil : Found [] none 0 where
  undecided := by simp
  nextIndex := .none (by simp)
  flying := ⟨none, .none (by simp), rfl⟩

theorem Found.undecided_concat (h : Found ws nextIndex flying) (hword : ¬IsDecisive word) :
    ∀ other ∈ ws ++ [word], ¬IsDecisive other := by
  intro other hother
  rcases List.mem_append.mp hother with hother | hother
  · exact h.undecided other hother
  · rwa [List.mem_singleton.mp hother]

theorem Found.aside (h : Found ws nextIndex flying) (hword : IsAside word) :
    Found (ws ++ [word]) nextIndex flying := by
  obtain ⟨count, hcount, hflying⟩ := h.flying
  exact ⟨h.undecided_concat (not_isDecisive_of_isAside hword),
    h.nextIndex.concat (not_hasKey_of_isAside hword (by decide)),
    count, hcount.concat (not_hasKey_of_isAside hword (by decide)), hflying⟩

theorem Found.next_index (h : Found ws nextIndex flying) (hword : Assigns "next_index" n word) :
    Found (ws ++ [word]) (some n) flying := by
  obtain ⟨count, hcount, hflying⟩ := h.flying
  have hother : ¬HasKey "flying_append_entries_size" word := fun hkey =>
    absurd (hkey.unique hword.hasKey (by decide) (by decide)) (by decide)
  exact ⟨h.undecided_concat (hword.not_isDecisive (by decide)), hword.value_concat ws,
    count, hcount.concat hother, hflying⟩

theorem Found.flying_size (h : Found ws nextIndex flying)
    (hword : Assigns "flying_append_entries_size" n word) : Found (ws ++ [word]) nextIndex n := by
  have hother : ¬HasKey "next_index" word := fun hkey =>
    absurd (hkey.unique hword.hasKey (by decide) (by decide)) (by decide)
  exact ⟨h.undecided_concat (hword.not_isDecisive (by decide)), h.nextIndex.concat hother,
    some n, hword.value_concat ws, rfl⟩

/-- A word that decides ends the reading, as malformed if it assigns something. -/
theorem ofWords_decisive (line : String) (nextIndex : Option UInt64) (flying : UInt64)
    (rest : List (List Char)) (h : IsDecisive word) :
    ofWords line nextIndex flying (word.toList :: rest) =
      if '=' ∈ word.toList then .malformed line else .installingSnapshot := by
  cases h with
  | marker hbare hmentions => rw [ofWords_marker _ _ _ _ hbare hmentions, if_neg hbare]
  | @illValued key value hkey hword hvalue =>
    subst hword
    rw [if_pos (by simp), ofWords, cut_assignment (equals_not_mem_of_mem_progressKeys hkey)]
    dsimp only
    cases hread : Text.readUInt64 value.toList with
    | ok n => exact absurd ⟨n, Text.readUInt64_eq_ok_iff.mp hread⟩ hvalue
    | error f =>
      simp only [progressKeys, List.mem_cons, List.not_mem_nil, or_false] at hkey
      rcases hkey with rfl | rfl <;> simp

/-- What is found when the rest of the words is read, too. -/
theorem Found.verdict (h : Found before nextIndex flying)
    (hrest : ∀ word ∈ rest, Text.IsWord word) (line : String) :
    Verdict line (before ++ rest) (ofWords line nextIndex flying (rest.map String.toList)) := by
  -- A word that does not decide goes over to those read before, so `Found` carries the induction.
  induction rest generalizing before nextIndex flying with
  | nil =>
    obtain ⟨count, hcount, rfl⟩ := h.flying
    rw [List.append_nil]
    cases nextIndex <;> exact .undecided h.undecided h.nextIndex hcount
  | cons word rest ih =>
    rw [List.forall_mem_cons] at hrest
    have hnext {nextIndex : Option UInt64} {flying : UInt64}
        (hfound : Found (before ++ [word]) nextIndex flying) :
        Verdict line (before ++ word :: rest)
          (ofWords line nextIndex flying (rest.map String.toList)) := by
      rw [List.append_cons]
      exact ih hfound hrest.2
    rw [List.map_cons]
    rcases word_cases hrest.1 with haside | hdecisive | ⟨key, hkey, n, hassigns⟩
    · rw [ofWords_aside line _ _ _ haside]
      exact hnext (h.aside haside)
    · rw [ofWords_decisive line _ _ _ hdecisive]
      exact .decided ⟨hdecisive, before, rest, rfl, h.undecided⟩
    · simp only [progressKeys, List.mem_cons, List.not_mem_nil, or_false] at hkey
      rcases hkey with rfl | rfl
      · have hfound := hnext (h.next_index hassigns)
        obtain ⟨value, rfl, hn⟩ := hassigns
        rwa [ofWords_next_index _ _ _ _ (Text.readUInt64_eq_ok_iff.mpr hn)]
      · have hfound := hnext (h.flying_size hassigns)
        obtain ⟨value, rfl, hn⟩ := hassigns
        rwa [ofWords_flying _ _ _ _ (Text.readUInt64_eq_ok_iff.mpr hn)]

/-- Words say one thing only. -/
theorem Verdict.unique {r r' : Replicator} (h : Verdict line ws r) (h' : Verdict line ws r') :
    r = r' := by
  cases h with
  | decided hfirst =>
    cases h' with
    | decided hfirst' => rw [hfirst.unique hfirst']
    | undecided hnone => exact absurd hfirst.1 (hnone _ hfirst.mem)
  | undecided hnone hnext hflying =>
    cases h' with
    | decided hfirst => exact absurd hfirst.1 (hnone _ hfirst.mem)
    | undecided _ hnext' hflying' =>
      rw [hnext.unique hnext' (by decide), hflying.unique hflying' (by decide)]

theorem verdict_iff (h : ∀ word ∈ ws, Text.IsWord word) {r : Replicator} :
    Verdict line ws r ↔ ofWords line none 0 (ws.map String.toList) = r := by
  have hverdict := found_nil.verdict h line
  refine ⟨fun hother => hverdict.unique hother, ?_⟩
  rintro rfl
  exact hverdict

end

/-- Reading goes on in the same way behind a word. -/
theorem ofWords_cons_congr {line : String} {rest rest' : List (List Char)}
    (h : ∀ nextIndex flying,
      ofWords line nextIndex flying rest = ofWords line nextIndex flying rest')
    (word : List Char) (nextIndex : Option UInt64) (flying : UInt64) :
    ofWords line nextIndex flying (word :: rest) =
      ofWords line nextIndex flying (word :: rest') := by
  simp only [ofWords, h]

open scoped Classical in
/-- Without the asides among them, words are read alike. -/
theorem ofWords_filter (line : String) (ws : List String) (nextIndex : Option UInt64)
    (flying : UInt64) :
    ofWords line nextIndex flying ((ws.filter fun word => ¬IsAside word).map String.toList) =
      ofWords line nextIndex flying (ws.map String.toList) := by
  induction ws generalizing nextIndex flying with
  | nil => rfl
  | cons word rest ih =>
    by_cases haside : IsAside word
    · rw [List.filter_cons_of_neg (by simpa using haside), List.map_cons,
        ofWords_aside line _ _ _ haside, ih]
    · rw [List.filter_cons_of_pos (by simpa using haside), List.map_cons, List.map_cons]
      exact ofWords_cons_congr ih _ _ _

open scoped Classical in
/-- **The first deciding word settles a line, and asides never matter.** If a word of the line
assigns nothing and mentions a snapshot, or assigns what is no number of 64 bits to the next index
or the entries in flight, the first such word decides: a snapshot is being installed, or the line is
malformed. Otherwise the last next index and the last number of entries in flight count, the latter
being zero if it is not told, and without a next index the line is malformed. The words say the same
without those among them that are about other things. -/
theorem parse_eq_iff_verdict (line : String) (r : Replicator) :
    (parse line = r ↔ ∃ ws, Text.IsSpaced ws line.toList ∧ Verdict line ws r) ∧
    (parse line = r ↔ ∃ ws, Text.IsSpaced ws line.toList ∧
      Verdict line (ws.filter fun word => ¬IsAside word) r) := by
  obtain ⟨ws, hspaced⟩ := Text.exists_isSpaced line.toList
  have hwords := hspaced.isWord
  have hparse : parse line = ofWords line none 0 (ws.map String.toList) := by
    rw [parse, hspaced.words_eq]
  constructor
  · rw [hspaced.exists_and_iff, verdict_iff hwords, hparse]
  · have hkept : ∀ word ∈ ws.filter fun word => ¬IsAside word, Text.IsWord word :=
      fun word hword => hwords word (List.mem_of_mem_filter hword)
    rw [hspaced.exists_and_iff, verdict_iff hkept, ofWords_filter, hparse]

/-- A marker settles a line before a wrong number, but not behind one. -/
example : parse "hc=10 installing snapshot next_index=x" = .installingSnapshot ∧
    parse "next_index=x snapshot" = .malformed "next_index=x snapshot" := by
  decide +kernel

end CopysetWatch.Raft.Replicator
