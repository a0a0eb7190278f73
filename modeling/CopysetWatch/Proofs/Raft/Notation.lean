import CopysetWatch.Proofs.Text.Cutting
import CopysetWatch.Proofs.Text.Joining
import CopysetWatch.Proofs.Text.Numerals
import CopysetWatch.Raft.LogId
import CopysetWatch.Raft.Replicator

/-!
# Notations of log positions and replicators

A log position is written in two ways, and what a leader says of a follower is either how far
replication has come, perhaps with words about other things, or one word that mentions a snapshot.
However they are written, reading them gives back what was meant.
-/

namespace CopysetWatch.Raft

/-! ### Log positions -/

/-- How a log position is written. -/
inductive LogNotation where
  /-- The term and the index. -/
  | plain
  /-- The index and the term in parentheses. -/
  | parenthesized
  deriving DecidableEq, Repr

/-- The text of a log position. -/
def LogNotation.text (id : LogId) : LogNotation → String
  | .plain => "term=" ++ id.term.toNat.repr ++ ",index=" ++ id.index.toNat.repr
  | .parenthesized => "(index=" ++ id.index.toNat.repr ++ ",term=" ++ id.term.toNat.repr ++ ")"

/-- The text of a log position is a word. -/
theorem LogNotation.isWord_text (id : LogId) (written : LogNotation) :
    Text.IsWord (written.text id) := by
  have hdigits (value : UInt64) : Text.IsWord value.toNat.repr := Text.isWord_repr _
  cases written with
  | plain =>
    have hterm : Text.IsWord "term=" := by decide
    have hindex : Text.IsWord ",index=" := by decide
    exact ((hterm.append (hdigits _)).append hindex).append (hdigits _)
  | parenthesized =>
    have hindex : Text.IsWord "(index=" := by decide
    have hterm : Text.IsWord ",term=" := by decide
    have hclosing : Text.IsWord ")" := by decide
    exact (((hindex.append (hdigits _)).append hterm).append (hdigits _)).append hclosing

namespace LogId

/-- A character that stands neither around nor between the parts of a log position. -/
def IsInner (c : Char) : Prop :=
  ¬Text.isBlank c ∧ c ≠ '(' ∧ c ≠ ')' ∧ c ≠ ','

instance : DecidablePred IsInner := fun c =>
  inferInstanceAs (Decidable (¬Text.isBlank c ∧ c ≠ '(' ∧ c ≠ ')' ∧ c ≠ ','))

/-- A text with the parentheses and, around these, the blanks that can be taken off it: all
parentheses that open it and all that close it. -/
inductive Encloses (inner : List Char) : List Char → Prop
  | mk {before opening closing behind : List Char} (hbefore : ∀ c ∈ before, Text.isBlank c)
      (hopening : ∀ c ∈ opening, c = '(') (hclosing : ∀ c ∈ closing, c = ')')
      (hbehind : ∀ c ∈ behind, Text.isBlank c)
      (htrimmed : Text.trim (opening ++ inner ++ closing) = opening ++ inner ++ closing)
      (hfirst : inner.head? ≠ some '(') (hlast : inner.getLast? ≠ some ')') :
      Encloses inner (before ++ (opening ++ inner ++ closing) ++ behind)

/-- What blanks and parentheses enclose is found. -/
theorem Encloses.body_eq {inner text : List Char} (h : Encloses inner text) :
    body text = inner := by
  cases h with
  | @mk before opening closing behind hbefore hopening hclosing hbehind htrimmed hfirst hlast =>
    have hfront : (inner ++ closing).dropWhile (· == '(') = inner ++ closing := by
      apply List.dropWhile_beq_eq_self_of_head?_ne
      cases inner with
      | nil =>
        intro hhead
        exact absurd (hclosing _ (List.mem_of_mem_head? hhead)) (by decide)
      | cons c rest => exact hfirst
    have hback : inner.reverse.dropWhile (· == ')') = inner.reverse := by
      apply List.dropWhile_beq_eq_self_of_head?_ne
      rwa [List.head?_reverse]
    rw [body, Text.trim_append_right hbehind, Text.trim_append_left hbefore, htrimmed,
      List.append_assoc, List.dropWhile_append_of_pos (by simpa using hopening), hfront,
      Text.dropTrailing, List.reverse_append,
      List.dropWhile_append_of_pos (by simpa using hclosing), hback, List.reverse_reverse]

/-- What is found is enclosed by blanks and parentheses. -/
theorem encloses_body (text : List Char) : Encloses (body text) text := by
  obtain ⟨before, behind, hbefore, hbehind, htext⟩ := Text.exists_eq_append_trim text
  let opening := (Text.trim text).takeWhile (· == '(')
  let rest := (Text.trim text).dropWhile (· == '(')
  let closing := rest.rtakeWhile (· == ')')
  have hrest : body text ++ closing = rest := List.rdropWhile_append_rtakeWhile
  have hcore : opening ++ body text ++ closing = Text.trim text := by
    rw [List.append_assoc, hrest]
    exact List.takeWhile_append_dropWhile
  have hopening : ∀ c ∈ opening, c = '(' := by
    intro c hc
    simpa using List.mem_takeWhile_imp hc
  have hclosing : ∀ c ∈ closing, c = ')' := by
    intro c hc
    simpa using List.mem_rtakeWhile_imp hc
  have hfirst : (body text).head? ≠ some '(' := by
    intro hhead
    have hopens : '(' ∈ rest.head? := by rw [← hrest, List.head?_append, hhead, Option.some_or]; rfl
    exact absurd (Text.not_of_mem_head?_dropWhile hopens) (by decide)
  have hlast : (body text).getLast? ≠ some ')' := fun hend =>
    absurd (Text.not_of_mem_getLast?_rdropWhile hend) (by decide)
  have hencloses := Encloses.mk hbefore hopening hclosing hbehind (by rw [hcore, Text.trim_trim])
    hfirst hlast
  rwa [hcore, ← htext] at hencloses

/-- The text of a log position is found between its parentheses. -/
theorem body_append {opening inner closing : List Char} (hopening : ∀ c ∈ opening, c = '(')
    (hinner : ∀ c ∈ inner, ¬Text.isBlank c ∧ c ≠ '(' ∧ c ≠ ')')
    (hclosing : ∀ c ∈ closing, c = ')') :
    body (opening ++ inner ++ closing) = inner := by
  have htrim : Text.trim (opening ++ inner ++ closing) = opening ++ inner ++ closing := by
    apply Text.trim_of_forall_not_isBlank
    intro c hc
    rw [List.mem_append, List.mem_append] at hc
    rcases hc with (hc | hc) | hc
    · rw [hopening c hc]
      decide
    · exact (hinner c hc).1
    · rw [hclosing c hc]
      decide
  have hencloses := Encloses.mk (List.forall_mem_nil _) hopening hclosing (List.forall_mem_nil _)
    htrim (fun hhead => (hinner _ (List.mem_of_mem_head? hhead)).2.1 rfl)
    (fun hend => (hinner _ (List.mem_of_mem_getLast? hend)).2.2 rfl)
  rw [List.nil_append, List.append_nil] at hencloses
  exact hencloses.body_eq

/-- A key of inner characters, in which no equals sign stands. -/
def IsKey (key : String) : Prop :=
  ∀ c ∈ key.toList, IsInner c ∧ c ≠ '='

instance : DecidablePred IsKey := fun key =>
  decidable_of_iff (key.toList.all fun c => decide (IsInner c ∧ c ≠ '=')) (by simp [IsKey])

/-- A key and its value, with an equals sign between them. -/
def assigned (key : String) (value : UInt64) : List Char :=
  key.toList ++ '=' :: value.toNat.repr.toList

/-- An assignment consists of inner characters. -/
theorem isInner_of_mem_assigned {key : String} (hkey : IsKey key) {value : UInt64} {c : Char}
    (hc : c ∈ assigned key value) : IsInner c := by
  rcases List.mem_append.mp hc with hc | hc
  · exact (hkey c hc).1
  · rcases List.mem_cons.mp hc with rfl | hc
    · decide
    · have hdigit := Text.isDigit_of_mem_repr hc
      refine ⟨Text.not_isBlank_of_isDigit hdigit, ?_, ?_, ?_⟩
      all_goals
        rintro rfl
        exact absurd hdigit (by decide)

/-- Two assignments with a comma between them are two parts. -/
theorem parts_assigned {key key' : String} (hkey : IsKey key) (hkey' : IsKey key')
    (value value' : UInt64) :
    parts (assigned key value ++ ',' :: assigned key' value') =
      some [(key.toList, value.toNat.repr.toList), (key'.toList, value'.toNat.repr.toList)] := by
  have hcomma {key : String} (hkey : IsKey key) (value : UInt64) :
      ∀ c ∈ assigned key value, (c == ',') = false := fun c hc =>
    beq_false_of_ne (isInner_of_mem_assigned hkey hc).2.2.2
  have hequals {key : String} (hkey : IsKey key) : '=' ∉ key.toList :=
    fun hc => (hkey '=' hc).2 rfl
  rw [parts, Text.pieces_eq_splitOnP,
    List.splitOnP_append_cons_of_forall_mem (hcomma hkey value) ',' rfl,
    List.splitOnP_eq_singleton (hcomma hkey' value')]
  simp [assigned, Text.cut_singleton_append (hequals hkey),
    Text.cut_singleton_append (hequals hkey')]

/-- The values of a key are those that are assigned to it. -/
theorem numeralsOf_map (key : String) {assignments : List (String × UInt64)}
    (hkeys : ∀ a ∈ assignments, IsKey a.1) :
    numeralsOf key.toList
        (assignments.map fun a => (a.1.toList, a.2.toNat.repr.toList)) =
      some ((assignments.filter fun a => a.1 == key).map Prod.snd) := by
  induction assignments with
  | nil => rfl
  | cons a rest ih =>
    rw [List.forall_mem_cons] at hkeys
    have hread : Text.readUInt64 (Text.trim a.2.toNat.repr.toList) = .ok a.2 := by
      rw [(Text.isWord_repr _).isPhrase.trimmed, Text.readUInt64_repr]
    have hsame : (Text.trim a.1.toList == key.toList) = (a.1 == key) := by
      rw [Text.trim_of_forall_not_isBlank fun c hc => (hkeys.1 c hc).1.1, Bool.eq_iff_iff,
        beq_iff_eq, beq_iff_eq, String.toList_inj]
    rw [numeralsOf] at ih ⊢
    rw [List.map_cons, List.filter_cons, List.filter_cons, hsame]
    cases a.1 == key with
    | false => exact ih hkeys.2
    | true =>
      simp only [if_true, List.mapM_cons, hread, ih hkeys.2]
      rfl

/-- A log position is read from two assignments, with or without parentheses. -/
theorem parse_of_assigned {text : String} (a b : String × UInt64) {opening closing : List Char}
    (hopening : ∀ c ∈ opening, c = '(') (hclosing : ∀ c ∈ closing, c = ')') (ha : IsKey a.1)
    (hb : IsKey b.1)
    (htext : text.toList =
      opening ++ (assigned a.1 a.2 ++ ',' :: assigned b.1 b.2) ++ closing) :
    LogId.parse text = do
      return ⟨← (([a, b].filter fun a => a.1 == "term").map Prod.snd).getLast?,
        ← (([a, b].filter fun a => a.1 == "index").map Prod.snd).getLast?⟩ := by
  have hinner : ∀ c ∈ assigned a.1 a.2 ++ ',' :: assigned b.1 b.2,
      ¬Text.isBlank c ∧ c ≠ '(' ∧ c ≠ ')' := by
    intro c hc
    rw [List.mem_append, List.mem_cons] at hc
    rcases hc with hc | rfl | hc
    · have h := isInner_of_mem_assigned ha hc
      exact ⟨h.1, h.2.1, h.2.2.1⟩
    · decide
    · have h := isInner_of_mem_assigned hb hc
      exact ⟨h.1, h.2.1, h.2.2.1⟩
  have hkeys : ∀ other ∈ [a, b], IsKey other.1 := by
    simp [ha, hb]
  have hnumerals (key : String) := numeralsOf_map key hkeys
  rw [LogId.parse, htext, body_append hopening hinner hclosing, parts_assigned ha hb]
  simp only [List.map_cons, List.map_nil] at hnumerals
  simp only [Option.bind_eq_bind, Option.bind_some, hnumerals]

/-- A log position is read from either notation. -/
theorem parse_text (id : LogId) (written : LogNotation) :
    LogId.parse (written.text id) = some id := by
  have hterm : IsKey "term" := by decide
  have hindex : IsKey "index" := by decide
  cases written with
  | plain =>
    have htext : (LogNotation.plain.text id).toList =
        [] ++ (assigned "term" id.term ++ ',' :: assigned "index" id.index) ++ [] := by
      simp [LogNotation.text, assigned]
    exact parse_of_assigned ("term", id.term) ("index", id.index) (by simp) (by simp) hterm
      hindex htext
  | parenthesized =>
    have htext : (LogNotation.parenthesized.text id).toList =
        ['('] ++ (assigned "index" id.index ++ ',' :: assigned "term" id.term) ++ [')'] := by
      simp [LogNotation.text, assigned]
    exact parse_of_assigned ("index", id.index) ("term", id.term) (by simp) (by simp) hindex
      hterm htext

end LogId

/-! ### Replicators -/

/-- What a leader says of a follower. -/
inductive ReplicatorLine where
  /-- How far replication has come, and words about other things. -/
  | progress (nextIndex flying : UInt64) (asides : List String)
  /-- A word that mentions a snapshot. -/
  | marker (word : String)
  deriving DecidableEq, Repr

/-- A word that tells nothing about replication. -/
inductive IsAside : String → Prop
  | assignment {key value : String} (hword : Text.IsWord (key ++ "=" ++ value))
      (hkey : '=' ∉ key.toList) (hnext : key ≠ "next_index")
      (hflying : key ≠ "flying_append_entries_size") : IsAside (key ++ "=" ++ value)
  | bare {word : String} (hword : Text.IsWord word) (hbare : '=' ∉ word.toList)
      (hsilent : ¬"snapshot".toList <:+: word.toList) : IsAside word

namespace ReplicatorLine

/-- The words of a line. -/
def words : ReplicatorLine → List String
  | .progress nextIndex flying asides =>
    ("next_index" ++ "=" ++ nextIndex.toNat.repr) ::
      ("flying_append_entries_size" ++ "=" ++ flying.toNat.repr) :: asides
  | .marker word => [word]

/-- The text of a line. -/
def text (line : ReplicatorLine) : String :=
  " ".intercalate line.words

/-- The replicator that a line reports. -/
def status : ReplicatorLine → Replicator
  | .progress nextIndex flying _ => .replicating nextIndex flying
  | .marker _ => .installingSnapshot

/-- A line that reports a replicator and no other one. -/
inductive WellFormed : ReplicatorLine → Prop
  | progress {nextIndex flying : UInt64} {asides : List String}
      (hasides : ∀ word ∈ asides, IsAside word) : WellFormed (.progress nextIndex flying asides)
  | marker {word : String} (hword : Text.IsWord word) (hbare : '=' ∉ word.toList)
      (hmentions : "snapshot".toList <:+: word.toList) : WellFormed (.marker word)

end ReplicatorLine

theorem IsAside.isWord {word : String} (h : IsAside word) : Text.IsWord word := by
  cases h <;> assumption

/-- The words of a line are words. -/
theorem ReplicatorLine.WellFormed.isWord {line : ReplicatorLine} (h : line.WellFormed) :
    ∀ word ∈ line.words, Text.IsWord word := by
  cases h with
  | progress hasides =>
    have hassigned {key : String} (hkey : Text.IsWord key) (value : UInt64) :
        Text.IsWord (key ++ value.toNat.repr) :=
      hkey.append (Text.isWord_repr _)
    refine List.forall_mem_cons.mpr ⟨hassigned (by decide) _,
      List.forall_mem_cons.mpr ⟨hassigned (by decide) _, fun word hword => ?_⟩⟩
    exact (hasides word hword).isWord
  | marker hword => simpa [ReplicatorLine.words] using hword

namespace Replicator

/-- An assignment is cut at its equals sign. -/
theorem cut_assignment {key : String} (hkey : '=' ∉ key.toList) (value : String) :
    Text.cut ['='] (key ++ "=" ++ value).toList = some (key.toList, value.toList) := by
  rw [String.toList_append, String.toList_append, List.append_assoc]
  exact Text.cut_singleton_append hkey _

section

variable (line : String) (nextIndex : Option UInt64) (flying : UInt64) (rest : List (List Char))

/-- The next index is read off its assignment. -/
theorem ofWords_next_index {value : String} {index : UInt64}
    (hread : Text.readUInt64 value.toList = .ok index) :
    ofWords line nextIndex flying (("next_index" ++ "=" ++ value).toList :: rest) =
      ofWords line (some index) flying rest := by
  rw [ofWords, cut_assignment (by decide)]
  dsimp only
  rw [if_pos rfl, hread]

/-- The number of entries in flight is read off its assignment. -/
theorem ofWords_flying {value : String} {count : UInt64}
    (hread : Text.readUInt64 value.toList = .ok count) :
    ofWords line nextIndex flying
        (("flying_append_entries_size" ++ "=" ++ value).toList :: rest) =
      ofWords line nextIndex count rest := by
  rw [ofWords, cut_assignment (by decide)]
  dsimp only
  rw [if_neg (by decide), if_pos rfl, hread]

/-- A word that assigns nothing and mentions a snapshot ends the reading. -/
theorem ofWords_marker {word : String} (hbare : '=' ∉ word.toList)
    (hmentions : "snapshot".toList <:+: word.toList) :
    ofWords line nextIndex flying (word.toList :: rest) = .installingSnapshot := by
  rw [ofWords, Text.cut_singleton_of_not_mem hbare]
  exact if_pos (Text.mentions_iff_infix.mpr hmentions)

/-- An aside changes nothing. -/
theorem ofWords_aside {word : String} (h : IsAside word) :
    ofWords line nextIndex flying (word.toList :: rest) = ofWords line nextIndex flying rest := by
  rw [ofWords]
  cases h with
  | assignment hword hkey hnext hflying =>
    rw [cut_assignment hkey]
    dsimp only
    rw [if_neg (mt String.toList_inj.mp hnext), if_neg (mt String.toList_inj.mp hflying)]
  | bare hword hbare hsilent =>
    rw [Text.cut_singleton_of_not_mem hbare]
    exact if_neg (mt Text.mentions_iff_infix.mp hsilent)

end

/-- Asides leave it at the progress that was found before them. -/
theorem ofWords_asides {asides : List String} (h : ∀ word ∈ asides, IsAside word) (line : String)
    (nextIndex flying : UInt64) :
    ofWords line (some nextIndex) flying (asides.map String.toList) =
      .replicating nextIndex flying := by
  induction asides with
  | nil => rfl
  | cons word rest ih =>
    rw [List.forall_mem_cons] at h
    rw [List.map_cons, ofWords_aside line _ _ _ h.1, ih h.2]

/-- A line is read as the replicator that it reports. -/
theorem parse_text {line : ReplicatorLine} (h : line.WellFormed) :
    Replicator.parse line.text = line.status := by
  rw [Replicator.parse, ReplicatorLine.text, Text.words_intercalate h.isWord]
  cases h with
  | progress hasides =>
    rw [ReplicatorLine.words, List.map_cons, List.map_cons,
      ofWords_next_index _ _ _ _ (Text.readUInt64_repr _),
      ofWords_flying _ _ _ _ (Text.readUInt64_repr _), ofWords_asides hasides]
    rfl
  | marker hword hbare hmentions => exact ofWords_marker _ _ _ _ hbare hmentions

end Replicator

end CopysetWatch.Raft
