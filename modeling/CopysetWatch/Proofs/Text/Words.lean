import CopysetWatch.Proofs.Text.Joining

/-!
# The words of a text

Words stand in a text with blanks around them, and between two of them there is at least one. Every
text is such a row of words in just one way, and cutting it at its blanks finds this row.
-/

namespace CopysetWatch.Text

/-- Words in a row, with blanks around and between them. -/
inductive IsSpaced : List String → List Char → Prop
  | nil {blanks : List Char} (hblanks : ∀ c ∈ blanks, isBlank c) : IsSpaced [] blanks
  | cons {blanks rest : List Char} {word : String} {ws : List String}
      (hblanks : ∀ c ∈ blanks, isBlank c) (hword : IsWord word)
      (hend : ∀ c ∈ rest.head?, isBlank c) (h : IsSpaced ws rest) :
      IsSpaced (word :: ws) (blanks ++ word.toList ++ rest)

variable {ws : List String} {text : List Char}

theorem IsSpaced.isWord (h : IsSpaced ws text) : ∀ word ∈ ws, IsWord word := by
  induction h with
  | nil => simp
  | cons _ hword _ _ ih => exact List.forall_mem_cons.mpr ⟨hword, ih⟩

/-- Blanks before a text are passed over. -/
theorem words_append_of_blanks {blanks : List Char} (h : ∀ c ∈ blanks, isBlank c)
    (text : List Char) : words (blanks ++ text) = words text := by
  induction blanks with
  | nil => rfl
  | cons c rest ih =>
    rw [List.forall_mem_cons] at h
    exact (words_append_cons h.1 [] (rest ++ text)).trans (ih h.2)

/-- A word ends at the first blank behind it. -/
theorem words_append_of_isWord {word : String} (hword : IsWord word) {rest : List Char}
    (hend : ∀ c ∈ rest.head?, isBlank c) :
    words (word.toList ++ rest) = word.toList :: words rest := by
  cases rest with
  | nil => rw [List.append_nil, words_of_isWord hword]; rfl
  | cons c rest =>
    have hblank : isBlank c := hend c rfl
    rw [words_append_cons hblank, words_of_isWord hword, List.singleton_append]
    exact congrArg _ (words_append_cons hblank [] rest).symm

/-- Words in a row are found. -/
theorem IsSpaced.words_eq (h : IsSpaced ws text) : words text = ws.map String.toList := by
  induction h with
  | nil hblanks =>
    have hnone := words_append_of_blanks hblanks []
    rwa [List.append_nil] at hnone
  | cons hblanks hword hend _ ih =>
    rw [List.append_assoc, words_append_of_blanks hblanks, words_append_of_isWord hword hend, ih,
      List.map_cons]

/-- Characters that are not blanks are a word if nothing or a blank follows them. -/
theorem IsSpaced.exists_append {rest word : List Char} (h : IsSpaced ws rest) (hne : word ≠ [])
    (hshown : ∀ c ∈ word, ¬isBlank c) (hend : ∀ c ∈ rest.head?, isBlank c) :
    ∃ ws', IsSpaced ws' (word ++ rest) := by
  have hword : IsWord (.ofList word) :=
    ⟨mt String.ofList_eq_empty_iff.mp hne, by rwa [String.toList_ofList]⟩
  have hspaced := IsSpaced.cons (List.forall_mem_nil _) hword hend h
  rw [List.nil_append, String.toList_ofList] at hspaced
  exact ⟨_, hspaced⟩

/-- A character before words in a row belongs to the blanks, begins the first word or is a word. -/
theorem IsSpaced.exists_cons (c : Char) (h : IsSpaced ws text) :
    ∃ ws', IsSpaced ws' (c :: text) := by
  by_cases hc : isBlank c
  case pos =>
    refine ⟨ws, ?_⟩
    have hpush {blanks : List Char} (hblanks : ∀ d ∈ blanks, isBlank d) :
        ∀ d ∈ c :: blanks, isBlank d :=
      List.forall_mem_cons.mpr ⟨hc, hblanks⟩
    cases h with
    | nil hblanks => exact .nil (hpush hblanks)
    | cons hblanks hword hend h => exact .cons (hpush hblanks) hword hend h
  case neg =>
    have halone (hend : ∀ d ∈ text.head?, isBlank d) : ∃ ws', IsSpaced ws' (c :: text) :=
      h.exists_append (List.cons_ne_nil c []) (List.forall_mem_singleton.mpr hc) hend
    cases h with
    | nil hblanks => exact halone fun d hd => hblanks d (List.mem_of_mem_head? hd)
    | @cons blanks rest word ws hblanks hword hend h =>
      cases blanks with
      | cons b blanks =>
        exact halone fun d hd => hblanks d (List.mem_of_mem_head? hd)
      | nil =>
        -- Nothing parts the character from the word, so it becomes the first one of it.
        exact h.exists_append (List.cons_ne_nil c word.toList)
          (List.forall_mem_cons.mpr ⟨hc, hword.not_isBlank⟩) hend

theorem exists_isSpaced (text : List Char) : ∃ ws, IsSpaced ws text := by
  induction text with
  | nil => exact ⟨[], .nil (by simp)⟩
  | cons c rest ih =>
    obtain ⟨ws, h⟩ := ih
    exact h.exists_cons c

/-- A text is words in a row in one way only. -/
theorem IsSpaced.unique {ws' : List String} (h : IsSpaced ws text) (h' : IsSpaced ws' text) :
    ws = ws' := by
  have hsame : ws.map String.toList = ws'.map String.toList := h.words_eq.symm.trans h'.words_eq
  exact List.map_injective_iff.mpr (fun _ _ => String.toList_inj.mp) hsame

/-- What holds of some words in a row holds of those that stand in the text. -/
theorem IsSpaced.exists_and_iff (h : IsSpaced ws text) {P : List String → Prop} :
    (∃ ws', IsSpaced ws' text ∧ P ws') ↔ P ws := by
  refine ⟨?_, fun hws => ⟨ws, h, hws⟩⟩
  rintro ⟨ws', hspaced, hws⟩
  rwa [h.unique hspaced]

end CopysetWatch.Text
