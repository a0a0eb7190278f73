import CopysetWatch.Proofs.FirstAndLast
import CopysetWatch.Proofs.Text.Cutting
import CopysetWatch.Proofs.Text.Joining
import CopysetWatch.Raft.StatusPage

/-!
# Blocks of a page

Every header on a page opens a block of its own, which goes on to the next header. The main
statement is that nothing passes from one block to another: pages can be put one behind the other,
there are as many blocks as headers, and the fields of a block are those that its own lines give,
whatever the page holds before and behind them.
-/

namespace CopysetWatch.Raft.StatusPage

/-! ### What a line says -/

/-- A line that stands in square brackets. -/
def IsHeader (line : List Char) : Prop :=
  line.head? = some '[' ∧ line.getLast? = some ']'

instance : DecidablePred IsHeader := fun _ =>
  inferInstanceAs (Decidable (_ ∧ _))

/-- The trimmed text between the brackets of a header. -/
def heading (line : List Char) : String :=
  .ofList (Text.trim line.tail.dropLast)

/-- What a line gives to a key: what stands behind the first colon with a space, or nothing where
the line ends with the colon. -/
inductive Gives : List Char → String → String → Prop
  | something {key : List Char} (h : ¬[':', ' '] <:+: key ++ [':']) (value : List Char) :
      Gives (key ++ [':', ' '] ++ value) (.ofList (Text.trim key)) (.ofList (Text.trim value))
  | nothing {key : List Char} (h : ¬[':', ' '] <:+: key ++ [':']) :
      Gives (key ++ [':']) (.ofList (Text.trim key)) ""

section

variable {line : List Char}

/-- A line has a text between brackets if it is a header. -/
theorem bracketed_eq_some_iff {id : List Char} :
    bracketed line = some id ↔ IsHeader line ∧ id = Text.trim line.tail.dropLast := by
  unfold bracketed
  split
  case h_1 rest =>
    have hlast : ('[' :: rest).getLast? = some ']' ↔ rest.getLast? = some ']' := by
      cases rest <;> simp
    rw [IsHeader, hlast, List.head?_cons, List.tail_cons]
    split <;> simp_all [eq_comm]
  case h_2 hbracket =>
    have hhead : line.head? ≠ some '[' := by
      intro h
      obtain ⟨rest, rfl⟩ := List.head?_eq_some_iff.mp h
      exact hbracket rest rfl
    simp [IsHeader, hhead]

/-- A line without a text between brackets is no header. -/
theorem not_isHeader_of_bracketed_eq_none (h : bracketed line = none) : ¬IsHeader line := by
  intro hheader
  rw [bracketed_eq_some_iff.mpr ⟨hheader, rfl⟩] at h
  cases h

/-- A line has a key and a value if it gives the value to the key. -/
theorem gives_iff {key value : String} :
    Gives line key value ↔
      ∃ front behind, keyed line = some (front, behind) ∧ key = .ofList front ∧
        value = .ofList behind := by
  constructor
  · rintro (⟨h, value⟩ | ⟨h⟩)
    · refine ⟨_, _, ?_, rfl, rfl⟩
      rw [keyed, Text.cut_append h]
    · refine ⟨_, [], ?_, rfl, rfl⟩
      rw [keyed, Text.cut_of_not_infix h]
      simp
  · rintro ⟨front, behind, hkeyed, rfl, rfl⟩
    unfold keyed at hkeyed
    split at hkeyed
    case h_1 before after hcut =>
      cases hkeyed
      obtain ⟨rfl, hfirst⟩ := (Text.cut_eq_some_iff (by simp)).mp hcut
      exact .something hfirst after
    case h_2 hcut =>
      have hnone := Text.cut_eq_none_iff.mp hcut
      split at hkeyed
      case isTrue hcolon =>
        cases hkeyed
        obtain ⟨key, rfl⟩ := List.getLast?_eq_some_iff.mp hcolon
        rw [List.dropLast_concat]
        exact .nothing hnone
      case isFalse => cases hkeyed

/-- A line opens a block if it is a header. -/
theorem read_eq_header_iff {id : String} :
    Line.read line = .header id ↔ IsHeader line ∧ id = heading line := by
  unfold Line.read
  cases hbracketed : bracketed line with
  | some text =>
    obtain ⟨hheader, rfl⟩ := bracketed_eq_some_iff.mp hbracketed
    simp [hheader, heading, eq_comm]
  | none =>
    have hplain := not_isHeader_of_bracketed_eq_none hbracketed
    dsimp only
    split <;> simp [hplain]

/-- A line is read as a field if it is no header and gives the value to the key. -/
theorem read_eq_field_iff {key value : String} :
    Line.read line = .field key value ↔ ¬IsHeader line ∧ Gives line key value := by
  rw [gives_iff]
  unfold Line.read
  cases hbracketed : bracketed line with
  | some text =>
    obtain ⟨hheader, -⟩ := bracketed_eq_some_iff.mp hbracketed
    simp [hheader]
  | none =>
    have hplain := not_isHeader_of_bracketed_eq_none hbracketed
    dsimp only
    split
    case h_1 front behind hkeyed => simp [hplain, hkeyed, eq_comm]
    case h_2 hkeyed => simp [hkeyed]

end

/-! ### Blocks of lines -/

/-- Whether a line opens a block. -/
def Line.opens : Line → Bool
  | .header _ => true
  | _ => false

/-- The fields of a block after some more of its lines. -/
def fill (fields : Fields) : List Line → Fields
  | [] => fields
  | .field key value :: rest => fill (fields.insert key value) rest
  | _ :: rest => fill fields rest

section

variable {lines front rest behind : List Line} {fields : Fields} {key value : String}

/-- An open block ends where the next one is opened. -/
theorem blocksAfter_append (hopens : ∀ line ∈ behind.head?, line.opens) (current : Option Fields) :
    blocksAfter current (front ++ behind) =
      blocksAfter current front ++ blocksAfter none behind := by
  induction front generalizing current with
  | nil =>
    cases behind with
    | nil => exact (List.append_nil _).symm
    | cons line rest =>
      have hline := hopens line rfl
      cases line with
      | header id => rfl
      | field key value => cases hline
      | silent => cases hline
  | cons line front ih =>
    cases line with
    | header id => rw [List.cons_append, blocksAfter, blocksAfter, ih, List.append_assoc]
    | field key value => rw [List.cons_append, blocksAfter, blocksAfter, ih]
    | silent => rw [List.cons_append, blocksAfter, blocksAfter, ih]

/-- Every header adds a block to the one that is open. -/
theorem length_blocksAfter (current : Option Fields) :
    (blocksAfter current lines).length = current.toList.length + lines.countP Line.opens := by
  induction lines generalizing current with
  | nil => simp [blocksAfter]
  | cons line rest ih =>
    rw [List.countP_cons]
    cases line with
    | header id =>
      have hone : (some ((∅ : Fields).insert "groupId" id)).toList.length = 1 := rfl
      rw [blocksAfter, List.length_append, ih, hone, Line.opens, if_pos rfl]
      omega
    | field key value => cases current <;> simp [blocksAfter, ih, Line.opens]
    | silent => simp [blocksAfter, ih, Line.opens]

/-- Up to the next header, lines fill the block that is open. -/
theorem blocksAfter_some (h : ∀ line ∈ lines, ¬line.opens) (fields : Fields) :
    blocksAfter (some fields) lines = [fill fields lines] := by
  induction lines generalizing fields with
  | nil => rfl
  | cons line rest ih =>
    obtain ⟨hline, hrest⟩ := List.forall_mem_cons.mp h
    cases line with
    | header id => exact absurd rfl hline
    | field key value => exact ih hrest _
    | silent => exact ih hrest _

/-- A key to which no line gives anything keeps what it has. -/
theorem getElem?_fill_of_not_mem (h : ∀ other, .field key other ∉ lines) :
    (fill fields lines)[key]? = fields[key]? := by
  induction lines generalizing fields with
  | nil => rfl
  | cons line rest ih =>
    have hrest : ∀ other, .field key other ∉ rest :=
      fun other hmem => h other (List.mem_cons_of_mem _ hmem)
    cases line with
    | header id => exact ih hrest
    | silent => exact ih hrest
    | field other value =>
      have hne : other ≠ key := by
        rintro rfl
        exact h value List.mem_cons_self
      rw [fill, ih hrest, Std.ExtTreeMap.getElem?_insert]
      simp [hne]

/-- The last line that gives something to a key decides. -/
theorem getElem?_fill_last (h : ∀ other, .field key other ∉ rest) :
    (fill fields (front ++ .field key value :: rest))[key]? = some value := by
  induction front generalizing fields with
  | nil =>
    rw [List.nil_append, fill, getElem?_fill_of_not_mem h, Std.ExtTreeMap.getElem?_insert_self]
  | cons line front ih => cases line <;> exact ih

end

/-! ### Blocks of a page -/

/-- The fields of a block with a header and further lines: the last line that gives something to a
key decides what the key has, and otherwise there is only the copyset of the header. -/
structure ShowsBlock (header : List Char) (body : List (List Char)) (fields : Fields) : Prop where
  last : ∀ {front line rest key value}, body = front ++ line :: rest → Gives line key value →
    (∀ later ∈ rest, ∀ other, ¬Gives later key other) → fields[key]? = some value
  groupId : (∀ line ∈ body, ∀ value, ¬Gives line "groupId" value) →
    fields["groupId"]? = some (heading header)
  absent : ∀ {key}, key ≠ "groupId" → (∀ line ∈ body, ∀ value, ¬Gives line key value) →
    fields[key]? = none

section

variable {header : List Char} {body : List (List Char)} {fields others : Fields}

/-- The lines of a block decide about all its fields. -/
theorem ShowsBlock.unique (h : ShowsBlock header body fields)
    (hothers : ShowsBlock header body others) : others = fields := by
  apply Std.ExtTreeMap.ext_getElem?
  intro key
  by_cases hgiven : ∃ line ∈ body, ∃ value, Gives line key value
  · obtain ⟨line, ⟨value, hgives⟩, front, rest, hbody, hlast⟩ := exists_isLast hgiven
    push Not at hlast
    rw [h.last hbody hgives hlast, hothers.last hbody hgives hlast]
  · push Not at hgiven
    by_cases hkey : key = "groupId"
    · subst hkey
      rw [h.groupId hgiven, hothers.groupId hgiven]
    · rw [h.absent hkey hgiven, hothers.absent hkey hgiven]

/-- A line is read as one that opens a block if it is a header. -/
theorem opens_read_iff {line : List Char} : (Line.read line).opens ↔ IsHeader line := by
  constructor
  · intro hopens
    cases hread : Line.read line with
    | header id => exact (read_eq_header_iff.mp hread).1
    | field key value => rw [hread] at hopens; cases hopens
    | silent => rw [hread] at hopens; cases hopens
  · intro hheader
    rw [read_eq_header_iff.mpr ⟨hheader, rfl⟩]
    rfl

/-- As many blocks are opened as there are headers. -/
theorem countP_opens_map_read (lines : List (List Char)) :
    (lines.map Line.read).countP Line.opens = lines.countP (IsHeader ·) := by
  rw [List.countP_map]
  refine List.countP_congr fun line _ => ?_
  simpa using opens_read_iff

/-- A block is filled with what its lines give. -/
theorem showsBlock_fill (hbody : ∀ line ∈ body, ¬IsHeader line) :
    ShowsBlock header body
      (fill ((∅ : Fields).insert "groupId" (heading header)) (body.map Line.read)) := by
  have hgives {lines : List (List Char)} {key : String}
      (h : ∀ line ∈ lines, ∀ value, ¬Gives line key value) (other : String) :
      .field key other ∉ lines.map Line.read := by
    intro hmem
    obtain ⟨line, hline, hread⟩ := List.mem_map.mp hmem
    exact h line hline other (read_eq_field_iff.mp hread).2
  refine ⟨?last, ?groupId, ?absent⟩
  case last =>
    rintro front line rest key value rfl hline hlast
    have hread : Line.read line = .field key value :=
      read_eq_field_iff.mpr ⟨hbody line (by simp), hline⟩
    rw [List.map_append, List.map_cons, hread]
    exact getElem?_fill_last (hgives hlast)
  case groupId =>
    intro hnone
    rw [getElem?_fill_of_not_mem (hgives hnone), Std.ExtTreeMap.getElem?_insert_self]
  case absent =>
    intro key hkey hnone
    rw [getElem?_fill_of_not_mem (hgives hnone), Std.ExtTreeMap.getElem?_insert]
    simp [hkey.symm]

/-- Lines that begin with a header are read as lines that begin with one. -/
theorem opens_head?_map_read {lines : List (List Char)}
    (h : ∀ line ∈ lines.head?, IsHeader line) :
    ∀ line ∈ (lines.map Line.read).head?, line.opens := by
  intro line hline
  rw [List.head?_map] at hline
  obtain ⟨text, htext, rfl⟩ := Option.map_eq_some_iff.mp hline
  exact opens_read_iff.mpr (h text htext)

/-- Pages can be put one behind the other where the second one begins with a header. -/
theorem parse_append {a b : String} (ha : a = "" ∨ a.toList.getLast? = some '\n')
    (hb : ∀ line ∈ (Text.trimmedLines b.toList).head?, IsHeader line) :
    parse (a ++ b) = parse a ++ parse b := by
  have ha' : a.toList = [] ∨ a.toList.getLast? = some '\n' := by simpa using ha
  rw [parse, linesOf, String.toList_append, Text.trimmedLines_append ha', List.map_append,
    blocksAfter_append (opens_head?_map_read hb)]
  rfl

/-- The block of a header stands where as many headers have been before it. -/
theorem getElem?_parse {text : String} {before rest : List (List Char)}
    (hlines : Text.trimmedLines text.toList = before ++ header :: rest)
    (hheader : IsHeader header) :
    ∃ fields, (parse text)[before.countP (IsHeader ·)]? = some fields ∧
      ShowsBlock header (rest.takeWhile fun line => ¬IsHeader line) fields := by
  let body := rest.takeWhile fun line => ¬IsHeader line
  let behind := rest.dropWhile fun line => ¬IsHeader line
  let fields := fill ((∅ : Fields).insert "groupId" (heading header)) (body.map Line.read)
  have hrest : rest = body ++ behind := List.takeWhile_append_dropWhile.symm
  have hbody : ∀ line ∈ body, ¬IsHeader line := by
    intro line hline
    have hkept := List.mem_takeWhile_imp hline
    simpa using hkept
  have hbehind : ∀ line ∈ behind.head?, IsHeader line := by
    intro line hline
    have hfirst : (rest.dropWhile fun line => ¬IsHeader line).head? = some line := hline
    have hstop := List.head?_dropWhile_not (fun line => decide ¬IsHeader line) rest
    rw [hfirst] at hstop
    simpa using hstop
  have hblock : blocksAfter none ((header :: rest).map Line.read) =
      fields :: blocksAfter none (behind.map Line.read) := by
    have hplain : ∀ line ∈ body.map Line.read, ¬line.opens := by
      intro line hline
      obtain ⟨text, htext, rfl⟩ := List.mem_map.mp hline
      exact mt opens_read_iff.mp (hbody text htext)
    rw [List.map_cons, read_eq_header_iff.mpr ⟨hheader, rfl⟩, hrest, List.map_append, blocksAfter,
      blocksAfter_append (opens_head?_map_read hbehind), blocksAfter_some hplain]
    rfl
  have hparse : parse text = blocksAfter none (before.map Line.read) ++
      fields :: blocksAfter none (behind.map Line.read) := by
    have hopens : ∀ line ∈ (header :: rest).head?, IsHeader line := by simpa using hheader
    rw [parse, linesOf, hlines, List.map_append, blocksAfter_append (opens_head?_map_read hopens),
      hblock]
  have hlength : (blocksAfter none (before.map Line.read)).length = before.countP (IsHeader ·) := by
    rw [length_blocksAfter, countP_opens_map_read]
    exact Nat.zero_add _
  refine ⟨fields, ?_, showsBlock_fill hbody⟩
  rw [hparse, ← hlength, List.getElem?_append_right (Nat.le_refl _), Nat.sub_self]
  rfl

end

/-- **Pages are read block by block.** A page that begins with a header can be put behind any page
whose last line is ended, and its blocks come after those of the other one. There are as many blocks
as headers, and the block of a header has just the fields that its lines up to the next header show:
what the last of them gives to a key, and the copyset of the header where none gives another. -/
theorem parse_blockwise :
    (∀ a b : String, (a = "" ∨ a.toList.getLast? = some '\n') →
      (∀ line ∈ (Text.trimmedLines b.toList).head?, IsHeader line) →
      parse (a ++ b) = parse a ++ parse b) ∧
    ∀ text : String,
      (parse text).length = (Text.trimmedLines text.toList).countP (IsHeader ·) ∧
      ∀ before header rest, Text.trimmedLines text.toList = before ++ header :: rest →
        IsHeader header →
        ∃ fields, (parse text)[before.countP (IsHeader ·)]? = some fields ∧
          ∀ others, ShowsBlock header (rest.takeWhile fun line => ¬IsHeader line) others ↔
            others = fields := by
  refine ⟨fun a b ha hb => parse_append ha hb, fun text => ⟨?count, ?block⟩⟩
  case count =>
    rw [parse, length_blocksAfter, linesOf, countP_opens_map_read]
    exact Nat.zero_add _
  case block =>
    intro before header rest hlines hheader
    obtain ⟨fields, hfields, hshows⟩ := getElem?_parse hlines hheader
    exact ⟨fields, hfields, fun others => ⟨hshows.unique, fun h => h ▸ hshows⟩⟩

/-- A page with a line that belongs to no block, and a block. -/
def strayPage : String :=
  "stray: line\n[1]\nstate: LEADER\n"

/-- A page whose only block names another copyset than its header, and a leader and then none. -/
def renamingPage : String :=
  "\n  [ 2 ]\r\ngroupId: 9\nleader: a:1:0\nleader:\nno field"

/-- The lines under the header of that page. -/
def renamingLines : List (List Char) :=
  ["groupId: 9", "leader: a:1:0", "leader:", "no field"].map String.toList

/-- The second page comes behind the first one as a block of its own, with the later values. -/
theorem parse_blockwise_stray :
    strayPage.toList.getLast? = some '\n' ∧
      (∀ line ∈ (Text.trimmedLines renamingPage.toList).head?, IsHeader line) ∧
      parse (strayPage ++ renamingPage) = parse strayPage ++ parse renamingPage ∧
      ∃ fields, (parse (strayPage ++ renamingPage))[1]? = some fields ∧
        ShowsBlock "[ 2 ]".toList renamingLines fields ∧ fields["groupId"]? = some "9" ∧
        fields["leader"]? = some "" ∧ fields["state"]? = none := by
  have hended : strayPage.toList.getLast? = some '\n' := by decide
  have hopens : ∀ line ∈ (Text.trimmedLines renamingPage.toList).head?, IsHeader line := by decide
  have hlines : Text.trimmedLines (strayPage ++ renamingPage).toList =
      ["stray: line", "[1]", "state: LEADER"].map String.toList ++
        "[ 2 ]".toList :: renamingLines := by decide +kernel
  have hbody : (renamingLines.takeWhile fun line => ¬IsHeader line) = renamingLines := by decide
  have hvalues : (parse (strayPage ++ renamingPage))[1]?.map
      (fun fields => (fields["groupId"]?, fields["leader"]?, fields["state"]?)) =
        some (some "9", some "", none) := by decide +kernel
  obtain ⟨hconcat, hblocks⟩ := parse_blockwise
  obtain ⟨-, hblock⟩ := hblocks (strayPage ++ renamingPage)
  obtain ⟨fields, hfields, hshows⟩ := hblock _ _ _ hlines (by decide)
  have hfields' : (parse (strayPage ++ renamingPage))[1]? = some fields := hfields
  rw [hfields', Option.map_some, Option.some.injEq, Prod.mk.injEq, Prod.mk.injEq] at hvalues
  rw [hbody] at hshows
  exact ⟨hended, hopens, hconcat _ _ (.inr hended) hopens, fields, hfields',
    (hshows fields).mpr rfl, hvalues⟩

end CopysetWatch.Raft.StatusPage
