import CopysetWatch.Proofs.Raft.Written
import CopysetWatch.Raft.StatusPage

/-!
# Pages of written records

A page shows records block by block: a header with the copyset and, below it, a line for each entry,
in any order. Reading the page gives back the records, however its lines are laid out: a line is
trimmed before it is read, so even an entry without a value is known by the colon behind its key.
-/

namespace CopysetWatch.Raft

namespace StatusPage

/-! ### Lines -/

/-- An entry that can stand on a line. -/
structure IsEntry (e : String × String) : Prop where
  key : Text.IsPhrase e.1
  ne_empty : e.1 ≠ ""
  unbracketed : e.1.toList.head? ≠ some '['
  uncut : ¬": ".toList <:+: e.1.toList
  value : Text.IsPhrase e.2

/-- The line of an entry. -/
def entryLine (e : String × String) : String :=
  e.1 ++ ": " ++ e.2

/-- The line above the entries of a copyset. -/
def headerLine (id : GroupId) : String :=
  "[" ++ id.text ++ "]"

/-- A line with a key is read as a field, unless it opens a bracket. -/
theorem read_of_keyed {line key value : List Char} (hhead : line.head? ≠ some '[')
    (hkeyed : keyed line = some (key, value)) :
    Line.read line = .field (.ofList key) (.ofList value) := by
  have hbracketed : bracketed line = none := by
    unfold bracketed
    split
    · exact absurd rfl hhead
    · rfl
  rw [Line.read, hbracketed, hkeyed]

/-- A header is read as such. -/
theorem read_headerLine (id : GroupId) :
    Line.read (Text.trim (headerLine id).toList) = .header id.text := by
  have hid : Text.IsPhrase id.text := id.isWord_text.isPhrase
  have hopening : Text.IsPhrase "[" := by decide
  have hclosing : Text.IsPhrase "]" := by decide
  have hphrase : Text.IsPhrase (headerLine id) :=
    hopening.append hclosing (by decide) (by decide) hid.oneLine
  have hbracketed : bracketed (headerLine id).toList = some id.text.toList := by
    have hline : (headerLine id).toList = '[' :: (id.text.toList ++ [']']) := by
      simp [headerLine]
    rw [hline, bracketed, if_pos List.getLast?_concat, List.dropLast_concat, hid.trimmed]
  rw [hphrase.trimmed, Line.read, hbracketed]
  dsimp only
  rw [String.ofList_toList]

namespace IsEntry

variable {e : String × String}

/-- The separator is not found before its place, not even with the colon that it begins with. -/
theorem uncut_colon (h : IsEntry e) : ¬[':', ' '] <:+: e.1.toList ++ [':'] := by
  rw [List.infix_concat_iff, not_or]
  refine ⟨?_, h.uncut⟩
  rw [List.suffix_concat_iff]
  rintro (hnil | ⟨front, hfront, -⟩)
  · cases hnil
  · have hlast := congrArg List.getLast? hfront
    simp at hlast

/-- Of an entry without a value, the key and the colon are left on the line. -/
theorem trim_entryLine_of_eq_empty (h : IsEntry e) (hvalue : e.2 = "") :
    Text.trim (entryLine e).toList = e.1.toList ++ [':'] := by
  have hcolon : Text.IsPhrase ":" := by decide
  have hspace : Text.IsPadding [' '] := by decide
  have hphrase : Text.IsPhrase (e.1 ++ "" ++ ":") :=
    h.key.append hcolon h.ne_empty (by decide) (by decide)
  have hline : (entryLine e).toList = (e.1 ++ "" ++ ":").toList ++ [' '] := by
    simp [entryLine, hvalue]
  rw [hline, Text.trim_append_right fun c hc => (hspace c hc).1, hphrase.trimmed]
  simp

/-- Of an entry with a value, everything is left on the line. -/
theorem trim_entryLine_of_ne_empty (h : IsEntry e) (hvalue : e.2 ≠ "") :
    Text.trim (entryLine e).toList = e.1.toList ++ [':', ' '] ++ e.2.toList := by
  have hphrase : Text.IsPhrase (entryLine e) :=
    h.key.append h.value h.ne_empty hvalue (by decide)
  rw [hphrase.trimmed, entryLine, String.toList_append, String.toList_append]
  rfl

/-- The line of an entry is read as this entry. -/
theorem read (h : IsEntry e) :
    Line.read (Text.trim (entryLine e).toList) = .field e.1 e.2 := by
  have hhead {rest : List Char} : (e.1.toList ++ rest).head? ≠ some '[' := by
    rw [List.head?_append_of_ne_nil _ (by simpa using h.ne_empty)]
    exact h.unbracketed
  by_cases hvalue : e.2 = ""
  · have hkeyed : keyed (e.1.toList ++ [':']) = some (e.1.toList, []) := by
      rw [keyed, Text.cut_of_not_infix h.uncut_colon]
      simp [h.key.trimmed]
    rw [h.trim_entryLine_of_eq_empty hvalue, read_of_keyed hhead hkeyed, String.ofList_toList,
      hvalue]
  · have hkeyed : keyed (e.1.toList ++ [':', ' '] ++ e.2.toList) =
        some (e.1.toList, e.2.toList) := by
      rw [keyed, Text.cut_append h.uncut_colon]
      simp [h.key.trimmed, h.value.trimmed]
    have hhead' : (e.1.toList ++ [':', ' '] ++ e.2.toList).head? ≠ some '[' := by
      rw [List.append_assoc]
      exact hhead
    rw [h.trim_entryLine_of_ne_empty hvalue, read_of_keyed hhead' hkeyed, String.ofList_toList,
      String.ofList_toList]

end IsEntry

/-! ### Blocks -/

/-- The lines of a page that shows records block by block. -/
inductive Blocks : List Written → List String → Prop
  | nil : Blocks [] []
  | cons {w : Written} {ws : List Written} {body : List (String × String)} {lines : List String}
      (hbody : body.Perm w.entries) (h : Blocks ws lines) :
      Blocks (w :: ws) (headerLine w.record.groupId :: body.map entryLine ++ lines)

/-- The separator is not found in a word. -/
theorem uncut_of_isWord {word : String} (h : Text.IsWord word) : ¬": ".toList <:+: word.toList :=
  fun hstands => h.not_isBlank ' ' (hstands.subset (by decide)) (by decide)

/-- The entries of a well-formed record can stand on lines. -/
theorem isEntry_of_mem {w : Written} (h : w.WellFormed) {e : String × String}
    (he : e ∈ w.entries) : IsEntry e := by
  rcases List.mem_append.mp he with hown | hreplicator
  · have hkeys : ∀ key ∈ Written.ownKeys, Text.IsWord key ∧ key.toList.head? ≠ some '[' := by
      decide
    have hown' : e ∈ ("groupId", w.record.groupId.text) :: w.ownEntries :=
      List.mem_cons_of_mem _ hown
    obtain ⟨hword, hhead⟩ :=
      hkeys e.1 (w.keys_ownEntries_sublist.subset (List.mem_map_of_mem hown'))
    exact ⟨hword.isPhrase, hword.ne_empty, hhead, uncut_of_isWord hword, h.isPhrase_of_mem hown⟩
  · obtain ⟨r, hr, rfl⟩ := List.mem_map.mp hreplicator
    obtain ⟨hphrase, ⟨rest, hrest⟩, huncut⟩ := h.keys r hr
    refine ⟨hphrase, ?_, ?_, huncut, Text.isPhrase_intercalate (h.lines r hr).isWord⟩
    · intro hempty
      rw [hempty] at hrest
      cases hrest
    · rw [← hrest]
      simp

/-- A line that is read as something is not blank. -/
theorem ne_nil_of_read_ne_silent {line : List Char} (h : Line.read line ≠ .silent) :
    line ≠ [] := by
  rintro rfl
  exact h rfl

/-- Every text of a page stands on one line, and there is something to see on it. -/
theorem Blocks.oneLine_and_shown {ws : List Written} {texts : List String} (h : Blocks ws texts)
    (hformed : ∀ w ∈ ws, w.WellFormed) :
    ∀ text ∈ texts, '\n' ∉ text.toList ∧ Text.trim text.toList ≠ [] := by
  induction h with
  | nil => simp
  | @cons w ws body lines hbody h ih =>
    rw [List.forall_mem_cons] at hformed
    intro text htext
    rw [List.cons_append, List.mem_cons, List.mem_append] at htext
    rcases htext with rfl | htext | htext
    · refine ⟨?_, ne_nil_of_read_ne_silent (by rw [read_headerLine]; simp)⟩
      simpa [headerLine] using w.record.groupId.isWord_text.isPhrase.oneLine
    · obtain ⟨e, he, rfl⟩ := List.mem_map.mp htext
      have hentry := isEntry_of_mem hformed.1 (hbody.mem_iff.mp he)
      refine ⟨?_, ne_nil_of_read_ne_silent (by rw [hentry.read]; simp)⟩
      simpa [entryLine] using ⟨hentry.key.oneLine, hentry.value.oneLine⟩
    · exact ih hformed.2 text htext

/-- The entries of a block become fields of its copyset. -/
theorem blocksAfter_entries {body : List (String × String)} (h : ∀ e ∈ body, IsEntry e)
    (fields : Fields) (rest : List Line) :
    blocksAfter (some fields)
        (body.map ((fun text => Line.read (Text.trim text.toList)) ∘ entryLine) ++ rest) =
      blocksAfter (some (fields.insertMany body)) rest := by
  induction body generalizing fields with
  | nil => rfl
  | cons e others ih =>
    rw [List.forall_mem_cons] at h
    rw [List.map_cons, Function.comp_apply, h.1.read, List.cons_append, blocksAfter,
      Option.map_some, ih h.2, Std.ExtTreeMap.insertMany_cons]

/-- Each block becomes the fields of its record. -/
theorem Blocks.blocksAfter_map_read {ws : List Written} {texts : List String}
    (h : Blocks ws texts) (hformed : ∀ w ∈ ws, w.WellFormed) (current : Option Fields) :
    blocksAfter current (texts.map fun text => Line.read (Text.trim text.toList)) =
      current.toList ++ ws.map Written.fields := by
  induction h generalizing current with
  | nil => exact (List.append_nil _).symm
  | @cons w ws body lines hbody h ih =>
    rw [List.forall_mem_cons] at hformed
    have hentries : ∀ e ∈ body, IsEntry e :=
      fun e he => isEntry_of_mem hformed.1 (hbody.mem_iff.mp he)
    have hfields : ((∅ : Fields).insert "groupId" w.record.groupId.text).insertMany body =
        w.fields := by
      rw [← Std.ExtTreeMap.ofList_cons]
      exact ofList_eq_of_perm hformed.1.distinct (hbody.cons _)
    rw [List.map_append, List.map_cons, List.map_map, List.cons_append, read_headerLine,
      blocksAfter, blocksAfter_entries hentries, hfields, ih hformed.2]
    rfl

/-- **Pages are read as they were written.** However the lines of a page are laid out, and in
whatever order the entries stand in each block, reading the page gives the fields of each record, in
the order of the blocks, and these are read as the records that were written. -/
theorem parse_of_blocks {ws : List Written} {texts : List String} {lines : List (List Char)}
    (hformed : ∀ w ∈ ws, w.WellFormed) (hblocks : Blocks ws texts)
    (hlaid : Text.LaidOut texts lines) :
    let page := String.ofList (['\n'].intercalate lines)
    StatusPage.parse page = ws.map Written.fields ∧
      (StatusPage.parse page).map Record.parse = ws.map fun w => .ok w.record := by
  intro page
  have hpage : StatusPage.parse page = ws.map Written.fields := by
    have hshown := hblocks.oneLine_and_shown hformed
    rw [StatusPage.parse, linesOf, String.toList_ofList,
      hlaid.trimmedLines (fun text ht => (hshown text ht).1) fun text ht => (hshown text ht).2,
      List.map_map]
    exact hblocks.blocksAfter_map_read hformed none
  refine ⟨hpage, ?_⟩
  rw [hpage, List.map_map]
  exact List.map_congr_left fun w hw => (hformed w hw).parse_fields

/-- A leader with a follower that is up to date and one that receives a snapshot. -/
def leading : Written where
  record := {
    groupId := ⟨7⟩
    state := .leader
    peerId := some "10.0.0.1:8200:0"
    peers := ["10.0.0.1:8200:0", "10.0.0.2:8200:0", "10.0.0.3:8200:0"]
    leader := some "10.0.0.1:8200:0"
    lastLogId := some ⟨3, 41⟩
    replicators := [.replicating 42 0, .installingSnapshot] }
  unknownLeader := .blank
  logNotation := .parenthesized
  replicators := [("replicator_7@10.0.0.2:8200:0", .progress 42 0 ["idle", "hc=4821"]),
    ("replicator_7@10.0.0.3:8200:0", .marker "installing_snapshot")]

/-- A replica that knows neither a leader nor its peers, in a state without a name of its own. -/
def starting : Written where
  record := {
    groupId := ⟨8⟩
    state := .other "STARTING"
    peerId := none
    peers := []
    leader := none
    lastLogId := none
    replicators := [] }
  unknownLeader := .blank
  logNotation := .plain
  replicators := []

theorem leading_wellFormed : leading.WellFormed where
  state := by decide
  otherState _ h := nomatch h
  peerId := by
    rintro peer ⟨⟩
    decide
  peers := by decide
  leader := by
    rintro leader ⟨⟩
    decide
  keys := by
    have hkeys : ∀ r ∈ leading.replicators,
        Text.IsWord r.1 ∧ "replicator_".toList <+: r.1.toList := by decide
    intro r hr
    obtain ⟨hword, hkey⟩ := hkeys r hr
    exact ⟨hword.isPhrase, hkey, uncut_of_isWord hword⟩
  ascending := by decide
  lines := by
    have hidle : IsAside "idle" := .bare (by decide) (by decide) fun hstands =>
      absurd (hstands.subset (List.mem_cons_self : 's' ∈ _)) (by decide)
    have hcount : IsAside ("hc" ++ "=" ++ "4821") :=
      .assignment (by decide) (by decide) (by decide) (by decide)
    have hmarker : (ReplicatorLine.marker "installing_snapshot").WellFormed :=
      .marker (by decide) (by decide) ⟨"installing_".toList, [], by decide⟩
    have hprogress : (ReplicatorLine.progress 42 0 ["idle", "hc" ++ "=" ++ "4821"]).WellFormed :=
      .progress (List.forall_mem_cons.mpr ⟨hidle, List.forall_mem_singleton.mpr hcount⟩)
    exact List.forall_mem_cons.mpr ⟨hprogress, List.forall_mem_singleton.mpr hmarker⟩
  statuses := rfl

theorem starting_wellFormed : starting.WellFormed where
  state := by decide
  otherState := by
    rintro name ⟨⟩
    decide
  peerId := by simp [starting]
  peers := by simp [starting]
  leader := by simp [starting]
  keys := by simp [starting]
  ascending := .nil
  lines := by simp [starting]
  statuses := rfl

/-- The texts of a page that shows both; the first block stands in reverse order. -/
def leadingAndStarting : List String :=
  headerLine leading.record.groupId :: leading.entries.reverse.map entryLine ++
    (headerLine starting.record.groupId :: starting.entries.map entryLine ++ [])

/-- The lines of that page, which begins with a blank line and has carriage returns. -/
def leadingAndStartingLines : List (List Char) :=
  [] :: leadingAndStarting.map fun text => [' '] ++ text.toList ++ ['\r']

theorem blocks_leadingAndStarting : Blocks [leading, starting] leadingAndStarting :=
  .cons (List.reverse_perm _) (.cons (List.Perm.refl _) .nil)

theorem laidOut_leadingAndStarting :
    Text.LaidOut leadingAndStarting leadingAndStartingLines := by
  have hnothing : Text.IsPadding [] := by decide
  have hbefore : Text.IsPadding [' '] := by decide
  have hbehind : Text.IsPadding ['\r'] := by decide
  exact .blank hnothing (.map_padding hbefore hbehind leadingAndStarting)

theorem parse_of_blocks_leadingAndStarting :
    (∀ w ∈ [leading, starting], w.WellFormed) ∧ Blocks [leading, starting] leadingAndStarting ∧
      Text.LaidOut leadingAndStarting leadingAndStartingLines ∧
      StatusPage.parse (String.ofList (['\n'].intercalate leadingAndStartingLines)) =
        [leading, starting].map Written.fields ∧
      (StatusPage.parse (String.ofList (['\n'].intercalate leadingAndStartingLines))).map
        Record.parse = [leading, starting].map fun w => .ok w.record := by
  have hformed : ∀ w ∈ [leading, starting], w.WellFormed := by
    simp [leading_wellFormed, starting_wellFormed]
  exact ⟨hformed, blocks_leadingAndStarting, laidOut_leadingAndStarting,
    parse_of_blocks hformed blocks_leadingAndStarting laidOut_leadingAndStarting⟩

end StatusPage

end CopysetWatch.Raft
