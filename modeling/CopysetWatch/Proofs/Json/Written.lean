import CopysetWatch.Json.Reader
import CopysetWatch.Proofs.Json.Strings
import CopysetWatch.Proofs.Text.Numerals

/-!
# Values that are written

A value that has a text is read back from it. The reader is given a number of steps, and the length
of the text is enough; behind a value may stand whatever does not go on with a number.
-/

namespace CopysetWatch.Json

/-! ### Numbers -/

/-- A text that does not go on with the digits of a number, a fraction or an exponent. -/
def EndsNumber (rest : List Char) : Prop :=
  ∀ c ∈ rest.head?, ¬c.isDigit ∧ c ≠ '.' ∧ c ≠ 'e' ∧ c ≠ 'E'

theorem endsNumber_nil : EndsNumber [] := by
  simp [EndsNumber]

/-- The digits at the front of a text are read up to a character that is none. -/
theorem readDigits_append {digits rest : List Char} (hne : digits ≠ [])
    (hdigits : ∀ c ∈ digits, c.isDigit) (hrest : EndsNumber rest) :
    readDigits (digits ++ rest) = some (digits, rest) := by
  have hend : ∀ c ∈ rest.head?, ¬c.isDigit := fun c hc => (hrest c hc).1
  rw [readDigits, Text.takeWhile_isDigit_append hdigits hend,
    Text.dropWhile_isDigit_append hdigits hend]
  cases digits with
  | nil => exact absurd rfl hne
  | cons c digits => rfl

/-- A numeral is read back as a number. -/
theorem readNumber_repr (n : Nat) {rest : List Char} (hrest : EndsNumber rest) :
    readNumber (n.repr.toList ++ rest) = some (some n, rest) := by
  obtain ⟨c, digits, hdigits, hdigit⟩ := Text.exists_repr_eq_cons n
  have hne : n.repr.toList ≠ [] := hdigits ▸ List.cons_ne_nil c digits
  have hread := readDigits_append hne (fun _ => Text.isDigit_of_mem_repr) hrest
  have hwhole : readWhole (n.repr.toList ++ rest) = some (n.repr.toList, rest) := by
    unfold readWhole
    rw [hread]
    split
    case h_1 second others after heq =>
      obtain ⟨hzero, -⟩ := Prod.mk.inj (Option.some.inj heq)
      rw [Nat.toList_repr] at hzero
      have hn : 0 < n := by
        rcases Nat.eq_zero_or_pos n with rfl | hn
        · cases hzero
        · exact hn
      exact absurd (by rw [hzero]; rfl) (Text.head?_toDigits_ne_zero hn)
    case h_2 => rfl
  have hfraction : readFraction rest = some (false, rest) := by
    unfold readFraction
    split
    · exact absurd rfl (hrest _ rfl).2.1
    · rfl
  have hexponent : readExponent rest = some (false, rest) := by
    unfold readExponent
    split
    case h_1 c rest =>
      have hc := (hrest c rfl).2.2
      rw [if_neg (by simp [hc])]
    · rfl
  have hunsigned : c ≠ '-' := by
    rintro rfl
    exact absurd hdigit (by decide)
  have hvalue : Text.digitsValue (c :: digits) = n := by rw [← hdigits, Text.digitsValue_repr]
  rw [hdigits, List.cons_append] at hwhole ⊢
  simp [readNumber, hunsigned, hwhole, hfraction, hexponent, hvalue]

/-! ### Values that have a text -/

mutual

/-- Whether a value has a text: it is nowhere broken, and its numbers and strings have values. -/
def IsWhole : Json → Prop
  | .null => True
  | .bool _ => True
  | .number value => value.isSome
  | .string text => text.isSome
  | .array items => Items.IsWhole items
  | .object members => Members.IsWhole members
  | .broken => False

/-- Whether the items of an array have texts, up to its end. -/
def Items.IsWhole : Json.Items → Prop
  | .closed => True
  | .cut => False
  | .cons head tail => IsWhole head ∧ Items.IsWhole tail

/-- Whether the members of an object have texts, up to its end. -/
def Members.IsWhole : Json.Members → Prop
  | .closed => True
  | .cut => False
  | .cons key value tail => key.isSome ∧ IsWhole value ∧ Members.IsWhole tail

end

/-- A digit is no space. -/
theorem isSpace_of_isDigit {c : Char} (h : c.isDigit) : isSpace c = false := by
  rw [isSpace, Bool.eq_false_iff]
  intro hspace
  simp only [Bool.or_eq_true, beq_iff_eq] at hspace
  rcases hspace with ((rfl | rfl) | rfl) | rfl <;> exact absurd h (by decide)

/-- The text of a value begins with a character that is neither a space nor a closing bracket. -/
theorem exists_write_eq_cons {j : Json} (h : j.IsWhole) :
    ∃ c rest, write j = c :: rest ∧ isSpace c = false ∧ c ≠ ']' := by
  cases j with
  | null => exact ⟨_, _, rfl, rfl, by decide⟩
  | bool b => cases b <;> exact ⟨_, _, rfl, rfl, by decide⟩
  | number value =>
    obtain ⟨n, rfl⟩ := Option.isSome_iff_exists.mp h
    obtain ⟨c, digits, hdigits, hdigit⟩ := Text.exists_repr_eq_cons n
    refine ⟨c, digits, hdigits, isSpace_of_isDigit hdigit, ?_⟩
    rintro rfl
    exact absurd hdigit (by decide)
  | string text =>
    obtain ⟨s, rfl⟩ := Option.isSome_iff_exists.mp h
    exact ⟨_, _, rfl, rfl, by decide⟩
  | array items => exact ⟨_, _, rfl, rfl, by decide⟩
  | object members => exact ⟨_, _, rfl, rfl, by decide⟩
  | broken => exact absurd h id

theorem length_write_pos {j : Json} (h : j.IsWhole) : 0 < (write j).length := by
  obtain ⟨c, rest, hwrite, -⟩ := exists_write_eq_cons h
  rw [hwrite]
  exact Nat.succ_pos _

theorem skipSpaces_cons {c : Char} (h : isSpace c = false) (rest : List Char) :
    skipSpaces (c :: rest) = c :: rest :=
  List.dropWhile_cons_of_neg (by simp [h])

/-- What follows an item does not go on with a number. -/
theorem endsNumber_separateItems {items : Items} (h : items.IsWhole) (rest : List Char) :
    EndsNumber (separateItems items ++ rest) := by
  cases items with
  | cut => exact absurd h id
  | closed =>
    rintro c ⟨⟩
    decide
  | cons head tail =>
    rintro c ⟨⟩
    decide

/-- What follows a member does not go on with a number. -/
theorem endsNumber_separateMembers {members : Members} (h : members.IsWhole) (rest : List Char) :
    EndsNumber (separateMembers members ++ rest) := by
  cases members with
  | cut => exact absurd h id
  | closed =>
    rintro c ⟨⟩
    decide
  | cons key value tail =>
    rintro c ⟨⟩
    decide

/-- The members of an object begin with a quoted key and a colon. -/
theorem writeMembers_append (key : String) (value : Json) (tail : Members) (rest : List Char) :
    writeMembers (.cons (some key) value tail) ++ rest =
      '"' :: (key.toList.flatMap escapeChar ++
        '"' :: ':' :: (write value ++ (separateMembers tail ++ rest))) := by
  simp [writeMembers, writeString]

/-! ### Reading back -/

/-- A value that begins with a digit is read as a number. -/
theorem readValue_of_isDigit {c : Char} {rest after : List Char} {value : Option Nat}
    (h : c.isDigit) (hnumber : readNumber (c :: rest) = some (value, after)) (steps : Nat) :
    readValue (steps + 1) (c :: rest) = (.number value, some after) := by
  have hne (d : Char) (hd : ¬d.isDigit) : c ≠ d := fun heq => hd (heq ▸ h)
  rw [readValue, skipSpaces_cons (isSpace_of_isDigit h)]
  split
  case h_1 heq => exact absurd (List.cons.inj heq).1 (hne _ (by decide))
  case h_2 heq => exact absurd (List.cons.inj heq).1 (hne _ (by decide))
  case h_3 heq => exact absurd (List.cons.inj heq).1 (hne _ (by decide))
  case h_4 heq => exact absurd (List.cons.inj heq).1 (hne _ (by decide))
  case h_5 heq => exact absurd (List.cons.inj heq).1 (hne _ (by decide))
  case h_6 heq => exact absurd (List.cons.inj heq).1 (hne _ (by decide))
  case h_7 => rw [hnumber]

/-- A value that begins with a quotation mark is read as a string. -/
theorem readValue_string {content : Option String} {rest after : List Char}
    (h : readString rest = some (content, after)) (steps : Nat) :
    readValue (steps + 1) ('"' :: rest) = (.string content, some after) := by
  rw [readValue, skipSpaces_cons (by decide)]
  simp only [h]

/-- An array with items is read item by item. -/
theorem readValue_array {c : Char} (hspace : isSpace c = false) (hbracket : c ≠ ']') (steps : Nat)
    (rest : List Char) :
    readValue (steps + 1) ('[' :: c :: rest) =
      (.array (readItems steps (c :: rest)).1, (readItems steps (c :: rest)).2) := by
  rw [readValue, skipSpaces_cons (by decide)]
  simp only [skipSpaces_cons hspace]
  split
  case h_1 heq => exact absurd (List.cons.inj heq).1 hbracket
  case h_2 => rfl

/-- An object that begins with a key is read member by member. -/
theorem readValue_object (steps : Nat) (rest : List Char) :
    readValue (steps + 1) ('{' :: '"' :: rest) =
      (.object (readMembers steps ('"' :: rest)).1, (readMembers steps ('"' :: rest)).2) :=
  rfl

/-- The last item of an array. -/
theorem readItems_last {steps : Nat} {text after : List Char} {head : Json}
    (h : readValue steps text = (head, some (']' :: after))) :
    readItems (steps + 1) text = (.cons head .closed, some after) := by
  rw [readItems, h]
  rfl

/-- An item of an array that is not the last one. -/
theorem readItems_cons {steps : Nat} {text more : List Char} {head : Json} {c : Char}
    (h : readValue steps text = (head, some (',' :: c :: more))) (hspace : isSpace c = false)
    (hbracket : c ≠ ']') :
    readItems (steps + 1) text =
      (.cons head (readItems steps (c :: more)).1, (readItems steps (c :: more)).2) := by
  rw [readItems, h]
  dsimp only
  rw [skipSpaces_cons (by decide)]
  simp only [skipSpaces_cons hspace]
  split
  case h_1 heq => exact absurd (List.cons.inj heq).1 hbracket
  case h_2 => rfl

/-- The last member of an object is a key, a colon and a value. -/
theorem readMembers_last {steps : Nat} {keyed valued after : List Char} {key : Option String}
    {value : Json} (hkey : readString keyed = some (key, ':' :: valued))
    (hvalue : readValue steps valued = (value, some ('}' :: after))) :
    readMembers (steps + 1) ('"' :: keyed) = (.cons key value .closed, some after) := by
  rw [readMembers, skipSpaces_cons (by decide)]
  simp only [hkey]
  rw [skipSpaces_cons (by decide)]
  simp only [hvalue]
  rfl

/-- A member of an object that is not the last one. -/
theorem readMembers_cons {steps : Nat} {keyed valued more : List Char} {key : Option String}
    {value : Json} (hkey : readString keyed = some (key, ':' :: valued))
    (hvalue : readValue steps valued = (value, some (',' :: more))) :
    readMembers (steps + 1) ('"' :: keyed) =
      (.cons key value (readMembers steps more).1, (readMembers steps more).2) := by
  rw [readMembers, skipSpaces_cons (by decide)]
  simp only [hkey]
  rw [skipSpaces_cons (by decide)]
  simp only [hvalue]
  rfl

-- A value, an item and a member each take one step and write at least one character, so the length
-- of the text pays for all of them: this is why one bound carries the induction over all three.
mutual

/-- A value that has a text is read back from it. -/
theorem readValue_write : ∀ (j : Json) (steps : Nat) (rest : List Char), j.IsWhole →
    (write j).length ≤ steps → EndsNumber rest →
    readValue steps (write j ++ rest) = (j, some rest)
  | j, 0, _, h, hsteps, _ => absurd (length_write_pos h) (Nat.not_lt.mpr hsteps)
  | .null, _ + 1, _, _, _, _ => rfl
  | .bool true, _ + 1, _, _, _, _ => rfl
  | .bool false, _ + 1, _, _, _, _ => rfl
  | .number value, steps + 1, rest, h, _, hrest => by
    obtain ⟨n, rfl⟩ := Option.isSome_iff_exists.mp h
    obtain ⟨c, digits, hdigits, hdigit⟩ := Text.exists_repr_eq_cons n
    have hread := readNumber_repr n hrest
    rw [write, hdigits, List.cons_append] at *
    exact readValue_of_isDigit hdigit hread steps
  | .string text, steps + 1, rest, h, _, _ => by
    obtain ⟨s, rfl⟩ := Option.isSome_iff_exists.mp h
    have htext : write (.string (some s)) ++ rest =
        '"' :: (s.toList.flatMap escapeChar ++ '"' :: rest) := by
      simp [write, writeString]
    rw [htext]
    exact readValue_string (readString_writeString s rest) steps
  | .array .closed, _ + 1, _, _, _, _ => rfl
  | .array .cut, _, _, h, _, _ => absurd h id
  | .array (.cons head tail), steps + 1, rest, h, hsteps, _ => by
    have hitems := readItems_write (.cons head tail) steps rest h nofun
      (Nat.le_of_succ_le_succ hsteps)
    obtain ⟨c, more, hwrite, hspace, hbracket⟩ := exists_write_eq_cons h.1
    have htext : writeItems (.cons head tail) ++ rest =
        c :: (more ++ separateItems tail ++ rest) := by
      simp [writeItems, hwrite]
    have hvalue : write (.array (.cons head tail)) ++ rest =
        '[' :: (writeItems (.cons head tail) ++ rest) := by
      simp [write]
    rw [htext] at hitems hvalue
    rw [hvalue, readValue_array hspace hbracket, hitems]
  | .object .closed, _ + 1, _, _, _, _ => rfl
  | .object .cut, _, _, h, _, _ => absurd h id
  | .object (.cons key value tail), steps + 1, rest, h, hsteps, _ => by
    have hmembers := readMembers_write (.cons key value tail) steps rest h nofun
      (Nat.le_of_succ_le_succ hsteps)
    obtain ⟨s, rfl⟩ := Option.isSome_iff_exists.mp h.1
    have hvalue : write (.object (.cons (some s) value tail)) ++ rest =
        '{' :: (writeMembers (.cons (some s) value tail) ++ rest) := by
      simp [write]
    rw [writeMembers_append] at hmembers hvalue
    rw [hvalue, readValue_object, hmembers]
  | .broken, _, _, h, _, _ => absurd h id

/-- The items of an array are read back. -/
theorem readItems_write : ∀ (items : Items) (steps : Nat) (rest : List Char), items.IsWhole →
    items ≠ .closed → (writeItems items).length ≤ steps →
    readItems steps (writeItems items ++ rest) = (items, some rest)
  | .closed, _, _, _, hitems, _ => absurd rfl hitems
  | .cut, _, _, h, _, _ => absurd h id
  | .cons head tail, 0, _, h, _, hsteps => by
    have hpos := length_write_pos h.1
    simp only [writeItems, List.length_append] at hsteps
    omega
  | .cons _ .cut, _, _, h, _, _ => absurd h.2 id
  | .cons head .closed, steps + 1, rest, h, _, hsteps => by
    have hlength : (write head).length ≤ steps := by
      simpa [writeItems, separateItems] using hsteps
    have htext : writeItems (.cons head .closed) ++ rest = write head ++ (']' :: rest) := by
      simp [writeItems, separateItems]
    rw [htext]
    exact readItems_last (readValue_write head steps _ h.1 hlength
      (endsNumber_separateItems (show Items.closed.IsWhole from trivial) rest))
  | .cons head (.cons second others), steps + 1, rest, h, _, hsteps => by
    have hpos := length_write_pos h.1
    have hlength : (write head).length + ((writeItems (.cons second others)).length + 1) ≤
        steps + 1 := by
      simpa [writeItems, separateItems] using hsteps
    have htext : writeItems (.cons head (.cons second others)) ++ rest =
        write head ++ (',' :: (writeItems (.cons second others) ++ rest)) := by
      simp [writeItems, separateItems]
    have hhead := readValue_write head steps _ h.1 (by omega)
      (endsNumber_separateItems h.2 rest)
    have htail := readItems_write (.cons second others) steps rest h.2 nofun (by omega)
    obtain ⟨c, more, hwrite, hspace, hbracket⟩ := exists_write_eq_cons h.2.1
    have hmore : writeItems (.cons second others) ++ rest =
        c :: (more ++ separateItems others ++ rest) := by
      simp [writeItems, hwrite]
    have hseparate : separateItems (.cons second others) ++ rest =
        ',' :: (writeItems (.cons second others) ++ rest) := rfl
    rw [hseparate] at hhead
    rw [htext]
    rw [hmore] at hhead htail ⊢
    rw [readItems_cons hhead hspace hbracket, htail]

/-- The members of an object are read back. -/
theorem readMembers_write : ∀ (members : Members) (steps : Nat) (rest : List Char),
    members.IsWhole → members ≠ .closed → (writeMembers members).length ≤ steps →
    readMembers steps (writeMembers members ++ rest) = (members, some rest)
  | .closed, _, _, _, hmembers, _ => absurd rfl hmembers
  | .cut, _, _, h, _, _ => absurd h id
  | .cons key value tail, 0, rest, h, _, hsteps => by
    have hpos := length_write_pos h.2.1
    simp only [writeMembers, List.length_append, List.length_cons] at hsteps
    omega
  | .cons _ _ .cut, _, _, h, _, _ => absurd h.2.2 id
  | .cons key value .closed, steps + 1, rest, h, _, hsteps => by
    obtain ⟨s, rfl⟩ := Option.isSome_iff_exists.mp h.1
    have hlength : (write value).length ≤ steps := by
      simp [writeMembers, separateMembers, writeString] at hsteps
      omega
    have hvalue := readValue_write value steps _ h.2.1 hlength
      (endsNumber_separateMembers (show Members.closed.IsWhole from trivial) rest)
    have hkey := readString_writeString s
      (':' :: (write value ++ (separateMembers .closed ++ rest)))
    rw [writeMembers_append]
    exact readMembers_last hkey hvalue
  | .cons key value (.cons second other others), steps + 1, rest, h, _, hsteps => by
    obtain ⟨s, rfl⟩ := Option.isSome_iff_exists.mp h.1
    have hlength : (write value).length +
        (writeMembers (.cons second other others)).length ≤ steps := by
      simp [writeMembers, separateMembers, writeString] at hsteps ⊢
      omega
    have hvalue := readValue_write value steps _ h.2.1 (by omega)
      (endsNumber_separateMembers h.2.2 rest)
    have htail := readMembers_write (.cons second other others) steps rest h.2.2 nofun (by omega)
    have hkey := readString_writeString s
      (':' :: (write value ++ (separateMembers (.cons second other others) ++ rest)))
    have hseparate : separateMembers (.cons second other others) ++ rest =
        ',' :: (writeMembers (.cons second other others) ++ rest) := by
      simp [separateMembers, writeMembers]
    rw [hseparate] at hkey hvalue
    rw [writeMembers_append, hseparate, readMembers_cons hkey hvalue, htail]

end

/-- **A value that has a text is read back from it**, and nothing follows it. -/
theorem read_text {j : Json} (h : j.IsWhole) : read j.text = (j, true) := by
  have hread := readValue_write j (2 * (write j).length + 2) [] h (by omega) endsNumber_nil
  rw [List.append_nil] at hread
  simp only [read, text, String.toList_ofList, hread]
  rfl

end CopysetWatch.Json
