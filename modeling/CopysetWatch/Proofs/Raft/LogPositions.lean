import CopysetWatch.Proofs.FirstAndLast
import CopysetWatch.Proofs.Raft.Notation
import CopysetWatch.Proofs.Text.Readings

/-!
# What is read as a log position

A text is a log position if each of its parts, which stand between commas inside the parentheses,
assigns something, if a term and an index are assigned, and if every term and every index is a
number of 64 bits. The last of each counts, in whatever order they stand and whatever else is
assigned.
-/

namespace CopysetWatch.Raft.LogId

/-- The parts of a text: what stands between commas inside the parentheses. -/
def HasParts (text : List Char) (parts : List (List Char)) : Prop :=
  ∃ inner, Encloses inner text ∧ Text.IsSeparated ',' parts inner

/-- A part that assigns a value to a key: the first equals sign stands between them. -/
def Assigns (key : String) (value part : List Char) : Prop :=
  ∃ name, part = name ++ '=' :: value ∧ '=' ∉ name ∧ Text.trim name = key.toList

/-- A part that assigns something to a key. -/
def HasKey (key : String) (part : List Char) : Prop :=
  ∃ value, Assigns key value part

/-- Whether parts assign nothing but numbers of 64 bits to a key. -/
def AssignNumbers (key : String) (parts : List (List Char)) : Prop :=
  ∀ part ∈ parts, ∀ value, Assigns key value part →
    ∃ n : UInt64, Text.IsNumeral n.toNat (Text.trim value)

/-- The number that the last part with a key assigns to it. -/
def IsLastNumber (key : String) (parts : List (List Char)) (n : UInt64) : Prop :=
  ∃ part value, IsLast (HasKey key) parts part ∧ Assigns key value part ∧
    Text.IsNumeral n.toNat (Text.trim value)

/-- Parts that make a log position. -/
structure IsAccepted (parts : List (List Char)) : Prop where
  assigned : ∀ part ∈ parts, '=' ∈ part
  term : ∃ part ∈ parts, HasKey "term" part
  index : ∃ part ∈ parts, HasKey "index" part
  terms : AssignNumbers "term" parts
  indexes : AssignNumbers "index" parts

/-! ### Reading all items of a list -/

section

variable {α β : Type} {f : α → Option β} {l : List α} {bs : List β} {b : β}

/-- All items are read if each of them is. -/
theorem mapM_eq_some_iff : l.mapM f = some bs ↔ l.map f = bs.map some := by
  induction l generalizing bs with
  | nil => cases bs <;> simp
  | cons a rest ih =>
    rw [List.mapM_cons]
    cases bs with
    | nil => simp [Option.bind_eq_some_iff]
    | cons b bs => simp [Option.bind_eq_some_iff, ih]

theorem exists_mapM_eq_some (h : ∀ a ∈ l, ∃ b, f a = some b) : ∃ bs, l.mapM f = some bs := by
  induction l with
  | nil => exact ⟨[], rfl⟩
  | cons a rest ih =>
    rw [List.forall_mem_cons] at h
    obtain ⟨b, hb⟩ := h.1
    obtain ⟨bs, hbs⟩ := ih h.2
    exact ⟨b :: bs, by rw [List.mapM_cons, hb, hbs]; rfl⟩

/-- What is read last is read of the last item. -/
theorem exists_mapM_getLast?_iff :
    (∃ bs, l.mapM f = some bs ∧ bs.getLast? = some b) ↔
      (∀ a ∈ l, ∃ b, f a = some b) ∧ ∃ a, l.getLast? = some a ∧ f a = some b := by
  have hlast {bs : List β} (hbs : l.mapM f = some bs) :
      bs.getLast? = some b ↔ ∃ a, l.getLast? = some a ∧ f a = some b := by
    have hends := congrArg List.getLast? (mapM_eq_some_iff.mp hbs)
    rw [List.getLast?_map, List.getLast?_map] at hends
    rw [← Option.map_eq_some_iff, hends]
    simp
  constructor
  · rintro ⟨bs, hbs, hb⟩
    refine ⟨fun a ha => ?_, (hlast hbs).mp hb⟩
    have hmem := List.mem_map_of_mem (f := f) ha
    rw [mapM_eq_some_iff.mp hbs] at hmem
    obtain ⟨b, -, hread⟩ := List.mem_map.mp hmem
    exact ⟨b, hread.symm⟩
  · rintro ⟨hall, hb⟩
    obtain ⟨bs, hbs⟩ := exists_mapM_eq_some hall
    exact ⟨bs, hbs, (hlast hbs).mpr hb⟩

end

/-! ### Parts with a name and a value -/

/-- A name and its value as a part. -/
def assignment (a : List Char × List Char) : List Char :=
  a.1 ++ '=' :: a.2

section

variable {key : String} {a : List Char × List Char} {found : List (List Char × List Char)}
  {parts : List (List Char)} {n : UInt64}

/-- Parts are cut into names and values at their first equals signs. -/
theorem mapM_cut_eq_some_iff :
    parts.mapM (Text.cut ['=']) = some found ↔
      parts = found.map assignment ∧ ∀ a ∈ found, '=' ∉ a.1 := by
  rw [mapM_eq_some_iff]
  induction parts generalizing found with
  | nil => cases found <;> simp
  | cons part rest ih =>
    cases found with
    | nil => simp
    | cons a found =>
      obtain ⟨name, value⟩ := a
      simp only [List.map_cons, List.cons.injEq, List.forall_mem_cons, ih, assignment,
        Text.cut_singleton_eq_some_iff]
      exact and_and_and_comm

/-- Parts with equals signs have names and values. -/
theorem exists_map_assignment (h : ∀ part ∈ parts, '=' ∈ part) :
    ∃ found : List (List Char × List Char),
      parts = found.map assignment ∧ ∀ a ∈ found, '=' ∉ a.1 := by
  have hcut : ∀ part ∈ parts, ∃ a, Text.cut ['='] part = some a := by
    intro part hpart
    obtain ⟨name, value, rfl, hname⟩ := List.eq_append_cons_of_mem (h part hpart)
    exact ⟨_, Text.cut_singleton_append hname value⟩
  obtain ⟨found, hfound⟩ := exists_mapM_eq_some hcut
  exact ⟨found, mapM_cut_eq_some_iff.mp hfound⟩

theorem assigns_assignment_iff (hname : '=' ∉ a.1) {value : List Char} :
    Assigns key value (assignment a) ↔ Text.trim a.1 = key.toList ∧ a.2 = value := by
  constructor
  · rintro ⟨name, hpart, hother, hkey⟩
    have hcut := Text.cut_singleton_append hname a.2
    rw [← assignment, hpart, Text.cut_singleton_append hother] at hcut
    cases hcut
    exact ⟨hkey, rfl⟩
  · rintro ⟨hkey, rfl⟩
    exact ⟨a.1, rfl, hname, hkey⟩

theorem hasKey_assignment_iff (hname : '=' ∉ a.1) :
    HasKey key (assignment a) ↔ Text.trim a.1 = key.toList := by
  simp only [HasKey, assigns_assignment_iff hname, exists_and_left, exists_eq', and_true]

theorem assignNumbers_map_assignment_iff (hnames : ∀ a ∈ found, '=' ∉ a.1) :
    AssignNumbers key (found.map assignment) ↔
      ∀ a ∈ found, Text.trim a.1 = key.toList →
        ∃ n : UInt64, Text.IsNumeral n.toNat (Text.trim a.2) := by
  rw [AssignNumbers, List.forall_mem_map]
  refine forall₂_congr fun a ha => ?_
  simp only [assigns_assignment_iff (hnames a ha), and_imp]
  exact ⟨fun h hkey => h a.2 hkey rfl, fun h value hkey hvalue => hvalue ▸ h hkey⟩

theorem isLastNumber_map_assignment_iff (hnames : ∀ a ∈ found, '=' ∉ a.1) :
    IsLastNumber key (found.map assignment) n ↔
      ∃ a, IsLast (fun a => Text.trim a.1 = key.toList) found a ∧
        Text.IsNumeral n.toNat (Text.trim a.2) := by
  have hlast (a : List Char × List Char) :
      IsLast (fun a => HasKey key (assignment a)) found a ↔
        IsLast (fun a => Text.trim a.1 = key.toList) found a :=
    isLast_congr fun a ha => hasKey_assignment_iff (hnames a ha)
  constructor
  · rintro ⟨part, value, hpart, hassigns, hn⟩
    obtain ⟨a, ha, rfl⟩ := isLast_map_iff.mp hpart
    obtain ⟨-, rfl⟩ := (assigns_assignment_iff (hnames a ha.mem)).mp hassigns
    exact ⟨a, (hlast a).mp ha, hn⟩
  · rintro ⟨a, ha, hn⟩
    exact ⟨assignment a, a.2, isLast_map_iff.mpr ⟨a, (hlast a).mpr ha, rfl⟩,
      (assigns_assignment_iff (hnames a ha.mem)).mpr ⟨ha.1, rfl⟩, hn⟩

/-- A number is read for a key if the parts assign it last and assign nothing but numbers. -/
theorem exists_numeralsOf_iff (hnames : ∀ a ∈ found, '=' ∉ a.1) :
    (∃ numbers, numeralsOf key.toList found = some numbers ∧ numbers.getLast? = some n) ↔
      AssignNumbers key (found.map assignment) ∧ IsLastNumber key (found.map assignment) n := by
  have hread (text : List Char) (n : UInt64) :
      (Text.readUInt64 text).toOption = some n ↔ Text.IsNumeral n.toNat text := by
    rw [← Text.readUInt64_eq_ok_iff]
    cases Text.readUInt64 text <;> simp [Except.toOption]
  have hlast (a : List Char × List Char) :
      (found.filter fun a => Text.trim a.1 == key.toList).getLast? = some a ↔
        IsLast (fun a => Text.trim a.1 = key.toList) found a := by
    simp only [isLast_iff_getLast?_filter, beq_eq_decide]
  rw [assignNumbers_map_assignment_iff hnames, isLastNumber_map_assignment_iff hnames, numeralsOf]
  simp only [exists_mapM_getLast?_iff, hread, hlast, List.mem_filter, beq_iff_eq, and_imp]

/-- A key that some part has, with nothing but numbers, has a last number. -/
theorem exists_isLastNumber (hsome : ∃ part ∈ parts, HasKey key part)
    (hnumbers : AssignNumbers key parts) : ∃ n, IsLastNumber key parts n := by
  obtain ⟨part, hlast⟩ := exists_isLast hsome
  obtain ⟨value, hassigns⟩ := hlast.1
  obtain ⟨n, hn⟩ := hnumbers part hlast.mem value hassigns
  exact ⟨n, part, value, hlast, hassigns, hn⟩

theorem IsLastNumber.exists_hasKey (h : IsLastNumber key parts n) :
    ∃ part ∈ parts, HasKey key part := by
  obtain ⟨part, -, hlast, -, -⟩ := h
  exact ⟨part, hlast.mem, hlast.1⟩

end

/-! ### Reading a text -/

section

variable {text : String} {parts : List (List Char)} {id : LogId}

theorem hasParts_iff :
    HasParts text.toList parts ↔ Text.pieces (· == ',') (body text.toList) = parts := by
  rw [Text.pieces_eq_iff]
  constructor
  · rintro ⟨inner, hencloses, hparts⟩
    rwa [hencloses.body_eq]
  · exact fun hparts => ⟨_, encloses_body _, hparts⟩

theorem parse_eq_some_iff_numeralsOf : parse text = some id ↔
    ∃ found, LogId.parts (body text.toList) = some found ∧
      (∃ terms, numeralsOf "term".toList found = some terms ∧ terms.getLast? = some id.term) ∧
      ∃ indexes, numeralsOf "index".toList found = some indexes ∧
        indexes.getLast? = some id.index := by
  simp only [LogId.parse, Option.bind_eq_bind, Option.bind_eq_some_iff, Option.pure_def]
  constructor
  · rintro ⟨found, hfound, terms, hterms, indexes, hindexes, term, hterm, index, hindex, hid⟩
    obtain rfl := Option.some.inj hid
    exact ⟨found, hfound, ⟨terms, hterms, hterm⟩, indexes, hindexes, hindex⟩
  · rintro ⟨found, hfound, ⟨terms, hterms, hterm⟩, indexes, hindexes, hindex⟩
    exact ⟨found, hfound, terms, hterms, indexes, hindexes, _, hterm, _, hindex, rfl⟩

/-- A log position is read from accepted parts, with the last term and the last index. -/
theorem parse_eq_some_iff : parse text = some id ↔
    ∃ parts, HasParts text.toList parts ∧ IsAccepted parts ∧
      IsLastNumber "term" parts id.term ∧ IsLastNumber "index" parts id.index := by
  rw [parse_eq_some_iff_numeralsOf]
  constructor
  · rintro ⟨found, hfound, hterm, hindex⟩
    obtain ⟨hparts, hnames⟩ := mapM_cut_eq_some_iff.mp hfound
    rw [exists_numeralsOf_iff hnames] at hterm hindex
    have hassigned : ∀ part ∈ found.map assignment, '=' ∈ part := by
      rw [List.forall_mem_map]
      simp [assignment]
    exact ⟨_, hasParts_iff.mpr hparts, ⟨hassigned, hterm.2.exists_hasKey, hindex.2.exists_hasKey,
      hterm.1, hindex.1⟩, hterm.2, hindex.2⟩
  · rintro ⟨parts, hparts, haccepted, hterm, hindex⟩
    obtain ⟨found, rfl, hnames⟩ := exists_map_assignment haccepted.assigned
    exact ⟨found, mapM_cut_eq_some_iff.mpr ⟨hasParts_iff.mp hparts, hnames⟩,
      (exists_numeralsOf_iff hnames).mpr ⟨haccepted.terms, hterm⟩,
      (exists_numeralsOf_iff hnames).mpr ⟨haccepted.indexes, hindex⟩⟩

end

/-- **A text is read as a log position exactly if it follows the grammar.** Its parts are what
stands between commas inside the parentheses. Each part must have an equals sign, some term and some
index must be assigned, and every one of them must be a number of 64 bits; then the last term and
the last index are read, whatever the order of the parts and their other keys are. In particular,
either notation of a log position is read as this position. -/
theorem parse_accepts_grammar :
    (∀ text : String, (parse text).isSome ↔
      ∃ parts, HasParts text.toList parts ∧ IsAccepted parts) ∧
    (∀ (text : String) (id : LogId), parse text = some id ↔
      ∃ parts, HasParts text.toList parts ∧ IsAccepted parts ∧
        IsLastNumber "term" parts id.term ∧ IsLastNumber "index" parts id.index) ∧
    ∀ term index : UInt64,
      parse ("term=" ++ term.toNat.repr ++ ",index=" ++ index.toNat.repr) = some ⟨term, index⟩ ∧
      parse ("(index=" ++ index.toNat.repr ++ ",term=" ++ term.toNat.repr ++ ")") =
        some ⟨term, index⟩ := by
  refine ⟨fun text => ?accepted, fun text id => parse_eq_some_iff, fun term index => ?notations⟩
  case accepted =>
    rw [Option.isSome_iff_exists]
    constructor
    · rintro ⟨id, hid⟩
      obtain ⟨parts, hparts, haccepted, -, -⟩ := parse_eq_some_iff.mp hid
      exact ⟨parts, hparts, haccepted⟩
    · rintro ⟨parts, hparts, haccepted⟩
      obtain ⟨term, hterm⟩ := exists_isLastNumber haccepted.term haccepted.terms
      obtain ⟨index, hindex⟩ := exists_isLastNumber haccepted.index haccepted.indexes
      exact ⟨⟨term, index⟩, parse_eq_some_iff.mpr ⟨parts, hparts, haccepted, hterm, hindex⟩⟩
  case notations =>
    exact ⟨parse_text ⟨term, index⟩ .plain, parse_text ⟨term, index⟩ .parenthesized⟩

end CopysetWatch.Raft.LogId
