import CopysetWatch.Json.Format
import CopysetWatch.Proofs.Json.Written

/-!
# Formats that restore what they write

A format restores a value if the value has a text and is read back from it. For a record this comes
down to its fields: an object that was written holds each field once and under its own name, so the
fields are found and each of them is read by its own format.
-/

namespace CopysetWatch.Json

variable {α : Type}

namespace Format

/-- A value has a text in a format and is what this text is read as. -/
structure Restores (f : Format α) (a : α) : Prop where
  whole : (f.encode a).IsWhole
  decode : f.decode (f.encode a) = .value a

/-- A value that is restored is read back from its text. -/
theorem Restores.parse_print {f : Format α} {a : α} (h : f.Restores a) :
    f.parse (f.print a) = .value a := by
  rw [parse, print, read_text h.whole]
  dsimp only
  rw [h.decode]
  rfl

/-! ### Texts, truth values and numbers -/

theorem restores_text (s : String) : text.Restores s :=
  ⟨rfl, rfl⟩

theorem restores_bool (b : Bool) : bool.Restores b :=
  ⟨trivial, rfl⟩

/-- A natural below a limit is read back. -/
theorem natBelow_ofNat {limit n : Nat} (h : n < limit) : natBelow limit (.ofNat n) = .value n :=
  if_pos h

theorem restores_uint64 (n : UInt64) : uint64.Restores n where
  whole := rfl
  decode := by
    have hbelow := natBelow_ofNat n.toNat_lt
    exact (congrArg (Outcome.map UInt64.ofNat) hbelow).trans (congrArg Outcome.value n.ofNat_toNat)

theorem restores_uint32 (n : UInt32) : uint32.Restores n where
  whole := rfl
  decode := by
    have hbelow := natBelow_ofNat n.toNat_lt
    exact (congrArg (Outcome.map UInt32.ofNat) hbelow).trans (congrArg Outcome.value n.ofNat_toNat)

theorem restores_uint16 (n : UInt16) : uint16.Restores n where
  whole := rfl
  decode := by
    have hbelow := natBelow_ofNat n.toNat_lt
    exact (congrArg (Outcome.map UInt16.ofNat) hbelow).trans (congrArg Outcome.value n.ofNat_toNat)

/-- A duration that its text writes is restored. -/
theorem restores_duration {d : Duration} (h : Duration.parse d.text = .value d) :
    duration.Restores d where
  whole := rfl
  decode := by
    have hread : text.decode (.ofText d.text) = .value d.text := rfl
    simp only [duration, hread, bind, Outcome.bind, h]

/-! ### Lists and variants -/

theorem isWhole_ofItems {items : List Json} (h : ∀ j ∈ items, j.IsWhole) :
    (ofItems items).IsWhole := by
  change (Items.ofList items).IsWhole
  induction items with
  | nil => trivial
  | cons j rest ih =>
    rw [List.forall_mem_cons] at h
    exact ⟨h.1, ih h.2⟩

/-- A list of values that are restored is restored. -/
theorem restores_list {f : Format α} {l : List α} (h : ∀ a ∈ l, f.Restores a) :
    (list f).Restores l where
  whole := isWhole_ofItems (List.forall_mem_map.mpr fun a ha => (h a ha).whole)
  decode := by
    change decodeItems f (.ofList (l.map f.encode)) = .value l
    induction l with
    | nil => rfl
    | cons a rest ih =>
      rw [List.forall_mem_cons] at h
      rw [List.map_cons, Items.ofList, decodeItems, h.1.decode, ih h.2]
      rfl

/-- A variant with a name of its own is restored. -/
theorem restores_oneOf [DecidableEq α] {variants : List (String × α)} {a : α}
    (hname : ∃ name, (variants.find? fun v => v.2 = a) = some (name, a) ∧
      variants.lookup name = some a) : (oneOf variants).Restores a where
  whole := rfl
  decode := by
    obtain ⟨name, hfind, hlookup⟩ := hname
    have hencode : (oneOf variants).encode a = .ofText name := by
      simp [oneOf, hfind]
    rw [hencode]
    have hread : decodeVariant (.ofText name) = .value (name, none, .closed) := rfl
    simp only [oneOf, hread, bind, Outcome.bind, hlookup]
    rfl

end Format

/-! ### Records -/

/-- A member holds what a field wants: it has the field's name, a text, and the field accepts it. -/
structure Field.Accepts (f : Field) (entry : String × Json) : Prop where
  name : f.name = entry.1
  whole : entry.2.IsWhole
  judge : f.judge entry.2 = .value ()

theorem Format.Restores.of {f : Format α} {a : α} (h : f.Restores a) (name : String) :
    (Field.of name f).Accepts (name, f.encode a) where
  name := rfl
  whole := h.whole
  judge := by simp [Field.of, h.decode]

theorem Format.Restores.optional {f : Format α} {a : α} (h : f.Restores a) (name : String) :
    (Field.optional name f).Accepts (name, f.encode a) where
  name := rfl
  whole := h.whole
  judge := by simp [Field.optional, h.decode]

/-- The members of an object are those of a record: one for each field, in the order of the fields,
and no two fields have one name. -/
structure Field.AreOf (fields : List Field) (entries : List (String × Json)) : Prop where
  accepts : List.Forall₂ Field.Accepts fields entries
  distinct : (fields.map Field.name).Nodup

/-- An entry under a key of its own is found by this key. -/
theorem lookup_eq_some_of_mem {entries : List (String × Json)}
    (hnodup : (entries.map Prod.fst).Nodup) {key : String} {value : Json}
    (h : (key, value) ∈ entries) : entries.lookup key = some value := by
  induction entries with
  | nil => cases h
  | cons entry rest ih =>
    obtain ⟨hfirst, hrest⟩ := List.nodup_cons.mp hnodup
    obtain rfl | hmem := List.mem_cons.mp h
    · exact List.lookup_cons_self
    · have hne : (key == entry.1) = false := by
        rw [beq_eq_false_iff_ne]
        rintro rfl
        exact hfirst (List.mem_map.mpr ⟨_, hmem, rfl⟩)
      rw [List.lookup_cons, hne]
      exact ih hrest hmem

theorem lookup_eq_none_of_not_mem {entries : List (String × Json)} {key : String}
    (h : key ∉ entries.map Prod.fst) : entries.lookup key = none := by
  rw [List.lookup_eq_none_iff]
  intro entry hentry
  rw [bne_iff_ne]
  rintro rfl
  exact h (List.mem_map_of_mem hentry)

namespace Field.AreOf

variable {fields : List Field} {entries : List (String × Json)}

/-- The members of a record are named as its fields are. -/
theorem map_fst (h : AreOf fields entries) : entries.map Prod.fst = fields.map Field.name := by
  obtain ⟨haccepts, -⟩ := h
  induction haccepts with
  | nil => rfl
  | cons hfirst _ ih => exact congrArg₂ List.cons hfirst.name.symm ih

theorem nodup (h : AreOf fields entries) : (entries.map Prod.fst).Nodup :=
  h.map_fst ▸ h.distinct

/-- The object of a record has a text. -/
theorem isWhole (h : AreOf fields entries) : (Json.ofMembers entries).IsWhole := by
  obtain ⟨haccepts, -⟩ := h
  change (Members.ofList entries).IsWhole
  induction haccepts with
  | nil => trivial
  | cons hfirst _ ih => exact ⟨rfl, hfirst.whole, ih⟩

/-- The field of a member is found by its name, and accepts it. -/
theorem exists_find? (h : AreOf fields entries) {entry : String × Json} (hentry : entry ∈ entries) :
    ∃ f, fields.find? (·.name == entry.1) = some f ∧ f.judge entry.2 = .value () := by
  have hnodup := h.nodup
  obtain ⟨haccepts, -⟩ := h
  induction haccepts with
  | nil => cases hentry
  | @cons f first fields rest hfirst _ ih =>
    obtain ⟨hnot, hrest⟩ := List.nodup_cons.mp hnodup
    obtain rfl | hmem := List.mem_cons.mp hentry
    · exact ⟨f, List.find?_cons_of_pos (by simp [hfirst.name]), hfirst.judge⟩
    · have hne : (f.name == entry.1) = false := by
        rw [hfirst.name, beq_eq_false_iff_ne]
        intro heq
        exact hnot (heq ▸ List.mem_map_of_mem hmem)
      rw [List.find?_cons, hne]
      exact ih hmem hrest

/-- A member is found by its name, from whichever end of the record the search begins. -/
theorem lookup_reverse (h : AreOf fields entries) {name : String} {value : Json}
    (hmem : (name, value) ∈ entries) : entries.reverse.lookup name = some value := by
  have hnodup : (entries.reverse.map Prod.fst).Nodup :=
    (entries.reverse_perm.map Prod.fst).nodup_iff.mpr h.nodup
  exact lookup_eq_some_of_mem hnodup (List.mem_reverse.mpr hmem)

/-- The members that are left are found beside those found before. -/
theorem ofMembers_ofList (h : AreOf fields entries) {earlier rest : List (String × Json)}
    (hsplit : entries = earlier ++ rest) :
    Field.ofMembers fields earlier.reverse (.ofList rest) = .value entries.reverse := by
  induction rest generalizing earlier with
  | nil =>
    obtain rfl : entries = earlier := by simpa using hsplit
    -- every field has a member, so none of the required ones is missed
    have hall : fields.find? (fun f => f.required && (entries.reverse.lookup f.name).isNone) =
        none := by
      rw [List.find?_eq_none]
      intro f hf
      have hname : f.name ∈ entries.map Prod.fst := h.map_fst ▸ List.mem_map_of_mem hf
      obtain ⟨⟨_, value⟩, hentry, rfl⟩ := List.mem_map.mp hname
      simp [h.lookup_reverse hentry]
    rw [Members.ofList, Field.ofMembers, hall]
  | cons entry rest ih =>
    obtain ⟨key, value⟩ := entry
    have hentry : (key, value) ∈ entries := by simp [hsplit]
    obtain ⟨f, hfind, hjudge⟩ := h.exists_find? hentry
    -- the names of a record are distinct, so the member was not met before
    have hnew : earlier.reverse.lookup key = none := by
      have hnodup := h.nodup
      rw [hsplit, List.map_append, List.nodup_append] at hnodup
      apply lookup_eq_none_of_not_mem
      rw [List.map_reverse, List.mem_reverse]
      intro hkey
      exact hnodup.2.2 key hkey key List.mem_cons_self rfl
    have hnext := @ih (earlier ++ [(key, value)]) (by simp [hsplit])
    rw [List.reverse_append] at hnext
    rw [Members.ofList, Field.ofMembers, hfind]
    dsimp only
    rw [hnew, hjudge]
    exact hnext

/-- The fields of a record are found in its object. -/
theorem find (h : AreOf fields entries) :
    Field.find fields (.ofMembers entries) = .value entries.reverse :=
  h.ofMembers_ofList (List.nil_append _).symm

variable {f : Format α} {a : α}

/-- A field of a record is read as the value that was written. -/
theorem get (h : AreOf fields entries) (ha : f.Restores a) (name : String)
    (hmem : (name, f.encode a) ∈ entries) :
    Field.get entries.reverse name f = .value a := by
  rw [Field.get, h.lookup_reverse hmem]
  exact ha.decode

/-- A field that may be left out is written, so it is read as what was written. -/
theorem getD (h : AreOf fields entries) (ha : f.Restores a) (name : String)
    (hmem : (name, f.encode a) ∈ entries) (other : α) :
    Field.getD entries.reverse name f other = .value a := by
  rw [Field.getD, h.lookup_reverse hmem]
  exact ha.decode

end Field.AreOf

/-- A record whose object holds its fields is restored, if its parts make it up again. -/
theorem Format.restores_of_record {f : Format α} {a : α} {fields : List Field}
    {entries : List (String × Json)}
    {build : List (String × Json) → Outcome DecodeFault α}
    (hencode : f.encode a = ofMembers entries)
    (hdecode : ∀ j, f.decode j = (Field.find fields j).bind build)
    (h : Field.AreOf fields entries) (hbuild : build entries.reverse = .value a) :
    f.Restores a where
  whole := hencode ▸ h.isWhole
  decode := by
    rw [hencode, hdecode, h.find]
    exact hbuild

/-! ### What is read -/

/-- What a text is read as is what some JSON is read as. -/
theorem Format.exists_decode_of_parse {f : Format α} {text : String} {a : α}
    (h : f.parse text = .value a) : ∃ j, f.decode j = .value a := by
  unfold Format.parse at h
  split at h
  obtain ⟨a', hdecode, hends⟩ := Outcome.bind_eq_value_iff.mp h
  split at hends
  case isTrue => exact ⟨_, hdecode.trans hends⟩
  case isFalse => cases hends

/-- What a field is read as is what some JSON is read as. -/
theorem Field.exists_decode_of_get {found : List (String × Json)} {name : String} {f : Format α}
    {a : α} (h : Field.get found name f = .value a) : ∃ j, f.decode j = .value a := by
  unfold Field.get at h
  split at h
  case h_1 j _ => exact ⟨j, h⟩
  case h_2 => cases h

/-- What a field that may be left out is read as is its default or what some JSON is read as. -/
theorem Field.exists_decode_of_getD {found : List (String × Json)} {name : String} {f : Format α}
    {a other : α} (h : Field.getD found name f other = .value a) :
    a = other ∨ ∃ j, f.decode j = .value a := by
  unfold Field.getD at h
  split at h
  case h_1 j _ => exact .inr ⟨j, h⟩
  case h_2 => exact .inl (Outcome.value.inj h).symm

end CopysetWatch.Json
