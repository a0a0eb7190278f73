import CopysetWatch.Duration
import CopysetWatch.Json.Place
import CopysetWatch.Json.Reader

/-!
# JSON formats

A format says how the values of a type are written as JSON and which JSON is read as one. A
record is read from an object with its fields in any order, or from an array with its fields in
theirs; an object may hold other members, but no field twice. Faults are found in the order of the
text, and a missing field is found at the end of its object, the first one in order before others.
Reading panics where the duration that comes next in the text makes it panic.
-/

namespace CopysetWatch.Json

/-- Why a JSON value is not one of a type. -/
inductive DecodeFault where
  | missingField (name : String)
  | duplicateField (name : String)
  /-- A variant that is none of the known ones. -/
  | unknownVariant (found : String) (known : List String)
  | unknownAlertKind (name : String)
  | duration (fault : DurationFault)
  /-- The text is no JSON, or a value has the wrong form. -/
  | malformed
  deriving DecidableEq, Repr

/-- A name as messages put it. -/
def ticked (name : String) : String :=
  "`" ++ name ++ "`"

/-- The variants that a message offers. -/
def offer (known : List String) : String :=
  match known with
  | [a, b] => ticked a ++ " or " ++ ticked b
  | [a] => ticked a
  | _ => "one of " ++ ", ".intercalate (known.map ticked)

/-- The wording of a fault. -/
def DecodeFault.message : DecodeFault → String
  | .missingField name => "missing field " ++ ticked name
  | .duplicateField name => "duplicate field " ++ ticked name
  | .unknownVariant found known =>
    "unknown variant " ++ ticked found ++ ", expected " ++ offer known
  | .unknownAlertKind name =>
    String.ofList (withoutPlace ("Unknown alert kind: " ++ name).toList)
  | .duration fault => fault.message
  | .malformed => "malformed JSON"

/-- How the values of a type are written and read. -/
structure Format (α : Type) where
  encode : α → Json
  decode : Json → Outcome DecodeFault α

/-- A field of a record: its name, whether it has to be there, and how its value is judged. -/
structure Field where
  name : String
  required : Bool
  judge : Json → Outcome DecodeFault Unit

namespace Format

/-- Texts. -/
def text : Format String where
  encode := .ofText
  decode
    | .string (some s) => .value s
    | _ => .fault .malformed

/-- Truth values. -/
def bool : Format Bool where
  encode := .bool
  decode
    | .bool b => .value b
    | _ => .fault .malformed

/-- Naturals below a limit. -/
def natBelow (limit : Nat) : Json → Outcome DecodeFault Nat
  | .number (some n) => if n < limit then .value n else .fault .malformed
  | _ => .fault .malformed

/-- Numbers of 64 bits. -/
def uint64 : Format UInt64 where
  encode n := .ofNat n.toNat
  decode j := (natBelow UInt64.size j).map .ofNat

/-- Numbers of 32 bits. -/
def uint32 : Format UInt32 where
  encode n := .ofNat n.toNat
  decode j := (natBelow UInt32.size j).map .ofNat

/-- Numbers of 16 bits. -/
def uint16 : Format UInt16 where
  encode n := .ofNat n.toNat
  decode j := (natBelow UInt16.size j).map .ofNat

/-- Durations, as texts. -/
def duration : Format Duration where
  encode d := .ofText d.text
  decode j := do
    let written ← text.decode j
    match Duration.parse written with
    | .value d => .value d
    | .fault f => .fault (.duration f)
    | .panic => .panic

/-- The values of the items of an array. -/
def decodeItems {α : Type} (f : Format α) : Items → Outcome DecodeFault (List α)
  | .closed => .value []
  | .cut => .fault .malformed
  | .cons head tail => do
    let a ← f.decode head
    let rest ← decodeItems f tail
    return a :: rest

/-- Lists, as arrays. -/
def list {α : Type} (f : Format α) : Format (List α) where
  encode l := .ofItems (l.map f.encode)
  decode
    | .array items => decodeItems f items
    | _ => .fault .malformed

/-- A variant by its name, with what it carries if it is the only member of an object. -/
def decodeVariant : Json → Outcome DecodeFault (String × Option Json × Members)
  | .string (some name) => .value (name, none, .closed)
  | .object (.cons (some name) carried rest) => .value (name, some carried, rest)
  | _ => .fault .malformed

/-- The value of a variant without content: none is carried, or only null is. -/
def decodeBare {α : Type} (a : α) : Option Json × Members → Outcome DecodeFault α
  | (none, _) => .value a
  | (some .null, .closed) => .value a
  | _ => .fault .malformed

/-- The variants of an enumeration, by name. -/
def oneOf {α : Type} [DecidableEq α] (variants : List (String × α)) : Format α where
  encode a := .ofText (((variants.find? fun v => v.2 = a).map Prod.fst).getD "")
  decode j := do
    let (name, content) ← decodeVariant j
    match variants.lookup name with
    | some a => decodeBare a content
    | none => .fault (.unknownVariant name (variants.map Prod.fst))

end Format

namespace Field

/-- A field that has to be there. -/
def of {α : Type} (name : String) (f : Format α) : Field where
  name := name
  required := true
  judge j := (f.decode j).map fun _ => ()

/-- A field that may be left out. -/
def optional {α : Type} (name : String) (f : Format α) : Field where
  name := name
  required := false
  judge j := (f.decode j).map fun _ => ()

/-- The fields found among the members of an object, beside those found before. -/
def ofMembers (fields : List Field) (found : List (String × Json)) :
    Members → Outcome DecodeFault (List (String × Json))
  | .cut => .fault .malformed
  | .closed =>
    match fields.find? fun f => f.required && (found.lookup f.name).isNone with
    | some f => .fault (.missingField f.name)
    | none => .value found
  | .cons none _ _ => .fault .malformed
  | .cons (some key) value tail =>
    match fields.find? fun f => f.name == key with
    | none => ofMembers fields found tail
    | some f =>
      if (found.lookup key).isSome then .fault (.duplicateField key)
      else do
        f.judge value
        ofMembers fields ((key, value) :: found) tail

/-- The fields found among the items of an array, in their order. -/
def ofItems : List Field → Items → Outcome DecodeFault (List (String × Json))
  | [], .closed => .value []
  | [], _ => .fault .malformed
  | f :: rest, .closed => if f.required then .fault .malformed else ofItems rest .closed
  | _ :: _, .cut => .fault .malformed
  | f :: rest, .cons head tail => do
    f.judge head
    let others ← ofItems rest tail
    return (f.name, head) :: others

/-- The fields found in the JSON of a record. -/
def find (fields : List Field) : Json → Outcome DecodeFault (List (String × Json))
  | .object members => ofMembers fields [] members
  | .array items => ofItems fields items
  | _ => .fault .malformed

/-- The value of a field that was found. -/
def get {α : Type} (found : List (String × Json)) (name : String) (f : Format α) :
    Outcome DecodeFault α :=
  match found.lookup name with
  | some j => f.decode j
  | none => .fault (.missingField name)

/-- The value of a field that was found, or another one if it was left out. -/
def getD {α : Type} (found : List (String × Json)) (name : String) (f : Format α) (other : α) :
    Outcome DecodeFault α :=
  match found.lookup name with
  | some j => f.decode j
  | none => .value other

end Field

namespace Format

/-- The value that a text writes, behind which only blanks may follow. -/
def parse {α : Type} (f : Format α) (text : String) : Outcome DecodeFault α :=
  match Json.read text with
  | (j, ends) => do
    let a ← f.decode j
    if ends then .value a else .fault .malformed

/-- The text of a value. -/
def print {α : Type} (f : Format α) (a : α) : String :=
  (f.encode a).text

end Format

end CopysetWatch.Json
