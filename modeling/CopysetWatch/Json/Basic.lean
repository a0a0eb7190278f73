/-!
# JSON values

A JSON value as it was read, up to the first place where the text is no JSON. A list that breaks
off keeps what came before the break, so that a reader who goes through a value in order meets its
faults in the order of the text.
-/

namespace CopysetWatch

mutual

/-- A JSON value. -/
inductive Json where
  | null
  | bool (value : Bool)
  /-- A number; only one that is written as a plain natural has a value here. -/
  | number (value : Option Nat)
  /-- A string, which has no text if it holds half of a surrogate pair. -/
  | string (text : Option String)
  | array (items : Json.Items)
  | object (members : Json.Members)
  /-- The text is no value here. -/
  | broken

/-- The items of an array. -/
inductive Json.Items where
  | closed
  /-- The text breaks off before the bracket that closes the array. -/
  | cut
  | cons (head : Json) (tail : Json.Items)

/-- The members of an object, with keys like strings. -/
inductive Json.Members where
  | closed
  /-- The text breaks off before the brace that closes the object. -/
  | cut
  | cons (key : Option String) (value : Json) (tail : Json.Members)

end

namespace Json

instance : Inhabited Json := ⟨.null⟩

/-- The string of a text. -/
def ofText (text : String) : Json :=
  .string (some text)

/-- The number of a natural. -/
def ofNat (n : Nat) : Json :=
  .number (some n)

/-- The items of a closed array. -/
def Items.ofList : List Json → Items
  | [] => .closed
  | head :: tail => .cons head (ofList tail)

/-- The members of a closed object. -/
def Members.ofList : List (String × Json) → Members
  | [] => .closed
  | (key, value) :: tail => .cons (some key) value (ofList tail)

/-- The array of some items. -/
def ofItems (items : List Json) : Json :=
  .array (.ofList items)

/-- The object of some members. -/
def ofMembers (members : List (String × Json)) : Json :=
  .object (.ofList members)

end Json

end CopysetWatch
