/-
**Reading JSON texts.**

`Json.ofText?` reads a text as one value, with blanks wherever JSON allows them. It walks over the tokens
once and keeps the arrays and objects that are open, the innermost first; a comma asks for one more item
or member, so none may stand before a closing mark.

* `readValue_tokens`: behind the tokens of a value, whatever is open, the walk goes on with that value;
* **`ofText?_text`**: the text of a value is read as that value;
* **`text_injective`**: so two values have different texts.
-/

import SchemaDump.Proofs.Json.Tokens

namespace SchemaDump

/-- An array or object that is open, with what was read of it, the last first; an object with the name of
the member that comes next. -/
inductive JsonFrame where
  | items (before : List Json)
  | member (before : List (String × Json)) (name : String)

namespace Json

/-! ### The reader -/

mutual

/-- Reads on where a value must start, or the array that has just been opened must end. -/
def readValue (frames : List JsonFrame) : List JsonToken → Option Json
  | .plain value :: rest => readBehind frames value rest
  | .string text :: rest => readBehind frames (.string text) rest
  | .openArray :: rest => readValue (.items [] :: frames) rest
  | .openObject :: rest => readName frames [] rest
  | .closeArray :: rest =>
    match frames with
    | .items [] :: above => readBehind above (.array []) rest
    | _ => none
  | _ => none

/-- Reads on where a member of an object must start, or the object that has just been opened must end. -/
def readName (frames : List JsonFrame) (before : List (String × Json)) : List JsonToken → Option Json
  | .string name :: .colon :: rest => readValue (.member before name :: frames) rest
  | .closeObject :: rest => if before.isEmpty then readBehind frames (.object []) rest else none
  | _ => none

/-- Reads on behind a value. -/
def readBehind (frames : List JsonFrame) (value : Json) : List JsonToken → Option Json
  | [] => if frames.isEmpty then some value else none
  | .comma :: rest =>
    match frames with
    | .items before :: above => readValue (.items (value :: before) :: above) rest
    | .member before name :: above => readName above ((name, value) :: before) rest
    | [] => none
  | .closeArray :: rest =>
    match frames with
    | .items before :: above => readBehind above (.array (value :: before).reverse) rest
    | _ => none
  | .closeObject :: rest =>
    match frames with
    | .member before name :: above => readBehind above (.object ((name, value) :: before).reverse) rest
    | _ => none
  | _ => none

end

/-- The value that a text has as JSON, if its numbers are natural ones. -/
def ofText? (text : String) : Option Json := (readTokens text.toList).bind (readValue [])

/-! ### Reading what was printed -/

mutual

/-- **Behind the tokens of a value the reader goes on with the value,** whatever is open around it. -/
theorem readValue_tokens (frames : List JsonFrame) (rest : List JsonToken) :
    (value : Json) → readValue frames (value.tokens ++ rest) = readBehind frames value rest
  | null => by rw [tokens, List.singleton_append, readValue]
  | bool value => by rw [tokens, List.singleton_append, readValue]
  | number value => by rw [tokens, List.singleton_append, readValue]
  | string text => by rw [tokens, List.singleton_append, readValue]
  | array items => by
    have inside := readValue_itemTokens frames rest [] items (fun _ => rfl)
    rw [tokens, List.cons_append, List.cons_append, readValue, List.append_assoc, List.singleton_append,
      inside, List.reverse_nil, List.nil_append]
  | object members => by
    have inside := readName_memberTokens frames rest [] members (fun _ => rfl)
    rw [tokens, List.cons_append, List.cons_append, readValue, List.append_assoc, List.singleton_append,
      inside, List.reverse_nil, List.nil_append]

/-- The items that were read before stand in front of those that are left. -/
theorem readValue_itemTokens (frames : List JsonFrame) (rest : List JsonToken) (before : List Json) :
    (items : List Json) → (items = [] → before = []) →
      readValue (.items before :: frames) ([.comma].intercalate (itemTokens items) ++ .closeArray :: rest) =
        readBehind frames (.array (before.reverse ++ items)) rest
  | [], fresh => by
    obtain rfl := fresh rfl
    rw [itemTokens, List.intercalate_nil, List.nil_append, readValue]
    rfl
  | [last], _ => by
    rw [itemTokens, itemTokens, List.intercalate_singleton, readValue_tokens, readBehind,
      List.reverse_cons]
  | first :: second :: others, _ => by
    have later := readValue_itemTokens frames rest (first :: before) (second :: others) nofun
    rw [itemTokens] at later ⊢
    rw [itemTokens, List.intercalate_cons_cons, List.append_assoc, List.append_assoc, List.singleton_append,
      readValue_tokens, readBehind, later, List.reverse_cons, List.append_assoc, List.singleton_append]

theorem readName_memberTokens (frames : List JsonFrame) (rest : List JsonToken)
    (before : List (String × Json)) :
    (members : List (String × Json)) → (members = [] → before = []) →
      readName frames before ([.comma].intercalate (memberTokens members) ++ .closeObject :: rest) =
        readBehind frames (.object (before.reverse ++ members)) rest
  | [], fresh => by
    obtain rfl := fresh rfl
    rw [memberTokens, List.intercalate_nil, List.nil_append, readName]
    rfl
  | [(name, value)], _ => by
    rw [memberTokens, memberTokens, List.intercalate_singleton, List.cons_append, List.cons_append, readName,
      readValue_tokens, readBehind, List.reverse_cons]
  | (name, value) :: second :: others, _ => by
    have later := readName_memberTokens frames rest ((name, value) :: before) (second :: others)
      nofun
    rw [memberTokens] at later ⊢
    rw [memberTokens, List.intercalate_cons_cons, List.append_assoc, List.append_assoc, List.singleton_append,
      List.cons_append, List.cons_append, readName, readValue_tokens, readBehind, later, List.reverse_cons,
      List.append_assoc, List.singleton_append]

end

/-- **The text of a value is read as that value.** -/
theorem ofText?_text (value : Json) : ofText? value.text = some value := by
  have whole := readValue_tokens [] [] value
  rw [List.append_nil] at whole
  rw [ofText?, readTokens_text, Option.bind_some, whole, readBehind]
  rfl

/-- Other layouts and escapes are read as well. -/
example : ofText? " [ \"\\ud83d\\ude00\\/\" ,[]]\n" = some (.array [.string "😀/", .array []]) := by cbv

/-- A comma asks for one more item. -/
example : ofText? "[1,]" = none := by cbv

/-- **Different values have different texts.** -/
theorem text_injective : Function.Injective text := by
  intro first second same
  refine Option.some.inj ?_
  rw [← ofText?_text first, same, ofText?_text]

end Json

end SchemaDump
