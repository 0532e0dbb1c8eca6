import SchemaPages.Data.Json.Token
/-!
# Reading JSON

Tokens are read from the left with a stack of the lists and mappings that are still open.

* `read?`: the value of a text, if it is JSON and not nested too deep. A key that comes twice keeps
  its place and takes the later value;
* `readRepeated?`: the same, but a key that comes twice has two entries.
-/

namespace SchemaPages.Json

/-- A list or mapping that is still open, with what it holds so far. -/
inductive Frame where
  /-- The items, latest first. -/
  | list (items : List Value)
  /-- The entries, and the key that waits for its value. -/
  | map (entries : List (String × Value)) (key : String)
  deriving Repr

/-- What may come next. -/
inductive Mode where
  | value
  /-- An item, or the end of an empty list. -/
  | itemOrEnd
  /-- A key, or the end of an empty mapping. -/
  | keyOrEnd (entries : List (String × Value))
  | key (entries : List (String × Value))
  | colon (entries : List (String × Value)) (key : String)
  /-- A value is complete. -/
  | done (v : Value)
  deriving Repr

/-- How many lists and mappings may be open at once. -/
def maxDepth : Nat := 127

/-- How an entry is added to those before it. -/
abbrev AddEntry := String → Value → List (String × Value) → List (String × Value)

/-- The next stack and mode, or `none` where the token does not fit. -/
def step (add : AddEntry) (stack : List Frame) (mode : Mode) (token : Token) :
    Option (List Frame × Mode) :=
  let begin : Option (List Frame × Mode) :=
    match token with
    | .scalar v => some (stack, .done v)
    | .text s => some (stack, .done (.str s))
    | .openList => if stack.length < maxDepth then some (.list [] :: stack, .itemOrEnd) else none
    | .openMap => if stack.length < maxDepth then some (.map [] "" :: stack, .keyOrEnd []) else none
    | _ => none
  match mode, token, stack with
  | .value, _, _ => begin
  | .itemOrEnd, .closeList, .list _ :: stack => some (stack, .done (.arr []))
  | .itemOrEnd, _, _ => begin
  | .keyOrEnd _, .closeMap, .map _ _ :: stack => some (stack, .done (.obj []))
  | .keyOrEnd entries, .text k, _ => some (stack, .colon entries k)
  | .key entries, .text k, _ => some (stack, .colon entries k)
  | .colon entries k, .colon, .map _ _ :: stack => some (.map entries k :: stack, .value)
  | .done v, .comma, .list items :: stack => some (.list (v :: items) :: stack, .value)
  | .done v, .closeList, .list items :: stack => some (stack, .done (.arr (v :: items).reverse))
  | .done v, .comma, .map entries k :: _ => some (stack, .key (add k v entries))
  | .done v, .closeMap, .map entries k :: stack => some (stack, .done (.obj (add k v entries)))
  | _, _, _ => none

/-- Reads all tokens; in the end one value is complete and nothing is open. -/
def readTokens (add : AddEntry) (stack : List Frame) (mode : Mode) : List Token → Option Value
  | [] =>
    match stack, mode with
    | [], .done v => some v
    | _, _ => none
  | token :: rest => do
    let (stack, mode) ← step add stack mode token
    readTokens add stack mode rest

/-- The value of a text. -/
def read? (s : String) : Option Value :=
  (tokens? s).bind (readTokens insertEntry [] .value)

/-- The value of a text in which a key that comes twice has two entries. -/
def readRepeated? (s : String) : Option Value :=
  (tokens? s).bind (readTokens (fun k v entries => entries ++ [(k, v)]) [] .value)

end SchemaPages.Json
