import AlertDelivery.Number.Decimal
import AlertDelivery.Text.Quoted

/-!
# Dynamic values

Channel configurations, notification variables and request bodies hold
values of any kind. A record keeps its fields in the order in which they
were first written; `Fields` has the operations on them. A value has a
plain text, used wherever one is put into a message, and a literal text in
which nested text is quoted.
-/

namespace AlertDelivery

inductive Value where
  | null
  | bool (b : Bool)
  | int (i : Int)
  | real (x : Binary64)
  | text (s : String)
  | list (items : List Value)
  | record (fields : List (String × Value))
deriving Inhabited, Repr

abbrev Fields := List (String × Value)

namespace Value

mutual
def decEq : (a b : Value) → Decidable (a = b)
  | .null, .null => isTrue rfl
  | .bool a, .bool b => if h : a = b then isTrue (h ▸ rfl) else isFalse (by simp [h])
  | .int a, .int b => if h : a = b then isTrue (h ▸ rfl) else isFalse (by simp [h])
  | .real a, .real b => if h : a = b then isTrue (h ▸ rfl) else isFalse (by simp [h])
  | .text a, .text b => if h : a = b then isTrue (h ▸ rfl) else isFalse (by simp [h])
  | .list a, .list b => match decEqList a b with
    | isTrue h => isTrue (h ▸ rfl)
    | isFalse h => isFalse (by simp [h])
  | .record a, .record b => match decEqFields a b with
    | isTrue h => isTrue (h ▸ rfl)
    | isFalse h => isFalse (by simp [h])
  | .null, .bool _ | .null, .int _ | .null, .real _ | .null, .text _ | .null, .list _
  | .null, .record _ | .bool _, .null | .bool _, .int _ | .bool _, .real _ | .bool _, .text _
  | .bool _, .list _ | .bool _, .record _ | .int _, .null | .int _, .bool _ | .int _, .real _
  | .int _, .text _ | .int _, .list _ | .int _, .record _ | .real _, .null | .real _, .bool _
  | .real _, .int _ | .real _, .text _ | .real _, .list _ | .real _, .record _ | .text _, .null
  | .text _, .bool _ | .text _, .int _ | .text _, .real _ | .text _, .list _
  | .text _, .record _ | .list _, .null | .list _, .bool _ | .list _, .int _ | .list _, .real _
  | .list _, .text _ | .list _, .record _ | .record _, .null | .record _, .bool _
  | .record _, .int _ | .record _, .real _ | .record _, .text _ | .record _, .list _ =>
    isFalse (by simp)
def decEqList : (a b : List Value) → Decidable (a = b)
  | [], [] => isTrue rfl
  | [], _ :: _ | _ :: _, [] => isFalse (by simp)
  | x :: a, y :: b => match decEq x y, decEqList a b with
    | isTrue h, isTrue k => isTrue (by rw [h, k])
    | isFalse h, _ => isFalse (by simp [h])
    | _, isFalse k => isFalse (by simp [k])
def decEqFields : (a b : List (String × Value)) → Decidable (a = b)
  | [], [] => isTrue rfl
  | [], _ :: _ | _ :: _, [] => isFalse (by simp)
  | (i, x) :: a, (j, y) :: b =>
    if h : i = j then
      match decEq x y, decEqFields a b with
      | isTrue k, isTrue l => isTrue (by rw [h, k, l])
      | isFalse k, _ => isFalse (by simp [k])
      | _, isFalse l => isFalse (by simp [l])
    else isFalse (by simp [h])
end

instance : DecidableEq Value := decEq

/-- A value counts as set unless it is null, false, zero or empty. -/
def truthy : Value → Bool
  | .null => false
  | .bool b => b
  | .int i => i != 0
  | .real x => !x.isZero
  | .text s => s != ""
  | .list items => !items.isEmpty
  | .record fields => !fields.isEmpty

def kindName : Value → String
  | .null => "NoneType"
  | .bool _ => "bool"
  | .int _ => "int"
  | .real _ => "float"
  | .text _ => "str"
  | .list _ => "list"
  | .record _ => "dict"

def optional {α : Type} (shown : α → Value) : Option α → Value
  | some a => shown a
  | none => .null

/-- Null and the empty text are blanks of a configuration form. -/
def isUnset : Value → Bool
  | .null => true
  | .text s => s == ""
  | _ => false

mutual
def literal : Value → String
  | .null => "None"
  | .bool b => if b then "True" else "False"
  | .int i => toString i
  | .real x => x.text
  | .text s => Text.quoted s
  | .list items => "[" ++ ", ".intercalate (literalItems items) ++ "]"
  | .record fields => "\x7b" ++ ", ".intercalate (literalFields fields) ++ "\x7d"
def literalItems : List Value → List String
  | [] => []
  | v :: rest => v.literal :: literalItems rest
def literalFields : List (String × Value) → List String
  | [] => []
  | (k, v) :: rest => (Text.quoted k ++ ": " ++ v.literal) :: literalFields rest
end

/-- The text put into messages: text as it is, anything else literally. -/
def plain : Value → String
  | .text s => s
  | v => v.literal

end Value

namespace Fields

def get? (fields : Fields) (key : String) : Option Value :=
  (fields.find? (·.1 == key)).map (·.2)

def getD (fields : Fields) (key : String) : Value := (get? fields key).getD .null

def has (fields : Fields) (key : String) : Bool := fields.any (·.1 == key)

/-- Replaces the value in its place, or appends a new field. -/
def put (fields : Fields) (key : String) (value : Value) : Fields :=
  match fields with
  | [] => [(key, value)]
  | (k, v) :: rest => if k == key then (key, value) :: rest else (k, v) :: put rest key value

def erase (fields : Fields) (key : String) : Fields := fields.filter (·.1 != key)

def overlay (fields newer : Fields) : Fields :=
  newer.foldl (fun acc (k, v) => put acc k v) fields

def keys (fields : Fields) : List String := fields.map (·.1)

end Fields

end AlertDelivery
