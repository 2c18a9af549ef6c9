import AlertDelivery.Value.Numeric
import AlertDelivery.Text

/-!
# Intake of outside values

Requests and settings arrive as loosely typed values. Each reader accepts
the forms that stand for its type without doubt, such as `"7"` or `7.0` for
an integer, and otherwise names the problem.
-/

namespace AlertDelivery.Intake

inductive Problem where
  | missing
  | intType
  | intParsing
  | intTooLong
  | intFromFloat
  | notFinite
  | realType
  | realParsing
  | boolType
  | boolParsing
  | textType
  | textTooShort
  | listType
  | listTooShort
  | recordType
  | modelType
  | tooLow
  | tooHigh
  | badDocument
deriving DecidableEq, Repr

def Problem.name : Problem → String
  | .missing => "missing"
  | .intType => "int_type"
  | .intParsing => "int_parsing"
  | .intTooLong => "int_parsing_size"
  | .intFromFloat => "int_from_float"
  | .notFinite => "finite_number"
  | .realType => "float_type"
  | .realParsing => "float_parsing"
  | .boolType => "bool_type"
  | .boolParsing => "bool_parsing"
  | .textType => "string_type"
  | .textTooShort => "string_too_short"
  | .listType => "list_type"
  | .listTooShort => "too_short"
  | .recordType => "dict_type"
  | .modelType => "model_attributes_type"
  | .tooLow => "greater_than_equal"
  | .tooHigh => "less_than_equal"
  | .badDocument => "json_invalid"

def placedBefore (a b : String × String) : Bool :=
  if a.1 = b.1 then decide (a.2 ≤ b.2) else decide (a.1 ≤ b.1)

/-- An integer numeral with an optional fraction of zeros. -/
def intText (s : String) : Except Problem Int :=
  let (minus, body) := Numeral.takeSign (Text.trimWhere Text.isBlank s.toList)
  let (digits, rest) := Numeral.takeDigits body
  let zeros := match rest with
    | [] => true
    | c :: more => c == '.' && more.all (· == '0')
  if digits.isEmpty || !zeros then .error .intParsing
  else if Numeral.maxDigits < digits.length then .error .intTooLong
  else .ok (if minus then -(Numeral.digitsValue digits : Int) else Numeral.digitsValue digits)

def int : Value → Except Problem Int
  | .bool b => .ok (if b then 1 else 0)
  | .int i => .ok i
  | .real x => match x.integral?, x.toRat? with
    | some i, _ => .ok i
    | none, some _ => .error .intFromFloat
    | none, none => .error .notFinite
  | .text s => intText s
  | _ => .error .intType

def real : Value → Except Problem Binary64
  | .text s => match Numeral.readReal? s with
    | some x => .ok x
    | none => .error .realParsing
  | v => match v.toReal? with
    | some (.ok x) => .ok x
    | some (.error _) => .ok .posInf
    | none => .error .realType

def trueWords : List String := ["1", "true", "t", "yes", "y", "on"]
def falseWords : List String := ["0", "false", "f", "no", "n", "off"]

def bool : Value → Except Problem Bool
  | .bool b => .ok b
  | .int 0 => .ok false
  | .int 1 => .ok true
  | .int _ => .error .boolParsing
  | .real x =>
    if x.eqv (.finite 0) then .ok false
    else if x.eqv (.finite 1) then .ok true
    else .error (if x.integral?.isSome then .boolParsing else .boolType)
  | .text s =>
    let word := String.ofList (s.toList.map Char.toLower)
    if trueWords.contains word then .ok true
    else if falseWords.contains word then .ok false
    else .error .boolParsing
  | _ => .error .boolType

def text : Value → Except Problem String
  | .text s => .ok s
  | _ => .error .textType

end AlertDelivery.Intake
