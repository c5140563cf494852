import AtomData.Number.Decimal
import AtomData.Number.Shortest
import AtomData.Text.Literal
import AtomData.Time.Instant
import AtomData.Guid

/-!
# Property values

The values that properties, filters and keys hold, with their plain text and the literal that
stands for them in a request.
-/

namespace AtomData

inductive Value where
  | null
  | bool (b : Bool)
  | int (n : Int32)
  | long (n : Int64)
  | float (x : Binary64)
  | decimal (d : Decimal)
  | string (s : String)
  | guid (g : Guid)
  | dateTime (t : Instant)
  deriving DecidableEq

namespace Value

def isNull : Value → Bool
  | null => true
  | _ => false

def kind : Value → String
  | null => "null"
  | bool _ => "bool"
  | int _ => "int"
  | long _ => "long"
  | float _ => "float"
  | decimal _ => "decimal"
  | string _ => "string"
  | guid _ => "guid"
  | dateTime _ => "datetime"

def string? : Value → Option String
  | string s => some s
  | _ => none

def boolText (b : Bool) : String := if b then "true" else "false"

def integerText (n : Int) : String := String.ofList (Text.integerText n)

def text : Value → String
  | null => ""
  | bool b => boolText b
  | int n => integerText n.toInt
  | long n => integerText n.toInt
  | float x => x.text
  | decimal d => String.ofList d.text
  | string s => s
  | guid g => String.ofList g.text
  | dateTime t => String.ofList t.text

/-- A finite number without a point gets one, so that it reads as a floating-point number. -/
def floatLiteral (x : Binary64) : String :=
  if x.isFinite && !x.text.toList.contains '.' then x.text ++ ".0" else x.text

def literal : Value → String
  | null => "null"
  | bool b => boolText b
  | int n => integerText n.toInt
  | long n => integerText n.toInt
  | float x => floatLiteral x
  | decimal d => String.ofList d.text
  | string s => Text.Literal.quote s
  | guid g => "guid'" ++ String.ofList g.text ++ "'"
  | dateTime t => "datetime'" ++ String.ofList t.literalText ++ "'"

end Value
end AtomData
