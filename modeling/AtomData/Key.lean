import AtomData.Error
import AtomData.Text.Percent
import AtomData.Text.Pieces
import AtomData.Value

/-!
# Entity keys

A key is one value or a list of named values.  Its written form stands between the parentheses of
an entity's address, so everything but quotes, commas and equals signs is percent-encoded there.
-/

namespace AtomData

inductive EntityKey where
  | single (value : Value)
  | composite (fields : List (String × Value))
  deriving DecidableEq

namespace EntityKey

def encode (s : String) : List Char := Text.Percent.encodeComponent s.toList

def quoted (word : List Char) (content : List Char) : List Char :=
  word ++ '\'' :: Text.Percent.encodeComponent content ++ ['\'']

/-- The written form of a key of one value: strings, identifiers and date-times are quoted. -/
def singleText (field : String) : Value → Except KeyError (List Char)
  | .null => .error (.unsupportedValue field "null")
  | .string s => .ok (quoted [] (Text.Literal.double s.toList))
  | .guid g => .ok ("guid'".toList ++ g.text ++ ['\''])
  | .dateTime t => .ok (quoted "datetime".toList t.literalText)
  | v => .ok (encode v.literal)

/-- The written form of one value of several: nothing is quoted. -/
def fieldText (field : String) : Value → Except KeyError (List Char)
  | .null => .error (.unsupportedValue field "null")
  | .string s => .ok (encode s)
  | .guid g => .ok g.text
  | .dateTime t => .ok (Text.Percent.encodeComponent t.literalText)
  | v => .ok (encode v.literal)

def fieldTexts : List (String × Value) → Except KeyError (List (List Char))
  | [] => .ok []
  | (name, value) :: fields => do
    let text ← fieldText name value
    let rest ← fieldTexts fields
    return (name.toList ++ '=' :: text) :: rest

/-- The written form of a key.  A null value has none, and neither has a key without fields. -/
def text? : EntityKey → Except KeyError (List Char)
  | single v => singleText "" v
  | composite [] => .error .empty
  | composite fields => (fieldTexts fields).map (Text.join [','])

def path? (href : String) (key : EntityKey) : Except KeyError String :=
  key.text?.map fun text => String.ofList (href.toList ++ '(' :: text ++ [')'])

end EntityKey
end AtomData
