import AtomData.Table
import AtomData.Value
import AtomData.Number.Reading
import AtomData.Text.Quoted
import AtomData.Time.Reading

/-!
# Coercion of raw text

A registry of handlers, one for each type tag, that turn the raw text of a property into a value or
refuse it.  The default registry reads the primitive types of the data service.
-/

namespace AtomData

abbrev Handler := String → Option Value

namespace Handler

/-- Keeps the text as it is, blanks included. -/
def string : Handler := fun raw => some (.string raw)

/-- `true` and `false` in any case, or `1` and `0`. -/
def boolean : Handler := fun raw =>
  let word := (Text.trim raw.toList).map Char.toLower
  if word = "true".toList ∨ word = "1".toList then some (.bool true)
  else if word = "false".toList ∨ word = "0".toList then some (.bool false)
  else none

def within (least greatest : Int) (n : Option Int) : Option Int :=
  n.filter fun n => least ≤ n ∧ n ≤ greatest

def byte : Handler := fun raw =>
  (within 0 255 ((Text.unsigned? (Text.trim raw.toList)).map Int.ofNat)).map
    fun n => .int (Int32.ofInt n)

def int16 : Handler := fun raw =>
  (within (-2 ^ 15) (2 ^ 15 - 1) (Text.integer? (Text.trim raw.toList))).map
    fun n => .int (Int32.ofInt n)

def int32 : Handler := fun raw =>
  (within (-2 ^ 31) (2 ^ 31 - 1) (Text.integer? (Text.trim raw.toList))).map
    fun n => .int (Int32.ofInt n)

def int64 : Handler := fun raw =>
  (within (-2 ^ 63) (2 ^ 63 - 1) (Text.integer? (Text.trim raw.toList))).map
    fun n => .long (Int64.ofInt n)

def floating (format : Binary64.Format) : Handler := fun raw =>
  (Binary64.ofText? format (Text.trim raw.toList)).map .float

def decimal : Handler := fun raw => (Decimal.ofText? (Text.trim raw.toList)).map .decimal

def guid : Handler := fun raw => (Guid.ofText? (Text.trim raw.toList)).map .guid

def dateTime : Handler := fun raw => (Instant.ofText? (Text.trim raw.toList)).map .dateTime

end Handler

structure CoercionRegistry where
  handlers : Table Handler

namespace CoercionRegistry

def empty : CoercionRegistry := ⟨Table.empty⟩

/-- Adds a handler, in place of any earlier one of the same tag. -/
def register (tag : String) (handler : Handler) (r : CoercionRegistry) : CoercionRegistry :=
  ⟨r.handlers.set tag handler⟩

def handler? (r : CoercionRegistry) (tag : String) : Option Handler := r.handlers.get? tag

theorem handler?_register (r : CoercionRegistry) (tag other : String) (handler : Handler) :
    (r.register tag handler).handler? other =
      if other = tag then some handler else r.handler? other :=
  Table.get?_set ..

def contains (r : CoercionRegistry) (tag : String) : Bool := r.handlers.contains tag

/-- What the handler of the tag makes of the text; nothing at all if there is no handler. -/
def coerce (r : CoercionRegistry) (tag raw : String) : Option (Option Value) :=
  (r.handler? tag).map fun handler => handler raw

def standard : CoercionRegistry :=
  ⟨Table.ofList [
    ("Edm.String", Handler.string),
    ("Edm.Boolean", Handler.boolean),
    ("Edm.DateTime", Handler.dateTime),
    ("Edm.DateTimeOffset", Handler.dateTime),
    ("Edm.Byte", Handler.byte),
    ("Edm.Int16", Handler.int16),
    ("Edm.Int32", Handler.int32),
    ("Edm.Int64", Handler.int64),
    ("Edm.Single", Handler.floating Binary64.single),
    ("Edm.Double", Handler.floating Binary64.double),
    ("Edm.Decimal", Handler.decimal),
    ("Edm.Guid", Handler.guid)]⟩

def tags (r : CoercionRegistry) : List String :=
  r.handlers.names.mergeSort fun a b => decide (a ≤ b)

def description (r : CoercionRegistry) : String :=
  "CoercionRegistry \x7b tags: [" ++ String.intercalate ", " (r.tags.map Text.Quoted.quote) ++
    "] \x7d"

end CoercionRegistry
end AtomData
