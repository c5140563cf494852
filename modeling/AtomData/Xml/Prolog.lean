import AtomData.Xml.Markup

/-!
# In front of the root element

What a document starts with: its declaration, its type with the entities that it declares, and
comments, instructions and spaces between them.
-/

namespace AtomData.Xml

open Text (Scanner)
open Text.Scanner

/-- The text that an entity stands for, and how many characters of the document follow it there. -/
structure Replacement where
  text : List Char
  behind : Nat
  deriving DecidableEq, Repr

/-- The declared entities in order of declaration; the first of a name counts. -/
abbrev Entities := List (String × Replacement)

namespace Markup

def miscellany : Nat → Scanner Unit
  | 0 => pure ()
  | bound + 1 => do
    skipSpaces
    if ← at? "<!--" then
      comment
      miscellany bound
    else if ← at? "<?" then
      instruction
      miscellany bound

/-- Spaces, which may only be missing in front of the end of the declaration. -/
def declarationSpaces : Scanner Unit := do
  if ← at? "?>" then return
  spaces

/-- The declaration of a document: a version, then possibly an encoding and a remark on external
markup, in this order. -/
def declaration : Scanner Unit := do
  word "<?xml"
  declarationSpaces
  require (← at? "version")
  let _ ← assignment
  declarationSpaces
  if ← at? "encoding" then
    let _ ← assignment
    declarationSpaces
  if ← at? "standalone" then
    let _ ← assignment
  skipSpaces
  word "?>"

/-! ### The document type -/

def quoted : Scanner (List Char) := do
  let mark ← quotationMark
  let text ← longest (· != mark)
  symbol mark
  return text

def externalId : Scanner Bool := do
  if ← skipWord "SYSTEM" then
    spaces
    let _ ← quoted
    return true
  else if ← skipWord "PUBLIC" then
    spaces
    let _ ← quoted
    spaces
    let _ ← quoted
    return true
  else return false

/-- What an entity stands for: a quoted text, or something outside, which is ignored. -/
def replacement (general : Bool) : Scanner (Option Replacement) := do
  match (← get).head? with
  | some '"' | some '\'' =>
    let text ← quoted
    return some { text, behind := (← get).length + 1 }
  | _ =>
    require (← externalId)
    if general then
      skipSpaces
      if ← skipWord "NDATA" then
        spaces
        if !(← get).isEmpty then
          let _ ← name
    return none

def entityDeclaration : Scanner Entities := do
  word "<!ENTITY"
  spaces
  let general := !(← skipWord "%")
  if !general then spaces
  let entity ← name
  spaces
  let meaning ← replacement general
  skipSpaces
  symbol '>'
  return (meaning.map fun r => (entity, r)).toList

def otherDeclaration : Scanner Unit := do
  let _ ← longest (· != '>')
  symbol '>'

def declarations : Nat → Scanner Entities
  | 0 => pure []
  | bound + 1 => do
    if (← get).isEmpty then return []
    if ← at? "<!ENTITY" then
      let entities ← entityDeclaration
      skipSpaces
      return entities ++ (← declarations bound)
    else if ← at? "<!--" then
      comment
      skipSpaces
      declarations bound
    else if ← at? "<?" then
      instruction
      skipSpaces
      declarations bound
    else if ← skipWord "]" then
      skipSpaces
      symbol '>'
      return []
    else
      require ((← at? "<!ELEMENT") || (← at? "<!ATTLIST") || (← at? "<!NOTATION"))
      otherDeclaration
      skipSpaces
      declarations bound

def documentType : Scanner Entities := do
  word "<!DOCTYPE"
  spaces
  if !(← get).isEmpty then
    let _ ← name
  skipSpaces
  let _ ← externalId
  skipSpaces
  if ← skipWord ">" then return []
  symbol '['
  skipSpaces
  declarations ((← get).length + 1)

/-- Reads everything up to the root element: a byte order mark, the declaration, the document type
and what may stand between them. -/
def prolog : Text.Scanner Entities := do
  let _ ← skipWord "\uFEFF"
  if ← at? "<?xml " then declaration
  miscellany ((← get).length + 1)
  skipSpaces
  if ← at? "<!DOCTYPE" then
    let entities ← documentType
    miscellany ((← get).length + 1)
    skipSpaces
    return entities
  return []

end Markup
end AtomData.Xml
