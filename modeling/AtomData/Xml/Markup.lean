import AtomData.Text.Scanner
import AtomData.Xml.Character

/-!
# Markup

Scanners for the parts of a document that hold no other parts: names, attributes, tags, comments,
instructions and text.  `token` reads whichever of them comes next in the content of an element.
-/

namespace AtomData.Xml

open Text (Scanner)
open Text.Scanner

/-- A name in two parts; the part before the colon may be empty. -/
structure QName where
  space : String
  name : String
  deriving DecidableEq, Repr

namespace Markup

def skipSpaces : Scanner Unit := do
  let _ ← longest isSpace

def spaces : Scanner Unit := do
  let _ ← one isSpace
  skipSpaces

def name : Scanner String := do
  let c ← one isNameStart
  return String.ofList (c :: (← longest isNameChar))

def startsName : List Char → Bool
  | c :: _ => isNameStart c
  | [] => false

/-- Name characters with at most one colon.  Each part starts as a name does, and only the part
before the colon may be empty. -/
def qualifiedName : Scanner QName := do
  let s ← longest isNameChar
  match Text.pieces ':' s with
  | [name] =>
    require (startsName name)
    return ⟨"", String.ofList name⟩
  | [space, name] =>
    require ((space.isEmpty || startsName space) && startsName name)
    return ⟨String.ofList space, String.ofList name⟩
  | _ => fun _ => none

def quotationMark : Scanner Char := one fun c => c == '"' || c == '\''

def assignment : Scanner (QName × List Char) := do
  let q ← qualifiedName
  skipSpaces
  symbol '='
  skipSpaces
  let mark ← quotationMark
  let value ← longest fun c => c != mark && c != '<' && isAllowed c
  symbol mark
  return (q, value)

/-- How a tag that starts an element ends: the element's content follows, or there is none, or the
text stops before the tag does. -/
inductive TagEnd where
  | opens
  | closes
  | missing
  deriving DecidableEq, Repr

structure StartTag where
  name : QName
  attributes : List (QName × List Char)
  ending : TagEnd

/-- The attributes of a tag and its end.  Each attribute follows a space.  Only right after a name
or a value may the text stop. -/
def tagRest : Nat → Scanner (List (QName × List Char) × TagEnd)
  | 0 => fun _ => none
  | bound + 1 => fun s =>
    match s, s.dropWhile isSpace with
    | [], _ => some (([], .missing), [])
    | _ :: _, [] => none
    | _, '>' :: rest => some (([], .opens), rest)
    | _, '/' :: rest => if rest.head? == some '>' then some (([], .closes), rest.tail) else none
    | c :: _, rest =>
      if isSpace c then do
        let (a, rest) ← assignment rest
        let ((attributes, ending), rest) ← tagRest bound rest
        return ((a :: attributes, ending), rest)
      else none

def startTag : Scanner StartTag := do
  symbol '<'
  let name ← qualifiedName
  let (attributes, ending) ← tagRest ((← get).length + 1)
  return { name, attributes, ending }

def endTag : Scanner QName := do
  word "</"
  let name ← qualifiedName
  skipSpaces
  symbol '>'
  return name

/-- A comment holds no two hyphens in a row and does not end with one. -/
def comment : Scanner Unit := do
  word "<!--"
  let text ← upTo "-->"
  require (text.all isAllowed && !Text.occurs ['-', '-'] text && text.getLast? != some '-')

/-- A processing instruction; the declaration of the document is none. -/
def instruction : Scanner Unit := do
  require (!(← at? "<?xml "))
  word "<?"
  let _ ← name
  skipSpaces
  let text ← upTo "?>"
  require (text.all isAllowed)

def characterSection : Scanner (List Char) := do
  word "<![CDATA["
  let text ← upTo "]]>"
  require (text.all isAllowed)
  return text

def plainText : Scanner (List Char) := do
  let text ← longest (· != '<')
  require (text.all isAllowed && !Text.occurs [']', ']', '>'] text)
  return text

inductive Token where
  | start (tag : StartTag)
  | stop (name : QName)
  | text (raw : List Char)
  | characters (text : List Char)
  | remark

def token : Scanner Token := fun s =>
  match s with
  | '<' :: '/' :: _ => (Token.stop <$> endTag) s
  | '<' :: '!' :: '-' :: _ => ((fun _ => Token.remark) <$> comment) s
  | '<' :: '!' :: _ => (Token.characters <$> characterSection) s
  | '<' :: '?' :: _ => ((fun _ => Token.remark) <$> instruction) s
  | '<' :: _ => (Token.start <$> startTag) s
  | _ => (Token.text <$> plainText) s

end Markup
end AtomData.Xml
