import AtomData.Query.Option
import AtomData.Text.Blank
import AtomData.Text.Percent
import AtomData.Text.Pieces

/-!
# Query paths

The path of a query: a collection's address and, behind a question mark, one `key=value` for each
option.  Values are escaped so that the string can always be cut apart at `&` and `=` again.
-/

namespace AtomData

def listSeparator : List Char := ['%', '2', 'c']

/-- The items of a list of names: each name is cut at commas, blanks around the pieces are dropped,
and so are empty pieces. -/
def listItems (names : List String) : List (List Char) :=
  ((names.flatMap fun name => Text.pieces ',' name.toList).map Text.trim).filter
    fun item => !item.isEmpty

def escapeSlash (c : Char) : List Char := if c = '/' then ['%', '2', 'f'] else [c]

def encodePathItem (item : List Char) : List Char :=
  (Text.Percent.encodeQuery item).flatMap escapeSlash

namespace QueryOption

def value : QueryOption → List Char
  | top n | skip n => Text.naturalText n
  | select names | orderBy names =>
    Text.join listSeparator ((listItems names).map Text.Percent.encodeQuery)
  | expand names => Text.join listSeparator ((listItems names).map encodePathItem)
  | inlineCount allPages => if allPages then "allpages".toList else "none".toList
  | filter chain => Text.Percent.encodeQuery chain.text.toList

def assignment (option : QueryOption) : List Char := option.key.toList ++ '=' :: option.value

end QueryOption

def QueryOptions.path (href : String) (options : QueryOptions) : String :=
  match options.toList with
  | [] => href
  | list => String.ofList (href.toList ++ '?' :: Text.join ['&'] (list.map QueryOption.assignment))

end AtomData
