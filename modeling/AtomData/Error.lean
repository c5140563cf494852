import AtomData.Text.Digits
import AtomData.Text.Quoted

/-!
# Errors

Every way in which a call can fail, as a cause with its particulars.  The wording of each is in the
`message` functions and nowhere else.
-/

namespace AtomData

inductive UrlError where
  | noScheme
  | emptyHost
  | invalidPort
  | invalidIpv4
  | invalidIpv6
  | invalidDomainName
  | invalidDomainCharacter
  deriving DecidableEq, Repr

def UrlError.message : UrlError → String
  | noScheme => "relative URL without a base"
  | emptyHost => "empty host"
  | invalidPort => "invalid port number"
  | invalidIpv4 => "invalid IPv4 address"
  | invalidIpv6 => "invalid IPv6 address"
  | invalidDomainName => "invalid international domain name"
  | invalidDomainCharacter => "invalid domain character"

inductive RequestError where
  | status (code : Nat) (body : String)
  | noResponse (url : String)
  | invalidRoot (root : String) (reason : UrlError)
  deriving DecidableEq, Repr

def RequestError.message : RequestError → String
  | status code body => "HTTP " ++ String.ofList (Text.naturalText code) ++ ": " ++ body
  | noResponse url => "Transport error: no response registered for " ++ url
  | invalidRoot root reason => "Invalid URL: " ++ root ++ ": " ++ reason.message

inductive DocumentError where
  | malformed
  | invalidCount (text : String)
  | collectionWithoutHref
  deriving DecidableEq, Repr

def DocumentError.message : DocumentError → String
  | malformed => "Response parse error: Invalid XML"
  | invalidCount text => "Response parse error: Invalid inline count: " ++ text
  | collectionWithoutHref => "Response parse error: <collection> is missing attribute 'href'"

inductive SchemaError where
  | unresolvedBaseType (entityType baseType : String)
  | inheritanceCycle (entityType : String)
  | missingAttribute (element attributeName : String)
  deriving DecidableEq, Repr

def SchemaError.message : SchemaError → String
  | unresolvedBaseType entityType baseType =>
    "Entity type '" ++ entityType ++ "' has unresolved base type '" ++ baseType ++ "'"
  | inheritanceCycle entityType => "Inheritance cycle through entity type '" ++ entityType ++ "'"
  | missingAttribute element attributeName =>
    "<" ++ element ++ "> is missing attribute '" ++ attributeName ++ "'"

inductive EntryPart where
  | entry
  | categoryTerm
  deriving DecidableEq, Repr

def EntryPart.description : EntryPart → String
  | entry => "an <entry>"
  | categoryTerm => "a <category term> type discriminator"

inductive EntryError where
  | unknownEntityType (name : String)
  | unknownProperty (entityType property : String)
  | missing (part : EntryPart)
  deriving DecidableEq, Repr

def EntryError.message : EntryError → String
  | unknownEntityType name => "Unknown entity type '" ++ name ++ "'"
  | unknownProperty entityType property =>
    "Unknown property '" ++ property ++ "' on entity type '" ++ entityType ++ "'"
  | missing part => "Entry is missing " ++ part.description

inductive KeyError where
  | notARecord (kind : String)
  | unsupportedValue (field kind : String)
  | empty
  deriving DecidableEq, Repr

def KeyError.message : KeyError → String
  | notARecord kind => "Key value is not a record of named fields (got " ++ kind ++ ")"
  | unsupportedValue field kind =>
    "Key field '" ++ field ++ "' has unsupported value kind " ++ kind
  | empty => "Composite key has no fields"

inductive FieldError where
  | missing (field : String)
  | typeMismatch (field expected actual : String)
  | coercion (field typeTag raw : String)
  deriving DecidableEq, Repr

def FieldError.message : FieldError → String
  | missing field => "Property '" ++ field ++ "' not found on entity"
  | typeMismatch field expected actual =>
    "Property '" ++ field ++ "' type mismatch: expected " ++ expected ++ ", got " ++ actual
  | coercion field typeTag raw =>
    "Property '" ++ field ++ "' value " ++ Text.Quoted.quote raw ++ " is not a valid " ++ typeTag

inductive Error where
  | request (e : RequestError)
  | document (e : DocumentError)
  | schema (e : SchemaError)
  | entry (e : EntryError)
  | key (e : KeyError)
  | field (e : FieldError)
  | failedEarlier (message : String)
  deriving DecidableEq, Repr

def Error.message : Error → String
  | request e => e.message
  | document e => e.message
  | schema e => e.message
  | entry e => e.message
  | key e => e.message
  | field e => e.message
  | failedEarlier message => "Query failed earlier: " ++ message

end AtomData
