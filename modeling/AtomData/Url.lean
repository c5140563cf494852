import AtomData.Error
import AtomData.Host.Name
import AtomData.Host.Numeric

/-!
# Absolute addresses

Whether a text is an absolute address, and why not.  An address starts with a scheme and a colon.
What follows may hold anything, unless it starts with two slashes or the scheme is one of those
that always have a host: then user, host and port are checked.
-/

namespace AtomData.Url

inductive SchemeKind where
  | hosted
  | file
  | other
  deriving DecidableEq, Repr

def SchemeKind.ofScheme (scheme : List Char) : SchemeKind :=
  let s := String.ofList (scheme.map Char.toLower)
  if s = "file" then file
  else if s = "http" ∨ s = "https" ∨ s = "ws" ∨ s = "wss" ∨ s = "ftp" then hosted
  else other

/-- The address without control characters and spaces around it, and without tabs and line ends. -/
def clean (s : List Char) : List Char :=
  let outer (c : Char) := c.toNat ≤ 0x20
  (Text.dropEndWhile outer (s.dropWhile outer)).filter
    fun c => c != '\t' && c != '\n' && c != '\r'

def isSchemeChar (c : Char) : Bool := c.isAlphanum || c == '+' || c == '-' || c == '.'

def splitScheme? (s : List Char) : Option (List Char × List Char) :=
  match s, s.dropWhile isSchemeChar with
  | c :: _, ':' :: rest => if c.isAlpha then some (s.takeWhile isSchemeChar, rest) else none
  | _, _ => none

/-! ### Hosts -/

/-- A literal between brackets, of which the opening one has been read. -/
def checkLiteral (s : List Char) : Except UrlError Unit :=
  if s.getLast? = some ']' ∧ Host.isIpv6 s.dropLast then .ok () else .error .invalidIpv6

def checkHost : List Char → Except UrlError Unit
  | '[' :: s => checkLiteral s
  | s =>
    match Host.ofText? s with
    | none => .error .invalidDomainName
    | some [] => .error .emptyHost
    | some name =>
      if Host.endsInNumber name && !Host.isIpv4 name then .error .invalidIpv4 else .ok ()

def checkOpaqueHost : List Char → Except UrlError Unit
  | '[' :: s => checkLiteral s
  | s =>
    if s.any fun c => "\x00\t\n\r #/:<>?@[\\]^|".toList.contains c then
      .error .invalidDomainCharacter
    else .ok ()

/-- Digits up to 65535 before a path, a query, a fragment or the end. -/
def checkPort (s : List Char) : Except UrlError Unit :=
  let (digits, rest) := Text.spanDigits s
  let ends := rest.isEmpty || "/\\?#".toList.contains (rest.headD '/')
  if Text.digitsValue digits < 65536 ∧ ends then .ok () else .error .invalidPort

/-! ### What follows two slashes -/

def endsAuthority (kind : SchemeKind) (c : Char) : Bool :=
  c == '/' || c == '?' || c == '#' || (kind == .hosted && c == '\\')

def splitUser? (s : List Char) : Option (List Char × List Char) :=
  let host := s.reverse.takeWhile (· != '@')
  if host.length = s.length then none
  else some (s.take (s.length - host.length - 1), host.reverse)

/-- The host up to a port or the end of its part; a colon between brackets belongs to it. -/
def splitHost (kind : SchemeKind) (bracketed : Bool) : List Char → List Char × List Char
  | [] => ([], [])
  | c :: s =>
    if (c == ':' && !bracketed) || endsAuthority kind c then ([], c :: s)
    else
      let inside := c == '[' || (bracketed && c != ']')
      let (host, rest) := splitHost kind inside s
      (c :: host, rest)

/-- Checks the host and the port.  `named` says that a user stands in front of them. -/
def checkHostPort (kind : SchemeKind) (named : Bool) (s : List Char) : Except UrlError Unit := do
  let (host, rest) := splitHost kind false s
  if kind = .hosted then
    if host.isEmpty then .error .emptyHost
    checkHost host
  else
    checkOpaqueHost host
    if host.isEmpty ∧ rest.head? = some ':' then .error .emptyHost
  match rest with
  | ':' :: port => checkPort port
  | _ => .ok ()
  if host.isEmpty ∧ named then .error .emptyHost

def checkAuthority (kind : SchemeKind) (s : List Char) : Except UrlError Unit :=
  let authority := s.takeWhile fun c => !endsAuthority kind c
  let behind := s.dropWhile fun c => !endsAuthority kind c
  match splitUser? authority with
  | none => checkHostPort kind false s
  | some ([], []) => if behind.isEmpty then checkHostPort kind false [] else .error .emptyHost
  | some (user, host) => checkHostPort kind (user != [] && user != [':']) (host ++ behind)

def checkFile : List Char → Except UrlError Unit
  | a :: b :: s =>
    if (a == '/' || a == '\\') && (b == '/' || b == '\\') then
      match s.takeWhile fun c => !(endsAuthority .hosted c) with
      | [] => .ok ()
      | [c, d] => if c.isAlpha && (d == ':' || d == '|') then .ok () else checkHost [c, d]
      | host => checkHost host
    else .ok ()
  | _ => .ok ()

def check (s : String) : Except UrlError Unit :=
  match splitScheme? (clean s.toList) with
  | none => .error .noScheme
  | some (scheme, rest) =>
    match SchemeKind.ofScheme scheme with
    | .hosted => checkAuthority .hosted (rest.dropWhile fun c => c == '/' || c == '\\')
    | .file => checkFile rest
    | .other =>
      match rest with
      | '/' :: '/' :: s => checkAuthority .other s
      | _ => .ok ()

def isAbsolute (s : String) : Bool :=
  match check s with
  | .ok () => true
  | .error _ => false

/-- The path below a root, with exactly one slash between them. -/
def combine (root path : String) : String :=
  let isSlash (c : Char) := c == '/'
  String.ofList (Text.dropEndWhile isSlash root.toList ++ '/' :: path.toList.dropWhile isSlash)

end AtomData.Url
