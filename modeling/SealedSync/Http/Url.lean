import SealedSync.Http.Host

/-!
# URLs

An absolute URL is parsed from its text. White space around it is dropped, characters that may not
stand in a part are percent-encoded, and the segments `.` and `..` of a path are resolved, also when
their dots are written as `%2e`. Schemes of the web take any number of slashes and backslashes
before the host, which they must have; other schemes have a host only behind two slashes. The path
of a file may begin with the letter of a drive, which `..` does not leave.
-/
namespace SealedSync.Http

inductive UrlPath where
  | opaquePath (text : String)
  | segments (list : List String)
  deriving DecidableEq, Repr

structure Url where
  scheme : String
  username : String
  password : String
  host : Option String
  port : Option Nat
  path : UrlPath
  query : Option String
  fragment : Option String
  deriving DecidableEq, Repr

namespace Url

def defaultPorts : List (String × Nat) :=
  [("http", 80), ("https", 443), ("ws", 80), ("wss", 443), ("ftp", 21)]

/-- Schemes with a host and a path of segments. -/
def isSpecial (scheme : String) : Bool :=
  (defaultPorts.lookup scheme).isSome || scheme == "file"

def fragmentSet : List Char := [' ', '"', '<', '>', '\x60']

def querySet : List Char := [' ', '"', '#', '<', '>']

def specialQuerySet : List Char := '\'' :: querySet

def pathSet : List Char := ['?', '\x60', '\x7b', '\x7d'] ++ querySet

def userInfoSet : List Char := ['/', ':', ';', '=', '@', '[', '\\', ']', '^', '|'] ++ pathSet

def isSlash (c : Char) : Bool := c == '/' || c == '\\'

/-- A character that ends a segment. -/
def isSeparator (special : Bool) (c : Char) : Bool := c == '/' || (special && c == '\\')

def isAuthorityEnd (special : Bool) (c : Char) : Bool :=
  isSeparator special c || c == '?' || c == '#'

def isSchemeChar (c : Char) : Bool := c.isAlphanum || c == '+' || c == '-' || c == '.'

/-- The scheme and what follows its colon. -/
def splitScheme (text : List Char) : Option (String × List Char) :=
  match Split.before (· == ':') text with
  | (c :: name, ':' :: rest) =>
      if c.isAlpha && name.all isSchemeChar then
        some (String.ofList ((c :: name).map Char.toLower), rest)
      else none
  | _ => none

/-- A letter with a colon, for which a bar may stand. -/
def isDrive : List Char → Bool
  | [c, d] => c.isAlpha && (d == ':' || d == '|')
  | _ => false

/-- A segment without `%2e` for its dots. -/
def undotted : List Char → List Char
  | [] => []
  | '%' :: '2' :: 'e' :: rest => '.' :: undotted rest
  | '%' :: '2' :: 'E' :: rest => '.' :: undotted rest
  | c :: rest => c :: undotted rest

/-- The segments before the last one; they are listed last first. A drive is not left. -/
def leave : List String → List String
  | [] => []
  | last :: front => if isDrive last.toList then last :: front else front

/-- A path while its segments are read. -/
structure Trail where
  /-- The segments so far, last first. -/
  done : List String := []
  /-- A drive takes the place of the host. -/
  onDrive : Bool := false

namespace Trail

/-- Adds a segment that is not made of dots. A drive in front of the path of a file has a colon. -/
def push (isFile : Bool) (t : Trail) (segment : List Char) : Trail :=
  if isFile && t.done.isEmpty && isDrive segment then
    ⟨[String.ofList (segment.take 1 ++ [':'])], true⟩
  else { t with done := Percent.encodeBeyond pathSet segment :: t.done }

/-- Adds segments; those of dots lead nowhere or back, and leave an empty segment at the end. -/
def walk (isFile : Bool) (t : Trail) : List (List Char) → Trail
  | [] => t
  | segment :: rest =>
      let ending := if rest.isEmpty then [""] else []
      if undotted segment = ['.', '.'] then
        walk isFile { t with done := ending ++ leave t.done } rest
      else if undotted segment = ['.'] then walk isFile { t with done := ending ++ t.done } rest
      else walk isFile (t.push isFile segment) rest

end Trail

/-- The trail of a path behind its first slash. -/
def readTrail (isFile special : Bool) (text : List Char) : Trail :=
  Trail.walk isFile {} (Split.pieces (isSeparator special) text)

/-- A text without the separator in front of it. -/
def dropSlash (special : Bool) : List Char → List Char
  | c :: rest => if isSeparator special c then rest else c :: rest
  | [] => []

/-- The segments of a path behind an authority. -/
def readPath (special : Bool) (text : List Char) : List String :=
  if text.isEmpty && !special then []
  else (readTrail false special (dropSlash special text)).done.reverse

/-- The port, unless it is the one that the scheme implies. -/
def readPort (scheme : String) (digits : List Char) : Option (Option Nat) :=
  if !digits.all Char.isDigit then none
  else if digits.isEmpty then some none
  else
    let port := digits.foldl (fun n c => n * 10 + (c.toNat - 48)) 0
    if 65535 < port then none
    else if defaultPorts.lookup scheme = some port then some none
    else some (some port)

/-- The part before the first colon outside brackets, and the rest. -/
def splitHost (inBrackets : Bool) : List Char → List Char × List Char
  | [] => ([], [])
  | c :: rest =>
      if c == ':' && !inBrackets then ([], c :: rest)
      else
        let (host, port) := splitHost (c == '[' || (inBrackets && c != ']')) rest
        (c :: host, port)

/-- The user information before the last `@`, and the rest. -/
def splitUserInfo (text : List Char) : Option (List Char) × List Char :=
  match Split.before (· == '@') text.reverse with
  | (host, '@' :: user) => (some user.reverse, host.reverse)
  | _ => (none, text)

/-- The query and the fragment after a path. -/
def splitTail (text : List Char) : List Char × Option (List Char) × Option (List Char) :=
  let (front, fragment) := Split.before (· == '#') text
  let (path, query) := Split.before (· == '?') front
  (path, match query with
    | [] => none
    | _ :: query => some query,
    match fragment with
    | [] => none
    | _ :: fragment => some fragment)

def readTail (special : Bool) (query fragment : Option (List Char)) :
    Option String × Option String :=
  (query.map (Percent.encodeBeyond (if special then specialQuerySet else querySet)),
    fragment.map (Percent.encodeBeyond fragmentSet))

/-- Whom an authority names. -/
structure Server where
  username : String
  password : String
  host : String
  port : Option Nat

/-- The server of an authority, and what of it belongs to the path behind it, if there is one. A
host may be empty only where nothing else is in the authority. -/
def readServer (scheme : String) (authority : List Char) (hasPath : Bool) :
    Option (Server × List Char) := do
  let (user, hostPort) := splitUserInfo authority
  let (hostText, portText) := splitHost false hostPort
  let (digits, path) := Split.before (· == '\\') (portText.drop 1)
  let (username, password) := Split.before (· == ':') (user.getD [])
  let password := password.drop 1
  let isBare := user = some [] && hasPath
  let hasMore := isBare || !username.isEmpty || !password.isEmpty || !portText.isEmpty
  if hostText.isEmpty && hasMore then none
  let host ← if isSpecial scheme then Host.read hostText else Host.readOpaque hostText
  let port ← readPort scheme digits
  return (⟨Percent.encodeBeyond userInfoSet username, Percent.encodeBeyond userInfoSet password,
    host, port⟩, path)

/-- The URL of a server and what follows its authority. -/
def ofServer (scheme : String) (server : Server) (text : List Char) : Url :=
  let special := isSpecial scheme
  let (path, query, fragment) := splitTail text
  let (query, fragment) := readTail special query fragment
  ⟨scheme, server.username, server.password, some server.host, server.port,
    .segments (readPath special path), query, fragment⟩

/-- A URL with an authority, after the slashes before it. -/
def readAuthority (scheme : String) (text : List Char) : Option Url := do
  let (authority, rest) := Split.before (isAuthorityEnd (isSpecial scheme)) text
  let (server, path) ← readServer scheme authority !rest.isEmpty
  return ofServer scheme server (path ++ rest)

/-- A URL of a file on the given host. Empty segments in front of its path are dropped. -/
def fileUrl (host : String) (text : List Char) : Url :=
  let (path, query, fragment) := splitTail text
  let trail := readTrail true true path
  let segments := match trail.done.reverse.dropWhile String.isEmpty with
    | [] => [""]
    | segments => segments
  let (query, fragment) := readTail true query fragment
  ⟨"file", "", "", some (if trail.onDrive then "" else host), none, .segments segments, query,
    fragment⟩

/-- A URL of a file. A host stands behind two slashes, where a drive may stand as well. -/
def readFileUrl (text : List Char) : Option Url := do
  match text with
  | a :: b :: rest =>
      if isSlash a && isSlash b then
        let (hostText, path) := Split.before (isAuthorityEnd true) rest
        if hostText.isEmpty || isDrive hostText then return fileUrl "" rest
        let host ← Host.read hostText
        if host = "localhost" then return fileUrl "" path
        return fileUrl host (dropSlash true path)
      else return fileUrl "" (dropSlash true text)
  | _ => return fileUrl "" (dropSlash true text)

/-- A URL without an authority. -/
def readPlain (scheme : String) (text : List Char) : Url :=
  let (path, query, fragment) := splitTail text
  let (query, fragment) := readTail false query fragment
  let path := match path with
    | '/' :: path => .segments (readTrail false false path).done.reverse
    | path => .opaquePath (Percent.encodeBeyond [] path)
  ⟨scheme, "", "", none, none, path, query, fragment⟩

/-- Drops white space and controls around a text and line breaks and tabs inside it. -/
def tidy (text : List Char) : List Char :=
  let isOuter := fun (c : Char) => c.toNat ≤ 0x20
  let inner := ((text.dropWhile isOuter).reverse.dropWhile isOuter).reverse
  inner.filter fun c => c != '\t' && c != '\n' && c != '\r'

/-- The URL of a text that begins with a scheme. -/
def parse (text : String) : Option Url := do
  let (scheme, rest) ← splitScheme (tidy text.toList)
  if scheme = "file" then readFileUrl rest
  else if isSpecial scheme then readAuthority scheme (rest.dropWhile isSlash)
  else
    match rest with
    | '/' :: '/' :: rest => readAuthority scheme rest
    | rest => some (readPlain scheme rest)

def pathText : UrlPath → String
  | .opaquePath text => text
  | .segments list => String.join (list.map fun s => "/" ++ s)

/-- What a server is asked for: the path and the query. -/
def target (u : Url) : String :=
  let path := pathText u.path
  (if path.isEmpty then "/" else path) ++
    (match u.query with
      | some q => "?" ++ q
      | none => "")

def userInfoText (username password : String) : String :=
  if username.isEmpty && password.isEmpty then ""
  else username ++ (if password.isEmpty then "" else ":" ++ password) ++ "@"

/-- The path behind a scheme; one that would look like an authority begins with a segment `.`. -/
def barePathText (path : UrlPath) : String :=
  let text := pathText path
  if text.startsWith "//" then "/." ++ text else text

def text (u : Url) : String :=
  u.scheme ++ ":" ++
    (match u.host with
      | some host =>
          "//" ++ userInfoText u.username u.password ++ host ++
            (match u.port with
              | some port => s!":{port}"
              | none => "") ++
            pathText u.path
      | none => barePathText u.path) ++
    (match u.query with
      | some q => "?" ++ q
      | none => "") ++
    (match u.fragment with
      | some f => "#" ++ f
      | none => "")

/-- The most bytes of a URL that is sent. -/
def maxLength : Nat := 65534

/-- A web server can be asked for the URL. Some characters that a host may hold cannot be sent. -/
def isRequestable (u : Url) : Bool :=
  (u.scheme == "http" || u.scheme == "https") && u.text.utf8ByteSize ≤ maxLength &&
    (u.host.getD "").toList.all fun c => c ∉ ['"', '\x60', '\x7b', '\x7d']

/-- The text that a part of a URL stands for. -/
def decodePart (part : String) : Option String := Utf8.decode? (Percent.decodeChars part.toList)

/-- The URL without user name and password, where these can be read as text. -/
def withoutUserInfo (u : Url) : Url :=
  match decodePart u.username with
  | some name =>
      if !name.isEmpty || (!u.password.isEmpty && (decodePart u.password).isSome) then
        { u with username := "", password := "" }
      else u
  | none => u

end Url

end SealedSync.Http
