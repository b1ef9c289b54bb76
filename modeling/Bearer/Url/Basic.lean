import Bearer.Text.Blank
import Bearer.Text.Digits
import Bearer.Text.Quoted
import Bearer.Url.Host
import Bearer.Url.International
import Bearer.Url.Query

/-!
# URLs

A URL is cut into scheme, user information, host, port, path, query and fragment. Reading one
brings it into a normal form: scheme and host in lower case, the default port of the scheme
dropped, dot segments of the path resolved, and characters that may not stand in a part escaped,
escapes that are there kept. Some texts are refused: control characters, texts too long, ports
that are no numbers, addresses that are not valid, paths that would be read as something else.

`withQuery` sets the query; `withParams` merges parameters into it. The other parts stay, in their
normal form. `plainHost` is the host with an international name read.

* `withQuery_parts`: what setting the query leaves as it is.
-/
namespace Bearer

/-- A URL. -/
structure Url where
  /-- The scheme, empty if there is none. -/
  scheme : String
  /-- The user information, empty if there is none. -/
  userinfo : String
  /-- The host, empty if there is none. -/
  host : String
  /-- The port, unless it is the default one. -/
  port : Option Int
  /-- The path. -/
  path : String
  /-- The query, if there is a question mark. -/
  query : Option String
  /-- The fragment, if there is a number sign. -/
  fragment : Option String
deriving DecidableEq, Inhabited

/-- Why a text is no URL. -/
inductive InvalidUrl where
  /-- It, or a part of it, is too long. -/
  | tooLong
  /-- It holds a control character, the first one at this place. -/
  | control (c : Char) (place : Nat)
  /-- The port is no number. -/
  | port (text : String)
  /-- The host is no IPv4 address. -/
  | ipv4 (text : String)
  /-- The host is no IPv6 address. -/
  | ipv6 (text : String)
  /-- The host is no international name. -/
  | name (text : String)
  /-- The path behind an authority starts with no slash. -/
  | relativePath
  /-- The path would be read as an authority. -/
  | pathLikeAuthority
  /-- The path would be read as a scheme. -/
  | pathLikeScheme
deriving DecidableEq, Repr

/-- The wording of the fault. -/
def InvalidUrl.message : InvalidUrl → String
  | .tooLong => "URL too long"
  | .control c place =>
    "Invalid non-printable ASCII character in URL, " ++ Text.quoted (String.singleton c) ++
      " at position " ++ toString place ++ "."
  | .port text => "Invalid port: " ++ Text.quoted text
  | .ipv4 text => "Invalid IPv4 address: " ++ Text.quoted text
  | .ipv6 text => "Invalid IPv6 address: " ++ Text.quoted text
  | .name text => "Invalid IDNA hostname: " ++ Text.quoted text
  | .relativePath => "For absolute URLs, path must be empty or begin with '/'"
  | .pathLikeAuthority => "Relative URLs cannot have a path starting with '//'"
  | .pathLikeScheme => "Relative URLs cannot have a path starting with ':'"

namespace Url

/-! ## Characters -/

/-- Whether a character is printable ASCII and not one of those given. -/
def isPlainBut (others : List Char) (c : Char) : Bool :=
  0x20 < c.toNat && c.toNat < 0x7f && !others.contains c

/-- Whether a character may stand in a path. -/
def isPathChar (c : Char) : Bool :=
  isPlainBut ['\x22', '#', '<', '>', '?', '\x60', '\x7b', '\x7d'] c

/-- Whether a character may stand in a query. -/
def isQueryChar (c : Char) : Bool :=
  isPlainBut ['\x22', '#', '<', '>'] c

/-- Whether a character may stand in a fragment. -/
def isFragmentChar (c : Char) : Bool :=
  isPlainBut ['\x22', '<', '>', '\x60'] c

/-- Whether a character may stand in user information. -/
def isUserinfoChar (c : Char) : Bool :=
  isPathChar c && isPlainBut ['/', ';', '=', '@', '[', '\\', ']', '^', '|'] c

/-! ## Text -/

/-- The host as it stands in a URL, an IPv6 address between brackets. -/
def hostText (u : Url) : String :=
  if u.host.toList.contains ':' then "[" ++ u.host ++ "]" else u.host

/-- The port behind its colon. -/
def portText (u : Url) : String :=
  match u.port with
  | some n => ":" ++ toString n
  | none => ""

/-- The host and the port. -/
def netloc (u : Url) : String :=
  u.hostText ++ u.portText

/-- The user information, the host and the port. -/
def authority (u : Url) : String :=
  (if u.userinfo.isEmpty then "" else u.userinfo ++ "@") ++ u.netloc

/-- The text of a URL. -/
def text (u : Url) : String :=
  (if u.scheme.isEmpty then "" else u.scheme ++ ":") ++
    (if u.authority.isEmpty then "" else "//" ++ u.authority) ++ u.path ++
    (match u.query with
      | some q => "?" ++ q
      | none => "") ++
    (match u.fragment with
      | some f => "#" ++ f
      | none => "")

/-! ## Reading -/

/-- The most characters that a URL or a part of one may have. -/
def maxLength : Nat := 65536

/-- Whether a character is an ASCII control. -/
def isControl (c : Char) : Bool :=
  c.toNat < 0x20 || c.toNat == 0x7f

/-- Whether a character may stand in a scheme behind the first letter. -/
def isSchemeChar (c : Char) : Bool :=
  isAlphanumeric c || c = '+' || c = '.' || c = '-'

/-- Cuts the scheme off; an empty one in front of a colon counts. -/
def cutScheme (s : List Char) : List Char × List Char :=
  let scheme := s.takeWhile isSchemeChar
  match s.dropWhile isSchemeChar with
  | ':' :: rest =>
    match scheme with
    | [] => ([], rest)
    | c :: _ => if Number.isDigit c || !isAlphanumeric c then ([], s) else (scheme, rest)
  | _ => ([], s)

/-- Cuts what stands between two slashes and the path off. -/
def cutAuthority : List Char → List Char × List Char
  | '/' :: '/' :: s =>
    let isEnd := fun (c : Char) => c = '/' || c = '?' || c = '#'
    (s.takeWhile fun c => !isEnd c, s.dropWhile fun c => !isEnd c)
  | s => ([], s)

/-- Cuts the user information off: all before the last at sign. -/
def cutUserinfo (s : List Char) : List Char × List Char :=
  if s.contains '@' then
    let back := s.reverse
    (((back.dropWhile (· != '@')).drop 1).reverse, (back.takeWhile (· != '@')).reverse)
  else ([], s)

/-- Cuts the host off: all up to the last closing bracket if an opening one stands in front, else
all before a colon. -/
def cutHost (s : List Char) : List Char × List Char :=
  match s with
  | '[' :: t =>
    if t.contains ']' then
      let back := s.reverse
      ((back.dropWhile (· != ']')).reverse, (back.takeWhile (· != ']')).reverse)
    else (s.takeWhile (· != ':'), s.dropWhile (· != ':'))
  | _ => (s.takeWhile (· != ':'), s.dropWhile (· != ':'))

/-- The default port of a scheme. -/
def defaultPort? (scheme : String) : Option Int :=
  if scheme = "ftp" then some 21
  else if scheme = "http" || scheme = "ws" then some 80
  else if scheme = "https" || scheme = "wss" then some 443
  else none

/-- A port, dropped if it is the default one. -/
def keptPort (scheme : String) (port : Option Int) : Option Int :=
  if port = defaultPort? scheme then none else port

/-- The most digits that a port may have. -/
def maxPortDigits : Nat := 4300

/-- The number that a port is: blanks round it, a sign, single underscores and the digits of all
scripts are allowed. -/
def portNumber? (s : List Char) : Option Int :=
  let digits := fun (ds : List Char) =>
    let plain := ds.filter (· != '_')
    if (Form.pieces '_' ds).any (·.isEmpty) || maxPortDigits < plain.length then none
    else Text.decimal? plain
  match Text.trim s with
  | '-' :: ds => (digits ds).map fun n => -(n : Int)
  | '+' :: ds => (digits ds).map fun n => (n : Int)
  | ds => (digits ds).map fun n => (n : Int)

/-- Reads a port behind its colon; an empty one is none. -/
def readPort (scheme : String) (s : List Char) : Except InvalidUrl (Option Int) :=
  if s.isEmpty then .ok none
  else match portNumber? s with
    | some n => .ok (keptPort scheme (some n))
    | none => .error (.port (String.ofList s))

/-- Reads a host. -/
def readHost (s : List Char) : Except InvalidUrl (List Char) :=
  let text := String.ofList s
  if Host.isQuad s then if Host.isIpv4 s then .ok s else .error (.ipv4 text)
  else if s.head? = some '[' && s.getLast? = some ']' then
    let address := (s.drop 1).dropLast
    if Host.isIpv6 address then .ok address else .error (.ipv6 text)
  else if s.all fun c => c.toNat < 128 then .ok (Host.encodeName s)
  else match International.encode? s with
    | some name => .ok name
    | none => .error (.name text)

/-- Checks that a path may follow what stands in front of it: behind an authority it starts with a
slash, and with nothing in front it must not look like an authority or a scheme. -/
def checkPath (hasScheme hasAuthority : Bool) (s : List Char) : Except InvalidUrl Unit :=
  if hasAuthority && !s.isEmpty && s.head? != some '/' then .error .relativePath
  else if hasScheme || hasAuthority then .ok ()
  else if s.take 2 == ['/', '/'] then .error .pathLikeAuthority
  else if s.head? == some ':' then .error .pathLikeScheme
  else .ok ()

/-- The segments of a path with dot segments resolved: one dot is dropped, two dots drop the
segment in front, but not the empty one in front of the first slash. Segments are held in
reverse. -/
def resolveDots (done : List (List Char)) : List (List Char) → List (List Char)
  | [] => done.reverse
  | s :: segments =>
    if s = ['.'] then resolveDots done segments
    else if s = ['.', '.'] then
      resolveDots (if done = [] || done = [[]] then done else done.drop 1) segments
    else resolveDots (s :: done) segments

/-- A path with dot segments resolved. -/
def resolvePath (s : List Char) : List Char :=
  let segments := Form.pieces '/' s
  if segments.any fun g => g = ['.'] || g = ['.', '.'] then
    Form.separated '/' (resolveDots [] segments)
  else s

/-- Reads a URL. -/
def parse (s : String) : Except InvalidUrl Url := do
  let cs := s.toList
  if maxLength < cs.length then throw .tooLong
  if let some c := cs.find? isControl then throw (.control c (cs.idxOf c))
  let (scheme, rest) := cutScheme cs
  let (authority, rest) := cutAuthority rest
  let path := rest.takeWhile fun c => c != '?' && c != '#'
  let rest := rest.dropWhile fun c => c != '?' && c != '#'
  let query :=
    match rest with
    | '?' :: q => some (q.takeWhile (· != '#'))
    | _ => none
  let fragment :=
    match rest.dropWhile (· != '#') with
    | _ :: f => some f
    | [] => none
  let (userinfo, rest) := cutUserinfo authority
  let (host, rest) := cutHost rest
  let host ← readHost host
  let port ← readPort (String.ofList scheme) (match rest with
    | ':' :: p => p
    | p => p)
  let hasScheme := !scheme.isEmpty
  let hasAuthority := !userinfo.isEmpty || !host.isEmpty || port.isSome
  checkPath hasScheme hasAuthority path
  let path := if hasScheme || hasAuthority then resolvePath path else path
  return {
    scheme := Text.lower (String.ofList scheme)
    userinfo := String.ofList (escape isUserinfoChar userinfo)
    host := String.ofList host
    port := port
    path := String.ofList (escape isPathChar path)
    query := query.map fun q => String.ofList (escape isQueryChar q)
    fragment := fragment.map fun f => String.ofList (escape isFragmentChar f)
  }

/-! ## Queries -/

/-- The query of a URL. -/
def queryOf (u : Url) : Query :=
  match u.query with
  | some q => .ofParams (Form.decode q.toList)
  | none => []

/-- The host, an international name read. -/
def plainHost (u : Url) : Except LabelFault String :=
  if u.host.toList.take 4 = Label.mark then
    (International.decode u.host.toList).map String.ofList
  else .ok u.host

/-- The path with its escapes read, a slash if it is empty. -/
def plainPath (u : Url) : String :=
  if u.path.isEmpty then "/" else String.ofList (unescape u.path.toList)

/-- A URL whose parts are within the length that a URL may have. -/
def isShort (u : Url) : Bool :=
  [u.scheme, u.authority, u.path, u.query.getD "", u.fragment.getD ""].all fun part =>
    part.toList.length ≤ maxLength

/-- The URL with its parts brought into normal form again: escapes in the name of a host are in
lower case then, and a default port that the spelling of the scheme hid is dropped. -/
def renormalized (u : Url) : Url :=
  { u with
    host := if u.host.toList.contains ':' then u.host else Text.lower u.host
    port := keptPort u.scheme u.port }

/-- The URL with another query. -/
def withQuery (u : Url) (query : Option String) : Except InvalidUrl Url :=
  if isShort { u with query := query } then .ok { u.renormalized with query := query }
  else .error .tooLong

theorem withQuery_parts {u v : Url} {q : Option String} (h : u.withQuery q = .ok v) :
    v.scheme = u.scheme ∧ v.userinfo = u.userinfo ∧ v.path = u.path ∧ v.fragment = u.fragment ∧
      v.query = q := by
  unfold withQuery at h
  split at h
  · cases h
    exact ⟨rfl, rfl, rfl, rfl, rfl⟩
  · cases h

/-- The URL with parameters merged into its query; without parameters it stays as it is. -/
def withParams (u : Url) (ps : List Form.Param) : Except InvalidUrl Url :=
  if ps.isEmpty then .ok u
  else
    let q := u.queryOf.merge (.ofParams ps)
    u.withQuery (some (String.ofList (Form.encode q.params)))

end Url

end Bearer
