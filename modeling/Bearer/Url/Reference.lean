import Bearer.Url.Basic

/-!
# References

A URL without a scheme or without a host is read in the light of another one: what it lacks in front
of its path, or of its query, comes from there, and a path that does not start with a slash goes on
where the other path ends. Schemes whose URLs have no such paths take no part in this.
-/
namespace Bearer.Url

/-- The schemes whose URLs can be referred to. -/
def relativeSchemes : List String :=
  ["", "ftp", "http", "gopher", "nntp", "imap", "wais", "file", "https", "shttp", "mms", "prospero",
    "rtsp", "rtsps", "rtspu", "sftp", "svn", "svn+ssh", "ws", "wss"]

/-- Whether a URL stands for itself. -/
def isAbsolute (u : Url) : Bool :=
  !u.scheme.isEmpty && !u.host.isEmpty

/-- The segments up to the last slash of a path, and the empty one behind it if the path ends there.
-/
def folderOf (path : List Char) : List (List Char) :=
  let ps := Form.pieces '/' path
  if ps.getLast? = some [] then ps else ps.dropLast

/-- Segments without the empty ones between the first and the last. -/
def withoutGaps : List (List Char) → List (List Char)
  | [] => []
  | p :: ps => p :: (ps.dropLast.filter fun q => !q.isEmpty) ++ ps.getLast?.toList

/-- Goes through segments: one dot stands for nothing, two dots drop the segment in front. Those
that are left are in reverse. -/
def climb (done : List (List Char)) (p : List Char) : List (List Char) :=
  if p = ['.', '.'] then done.drop 1 else if p = ['.'] then done else p :: done

/-- The path that segments make. -/
def pathOf (ps : List (List Char)) : List Char :=
  let left := (ps.foldl climb []).reverse
  let endsInDots := ps.getLast? = some ['.'] || ps.getLast? = some ['.', '.']
  let path := Form.separated '/' (if endsInDots then left ++ [[]] else left)
  if path.isEmpty then ['/'] else path

/-- A path in the light of another. -/
def mergePaths (base path : List Char) : List Char :=
  if path.head? = some '/' then pathOf (Form.pieces '/' path)
  else pathOf (withoutGaps (folderOf base ++ Form.pieces '/' path))

/-- The text of a URL with these parts; a path behind an authority gets a slash. -/
def assembled (scheme authority path query fragment : String) : String :=
  let path := if path.isEmpty || path.toList.head? = some '/' then path else "/" ++ path
  (if scheme.isEmpty then "" else scheme ++ ":") ++ "//" ++ authority ++ path ++
    (if query.isEmpty then "" else "?" ++ query) ++
    (if fragment.isEmpty then "" else "#" ++ fragment)

/-- The text of a URL in the light of another; `text` is its own. -/
def referenceText (base : Url) (text : String) (u : Url) : String :=
  let fragment := u.fragment.getD ""
  let query := u.query.getD ""
  if text.isEmpty then base.text
  else if !(u.scheme.isEmpty || u.scheme = base.scheme) || !relativeSchemes.contains base.scheme then
    text
  else if !u.authority.isEmpty then assembled base.scheme u.authority u.path query fragment
  else if u.path.isEmpty then
    assembled base.scheme base.authority base.path
      (if query.isEmpty then base.query.getD "" else query) fragment
  else
    assembled base.scheme base.authority
      (String.ofList (mergePaths base.path.toList u.path.toList)) query fragment

/-- A URL as its text reads. One that has a path alone may turn out to have more: the text of `:a:b`
does not show the colon in front, so that it reads as `b` under the scheme `a`. -/
def asRead (u : Url) : Except InvalidUrl Url :=
  if u.scheme.isEmpty && u.authority.isEmpty then parse u.text else .ok u

/-- A URL in the light of another. -/
def resolve (base u : Url) : Except InvalidUrl Url := do
  parse (referenceText base u.text (← u.asRead))

/-- The URL with another host, an international name among them. -/
def withHost (u : Url) (host : String) : Except InvalidUrl Url :=
  if !u.isShort || maxLength < host.toList.length then .error .tooLong
  else do
    let name := if host.toList.contains ':' then "[" ++ host ++ "]" else host
    let read ← readHost name.toList
    let v := { u with host := String.ofList read, port := keptPort u.scheme u.port }
    checkPath (!v.scheme.isEmpty) (!v.authority.isEmpty) v.path.toList
    return v

/-- The URL with another fragment. -/
def withFragment (u : Url) (fragment : Option String) : Except InvalidUrl Url :=
  if isShort { u with fragment := fragment } then .ok { u.renormalized with fragment := fragment }
  else .error .tooLong

end Bearer.Url
