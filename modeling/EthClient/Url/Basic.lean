import EthClient.Url.Host

/-! # URLs

A `Url` in its parts, and the two ways in which texts become one: `Url.ofText` reads a whole URL,
and `Url.setPath` replaces the path. What is read is put into its canonical form: the scheme in
lower case, the domain in ASCII, no port where it is the usual one, no `.` and `..` in the path, and
everything that a part cannot have percent-encoded. -/

namespace EthClient

namespace Url

/-- What follows the authority of a URL. -/
inductive Path where
  /-- Segments, each behind a slash. -/
  | segments (parts : List (List Char))
  /-- The path of a URL that has no authority and does not begin with a slash. -/
  | verbatim (cs : List Char)
  deriving DecidableEq

/-- The written form of a path. -/
def Path.chars : Path → List Char
  | .segments parts => parts.flatMap ('/' :: ·)
  | .verbatim cs => cs

end Url

/-- A URL in its parts, each as it is written. -/
structure Url where
  scheme : String
  user : List Char := []
  password : List Char := []
  /-- The host, if there is an authority at all; its name may be empty. -/
  host : Option Url.Host := none
  port : Option Nat := none
  path : Url.Path
  query : Option (List Char) := none
  fragment : Option (List Char) := none
  deriving DecidableEq

namespace Url

/-! ## Writing -/

/-- User and password as they are written. -/
def userInfo (u : Url) : List Char :=
  let password := if u.password.isEmpty then [] else ':' :: u.password
  if u.user.isEmpty && password.isEmpty then [] else u.user ++ password ++ ['@']

/-- The authority as it is written. -/
def authority (u : Url) : List Char :=
  match u.host with
  | none => []
  | some host =>
    let port := match u.port with
      | some p => ':' :: (toString p).toList
      | none => []
    ['/', '/'] ++ u.userInfo ++ host.toText.toList ++ port

/-- The path as it is written. -/
def pathText (u : Url) : String := String.ofList u.path.chars

/-- What tells a path that begins with two slashes from an authority. -/
def pathMark (u : Url) : List Char :=
  match u.host, u.path.chars with
  | none, '/' :: '/' :: _ => ['/', '.']
  | _, _ => []

/-- The written form of a URL. -/
def toText (u : Url) : String :=
  let tail (mark : Char) (part : Option (List Char)) : List Char :=
    match part with
    | some cs => mark :: cs
    | none => []
  String.ofList <| u.scheme.toList ++ ':' :: u.authority ++ u.pathMark ++ u.path.chars ++
    tail '?' u.query ++ tail '#' u.fragment

/-! ## Classes of schemes and characters -/

/-- The usual port of a scheme whose URLs always have a host. -/
def defaultPort? : String → Option Nat
  | "http" | "ws" => some 80
  | "https" | "wss" => some 443
  | "ftp" => some 21
  | _ => none

/-- Whether the URLs of a scheme follow the rules of the web: their paths are never empty, and a
backslash is a slash. -/
def isSpecial (scheme : String) : Bool := (defaultPort? scheme).isSome || scheme == "file"

/-- The characters that are encoded in a fragment. -/
def inFragment (c : Char) : Bool := isControl c || " \"<>`".toList.contains c

/-- The characters that are encoded in a path. -/
def inPath (c : Char) : Bool := inFragment c || "#?\x7b\x7d".toList.contains c

/-- The characters that are encoded in user and password. -/
def inUserInfo (c : Char) : Bool := inPath c || "/:;=@[\\]^|".toList.contains c

/-- The characters that are encoded in the query of a scheme. -/
def inQuery (special : Bool) (c : Char) : Bool :=
  isControl c || " \"#<>".toList.contains c || (special && c == '\'')

/-! ## Paths -/

/-- Whether a segment stands for the segment itself. -/
def isDot (segment : List Char) : Bool := [".", "%2e"].contains (String.ofList segment).toLower

/-- Whether a segment stands for the one above. -/
def isDoubleDot (segment : List Char) : Bool :=
  ["..", ".%2e", "%2e.", "%2e%2e"].contains (String.ofList segment).toLower

/-- Whether a segment is the letter of a drive, with a colon or a bar. -/
def isDrive : List Char → Bool
  | [letter, mark] => letter.isAlpha && (mark == ':' || mark == '|')
  | _ => false

/-- Segments without the last one; what begins with the letter of a drive stays. -/
def parent (segments : List (List Char)) : List (List Char) :=
  if segments.getLast?.any fun last => isDrive (last.takeWhile (· != '\\')) then segments
  else segments.dropLast

/-- A segment behind others: as the first one of the path of a file, the letter of a drive has a
colon. -/
def placed (ofFile : Bool) (before : List (List Char)) (segment : List Char) : List Char :=
  if ofFile && before.isEmpty && isDrive segment then segment.take 1 ++ [':'] else segment

/-- Puts segments behind others that have been read; a dot at the end leaves an empty segment. -/
def resolve (ofFile : Bool) (before : List (List Char)) : List (List Char) → List (List Char)
  | [] => before
  | segment :: rest =>
    let last := if rest.isEmpty then [[]] else []
    if isDoubleDot segment then resolve ofFile (parent before ++ last) rest
    else if isDot segment then resolve ofFile (before ++ last) rest
    else resolve ofFile (before ++ [placed ofFile before segment]) rest

/-- Whether a character separates the segments of the path of a scheme. -/
def isSlash (scheme : String) (c : Char) : Bool := c == '/' || (isSpecial scheme && c == '\\')

/-- The segments that some characters mean. -/
def segmentsOf (scheme : String) (cs : List Char) : List (List Char) :=
  let cs := cs.map fun c => if isSlash scheme c then '/' else c
  resolve (scheme == "file") [] ((Text.splitChars '/' cs).map (encode inPath))

/-- Characters without a slash at the front. -/
def withoutSlash (scheme : String) : List Char → List Char
  | c :: cs => if isSlash scheme c then cs else c :: cs
  | [] => []

/-- The path that some characters mean, behind an optional slash. -/
def pathOf (scheme : String) (cs : List Char) : Path :=
  if cs.isEmpty && !isSpecial scheme then .segments []
  else .segments (segmentsOf scheme (withoutSlash scheme cs))

/-! ## Reading -/

/-- Cuts a text before the first character of a class. -/
def cutBefore (stop : Char → Bool) (cs : List Char) : List Char × List Char :=
  (cs.takeWhile (!stop ·), cs.dropWhile (!stop ·))

/-- Drops blanks and controls at both ends, and tabs and line ends everywhere. -/
def cleaned (s : String) : List Char :=
  let isEdge (c : Char) : Bool := c.toNat ≤ 32
  let trimmed := ((s.toList.dropWhile isEdge).reverse.dropWhile isEdge).reverse
  trimmed.filter fun c => c != '\t' && c != '\n' && c != '\r'

/-- The scheme at the front of a text, and what follows its colon. -/
def scheme? (cs : List Char) : Option (String × List Char) :=
  let (name, rest) := cutBefore (· == ':') cs
  match name, rest with
  | c :: _, ':' :: rest =>
    if c.isAlpha && name.all (fun c => c.isAlphanum || c == '+' || c == '-' || c == '.') then
      some ((String.ofList name).toLower, rest)
    else none
  | _, _ => none

/-- The port that some digits mean; none if it is the usual one or there is no digit. -/
def portOf (scheme : String) (cs : List Char) : Except UrlError (Option Nat) :=
  if cs.isEmpty then .ok none
  else
    match Text.decimal? cs with
    | none => .error .invalidPort
    | some n =>
      if 65535 < n then .error .invalidPort
      else .ok (if defaultPort? scheme == some n then none else some n)

/-- Cuts host and port apart at the first colon outside brackets. -/
def hostAndPort (inBrackets : Bool) : List Char → List Char × Option (List Char)
  | [] => ([], none)
  | c :: rest =>
    if c == ':' && !inBrackets then ([], some rest)
    else
      let (host, port) := hostAndPort (if c == '[' then true else if c == ']' then false
        else inBrackets) rest
      (c :: host, port)

/-- Cuts a text at its last `@`. -/
def atLast (cs : List Char) : Option (List Char × List Char) :=
  let (after, rest) := cutBefore (· == '@') cs.reverse
  match rest with
  | [] => none
  | _ :: info => some (info.reverse, after.reverse)

/-- Reads an authority into a URL, up to what follows the port; `isLast` says that the authority is
the end of the text. -/
def readAuthority (u : Url) (cs : List Char) (isLast : Bool) :
    Except UrlError (Url × List Char) := do
  let special := isSpecial u.scheme
  if cs == ['@'] && !isLast then throw .emptyHost
  let (info, hostPart) := (atLast cs).getD ([], cs)
  let (user, password) := cutBefore (· == ':') info
  let user := encode inUserInfo user
  let password := encode inUserInfo (password.drop 1)
  let (hostChars, port) := hostAndPort false hostPart
  if hostChars.isEmpty && (special || port.isSome || !user.isEmpty || !password.isEmpty) then
    throw .emptyHost
  let host ← if special then Host.ofDomain hostChars else Host.ofVerbatim hostChars
  let (digits, rest) := cutBefore (· == '\\') (port.getD [])
  let port ← portOf u.scheme digits
  return ({ u with user, password, host := some host, port }, rest)

/-- The URL of a file on a host. Of empty segments at the front at most one stays, and the letter of
a drive in front has no host. -/
def ofFile (u : Url) (host : Host) (cs : List Char) : Url :=
  let segments := segmentsOf u.scheme cs
  let path := match segments.dropWhile List.isEmpty with
    | [] => [[]]
    | parts => parts
  let host := if segments.head?.any isDrive then .name [] else host
  { u with host := some host, path := .segments path }

/-- Reads the URL of a file. The name of a host stands behind two slashes; without one, or with that
of this machine, the slash behind it begins an empty segment. -/
def readFile (u : Url) (cs : List Char) : Except UrlError Url :=
  let noHost : Host := .name []
  match cs.span (isSlash u.scheme) with
  | (_ :: _ :: more, rest) => do
    let (name, path) := cutBefore (isSlash u.scheme) (more ++ rest)
    if isDrive name then return u.ofFile noHost (name ++ path)
    let host ← if name.isEmpty then .ok noHost else Host.ofDomain name
    if host == noHost || host == .name "localhost".toList then return u.ofFile noHost path
    else return u.ofFile host (withoutSlash u.scheme path)
  | _ => return u.ofFile noHost (withoutSlash u.scheme cs)

/-- Reads the part of a URL before its query: authority and path, or a path alone; `isLast` says
that it is the end of the text. -/
def readMain (u : Url) (cs : List Char) (isLast : Bool) : Except UrlError Url :=
  let isSlash := isSlash u.scheme
  let readBoth (cs : List Char) : Except UrlError Url := do
    let (found, path) := cutBefore isSlash cs
    let (u, rest) ← u.readAuthority found (path.isEmpty && isLast)
    return { u with path := pathOf u.scheme (rest ++ path) }
  if u.scheme == "file" then u.readFile cs
  else if isSpecial u.scheme then readBoth (cs.dropWhile isSlash)
  else
    match cs with
    | '/' :: '/' :: rest => readBoth rest
    | '/' :: _ => .ok { u with path := pathOf u.scheme cs }
    | cs => .ok { u with path := .verbatim (encode isControl cs) }

/-- The URL that a text means. -/
def ofText (s : String) : Except UrlError Url := do
  match scheme? (cleaned s) with
  | none => throw .relative
  | some (scheme, rest) =>
    let (rest, fragment) := cutBefore (· == '#') rest
    let (main, query) := cutBefore (· == '?') rest
    let part (isEncoded : Char → Bool) (cs : List Char) : Option (List Char) :=
      match cs with
      | [] => none
      | _ :: cs => some (encode isEncoded cs)
    let u ← readMain { scheme, path := .verbatim [] } main (query.isEmpty && fragment.isEmpty)
    return { u with
      query := part (inQuery (isSpecial scheme)) query
      fragment := part inFragment fragment }

/-- The URL with the path that a text means. -/
def setPath (u : Url) (s : String) : Url :=
  let cs := s.toList.filter fun c => c != '\t' && c != '\n' && c != '\r'
  match u.path with
  | .segments _ => { u with path := pathOf u.scheme cs }
  | .verbatim _ =>
    let cs := match cs with
      | '/' :: rest => "%2F".toList ++ encode isControl rest
      | cs => encode isControl cs
    { u with path := .verbatim cs }

end Url

end EthClient
