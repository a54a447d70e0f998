import LintRelay.Uri.Basic
import LintRelay.Uri.Host

/-!
# Reading URIs

A URI is read as browsers read it: blanks around it and line breaks in it are dropped, a backslash
counts as a slash in the special schemes, and dot segments are folded while the path is read.
-/

namespace LintRelay

inductive SchemeKind where
  | file
  | special
  | other
  deriving Repr, DecidableEq

/-- The schemes with a host that are not `file`, with the port that goes without saying. -/
def specialSchemes : List (String × Nat) :=
  [("http", 80), ("https", 443), ("ws", 80), ("wss", 443), ("ftp", 21)]

namespace SchemeKind

def ofScheme (scheme : List Char) : SchemeKind :=
  let s := String.ofList scheme
  if s == "file" then .file
  else if specialSchemes.any (·.1 == s) then .special
  else .other

/-- Whether a backslash counts as a slash. -/
def isSpecial : SchemeKind → Bool
  | .other => false
  | _ => true

/-- Whether `c` divides segments. -/
def isSlash (k : SchemeKind) (c : Char) : Bool := c == '/' || (k.isSpecial && c == '\\')

/-- Whether `c` ends what stands in front of the path. -/
def endsAuthority (k : SchemeKind) (c : Char) : Bool := k.isSlash c || c == '?' || c == '#'

end SchemeKind

namespace Uri

/-- The text without controls and spaces at its ends and without tabs and line breaks. -/
def clean (cs : List Char) : List Char :=
  let isOuter (c : Char) : Bool := c.toNat ≤ 0x20
  let trimmed := ((cs.dropWhile isOuter).reverse.dropWhile isOuter).reverse
  trimmed.filter fun c => c != '\t' && c != '\n' && c != '\r'

/-- Whether `c` may stand in a scheme. -/
def isSchemeChar (c : Char) : Bool :=
  isLetter c || (Json.digitValue? c).isSome || c == '+' || c == '-' || c == '.'

/-- The scheme in lower case and what follows its colon. -/
def splitScheme? (cs : List Char) : Option (List Char × List Char) :=
  match cs.span isSchemeChar with
  | (scheme, ':' :: rest) =>
    if scheme.head?.any isLetter then some (scheme.map Char.toLower, rest) else none
  | _ => none

/-! ## Paths -/

/-- Whether a segment is `.`, also encoded. -/
def isDot (segment : List Char) : Bool :=
  let s := String.ofList (segment.map Char.toLower)
  s == "." || s == "%2e"

/-- Whether a segment is `..`, also encoded. -/
def isDotDot (segment : List Char) : Bool :=
  let s := String.ofList (segment.map Char.toLower)
  ["..", "%2e.", ".%2e", "%2e%2e"].contains s

/-- Whether a segment looks like a drive. -/
def isDrive (segment : List Char) : Bool :=
  match segment with
  | [letter, mark] => isLetter letter && (mark == ':' || mark == '|')
  | _ => false

/-- The segments, last one first, without the last one. A drive stays. -/
def shorten (segments : List (List Char)) : List (List Char) :=
  match segments with
  | [] => []
  | s :: rest => if isDrive s then s :: rest else rest

/-- The segments read so far, last one first, and whether a drive was read at the front of a file's
path. -/
structure Walk where
  before : List (List Char)
  hasDrive : Bool

/-- Reads a segment that is no dot segment. At the front of a file's path the mark of a drive becomes
a colon, and a drive with more behind it is a segment of its own. -/
def Walk.follow (k : SchemeKind) (w : Walk) (segment : List Char) : Walk :=
  match k, w.before, segment with
  | .file, [], [letter, mark] =>
    if isDrive [letter, mark] then ⟨[[letter, ':']], true⟩ else { w with before := [segment] }
  | .file, [], letter :: ':' :: c :: rest =>
    { w with before := if isLetter letter then [c :: rest, [letter, ':']] else [segment] }
  | _, before, segment => { w with before := segment :: before }

/-- Reads the segments and folds the dot segments. -/
def Walk.read (k : SchemeKind) (w : Walk) : List (List Char) → Walk
  | [] => w
  | [s] =>
    if isDotDot s then { w with before := [] :: shorten w.before }
    else if isDot s then { w with before := [] :: w.before }
    else w.follow k s
  | s :: t :: rest =>
    if isDotDot s then Walk.read k { w with before := shorten w.before } (t :: rest)
    else if isDot s then Walk.read k w (t :: rest)
    else Walk.read k (w.follow k s) (t :: rest)

/-- The walk over a text that follows a first slash. -/
def walk (k : SchemeKind) (cs : List Char) : Walk :=
  let plain := cs.map fun c => if k.isSlash c then '/' else c
  Walk.read k ⟨[], false⟩ ((Domain.splitAt '/' plain).map (Percent.encodeText Percent.inPath))

/-- The segments of a text that follows a first slash. -/
def segmentsOf (k : SchemeKind) (cs : List Char) : List (List Char) := (walk k cs).before.reverse

/-- Segments without the empty ones in front, as the path of a file has them. -/
def trimSegments (segments : List (List Char)) : List (List Char) :=
  match segments.dropWhile List.isEmpty with
  | [] => [[]]
  | segments => segments

def spanPath (cs : List Char) : List Char × List Char := cs.span fun c => c != '?' && c != '#'

/-- The query and the fragment of what follows a path. -/
def tailParts (k : SchemeKind) (cs : List Char) : Option (List Char) × Option (List Char) :=
  let set := if k.isSpecial then Percent.inSpecialQuery else Percent.inQuery
  let fragment : List Char → Option (List Char)
    | '#' :: f => some (Percent.encodeText Percent.inFragment f)
    | _ => none
  match cs with
  | '?' :: rest =>
    let (q, rest) := rest.span (· != '#')
    (some (Percent.encodeText set q), fragment rest)
  | cs => (none, fragment cs)

/-! ## Authorities -/

/-- The position of the last character `c`: what stands before and behind it. -/
def splitLast? (c : Char) (cs : List Char) : Option (List Char × List Char) :=
  match cs.reverse.span (· != c) with
  | (behind, _ :: before) => some (before.reverse, behind.reverse)
  | (_, []) => none

/-- The host part of a text, up to a colon outside brackets, and what follows it. -/
def spanHost : Bool → List Char → List Char × List Char
  | _, [] => ([], [])
  | inBrackets, c :: cs =>
    if c == ':' && !inBrackets then ([], c :: cs)
    else
      let inside := if c == '[' then true else if c == ']' then false else inBrackets
      let (h, rest) := spanHost inside cs
      (c :: h, rest)

/-- The port behind a colon, and what follows it: nothing, or a text that begins with a backslash. The
port of the scheme itself is left out. -/
def portOf (scheme : List Char) (cs : List Char) : Except UriFault (Option Nat × List Char) :=
  let (digits, rest) := (cs.drop 1).span fun c => (Json.digitValue? c).isSome
  let n := (Host.number? 10 digits).getD 0
  if n > 65535 || rest.head?.any (· != '\\') then .error .invalidPort
  else if digits.isEmpty || specialSchemes.contains (String.ofList scheme, n) then .ok (none, rest)
  else .ok (some n, rest)

/-- The parts of an authority, and what stands behind it up to the next slash. -/
structure Authority where
  userInfo : List Char
  host : List Char
  port : Option Nat
  behind : List Char

/-- The name and the password of a user. An empty password is left out with its colon. -/
def userInfoOf (cs : List Char) : List Char :=
  let encoded := Percent.encodeText Percent.inUserInfo
  match cs.span (· != ':') with
  | (name, colon :: c :: password) => encoded name ++ colon :: encoded (c :: password)
  | (name, _) => encoded name

/-- Reads an authority. `isWhole` tells whether the URI ends with it: then it may be an at sign
alone. -/
def authorityOf (k : SchemeKind) (scheme cs : List Char) (isWhole : Bool) :
    Except UriFault Authority := do
  let (user, rest) := (splitLast? '@' cs).getD ([], cs)
  if cs == ['@'] && !isWhole then throw .emptyHost
  let userInfo := userInfoOf user
  let (hostText, portText) := spanHost false rest
  if k == .special && hostText.isEmpty then throw .emptyHost
  let host ← if k.isSpecial then Host.parse hostText else Host.parseOpaque hostText
  if host.isEmpty && !portText.isEmpty then throw .emptyHost
  let (port, behind) ← portOf scheme portText
  if host.isEmpty && !userInfo.isEmpty then throw .emptyHost
  return { userInfo, host, port, behind }

/-! ## Whole URIs -/

/-- A URI without an authority. -/
def bare (scheme : List Char) (path : UriPath) (tail : Option (List Char) × Option (List Char)) :
    Uri := ⟨scheme, [], none, none, path, tail.1, tail.2⟩

/-- The host of a `file` URI; `localhost` is none. -/
def fileHost (cs : List Char) : Except UriFault (Option (List Char)) :=
  if cs.isEmpty then .ok none
  else (Host.parse cs).map fun h => if h == "localhost".toList then none else some h

/-- A `file` URI with the text of its path and what follows it. A path that begins with a drive has
no host. -/
def fileUri (host : Option (List Char)) (path tail : List Char) : Uri :=
  let read := walk .file path
  let host := if read.hasDrive then none else host
  { bare "file".toList (.rooted (trimSegments read.before.reverse)) (tailParts .file tail) with host }

/-- Reads what follows `file:`. The first segment of the path is what follows one slash or none at
all, or the slash behind a host; without a host the slash itself ends a first segment that is
empty. -/
def parseFile (cs : List Char) : Except UriFault Uri := do
  let isSlash := SchemeKind.isSlash .file
  match cs with
  | a :: rest =>
    if !isSlash a then
      let (path, tail) := spanPath cs
      return fileUri none path tail
    else if rest.head?.any isSlash then
      let authority := rest.drop 1
      let (hostText, behind) := authority.span fun c => !SchemeKind.endsAuthority .file c
      let host ← if isDrive hostText then .ok none else fileHost hostText
      let (path, tail) := spanPath (if isDrive hostText then authority else behind)
      return fileUri host (if host.isSome then path.drop 1 else path) tail
    else
      let (path, tail) := spanPath rest
      return fileUri none path tail
  | [] => return fileUri none [] []

/-- Reads what follows the two slashes of an authority. -/
def parseAuthority (k : SchemeKind) (scheme cs : List Char) : Except UriFault Uri := do
  let (text, rest) := cs.span fun c => !k.endsAuthority c
  let authority ← authorityOf k scheme text rest.isEmpty
  let (path, tail) := spanPath rest
  let uriPath : UriPath :=
    match authority.behind, path with
    | [], [] => if k.isSpecial then .rooted [[]] else .opaqueText []
    | [], _ :: segments => .rooted (segmentsOf k segments)
    | behind, path => .rooted (segmentsOf k (behind ++ path))
  let (query, fragment) := tailParts k tail
  return ⟨scheme, authority.userInfo, some authority.host, authority.port, uriPath, query, fragment⟩

/-- Reads what follows a scheme that is not special. -/
def parseOther (scheme cs : List Char) : Except UriFault Uri :=
  match cs with
  | '/' :: '/' :: rest => parseAuthority .other scheme rest
  | '/' :: rest =>
    let (path, tail) := spanPath rest
    .ok (bare scheme (.rooted (segmentsOf .other path)) (tailParts .other tail))
  | cs =>
    let (path, tail) := spanPath cs
    .ok (bare scheme (.opaqueText (Percent.encodeText Percent.isControl path))
      (tailParts .other tail))

/-- Reads a URI. -/
def parse (text : String) : Except UriFault Uri :=
  match splitScheme? (clean text.toList) with
  | none => .error .relative
  | some (scheme, rest) =>
    match SchemeKind.ofScheme scheme with
    | .file => parseFile rest
    | .special =>
      parseAuthority .special scheme (rest.dropWhile fun c => c == '/' || c == '\\')
    | .other => parseOther scheme rest

end Uri
end LintRelay
