import LintRelay.Path.Basic
import LintRelay.Uri.Percent

/-!
# URIs

A URI in the normal form in which it is compared: the scheme in lower case, what has to be encoded
encoded, dot segments folded. `Uri.file?` gives the file that a URI names and `Uri.ofFile?` the URI
of a file. Any scheme names a file as long as the URI has no host and its path begins with a slash.
-/

namespace LintRelay

inductive UriPath where
  /-- Segments, with a slash before each. -/
  | rooted (segments : List (List Char))
  | opaqueText (text : List Char)
  deriving Repr, DecidableEq

/-- A URI in normal form. -/
structure Uri where
  scheme : List Char
  /-- The user name and the password. -/
  userInfo : List Char
  /-- The host. A URI may have an empty one and differs then from a URI without any, except among
  those of files. -/
  host : Option (List Char)
  port : Option Nat
  path : UriPath
  query : Option (List Char)
  fragment : Option (List Char)
  deriving Repr, DecidableEq

def UriPath.text : UriPath → List Char
  | .rooted segments => segments.flatMap ('/' :: ·)
  | .opaqueText text => text

/-- Whether `c` is an ASCII letter. -/
def isLetter (c : Char) : Bool := ('a' ≤ c && c ≤ 'z') || ('A' ≤ c && c ≤ 'Z')

/-- Whether the bytes end in a letter and a colon or a bar. -/
def endsInDrive (bs : Bytes) : Bool :=
  match bs.reverse with
  | mark :: letter :: _ :: _ =>
    (mark == 0x3A || mark == 0x7C) && isLetter (Char.ofNat letter.toNat)
  | _ => false

namespace Uri

/-- The file that a URI names. A name that looks like a drive gets a slash behind it. -/
def file? (u : Uri) : Option Path :=
  match u.path with
  | .opaqueText _ => none
  | .rooted segments =>
    if u.host.all fun h => h.isEmpty || h == "localhost".toList then
      let bs := segments.flatMap fun s => slash :: Percent.decode (Text.encode s)
      some ⟨if endsInDrive bs then bs ++ [slash] else bs⟩
    else none

/-- The names of an absolute path, with the root and `..` as they are. -/
def fileSegments (p : Path) : List Bytes :=
  (p.components.drop 1).map Component.bytes

/-- The text of the URI of an absolute path. -/
def ofFile? (p : Path) : Option String :=
  if p.isAbsolute then
    let path :=
      match fileSegments p with
      | [] => ['/']
      | names => names.flatMap fun n => '/' :: Percent.encode Percent.inFileSegment n
    some (String.ofList ("file://".toList ++ path))
  else none

end Uri
end LintRelay
