import LintRelay.Glob.Pattern

/-!
# Matching globs

A pattern matches a byte sequence as a whole. A token is matched against the front of a sequence in
every possible way at once: `Token.rests` lists what may be left behind it. Since what is left is
always an end of the sequence, two of the same length are the same, and `distinct` keeps one of
them.
-/

namespace LintRelay

namespace Glob

/-- The ends of a sequence, itself and the empty one included. -/
def ends : Bytes → List Bytes
  | [] => [[]]
  | b :: bs => (b :: bs) :: ends bs

/-- The ends of a sequence that follow a slash. -/
def endsAfterSlash : Bytes → List Bytes
  | [] => []
  | b :: bs => if b == 0x2F then bs :: endsAfterSlash bs else endsAfterSlash bs

/-- One of each length. -/
def distinct (rests : List Bytes) : List Bytes :=
  rests.foldr (fun r rs => if rs.any (fun s => s.length == r.length) then rs else r :: rs) []

/-- What is left of `bs` behind the bytes `front`. -/
def restAfter (front bs : Bytes) : List Bytes :=
  if front.isPrefixOf bs then [bs.drop front.length] else []

/-- The ranges of bytes that a range of characters stands for: its ends are spelled in UTF-8 with
the dash between the last byte of the one and the first byte of the other. -/
def byteRanges (range : Char × Char) : List (UInt8 × UInt8) :=
  let low := String.utf8EncodeChar range.1
  let high := String.utf8EncodeChar range.2
  if range.1 == range.2 then low.map fun b => (b, b)
  else
    (low.dropLast.map fun b => (b, b)) ++
      [(low.getLastD 0, high.headD 0)] ++
      ((high.drop 1).map fun b => (b, b))

def inByteClass (negated : Bool) (ranges : List (Char × Char)) (b : UInt8) : Bool :=
  ((ranges.flatMap byteRanges).any fun r => r.1 ≤ b && b ≤ r.2) != negated

mutual

/-- Whether a token stands for nothing: a group without an alternative that says something. -/
def Token.isVoid : Token → Bool
  | .oneOf alternatives => allVoid alternatives
  | _ => false

/-- Whether all tokens stand for nothing. -/
def areVoid : List Token → Bool
  | [] => true
  | t :: ts => t.isVoid && areVoid ts

/-- Whether all alternatives stand for nothing. -/
def allVoid : List (List Token) → Bool
  | [] => true
  | ts :: tss => areVoid ts && allVoid tss

end

mutual

/-- What may be left of a sequence behind a token. -/
def Token.rests : Token → Bytes → List Bytes
  | .char c, bs => restAfter (String.utf8EncodeChar c) bs
  | .any, bs => match bs with
    | [] => []
    | _ :: rest => [rest]
  | .run, bs => ends bs
  | .leadingDirs, bs => bs :: endsAfterSlash bs
  | .contents, bs => (restAfter [0x2F] bs).flatMap ends
  | .betweenDirs, bs => (restAfter [0x2F] bs).flatMap fun rest => rest :: endsAfterSlash rest
  | .byteClass negated ranges, bs => match bs with
    | [] => []
    | b :: rest => if inByteClass negated ranges b then [rest] else []
  | .oneOf alternatives, bs =>
    if allVoid alternatives then [bs] else restsOfAny alternatives bs

/-- What may be left of a sequence behind tokens in a row. -/
def restsOfAll : List Token → Bytes → List Bytes
  | [], bs => [bs]
  | t :: ts, bs => distinct ((distinct (t.rests bs)).flatMap (restsOfAll ts))

/-- What may be left of a sequence behind one of the alternatives that say something. -/
def restsOfAny : List (List Token) → Bytes → List Bytes
  | [], _ => []
  | ts :: tss, bs => (if areVoid ts then [] else restsOfAll ts bs) ++ restsOfAny tss bs

end

/-- Whether the tokens match a byte sequence as a whole. A pattern of directories alone matches
everything. -/
def matchesAll (ts : List Token) (bs : Bytes) : Bool :=
  match ts with
  | [.leadingDirs] => true
  | _ => (restsOfAll ts bs).any (·.isEmpty)

end Glob

/-- A pattern that was read. -/
structure Glob where
  tokens : List Glob.Token
  deriving Inhabited

/-- Reads a pattern. -/
def Glob.parse (pattern : String) : Except Glob.Fault Glob :=
  (Glob.tokensOf pattern.toList).map fun ts => ⟨ts⟩

/-- Whether a pattern matches a byte sequence as a whole. -/
def Glob.accepts (g : Glob) (bs : Bytes) : Bool := Glob.matchesAll g.tokens bs

end LintRelay
