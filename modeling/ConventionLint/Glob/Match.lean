import ConventionLint.Glob.Pattern
import ConventionLint.Text.Bytes

/-!
What patterns match.

A pattern is matched against the bytes of a path from left to right. Each token leads from what is left
of the path to the ends of it that can be left afterwards; a path matches if nothing can be left.
-/
namespace ConventionLint.Glob

open Bytes (slash dot)

def tails : Bytes → List Bytes
  | [] => [[]]
  | b :: path => (b :: path) :: tails path

def afterSlashes : Bytes → List Bytes
  | [] => []
  | b :: path => if b = slash then path :: afterSlashes path else afterSlashes path

/-- Whether a byte lies in a range of characters, each of which stands for its bytes: the last byte of the
first character and the first byte of the last one bound a range. -/
def inRange (b : UInt8) (range : Char × Char) : Bool :=
  let low := String.utf8EncodeChar range.1
  let high := String.utf8EncodeChar range.2
  if range.1 = range.2 then low.contains b
  else
    low.contains b || high.contains b ||
      (low.getLast?.any (· ≤ b) && high.head?.any (b ≤ ·))

mutual

def Token.isVoid : Token → Bool
  | .alternates branches => allVoid branches
  | _ => false

def isVoid : List Token → Bool
  | [] => true
  | token :: tokens => token.isVoid && isVoid tokens

def allVoid : List (List Token) → Bool
  | [] => true
  | tokens :: branches => isVoid tokens && allVoid branches

end

mutual

/-- What can be left of a path after a token. Branches that say nothing are no choice. -/
def Token.rests : Token → Bytes → List Bytes
  | .literal c, path =>
    let encoded := String.utf8EncodeChar c
    if encoded.isPrefixOf path then [path.drop encoded.length] else []
  | .any, path => path.tail?.toList
  | .star, path => tails path
  | .leadingDirs, path => path :: afterSlashes path
  | .trailingDirs, path =>
    match path with
    | [] => []
    | b :: path => if b = slash then tails path else []
  | .innerDirs, path =>
    match path with
    | [] => []
    | b :: path => if b = slash then path :: afterSlashes path else []
  | .set negated ranges, path =>
    match path with
    | [] => []
    | b :: path => if (ranges.any (inRange b)) != negated then [path] else []
  | .alternates branches, path => if allVoid branches then [path] else branchRests branches path

def rests : List Token → List Bytes → List Bytes
  | [], paths => paths
  | token :: tokens, paths => rests tokens (paths.flatMap token.rests).eraseDups

def branchRests : List (List Token) → Bytes → List Bytes
  | [], _ => []
  | tokens :: branches, path =>
    if isVoid tokens then branchRests branches path
    else rests tokens [path] ++ branchRests branches path

end

def isLiteral : Token → Bool
  | .literal _ => true
  | _ => false

def isPlain : Token → Bool
  | .literal c => c != '.' && c != '/'
  | _ => false

def endsInExtension (tokens : List Token) : Bool :=
  match (tokens.reverse.dropWhile isPlain) with
  | .literal c :: _ => c == '.'
  | _ => false

def isSuffixForm (tokens : List Token) : Bool :=
  let (afterDirs, tokens) := match tokens with
    | .leadingDirs :: tokens => (true, tokens)
    | tokens => (false, tokens)
  let (afterStar, tokens) := match tokens with
    | .star :: tokens => (true, tokens)
    | tokens => (false, tokens)
  let onlySlash := match tokens with
    | [.literal c] => c == '/' && !(afterDirs && !afterStar)
    | _ => false
  tokens.all isLiteral && !tokens.isEmpty && !onlySlash

def isPrefixForm (tokens : List Token) : Bool :=
  match tokens.reverse with
  | .star :: before => before.all isLiteral && !before.isEmpty
  | .trailingDirs :: before => before.all isLiteral
  | _ => false

/-- Whether a pattern is judged by the name of a file or by its extension: a name after leading
directories, a star before an extension, or an extension in any other pattern that is not merely a
literal with or without a star at one end. -/
def judgedByName (tokens : List Token) : Bool :=
  match tokens with
  | .leadingDirs :: rest =>
    let isName := !rest.isEmpty && rest.all fun token =>
      match token with
      | .literal c => c != '/'
      | _ => false
    isName || starExtension rest || (!isSuffixForm tokens && endsInExtension tokens)
  | tokens =>
    !(tokens.all isLiteral) &&
      (starExtension tokens || (!isPrefixForm tokens && !isSuffixForm tokens && endsInExtension tokens))
where
  starExtension : List Token → Bool
  | .star :: .literal c :: rest => c == '.' && rest.all isPlain
  | _ => false

def hasName (path : Bytes) : Bool :=
  let name := (path.reverse.takeWhile (· != slash)).reverse
  name != [dot, dot]

namespace Pattern

/-- Whether the tokens of a pattern match the whole path. Leading directories alone match everything. -/
def covers (pattern : Pattern) (path : Bytes) : Bool :=
  match pattern.tokens with
  | [.leadingDirs] => true
  | tokens => (rests tokens [path]).contains []

def isMatch (pattern : Pattern) (path : Bytes) : Bool :=
  (!judgedByName pattern.tokens || hasName path) && pattern.covers path

end Pattern

def anyMatch (patterns : List Pattern) (path : Bytes) : Bool := patterns.any fun pattern => pattern.isMatch path

def parseAll : List String → Except (String × Error) (List Pattern)
  | [] => .ok []
  | text :: texts =>
    match Pattern.parse text with
    | .error e => .error (text, e)
    | .ok pattern => (parseAll texts).map (pattern :: ·)

end ConventionLint.Glob
