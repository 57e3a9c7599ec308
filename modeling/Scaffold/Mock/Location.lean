import Scaffold.Text.Segment

/-!
# Places of mock data

An address becomes a relative path by cutting it at slashes and at the marks `:`, `?`, `&` and
`=`, each of which leaves a segment `_` behind.
-/

namespace Scaffold.Mock

def isMark (c : Char) : Bool :=
  c == ':' || c == '?' || c == '&' || c == '='

def isSlash (c : Char) : Bool := c == '/'

def spreadMarks (url : List Char) : List Char :=
  url.flatMap fun c => if isMark c then ['/', '_', '/'] else [c]

/-- Segments that count as part of a place. -/
def counts (segment : List Char) : Bool :=
  segment ≠ [] && segment ≠ ['.']

/-- The segments of the place where the data of an address is kept. -/
def dataSegments (url : List Char) : List (List Char) :=
  (Text.splitBy isSlash (spreadMarks url ++ "/data".toList)).filter counts

def dataPath (url : String) : String :=
  String.ofList (Text.joinWith ['/'] (dataSegments url.toList))

/-- The text without everything that follows the first dot of its last segment. -/
def stripExtensionChars (path : List Char) : List Char :=
  let last := (path.reverse.takeWhile fun c => !isSlash c).reverse
  let front := (path.reverse.dropWhile fun c => !isSlash c).reverse
  front ++ last.takeWhile (· ≠ '.')

def stripExtension (path : String) : String :=
  String.ofList (stripExtensionChars path.toList)

end Scaffold.Mock
