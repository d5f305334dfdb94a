import Multiples.Net.Percent
import Multiples.Net.Scheme

/-!
# Paths of addresses

A path is a sequence of segments between slashes.  Where it is read, dot segments are resolved, and characters that
cannot stand in a path are percent-encoded.

* `Url.resolvePath` is the path that a text after the first slash stands for;
* `Url.filePath` is the path of a file, which may begin with a drive.
-/

namespace Multiples

namespace Url

/-! ### Characters -/

/-- The characters that are encoded in a fragment. -/
def encodedInFragment (c : Char) : Bool := Percent.isUnwritable c || c ∈ [' ', '"', '<', '>', '\x60']

/-- The characters that are encoded in a path. -/
def encodedInPath (c : Char) : Bool := encodedInFragment c || c ∈ ['#', '?', '\x7b', '\x7d']

/-- The characters that are encoded in a user name or a password. -/
def encodedInUser (c : Char) : Bool := encodedInPath c || c ∈ "/:;=@[\\]^|".toList

/-- The characters that are encoded in the query of a scheme. -/
def encodedInQuery (scheme : Scheme) (c : Char) : Bool :=
  Percent.isUnwritable c || c ∈ [' ', '"', '#', '<', '>'] || (scheme.isKnown && c = '\'')

/-! ### Paths -/

/-- A segment whose encoded dots are written as dots. -/
def plainDots : Text → Text
  | '%' :: '2' :: 'e' :: s => '.' :: plainDots s
  | '%' :: '2' :: 'E' :: s => '.' :: plainDots s
  | c :: s => c :: plainDots s
  | [] => []

/-- Whether a segment names a drive: a letter and a colon, for which a bar may stand. -/
def isDrive : Text → Bool
  | [letter, mark] => letter.isAlpha && (mark = ':' || mark = '|')
  | _ => false

/-- The segments without the last one; a drive stays. -/
def back : List Text → List Text
  | [] => []
  | segment :: done => if isDrive segment then segment :: done else done

/-- Walks along the segments of a path, with the segments so far in reverse: one dot stays where it is, two dots go
back, and either of them at the end leads into a segment without a name. -/
def walk : List Text → List Text → List Text
  | done, [] => done
  | done, segment :: more =>
    if plainDots segment = ['.', '.'] then
      walk (if more = [] then [] :: back done else back done) more
    else if plainDots segment = ['.'] then
      walk (if more = [] then [] :: done else done) more
    else walk (Percent.encode encodedInPath segment :: done) more

/-- The path that a text after the first slash stands for. -/
def resolvePath (scheme : Scheme) (s : Text) : Text :=
  '/' :: Text.glue ['/'] (walk [] (Text.cells '/' (s.map fun c => if scheme.isSlash c then '/' else c))).reverse

/-- A path whose first segment, if it names a drive, does so with a colon. -/
def withColon : Text → Text
  | letter :: '|' :: s => if letter.isAlpha ∧ (s = [] ∨ s.head? = some '/') then letter :: ':' :: s else letter :: '|' :: s
  | s => s

/-- The path of a file that a text stands for: slashes at its beginning count once. -/
def filePath (s : Text) : Text :=
  '/' :: withColon ((resolvePath .file (s.dropWhile (Scheme.isSlash .file))).dropWhile (· = '/'))

end Url

end Multiples
