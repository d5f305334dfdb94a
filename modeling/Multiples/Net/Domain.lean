import Multiples.Net.Punycode
import Multiples.Text.Unprintable

/-!
# Names of hosts

A name is a sequence of labels between dots.  It can be written in any letters, and stands for a name in ASCII.  Of what
is done to the letters outside ASCII before they are encoded, this is a part: letters change their case, and full stops
and the wide forms of ASCII their width.  Names are not normalized, no other compatibility form is replaced, a capital
that stands for several letters stays as it is, and the order of letters from right to left is not looked at.

* `Domain.folded` is the character that another one stands for: capitals stand for small letters, wide forms for
  narrow ones, and some characters for nothing;
* `Domain.ascii?` is the name in ASCII, each label with other characters in Punycode and marked as such.
-/

namespace Multiples

namespace Domain

/-! ### Characters -/

/-- Runs of capitals: the first and the last of a run, the distance between two, and how far their small letters are. -/
def capitals : List (Nat × Nat × Nat × Nat) :=
  [(0x41, 0x5a, 1, 32), (0xc0, 0xd6, 1, 32), (0xd8, 0xde, 1, 32), (0x100, 0x12e, 2, 1), (0x134, 0x136, 2, 1),
   (0x139, 0x13d, 2, 1), (0x141, 0x147, 2, 1), (0x14a, 0x176, 2, 1), (0x179, 0x17d, 2, 1), (0x386, 0x386, 1, 38),
   (0x388, 0x38a, 1, 37), (0x38c, 0x38c, 1, 64), (0x38e, 0x38f, 1, 63), (0x391, 0x3a1, 1, 32),
   (0x3a3, 0x3ab, 1, 32), (0x400, 0x40f, 1, 80), (0x410, 0x42f, 1, 32), (0x460, 0x480, 2, 1),
   (0x48a, 0x4be, 2, 1), (0x4c0, 0x4c0, 1, 15), (0x4c1, 0x4cd, 2, 1), (0x4d0, 0x52e, 2, 1),
   (0x531, 0x556, 1, 48), (0x1e00, 0x1e94, 2, 1), (0x1ea0, 0x1efe, 2, 1)]

/-- The small letter of a capital; any other character is its own. -/
def small (c : Char) : Char :=
  match capitals.find? fun run => run.1 ≤ c.toNat ∧ c.toNat ≤ run.2.1 ∧ (c.toNat - run.1) % run.2.2.1 = 0 with
  | some run => Char.ofNat (c.toNat + run.2.2.2)
  | none => c

/-- The characters that stand for nothing: soft hyphens, joiners of words, and selectors of variants. -/
def silent : CharTable :=
  [(0xad, 0xad), (0x34f, 0x34f), (0x180b, 0x180f), (0x200b, 0x200b), (0x2060, 0x2060), (0x2064, 0x2064),
   (0xfe00, 0xfe0f), (0xfeff, 0xfeff), (0xe0100, 0xe01ef)]

/-- The full stops that part labels as a dot does. -/
def stops : List Char := ['\u3002', '\uff61']

/-- The narrow form of a wide character of ASCII; any other character is its own. -/
def narrow (c : Char) : Char :=
  if 0xff01 ≤ c.toNat ∧ c.toNat ≤ 0xff5e then Char.ofNat (c.toNat - 0xfee0) else if c ∈ stops then '.' else c

/-- The character that a character of a name stands for, if any. -/
def folded (c : Char) : Option Char := if silent.has c then none else some (small (narrow c))

/-- The characters of ASCII that no name can have. -/
def isForbidden (c : Char) : Bool :=
  decide (c.toNat < 0x20) || c = '\x7f' || c ∈ " #%/:<>?@[\\]^|".toList

/-- Whether a character can stand in a name. -/
def isAllowed (c : Char) : Bool := if Punycode.isPlain c then !isForbidden c else !Text.unprintable.has c

/-! ### Names -/

/-- The mark of a label in Punycode. -/
def mark : Text := "xn--".toList

/-- A label in ASCII. -/
def label (s : Text) : Text := if s.all Punycode.isPlain then s else mark ++ Punycode.encode s

/-- Whether a label is valid.  One with the mark has to be the ASCII form of a label. -/
def isLabel (s : Text) : Bool :=
  match Text.after? mark s with
  | some rest => (Punycode.decode? rest).any fun t => t.all isAllowed && t.filterMap folded == t && label t == s
  | none => s.all isAllowed

/-- The name in ASCII that a name stands for. -/
def ascii? (s : Text) : Option Text :=
  let labels := Text.cells '.' (s.filterMap folded)
  if labels.all isLabel then some (Text.glue ['.'] (labels.map label)) else none

end Domain

end Multiples
