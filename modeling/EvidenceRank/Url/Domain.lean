import EvidenceRank.Text.Composition
import EvidenceRank.Text.LowerCase
import EvidenceRank.Url.DomainTables
import EvidenceRank.Url.Punycode

/-!
# Domains

The name of a host is read without regard to case and width, and written in ASCII: a label with
other characters stands in its code behind `xn--`. A label that is written in code must be one
that could have been written without.

* `domain?`: a name in ASCII.
-/

namespace EvidenceRank.Url

open Text (inRanges)

/-- The parts of a text between separators. -/
def parts (separator : Char) : List Char → List (List Char)
  | [] => [[]]
  | c :: cs =>
    if c == separator then [] :: parts separator cs
    else match parts separator cs with
      | [] => [[c]]
      | p :: ps => (c :: p) :: ps

/-! ## Characters -/

/-- The run replaces the character. -/
def ReplacedRun.contains (r : ReplacedRun) (n : Nat) : Bool :=
  r.first ≤ n && n ≤ r.last && (n - r.first) % r.step == 0

/-- What stands for a character in a domain. -/
def replacement (c : Char) : List Char :=
  match replacedRuns.find? (·.contains c.toNat), replacements.lookup c.toNat with
  | some r, _ => [Char.ofNat (r.target + (c.toNat - r.first))]
  | none, some cs => cs.map Char.ofNat
  | none, none => if inRanges erased c then [] else [c]

/-- The text with every character in the form that stands in domains. -/
def replaced (cs : List Char) : List Char := Text.composed (cs.flatMap replacement)

/-- The character cannot stand in a domain, though it is in ASCII. -/
def isForbidden (c : Char) : Bool :=
  c.toNat ≤ 0x20 || c == '\x7f'
    || ['#', '/', ':', '<', '>', '?', '@', '[', '\\', ']', '^', '|', '%'].contains c

/-- The character is in ASCII. -/
def isPlain (c : Char) : Bool := c.toNat < 128

/-! ## Joiners -/

/-- A mark that takes the vowel from its letter. -/
def isVirama (c : Char) : Bool := Text.combiningClass c.toNat == 9

/-- The first character that is no mark lies in one of the ranges. -/
def meets (ranges : List (Nat × Nat)) (cs : List Char) : Bool :=
  (cs.dropWhile (inRanges marks)).head?.any (inRanges ranges)

/-- Every joiner in `cs` does something: it stands behind a virama, or it keeps two letters apart
that would connect. What precedes is `before`, last first. -/
def joinersFit (before : List Char) : List Char → Bool
  | [] => true
  | c :: cs =>
    let fits :=
      if c == '\u200c' || c == '\u200d' then
        before.head?.any isVirama
          || (c == '\u200c' && meets joinedBehind before && meets joinedBefore cs)
      else true
    fits && joinersFit (c :: before) cs

/-! ## Directions -/

/-- The direction of a character. -/
def direction (c : Char) : Direction :=
  match directions.find? fun (_, first, last) => first ≤ c.toNat && c.toNat ≤ last with
  | some (d, _) => d
  | none => .left

/-- The label keeps its characters together where texts run from right to left. -/
def isDirected (label : List Char) : Bool :=
  let ds := label.map direction
  let last := ((ds.reverse.dropWhile (· == .mark)).head?).getD .left
  match ds with
  | [] => true
  | .right :: _ =>
    !ds.contains .left && !(ds.contains .digit && ds.contains .arabicDigit)
      && [.right, .digit, .arabicDigit].contains last
  | .left :: _ =>
    !ds.contains .right && !ds.contains .arabicDigit && [.left, .digit].contains last
  | _ => false

/-- A character of the label runs from right to left. -/
def turns (label : List Char) : Bool :=
  label.any fun c => [.right, .arabicDigit].contains (direction c)

/-! ## Labels -/

/-- A label may consist of the characters. -/
def isLabel (cs : List Char) : Bool :=
  !cs.head?.any (inRanges marks) && !cs.any (inRanges refused) && joinersFit [] cs

/-- What stands in front of a label's code. -/
def codeMark : List Char := ['x', 'n', '-', '-']

/-- The characters of a label, whose own ones have been replaced. -/
def label? (cs : List Char) : Option (List Char) :=
  if codeMark.isPrefixOf cs then
    (Punycode.decode? (cs.drop codeMark.length)).filter fun label =>
      !label.all isPlain && replaced label == label && !label.any isForbidden && isLabel label
  else if isLabel cs then some cs
  else none

/-- A label in ASCII. -/
def labelCode (label : List Char) : List Char :=
  if label.all isPlain then label else codeMark ++ Punycode.encode label

/-- A name in ASCII, label by label. -/
def labelsCode? (cs : List Char) : Option (List Char) := do
  let labels ← (parts '.' (replaced cs)).mapM label?
  if labels.any turns && !labels.all isDirected then none
  return ['.'].intercalate (labels.map labelCode)

/-- A name in ASCII. One that is in ASCII, and has no label in code, only takes small letters. -/
def domain? (cs : List Char) : Option (List Char) :=
  let small := cs.map Char.toLower
  let domain? :=
    if cs.all isPlain && !(parts '.' small).any codeMark.isPrefixOf then some small
    else labelsCode? cs
  domain?.filter fun domain => !domain.any isForbidden

end EvidenceRank.Url
