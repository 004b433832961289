import EvidenceRank.Text.CompositionTables

/-!
# Composition

A letter with its marks may be written as one character or as several. `composed` brings a text into
the form of canonical composition: every character is taken apart, the marks behind a letter are
put in order, and what has a character of its own is joined.
-/

namespace EvidenceRank.Text

/-! ## Hangul -/

/-- The first of the syllables, which all consist of a lead, a vowel and possibly a tail. -/
def firstSyllable : Nat := 0xAC00

def firstLead : Nat := 0x1100

def firstVowel : Nat := 0x1161

/-- The character in front of the first tail. -/
def noTail : Nat := 0x11A7

/-- The parts of a syllable. -/
def syllableParts? (n : Nat) : Option (List Nat) :=
  let i := n - firstSyllable
  if n < firstSyllable || 11172 ≤ i then none
  else
    let tail := if i % 28 = 0 then [] else [noTail + i % 28]
    some ((firstLead + i / 588) :: (firstVowel + i % 588 / 28) :: tail)

/-- The syllable of a lead and a vowel, or of a syllable without tail and a tail. -/
def syllable? (a b : Nat) : Option Nat :=
  if firstLead ≤ a && a < firstLead + 19 && firstVowel ≤ b && b < firstVowel + 21 then
    some (firstSyllable + (21 * (a - firstLead) + (b - firstVowel)) * 28)
  else if firstSyllable ≤ a && a < firstSyllable + 11172 && (a - firstSyllable) % 28 = 0
      && noTail < b && b < noTail + 28 then
    some (a + (b - noTail))
  else none

/-! ## Taking apart -/

/-- Put what stands for a character in its place. -/
def spread (c : Nat) (cs : List Nat) (text : List Nat) : List Nat :=
  text.flatMap fun d => if d = c then cs else [d]

/-- A text whose characters are all taken apart. -/
def separated (text : List Nat) : List Nat :=
  let text := separations.foldl (fun text (c, cs) => spread c cs text) text
  let text := composites.foldl (fun text (c, a, b) => spread c [a, b] text) text
  text.flatMap fun c => (syllableParts? c).getD [c]

/-! ## Marks -/

/-- The class of a character; those of class zero stay where they are. -/
def combiningClass (n : Nat) : Nat :=
  match combiningClasses.find? fun (_, first, last) => first ≤ n && n ≤ last with
  | some (k, _) => k
  | none => 0

/-- The character combines with the one in front of it. -/
def combines (n : Nat) : Bool := combiningClass n != 0

/-- Put the marks of each run of marks in the order of their classes. -/
def marksOrdered (text : List Nat) : List Nat :=
  (text.splitBy fun a b => combines a && combines b).flatMap
    (·.mergeSort fun a b => combiningClass a ≤ combiningClass b)

/-! ## Joining -/

/-- The character that two characters stand for. -/
def composite? (a b : Nat) : Option Nat :=
  match composites.find? fun (_, x, y) => x = a && y = b with
  | some (c, _) => some c
  | none => syllable? a b

/-- Join what follows the character `base` with it; `held` are the marks behind it that did not
join, last first. A mark joins only past marks of lower classes. -/
def joinedFrom (base : Nat) (held : List Nat) : List Nat → List Nat
  | [] => base :: held.reverse
  | c :: cs =>
    let blocked := held.head?.any fun m => combiningClass c ≤ combiningClass m
    match if blocked then none else composite? base c with
    | some joined => joinedFrom joined held cs
    | none =>
      if combines c then joinedFrom base (c :: held) cs
      else base :: held.reverse ++ joinedFrom c [] cs

/-- Join the characters of a text that is taken apart and has its marks in order. -/
def joined (text : List Nat) : List Nat :=
  text.takeWhile combines ++ match text.dropWhile combines with
    | [] => []
    | base :: rest => joinedFrom base [] rest

/-- The text in the form of canonical composition. -/
def composed (cs : List Char) : List Char :=
  (joined (marksOrdered (separated (cs.map Char.toNat)))).map Char.ofNat

end EvidenceRank.Text
