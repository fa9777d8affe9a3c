import FanServer.Uri.Domain.CombiningClass
import FanServer.Uri.Domain.Composition

/-!
# Normal form

A character with marks can be written in several ways: the marks in another order, and some of them
together with the character as one composed character. The normal form is reached in three steps:
every composed character is taken apart, the marks are put into the order of their combining
classes, and what can be composed is composed again.
-/

namespace FanServer.Uri.Domain

/-! ### Hangul

A syllable of the Hangul script is composed of two or three letters. The syllables have consecutive
code points, in the order of their letters. -/

/-- The code point of the first syllable. -/
def firstSyllable : Nat := 0xAC00

/-- The number of syllables. -/
def syllableCount : Nat := 11172

/-- The number of vowels. -/
def vowelCount : Nat := 21

/-- The number of final consonants; no consonant counts too. -/
def finalCount : Nat := 28

/-- The code point of the first consonant that a syllable begins with. -/
def firstInitial : Nat := 0x1100

/-- The number of consonants that a syllable begins with. -/
def initialCount : Nat := 19

/-- The code point of the first vowel. -/
def firstVowel : Nat := 0x1161

/-- The code point before the first final consonant. -/
def beforeFinals : Nat := 0x11A7

/-- The letters of a syllable. -/
def letters? (n : Nat) : Option (List Nat) :=
  if firstSyllable ≤ n && n < firstSyllable + syllableCount then
    let i := n - firstSyllable
    let final := i % finalCount
    some ([firstInitial + i / finalCount / vowelCount, firstVowel + i / finalCount % vowelCount] ++
      if final = 0 then [] else [beforeFinals + final])
  else none

/-- The syllable of two letters, or of a syllable and a final consonant. -/
def syllable? (first second : Nat) : Option Nat :=
  if firstInitial ≤ first && first < firstInitial + initialCount &&
      firstVowel ≤ second && second < firstVowel + vowelCount then
    let pair := (first - firstInitial) * vowelCount + (second - firstVowel)
    some (firstSyllable + pair * finalCount)
  else if firstSyllable ≤ first && first < firstSyllable + syllableCount &&
      (first - firstSyllable) % finalCount == 0 &&
      beforeFinals < second && second < beforeFinals + finalCount then
    some (first + (second - beforeFinals))
  else none

/-! ### Taking apart -/

/-- What a code point is composed of, taken apart up to a depth. -/
def parts (depth n : Nat) : List Nat :=
  match depth with
  | 0 => [n]
  | depth + 1 =>
    match letters? n with
    | some letters => letters
    | none =>
      match compositions.find? fun row => row.1 == n with
      | some (_, first, second) => parts depth first ++ [second]
      | none => [n]

/-- What a character is composed of. No composed character is more than three deep. -/
def decomposed (c : Char) : List Char :=
  (parts 4 c.toNat).map Char.ofNat

/-! ### Putting in order -/

/-- Put a mark before those of its class or a higher one, but not past a character that is none. -/
def insertMark (c : Char) : List Char → List Char
  | [] => [c]
  | d :: ds =>
    if combiningClass d ≠ 0 ∧ combiningClass d < combiningClass c then d :: insertMark c ds
    else c :: d :: ds

/-- The marks in the order of their classes; those of one class stay in order. -/
def ordered (cs : List Char) : List Char :=
  cs.foldr insertMark []

/-! ### Composing -/

/-- What two characters compose to. -/
def composed? (first second : Char) : Option Char :=
  let n := (syllable? first.toNat second.toNat).or <|
    (compositions.find? fun row => row.2 == (first.toNat, second.toNat)).map Prod.fst
  n.map Char.ofNat

/-- A character that marks are composed with. -/
structure Cluster where
  /-- the character, with what has been composed -/
  head : Char
  /-- what follows it and has not been composed, the last one first -/
  marks : List Char

/-- What a character composes to with the one of a cluster. A mark that was left stands in the way
of what has its class or a lower one. -/
def Cluster.add? (cluster : Cluster) (c : Char) : Option Char :=
  match cluster.marks with
  | [] => composed? cluster.head c
  | mark :: _ =>
    if combiningClass mark < combiningClass c then composed? cluster.head c else none

/-- Compose what follows a cluster with it. A character that is no mark begins a new one. -/
def composeFrom (cluster : Cluster) : List Char → List Char
  | [] => cluster.head :: cluster.marks.reverse
  | c :: cs =>
    match cluster.add? c with
    | some head => composeFrom { cluster with head } cs
    | none =>
      if combiningClass c = 0 then cluster.head :: cluster.marks.reverse ++ composeFrom ⟨c, []⟩ cs
      else composeFrom { cluster with marks := c :: cluster.marks } cs

/-- Compose what can be composed. Marks before the first character that is none stay as they are. -/
def composed : List Char → List Char
  | [] => []
  | c :: cs => if combiningClass c = 0 then composeFrom ⟨c, []⟩ cs else c :: composed cs

/-- The normal form of a text. -/
def normalForm (cs : List Char) : List Char :=
  composed (ordered (cs.flatMap decomposed))

end FanServer.Uri.Domain
