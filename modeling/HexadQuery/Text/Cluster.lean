/-
# Grapheme clusters

What a reader takes for one character may be written with several: a base with its marks, a
Hangul syllable, a flag, a conjunct of consonants, pictographs held together by zero-width
joiners.  `clusters` cuts a text into such units from left to right.

Whether a cluster goes on with a character is settled by the class of that character and by the
characters before it: the nearest one alone, or, for conjuncts, joined pictographs and flags, as
far back as the rule looks.  Nothing here measures or draws a cluster.
-/
import HexadQuery.Text.ClusterTable
import HexadQuery.Text.MarkTable

namespace HexadQuery.Text

/-! ## 1. Classes -/

/-- What a character does to the cluster before it.  A syllable of Hangul is open if it can take
a final letter as well as a vowel. -/
inductive ClusterClass where
  | carriageReturn
  | lineFeed
  | control
  | mark
  | joiner
  | spacing
  | prepended
  | flagLetter
  | leading
  | vowel
  | trailing
  | openSyllable
  | closedSyllable
  | consonant
  | pictograph
  | plain
  deriving DecidableEq

/-- The zero-width joiner. -/
def isJoiner (c : Char) : Bool := c.toNat == 0x200D

/-- The letters that are drawn in pairs as flags. -/
def isFlagLetter (c : Char) : Bool := 0x1F1E6 ≤ c.toNat && c.toNat ≤ 0x1F1FF

/-- The five skin tones, which are drawn on the emoji before them. -/
def isSkinTone (c : Char) : Bool := 0x1F3FB ≤ c.toNat && c.toNat ≤ 0x1F3FF

/-- The initial letters of Hangul syllables. -/
def leadingSpans : List Span := [⟨0x1100, 0x115F⟩, ⟨0xA960, 0xA97C⟩]

/-- The vowels of Hangul syllables, and the vowels of Kirat Rai, which join as those do. -/
def vowelSpans : List Span :=
  [⟨0x1160, 0x11A7⟩, ⟨0xD7B0, 0xD7C6⟩, ⟨0x16D63, 0x16D63⟩, ⟨0x16D67, 0x16D6A⟩]

/-- The final letters of Hangul syllables. -/
def trailingSpans : List Span := [⟨0x11A8, 0x11FF⟩, ⟨0xD7CB, 0xD7FB⟩]

/-- Whole Hangul syllables: every 28th has no final letter. -/
def syllableClass? (c : Char) : Option ClusterClass :=
  if 0xAC00 ≤ c.toNat && c.toNat ≤ 0xD7A3 then
    some (if (c.toNat - 0xAC00) % 28 == 0 then .openSyllable else .closedSyllable)
  else none

/-- The class of a character. -/
def clusterClass (c : Char) : ClusterClass :=
  if c == '\r' then .carriageReturn
  else if c == '\n' then .lineFeed
  else if isJoiner c then .joiner
  else if isFlagLetter c then .flagLetter
  else if Span.covers controlSpans c then .control
  else if Span.covers markSpans c || isSkinTone c then .mark
  else if Span.covers spacingSpans c then .spacing
  else if Span.covers prependedSpans c then .prepended
  else if Span.covers leadingSpans c then .leading
  else if Span.covers vowelSpans c then .vowel
  else if Span.covers trailingSpans c then .trailing
  else if Span.covers consonantSpans c then .consonant
  else if Span.covers pictographSpans c then .pictograph
  else (syllableClass? c).getD .plain

namespace ClusterClass

/-- Whether a cluster ends before and after a character of this class. -/
def standsAlone (k : ClusterClass) : Bool := k == control || k == carriageReturn || k == lineFeed

/-- Whether a character of this class goes on with any cluster it can. -/
def trails (k : ClusterClass) : Bool := k == mark || k == joiner || k == spacing

/-- Whether two characters stand in one Hangul syllable. -/
def inSyllable : ClusterClass → ClusterClass → Bool
  | leading, k => k == leading || k == vowel || k == openSyllable || k == closedSyllable
  | openSyllable, k => k == vowel || k == trailing
  | vowel, k => k == vowel || k == trailing
  | closedSyllable, k => k == trailing
  | trailing, k => k == trailing
  | _, _ => false

end ClusterClass

/-! ## 2. Where a cluster goes on

In the functions below `before` holds the characters ahead of a place, nearest first. -/

/-- Whether a character may stand between the consonants of a conjunct.  The zero-width
non-joiner is a mark and keeps them apart. -/
def fillsConjunct (c : Char) : Bool :=
  c.toNat != 0x200C && (clusterClass c == .mark || clusterClass c == .joiner)

/-- Whether a consonant here would end a conjunct: a consonant stands before, and nothing but
signs that fill a conjunct, one of them a linker, in between. -/
def awaitsConsonant (before : List Char) : Bool :=
  (before.takeWhile fillsConjunct).any (Span.covers linkerSpans) &&
    ((before.dropWhile fillsConjunct).head?.any fun c => clusterClass c == .consonant)

/-- Whether a pictograph here would be joined to one before: a joiner stands before, and a
pictograph with its marks before that. -/
def awaitsPictograph : List Char → Bool
  | [] => false
  | c :: before =>
    isJoiner c &&
      ((before.dropWhile fun c => clusterClass c == .mark).head?.any fun c =>
        clusterClass c == .pictograph)

/-- Whether a letter of a flag stands before that has no partner. -/
def awaitsFlagLetter (before : List Char) : Bool :=
  (before.takeWhile isFlagLetter).length % 2 == 1

/-- Whether the cluster of the nearest character goes on with `c`. -/
def continues (before : List Char) (c : Char) : Bool :=
  match before with
  | [] => false
  | last :: _ =>
    let p := clusterClass last
    let k := clusterClass c
    if p.standsAlone || k.standsAlone then p == .carriageReturn && k == .lineFeed
    else
      k.trails || p == .prepended || p.inSyllable k ||
        (k == .consonant && awaitsConsonant before) ||
        (k == .pictograph && awaitsPictograph before) ||
        (k == .flagLetter && awaitsFlagLetter before)

/-! ## 3. Clusters -/

/-- The rest of the cluster that ends in `before`, and the clusters after it. -/
def clustersAfter (before : List Char) : List Char → List Char × List (List Char)
  | [] => ([], [])
  | c :: cs =>
    let (same, later) := clustersAfter (c :: before) cs
    if continues before c then (c :: same, later) else ([], (c :: same) :: later)

/-- The clusters of a text. -/
def clusters (cs : List Char) : List (List Char) := (clustersAfter [] cs).2

/-- Cutting into clusters loses nothing. -/
theorem flatten_clustersAfter : ∀ (cs before : List Char),
    (clustersAfter before cs).1 ++ (clustersAfter before cs).2.flatten = cs
  | [], _ => rfl
  | c :: cs, before => by
    have ih := flatten_clustersAfter cs (c :: before)
    rw [clustersAfter]
    by_cases h : continues before c = true
    · simpa [h] using ih
    · simpa [h] using ih

end HexadQuery.Text
