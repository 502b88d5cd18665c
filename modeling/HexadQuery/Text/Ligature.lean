/-
# Characters that are drawn together

The columns a character takes can depend on what follows it: the letters of some scripts are
drawn as one sign, a flag is two letters, and joined emoji share the place of one.  `Ahead` is
what has to be known of the following characters for that, and `Ahead.join?` says which
character is drawn together with them and how many columns it adds, or takes back.

Variation selectors are not treated here.
-/
import HexadQuery.Text.Cluster
import HexadQuery.Text.EmojiTable
import HexadQuery.Text.InvisibleTable
import HexadQuery.Text.WideTable

namespace HexadQuery.Text

/-! ## 1. A character alone -/

/-- The columns a character beyond ASCII takes by itself. -/
def columnsOf (c : Char) : Nat :=
  if c.toNat == 0x17D8 then 3
  else if c.toNat == 0x17A4 then 2
  else if c.toNat == 0x2D7F then 1
  else if Span.covers markSpans c || Span.covers invisibleSpans c then 0
  else if Span.covers wideSpans c then 2
  else 1

/-! ## 2. Letters that join -/

/-- The forms of the Arabic letter alef. -/
def alefSpans : List Span :=
  [⟨0x622, 0x623⟩, ⟨0x625, 0x625⟩, ⟨0x627, 0x627⟩, ⟨0x671, 0x673⟩, ⟨0x675, 0x675⟩,
    ⟨0x773, 0x774⟩, ⟨0x870, 0x882⟩]

/-- The forms of the Arabic letter lam. -/
def lamSpans : List Span :=
  [⟨0x644, 0x644⟩, ⟨0x6B5, 0x6B8⟩, ⟨0x76A, 0x76A⟩, ⟨0x8A6, 0x8A6⟩, ⟨0x8C7, 0x8C7⟩]

/-- Khmer letters that are drawn below the letter before them when a coeng sign is ahead. -/
def subscriptSpans : List Span :=
  [⟨0x1780, 0x1782⟩, ⟨0x1784, 0x1787⟩, ⟨0x1789, 0x178C⟩, ⟨0x178E, 0x1793⟩, ⟨0x1795, 0x1798⟩,
    ⟨0x179B, 0x179D⟩, ⟨0x17A0, 0x17A0⟩, ⟨0x17A2, 0x17A2⟩, ⟨0x17A7, 0x17A7⟩, ⟨0x17AB, 0x17AC⟩,
    ⟨0x17AF, 0x17AF⟩]

/-- The consonants of Tifinagh. -/
def tifinaghSpans : List Span := [⟨0x2D31, 0x2D65⟩, ⟨0x2D6F, 0x2D6F⟩]

/-- Whether a character without a column stands between lam and alef without parting them. -/
def isBetweenLetters (c : Char) : Bool := columnsOf c == 0 && !Span.covers partingSpans c

/-- Marks that nothing is drawn for; they part no letters that join. -/
def ignoredMarkSpans : List Span :=
  [⟨0x34F, 0x34F⟩, ⟨0x17B4, 0x17B5⟩, ⟨0x180B, 0x180D⟩, ⟨0x180F, 0x180F⟩, ⟨0xFE00, 0xFE0F⟩,
    ⟨0xE0100, 0xE01EF⟩]

/-! ## 3. What is ahead -/

/-- What stands right after a character.  `joined` tells that a zero-width joiner is between. -/
inductive Ahead where
  /-- Nothing that matters. -/
  | plain
  /-- An alef, which a lam is drawn into. -/
  | alef
  /-- A Hebrew lamed, which a joined alef is drawn into. -/
  | lamed (joined : Bool)
  /-- A Buginese ya, which a joined a with the vowel i is drawn into. -/
  | ya (joined : Bool)
  /-- A Buginese vowel i joined to a ya. -/
  | vowelYa
  /-- A consonant of Tifinagh. -/
  | tifinagh (joined : Bool)
  /-- The consonant joiner of Tifinagh and a consonant. -/
  | tifinaghJoiner
  /-- An Old Turkic i. -/
  | orkhonI (joined : Bool)
  /-- A Khmer letter that can be a subscript. -/
  | subscript
  /-- The second half of a Lisu tone. -/
  | tone
  /-- A Kirat Rai vowel e. -/
  | vowelE
  /-- A Kirat Rai vowel ai, or the two e that spell it. -/
  | vowelAi
  /-- A skin tone. -/
  | skinTone
  /-- One letter of a flag. -/
  | flagLetter
  /-- Two or more letters of flags. -/
  | flagLetters
  /-- An emoji. -/
  | emoji
  /-- A joiner and an emoji. -/
  | joinedEmoji
  /-- A keycap, a joiner and an emoji. -/
  | joinedKeycap
  /-- One letter of a flag, a joiner and an emoji. -/
  | joinedFlagLetter
  /-- An even number of letters of flags, a joiner and an emoji. -/
  | joinedFlags
  /-- An odd number of letters of flags above one, a joiner and an emoji. -/
  | joinedOddFlags
  /-- So many tag letters, the end of a tag, a joiner and an emoji. -/
  | tagLetters (count : Nat)
  /-- So many tag digits, a tag, a joiner and an emoji. -/
  | tagDigits (count : Nat)
  deriving DecidableEq

namespace Ahead

/-- What a character by itself is to the one before it. -/
def ofChar (c : Char) : Ahead :=
  if c.toNat == 0x5DC then lamed false
  else if Span.covers alefSpans c then alef
  else if Span.covers subscriptSpans c then subscript
  else if c.toNat == 0x1A10 then ya false
  else if Span.covers tifinaghSpans c then tifinagh false
  else if c.toNat == 0xA4FC || c.toNat == 0xA4FD then tone
  else if c.toNat == 0x10C03 then orkhonI false
  else if c.toNat == 0x16D67 then vowelE
  else if c.toNat == 0x16D68 then vowelAi
  else if isFlagLetter c then flagLetter
  else if isSkinTone c then skinTone
  else if Span.covers emojiSpans c then emoji
  else plain

/-- Whether letters are ahead that may join.  Variation selectors do not part these. -/
def isLetter : Ahead → Bool
  | alef | lamed _ | ya _ | vowelYa | tifinagh _ | tifinaghJoiner | orkhonI _ => true
  | subscript | tone | vowelE | vowelAi => true
  | _ => false

/-- Whether an emoji is ahead with nothing before its joiner but a keycap. -/
def isJoinedEmoji : Ahead → Bool
  | joinedEmoji | joinedKeycap => true
  | _ => false

/-- Whether joiners and ignored marks are looked through here: before all letters but alef. -/
def looksThrough (ahead : Ahead) : Bool := ahead.isLetter && ahead != alef

/-- The same letters with a joiner ahead of them. -/
def joined : Ahead → Ahead
  | lamed _ => lamed true
  | ya _ => ya true
  | tifinagh _ => tifinagh true
  | orkhonI _ => orkhonI true
  | ahead => ahead

/-! ## 4. What joins it -/

/-- A letter that is drawn together with the letters ahead of it: the columns it adds, and what
the two are to the character before. -/
def joinLetter? (ahead : Ahead) (c : Char) : Option (Int × Ahead) :=
  match ahead with
  | alef =>
    if Span.covers lamSpans c then some (0, plain)
    else if isBetweenLetters c then some (0, alef)
    else none
  | lamed true => if c.toNat == 0x5D0 then some (0, plain) else none
  | ya true => if c.toNat == 0x1A17 then some (0, vowelYa) else none
  | vowelYa => if c.toNat == 0x1A15 then some (0, plain) else none
  | tifinagh joined =>
    if c.toNat == 0x2D7F then some (1, tifinaghJoiner)
    else if joined && Span.covers tifinaghSpans c then some (0, plain)
    else none
  | tifinaghJoiner => if Span.covers tifinaghSpans c then some (-1, plain) else none
  | orkhonI true => if c.toNat == 0x10C32 then some (0, plain) else none
  | subscript => if c.toNat == 0x17D2 then some (-1, plain) else none
  | tone => if 0xA4F8 ≤ c.toNat && c.toNat ≤ 0xA4FB then some (0, plain) else none
  | vowelE =>
    if c.toNat == 0x16D63 || c.toNat == 0x16D69 then some (0, plain)
    else if c.toNat == 0x16D67 then some (0, vowelAi)
    else if c.toNat == 0x16D68 then some (1, vowelE)
    else none
  | vowelAi => if c.toNat == 0x16D63 then some (0, plain) else none
  | _ => none

/-- The black flag, which tags turn into the flag of a region. -/
def isBlackFlag (c : Char) : Bool := c.toNat == 0x1F3F4

def isTagLetter (c : Char) : Bool := 0xE0061 ≤ c.toNat && c.toNat ≤ 0xE007A

def isTagDigit (c : Char) : Bool := 0xE0030 ≤ c.toNat && c.toNat ≤ 0xE0039

/-- A character that is drawn together with the emoji ahead of it. -/
def joinEmoji? (ahead : Ahead) (c : Char) : Option (Int × Ahead) :=
  match ahead with
  | skinTone =>
    if Span.covers tonedSpans c then some (0, emoji)
    else if isJoiner c then some (0, joinedEmoji)
    else none
  | flagLetter => if isFlagLetter c then some (1, flagLetters) else none
  | flagLetters =>
    if isFlagLetter c then some (1, flagLetters)
    else if isJoiner c then some (0, joinedEmoji)
    else none
  | emoji => if isJoiner c then some (0, joinedEmoji) else none
  | joinedEmoji =>
    if c.toNat == 0x20E3 then some (0, joinedKeycap)
    else if isFlagLetter c then some (1, joinedFlagLetter)
    else if isSkinTone c then some (0, skinTone)
    else if c.toNat == 0xE007F then some (0, tagLetters 0)
    else if Span.covers emojiSpans c then some (0, emoji)
    else none
  | joinedFlagLetter => if isFlagLetter c then some (-1, joinedFlags) else none
  | joinedFlags =>
    if isFlagLetter c then some (3, joinedOddFlags)
    else if isJoiner c then some (0, joinedEmoji)
    else none
  | joinedOddFlags =>
    if isFlagLetter c then some (-1, joinedFlags)
    else if isJoiner c then some (0, joinedEmoji)
    else none
  | tagLetters count =>
    if isTagLetter c && count < 6 then some (0, tagLetters (count + 1))
    else if isTagDigit c && count ≤ 4 then some (0, tagDigits 1)
    else if isBlackFlag c && 3 ≤ count then some (0, emoji)
    else none
  | tagDigits count =>
    if isTagDigit c && count < 3 then some (0, tagDigits (count + 1))
    else if isBlackFlag c && count == 3 then some (0, emoji)
    else none
  | _ => none

/-- A character that is drawn together with what is ahead of it. -/
def join? (ahead : Ahead) (c : Char) : Option (Int × Ahead) :=
  (ahead.joinLetter? c).or (ahead.joinEmoji? c)

end Ahead

end HexadQuery.Text
