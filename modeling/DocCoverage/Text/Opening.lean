import DocCoverage.Text.EmojiTable
import DocCoverage.Text.Ranges

/-!
# How a text opens

What a character takes on a terminal may hang on the characters after it. `Sequence` names what the
first characters of a text are to a character put before them, and `Sequence.extend?` says which
characters join them. The sequences are the emoji with a skin tone, a flag, a keycap, a tagged flag
and emoji joined by zero width joiners, and the ligatures of the Arabic, Hebrew, Khmer, Buginese,
Tifinagh, Lisu, Old Turkic and Kirat Rai scripts.

Some sequences hold back a column, since a further character may take it away (`Sequence.held`).
-/

namespace DocCoverage.Text

/-- The zero width joiner. -/
def joiner : Char := '\u200d'

/-- A skin tone. -/
def isTone (c : Char) : Bool := inRanges [(0x1F3FB, 0x1F3FF)] c

/-- A letter of which two make a flag. -/
def isFlagLetter (c : Char) : Bool := inRanges [(0x1F1E6, 0x1F1FF)] c

/-- A character shown as an emoji by itself. -/
def isEmoji (c : Char) : Bool := inRanges emojiRanges c

/-- A character that the emoji selector shows as an emoji. -/
def isSelectable (c : Char) : Bool := inRanges selectableRanges c

/-- An emoji that the text selector shows as text of one column. Enclosed ideographs stay wide. -/
def isTextual (c : Char) : Bool :=
  isEmoji c && isSelectable c && !inRanges [(0x1F200, 0x1F2FF)] c

/-- A letter of a tag on a flag. -/
def isTagLetter (c : Char) : Bool := inRanges [(0xE0061, 0xE007A)] c

/-- A digit of a tag on a flag. -/
def isTagDigit (c : Char) : Bool := inRanges [(0xE0030, 0xE0039)] c

/-- A letter of the Arabic lam group. -/
def isLam (c : Char) : Bool :=
  inRanges [(0x644, 0x644), (0x6B5, 0x6B8), (0x76A, 0x76A), (0x8A6, 0x8A6), (0x8C7, 0x8C7)] c

/-- A letter of the Arabic alef group. -/
def isAlef (c : Char) : Bool :=
  inRanges [(0x622, 0x623), (0x625, 0x625), (0x627, 0x627), (0x671, 0x673), (0x675, 0x675),
    (0x773, 0x774), (0x870, 0x882)] c

/-- A letter that a Khmer coeng writes below another one. -/
def isSubscriptLetter (c : Char) : Bool :=
  inRanges [(0x1780, 0x1782), (0x1784, 0x1787), (0x1789, 0x178C), (0x178E, 0x1793),
    (0x1795, 0x1798), (0x179B, 0x179D), (0x17A0, 0x17A0), (0x17A2, 0x17A2), (0x17A7, 0x17A7),
    (0x17AB, 0x17AC), (0x17AF, 0x17AF)] c

/-- A Tifinagh consonant. -/
def isTifinagh (c : Char) : Bool := inRanges [(0x2D31, 0x2D65), (0x2D6F, 0x2D6F)] c

/-- A mark that may stand within a ligature. -/
def isLigatureMark (c : Char) : Bool :=
  inRanges [(0x34F, 0x34F), (0x17B4, 0x17B5), (0x180B, 0x180D), (0x180F, 0x180F),
    (0xFE00, 0xFE0F), (0xE0100, 0xE01EF)] c

/-- What the first characters of a text are. A ligature letter is `joined` once a joiner stands
before it. -/
inductive Sequence where
  | plain
  | lineFeed
  /-- A skin tone. -/
  | tone
  /-- A flag letter. -/
  | flagLetter
  /-- Several flag letters. -/
  | flagLetters
  /-- An emoji. -/
  | emoji
  /-- A joiner and an emoji. -/
  | joined
  /-- A keycap mark before `joined`. -/
  | keycap
  /-- One flag letter before `joined`. -/
  | joinedLetter
  /-- An even number of flag letters before `joined`. -/
  | joinedPairs
  /-- An odd number of flag letters, three or more, before `joined`. -/
  | joinedOdd
  /-- So many letters of a tag and its end before `joined`. -/
  | tagLetters (count : Nat)
  /-- So many digits of a tag, any letters of it and its end before `joined`. -/
  | tagDigits (count : Nat)
  /-- An Arabic alef. -/
  | alef
  /-- A Hebrew lamed. -/
  | lamed (joined : Bool)
  /-- A Khmer letter that may be written below another one. -/
  | subscriptLetter
  /-- A Buginese ya. -/
  | ya (joined : Bool)
  /-- A Buginese vowel sign before a joined ya. -/
  | vowelYa
  /-- A Tifinagh consonant. -/
  | tifinagh (joined : Bool)
  /-- A Tifinagh consonant joiner before a consonant. -/
  | tifinaghJoiner
  /-- A Lisu tone letter of the second row. -/
  | lisuTone
  /-- An Old Turkic orkhon i. -/
  | orkhonI (joined : Bool)
  /-- A Kirat Rai vowel sign e. -/
  | kiratE
  /-- A Kirat Rai vowel sign ai. -/
  | kiratAi
  deriving DecidableEq, Repr

namespace Sequence

/-- The columns of a sequence that the next character may yet take away. -/
def held : Sequence → Nat
  | .joinedLetter | .joinedOdd | .subscriptLetter | .tifinaghJoiner => 1
  | _ => 0

/-- The sequences within which marks may stand. -/
def takesMarks : Sequence → Bool
  | .lamed _ | .subscriptLetter | .ya _ | .vowelYa | .tifinagh _ | .tifinaghJoiner | .lisuTone
  | .orkhonI _ => true
  | _ => false

/-- The sequences that go on before a selector. -/
def takesSelectors (sequence : Sequence) : Bool := sequence = .alef || sequence.takesMarks

/-- The sequences that an emoji before them joins. -/
def joinsEmoji : Sequence → Bool
  | .joined | .keycap => true
  | _ => false

/-- The ligature with a joiner before it. -/
def join : Sequence → Sequence
  | .lamed _ => .lamed true
  | .ya _ => .ya true
  | .tifinagh _ => .tifinagh true
  | .orkhonI _ => .orkhonI true
  | sequence => sequence

/-- The columns that a character adds before a sequence of emoji, and the sequence that it makes, if
it joins them. -/
def extendEmoji? (sequence : Sequence) (c : Char) : Option (Nat × Sequence) :=
  match sequence with
  | .tone =>
    if inRanges toneBaseRanges c then some (0, .emoji)
    else if c = joiner then some (0, .joined)
    else none
  | .flagLetter => if isFlagLetter c then some (1, .flagLetters) else none
  | .flagLetters =>
    if isFlagLetter c then some (1, .flagLetters)
    else if c = joiner then some (0, .joined)
    else none
  | .emoji => if c = joiner then some (0, .joined) else none
  | .joined =>
    if c = '\u20e3' then some (0, .keycap)
    else if isFlagLetter c then some (0, .joinedLetter)
    else if isTone c then some (0, .tone)
    else if c.toNat = 0xE007F then some (0, .tagLetters 0)
    else if isEmoji c then some (0, .emoji)
    else none
  | .joinedLetter => if isFlagLetter c then some (0, .joinedPairs) else none
  | .joinedPairs =>
    if isFlagLetter c then some (2, .joinedOdd)
    else if c = joiner then some (0, .joined)
    else none
  | .joinedOdd =>
    if isFlagLetter c then some (0, .joinedPairs)
    else if c = joiner then some (1, .joined)
    else none
  | .tagLetters count =>
    if isTagLetter c && count < 6 then some (0, .tagLetters (count + 1))
    else if isTagDigit c && count < 5 then some (0, .tagDigits 1)
    else if c.toNat = 0x1F3F4 && 3 ≤ count then some (0, .emoji)
    else none
  | .tagDigits count =>
    if isTagDigit c && count < 3 then some (0, .tagDigits (count + 1))
    else if c.toNat = 0x1F3F4 && count = 3 then some (0, .emoji)
    else none
  | _ => none

/-- The columns that a character adds before a ligature, and the sequence that it makes, if it joins
the ligature. -/
def extendLigature? (sequence : Sequence) (c : Char) : Option (Nat × Sequence) :=
  match sequence with
  | .alef => if isLam c then some (0, .plain) else none
  | .lamed true => if c = '\u05d0' then some (0, .plain) else none
  | .subscriptLetter => if c = '\u17d2' then some (0, .plain) else none
  | .ya true => if c = '\u1a17' then some (0, .vowelYa) else none
  | .vowelYa => if c = '\u1a15' then some (0, .plain) else none
  | .tifinagh after =>
    if c = '\u2d7f' then some (0, .tifinaghJoiner)
    else if after && isTifinagh c then some (0, .plain)
    else none
  | .tifinaghJoiner => if isTifinagh c then some (0, .plain) else none
  | .lisuTone => if inRanges [(0xA4F8, 0xA4FB)] c then some (0, .plain) else none
  | .orkhonI true => if c.toNat = 0x10C32 then some (0, .plain) else none
  | .kiratE =>
    if c.toNat = 0x16D63 || c.toNat = 0x16D69 then some (0, .plain)
    else if c.toNat = 0x16D67 then some (0, .kiratAi)
    else if c.toNat = 0x16D68 then some (1, .kiratE)
    else none
  | .kiratAi => if c.toNat = 0x16D63 then some (0, .plain) else none
  | _ => none

/-- The columns that a character adds before a sequence, and the sequence that it makes, if it joins
the sequence. A held column stays held, is given up, or is among those added. -/
def extend? (sequence : Sequence) (c : Char) : Option (Nat × Sequence) :=
  if sequence.takesMarks && c = joiner then some (0, sequence.join)
  else if sequence.takesMarks && isLigatureMark c then some (0, sequence)
  else (sequence.extendEmoji? c).or (sequence.extendLigature? c)

/-- The sequence that a character starts where no sequence goes on. -/
def ofChar (c : Char) : Sequence :=
  if isAlef c then .alef
  else if isSubscriptLetter c then .subscriptLetter
  else if isTifinagh c then .tifinagh false
  else if isFlagLetter c then .flagLetter
  else if isTone c then .tone
  else if isEmoji c then .emoji
  else if c = '\u05dc' then .lamed false
  else if c = '\u1a10' then .ya false
  else if inRanges [(0xA4FC, 0xA4FD)] c then .lisuTone
  else if c.toNat = 0x10C03 then .orkhonI false
  else if c.toNat = 0x16D67 then .kiratE
  else if c.toNat = 0x16D68 then .kiratAi
  else .plain

end Sequence

/-- A selector that stands before a text and changes the character before it. -/
inductive Selector where
  /-- The character is shown as an emoji. -/
  | emoji
  /-- The character is shown as text. -/
  | text
  /-- The character, a quotation mark, is shown wide. -/
  | wide
  deriving DecidableEq, Repr

/-- The selector that a character is. -/
def Selector.ofChar? (c : Char) : Option Selector :=
  if c = '\ufe0f' then some .emoji
  else if c = '\ufe0e' then some .text
  else if c = '\ufe01' then some .wide
  else none

/-- How a text opens: with a selector or without, and then with a sequence. -/
structure Opening where
  sequence : Sequence := .plain
  selector : Option Selector := none
  deriving DecidableEq, Repr

end DocCoverage.Text
