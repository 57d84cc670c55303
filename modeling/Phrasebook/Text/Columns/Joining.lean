import Phrasebook.Text.Columns.Emoji
import Phrasebook.Text.Columns.Width

/-!
# Characters that are drawn together

Some neighbours are drawn as one picture or letter and take up fewer columns than each of
them on its own: emoji that are joined, flags, and the ligatures of several scripts. Which
columns a character takes up therefore depends on what stands behind it. A context keeps of
that just as much as can still join: the beginning of a ligature or an emoji, and the selectors
that wait for the character they apply to. In front of a ligature several selectors can wait
together.

A character that completes a ligature can take columns back, so that columns are integers
here.
-/

namespace Phrasebook.Text

/-- Letters that only a joiner joins with the letter before them. -/
inductive JoinedLetter where
  | hebrewLamed
  | bugineseYa
  | tifinagh
  | orkhonI
deriving DecidableEq

/-- What a text begins with, as far as a character in front of it can join with it. -/
inductive Joint where
  /-- Nothing that joins. -/
  | plain
  | lineFeed
  /-- An emoji, or characters that are drawn as one. -/
  | emoji
  /-- A modifier of an emoji. -/
  | modifier
  /-- One half of a flag. -/
  | indicator
  /-- Several halves of flags. -/
  | indicators
  /-- A joiner and an emoji. -/
  | joinedEmoji
  /-- The frame of a key, a joiner and an emoji. -/
  | joinedKeycap
  /-- One half of a flag, a joiner and an emoji. -/
  | joinedIndicator
  /-- An even or odd number of halves of flags, a joiner and an emoji. -/
  | joinedIndicators (even : Bool)
  /-- Letters of the name of a region, its end, a joiner and an emoji. -/
  | tagLetters (count : Nat)
  /-- Digits of the name of a region, the rest of it, its end, a joiner and an emoji. -/
  | tagDigits (count : Nat)
  /-- An Arabic alef. -/
  | alef
  /-- A letter, perhaps with the joiner in front of it. -/
  | letter (kind : JoinedLetter) (joined : Bool)
  /-- The Buginese vowel i, a joiner and the letter ya. -/
  | bugineseVowel
  /-- The Tifinagh joiner and a letter. -/
  | tifinaghJoiner
  /-- A Lisu tone letter that ends a combination. -/
  | lisuTone
  /-- A Khmer letter that can be put below another. -/
  | khmerLetter
  /-- The Kirat Rai vowel e. -/
  | kiratRaiE
  /-- The Kirat Rai vowel ai. -/
  | kiratRaiAi
deriving DecidableEq

/-- A character that tells how the one before it is drawn. -/
inductive Selector where
  | emoji
  | sign
  /-- A quotation mark is drawn as wide as an ideograph. -/
  | wideQuote
deriving DecidableEq

/-- The selector that a character is. -/
def Selector.ofChar? (character : Char) : Option Selector :=
  if character = '\uFE0F' then some .emoji
  else if character = '\uFE0E' then some .sign
  else if character = '\uFE01' then some .wideQuote
  else none

/-- What is known of the text behind a character. -/
structure Context where
  joint : Joint := .plain
  /-- The selectors that wait for a character, the foremost first. -/
  selectors : List Selector := []
deriving DecidableEq

/-- The joiner, which is not shown itself. -/
def joiner : Char := '\u200D'

/-- Whether a character lies between the letters of a ligature without parting them. -/
def isWithinLigature (character : Char) : Bool :=
  inRanges [(0x034F, 0x034F), (0x17B4, 0x17B5), (0x180B, 0x180D), (0x180F, 0x180F),
    (0x200D, 0x200D), (0xFE00, 0xFE0F), (0xE0100, 0xE01EF)] character

/-- Whether a character is a form of the Arabic letter alef. -/
def isAlef (character : Char) : Bool :=
  inRanges [(0x0622, 0x0623), (0x0625, 0x0625), (0x0627, 0x0627), (0x0671, 0x0673),
    (0x0675, 0x0675), (0x0773, 0x0774), (0x0870, 0x0882)] character

/-- Whether a character is a form of the Arabic letter lam. -/
def isLam (character : Char) : Bool :=
  inRanges [(0x0644, 0x0644), (0x06B5, 0x06B8), (0x076A, 0x076A), (0x08A6, 0x08A6),
    (0x08C7, 0x08C7)] character

/-- First and last characters of ranges that take up no column and part Arabic letters. -/
def partingRanges : List (Nat × Nat) :=
  [(0x0605, 0x0605), (0x0890, 0x0891), (0x08E2, 0x08E2), (0x09BE, 0x09BE), (0x09D7, 0x09D7),
    (0x0B3E, 0x0B3E), (0x0B57, 0x0B57), (0x0BBE, 0x0BBE), (0x0BD7, 0x0BD7), (0x0CC0, 0x0CC0),
    (0x0CC2, 0x0CC2), (0x0CC7, 0x0CC8), (0x0CCA, 0x0CCB), (0x0CD5, 0x0CD6), (0x0D3E, 0x0D3E),
    (0x0D4E, 0x0D4E), (0x0D57, 0x0D57), (0x0DCF, 0x0DCF), (0x0DDF, 0x0DDF), (0x1160, 0x11FF),
    (0x1715, 0x1715), (0x1734, 0x1734), (0x180E, 0x180E), (0x1B35, 0x1B35), (0x1B3B, 0x1B3B),
    (0x1B3D, 0x1B3D), (0x1B43, 0x1B44), (0x1BAA, 0x1BAA), (0x1BF2, 0x1BF3), (0x200C, 0x200D),
    (0x2065, 0x2069), (0x302E, 0x302F), (0x3164, 0x3164), (0xA8FA, 0xA8FA), (0xA953, 0xA953),
    (0xA9C0, 0xA9C0), (0xD7B0, 0xD7C6), (0xD7CB, 0xD7FB), (0xFFA0, 0xFFA0), (0xFFF0, 0xFFF8),
    (0x111C0, 0x111C0), (0x111C2, 0x111C3), (0x11235, 0x11235), (0x1133E, 0x1133E),
    (0x1134D, 0x1134D), (0x11357, 0x11357), (0x113B8, 0x113B8), (0x113C2, 0x113C2),
    (0x113C5, 0x113C5), (0x113C7, 0x113C9), (0x113CF, 0x113CF), (0x113D1, 0x113D1),
    (0x114B0, 0x114B0), (0x114BD, 0x114BD), (0x115AF, 0x115AF), (0x116B6, 0x116B6),
    (0x11930, 0x11930), (0x1193D, 0x1193D), (0x1193F, 0x1193F), (0x11941, 0x11941),
    (0x11A84, 0x11A89), (0x11D46, 0x11D46), (0x11F02, 0x11F02), (0x11F41, 0x11F41),
    (0x16FF0, 0x16FF1), (0x1D165, 0x1D166), (0x1D16D, 0x1D172), (0xE0000, 0xE0000),
    (0xE0002, 0xE001F), (0xE0080, 0xE00FF), (0xE01F0, 0xE0FFF)]

/-- Whether a character takes up no column and lets Arabic letters join around it. -/
def isTransparent (character : Char) : Bool :=
  isBare character && !inRanges partingRanges character

/-- Whether a character is a Khmer letter that takes up no column below another. -/
def isKhmerLetter (character : Char) : Bool :=
  inRanges [(0x1780, 0x1782), (0x1784, 0x1787), (0x1789, 0x178C), (0x178E, 0x1793),
    (0x1795, 0x1798), (0x179B, 0x179D), (0x17A0, 0x17A0), (0x17A2, 0x17A2), (0x17A7, 0x17A7),
    (0x17AB, 0x17AC), (0x17AF, 0x17AF)] character

/-- Whether a character is a Tifinagh consonant. -/
def isTifinagh (character : Char) : Bool :=
  inRanges [(0x2D31, 0x2D65), (0x2D6F, 0x2D6F)] character

/-- Whether a quotation mark has a wide form. -/
def isWidenedQuote (character : Char) : Bool :=
  character = '\u2018' || character = '\u2019' || character = '\u201C' || character = '\u201D'

/-- Whether a character is a letter in the name of a region after a flag. -/
def isTagLetter (character : Char) : Bool :=
  0xE0061 ≤ character.toNat && character.toNat ≤ 0xE007A

/-- Whether a character is a digit in the name of a region after a flag. -/
def isTagDigit (character : Char) : Bool :=
  0xE0030 ≤ character.toNat && character.toNat ≤ 0xE0039

namespace Joint

/-- What a character on its own offers to the one in front of it. -/
def ofChar (character : Char) : Joint :=
  if character = '\n' then .lineFeed
  else if character.toNat ≤ 0xA0 then .plain
  else if isEmoji character then
    if isIndicator character then .indicator
    else if isModifier character then .modifier
    else .emoji
  else if character = '\u05DC' then .letter .hebrewLamed false
  else if isAlef character then .alef
  else if isKhmerLetter character then .khmerLetter
  else if character = '\u1A10' then .letter .bugineseYa false
  else if isTifinagh character then .letter .tifinagh false
  else if character = '\uA4FC' ∨ character = '\uA4FD' then .lisuTone
  else if character.toNat = 0x10C03 then .letter .orkhonI false
  else if character.toNat = 0x16D67 then .kiratRaiE
  else if character.toNat = 0x16D68 then .kiratRaiAi
  else .plain

/-- Whether marks may stand between the parts of the ligature. -/
def spansMarks : Joint → Bool
  | .letter _ _ | .bugineseVowel | .tifinaghJoiner | .lisuTone | .khmerLetter => true
  | _ => false

/-- Whether a selector may stand between the parts of the ligature. -/
def spansSelectors (joint : Joint) : Bool :=
  joint.spansMarks || joint = .alef

/-- Whether an emoji in front is drawn together with the one behind a joiner. -/
def takesEmoji (joint : Joint) : Bool :=
  joint = .joinedEmoji || joint = .joinedKeycap

/-- The ligature with a joiner in front of it. -/
def afterJoiner : Joint → Joint
  | .letter kind _ => .letter kind true
  | joint => joint

/-- The columns for a character that joins with what stands behind it, and the whole of both.

Every second half of a flag before a joined emoji settles which halves belong together, so
that the columns counted for the first one are taken back. -/
def join? (joint : Joint) (character : Char) : Option (Int × Joint) :=
  match joint with
  | .plain | .lineFeed | .joinedKeycap => none
  | .emoji => if character = joiner then some (0, .joinedEmoji) else none
  | .modifier =>
    if character = joiner then some (0, .joinedEmoji)
    else if isModifiable character then some (0, .emoji)
    else none
  | .indicator => if isIndicator character then some (1, .indicators) else none
  | .indicators =>
    if character = joiner then some (0, .joinedEmoji)
    else if isIndicator character then some (1, .indicators)
    else none
  | .joinedEmoji =>
    if character = '\u20E3' then some (0, .joinedKeycap)
    else if isIndicator character then some (1, .joinedIndicator)
    else if isModifier character then some (0, .modifier)
    else if character.toNat = 0xE007F then some (0, .tagLetters 0)
    else if isEmoji character then some (0, .emoji)
    else none
  | .joinedIndicator => if isIndicator character then some (-1, .joinedIndicators true) else none
  | .joinedIndicators even =>
    if character = joiner then some (0, .joinedEmoji)
    else if isIndicator character then some (if even then 3 else -1, .joinedIndicators !even)
    else none
  | .tagLetters count =>
    if isTagLetter character ∧ count < 6 then some (0, .tagLetters (count + 1))
    else if isTagDigit character ∧ count < 5 then some (0, .tagDigits 1)
    else if character = '🏴' ∧ 3 ≤ count then some (0, .emoji)
    else none
  | .tagDigits count =>
    if isTagDigit character ∧ count < 3 then some (0, .tagDigits (count + 1))
    else if character = '🏴' ∧ count = 3 then some (0, .emoji)
    else none
  | .alef =>
    if isLam character then some (0, .plain)
    else if isTransparent character then some (0, .alef)
    else none
  | .letter .hebrewLamed joined =>
    if joined ∧ character = '\u05D0' then some (0, .plain) else none
  | .letter .bugineseYa joined =>
    if joined ∧ character = '\u1A17' then some (0, .bugineseVowel) else none
  | .bugineseVowel => if character = '\u1A15' then some (0, .plain) else none
  | .letter .tifinagh joined =>
    if character = '\u2D7F' then some (1, .tifinaghJoiner)
    else if joined ∧ isTifinagh character then some (0, .plain)
    else none
  | .tifinaghJoiner => if isTifinagh character then some (-1, .plain) else none
  | .letter .orkhonI joined =>
    if joined ∧ character.toNat = 0x10C32 then some (0, .plain) else none
  | .lisuTone =>
    if 0xA4F8 ≤ character.toNat ∧ character.toNat ≤ 0xA4FB then some (0, .plain) else none
  | .khmerLetter => if character = '\u17D2' then some (-1, .plain) else none
  | .kiratRaiE =>
    if character.toNat = 0x16D63 ∨ character.toNat = 0x16D69 then some (0, .plain)
    else if character.toNat = 0x16D67 then some (0, .kiratRaiAi)
    else if character.toNat = 0x16D68 then some (1, .kiratRaiE)
    else none
  | .kiratRaiAi => if character.toNat = 0x16D63 then some (0, .plain) else none

end Joint

/-- The columns of a character that a selector applies to, and what it offers then. -/
def Selector.selected? (joint : Joint) (character : Char) : Selector → Option (Int × Joint)
  | .emoji =>
    if startsEmoji character then some (if joint.takesEmoji then 0 else 2, .emoji) else none
  | .sign => if startsSign character then some (1, .plain) else none
  | .wideQuote => if isWidenedQuote character then some (2, .plain) else none

namespace Context

/-- What is left to join with when no selector applies. -/
def remaining (context : Context) : Joint :=
  if context.selectors.isEmpty ∨ context.joint.spansSelectors then context.joint else .plain

/-- The context with a selector in front.

The selectors that wait already go on waiting before a ligature, except the one for an emoji,
which has to stand directly behind its character. -/
def await (context : Context) (selector : Selector) : Context :=
  let joint := context.remaining
  if joint.spansSelectors then
    ⟨joint, selector :: context.selectors.filter fun other => other ≠ .emoji ∧ other ≠ selector⟩
  else if selector = .emoji ∧ joint.takesEmoji then ⟨joint, [selector]⟩
  else ⟨.plain, [selector]⟩

/-- The columns for a character that is no selector, and the context with it. -/
def join (joint : Joint) (character : Char) : Int × Context :=
  if character = '\r' ∧ joint = .lineFeed then (0, {})
  else if joint.spansMarks ∧ isWithinLigature character then
    (0, { joint := if character = joiner then joint.afterJoiner else joint })
  else
    match joint.join? character with
    | some (columns, joint) => (columns, { joint := joint })
    | none => (charColumns character, { joint := Joint.ofChar character })

/-- The columns for a character in front of a text, and the context that both make up. -/
def extend (context : Context) (character : Char) : Int × Context :=
  match Selector.ofChar? character with
  | some selector => (0, context.await selector)
  | none =>
    match context.selectors.findSome? (Selector.selected? context.joint character) with
    | some (columns, joint) => (columns, { joint := joint })
    | none => join context.remaining character

end Context

end Phrasebook.Text
