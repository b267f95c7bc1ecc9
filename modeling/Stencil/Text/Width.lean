import Stencil.Text.WidthTable

/-!
# Columns of a text

How many columns of a terminal a text takes. Most characters take one, East Asian wide ones two and
marks none; but some neighbours share their columns: a carriage return with its line feed, the
parts of an emoji, and the ligatures of a few scripts.

The text is read from its end. `Right` is what a character has to know about its right neighbours;
`columnsBefore` gives the columns a character adds and what its own left neighbour has to know.
A character may take a column back.
-/

namespace Stencil.Text

/-! ## 1. What stands to the right -/

/-- The right neighbours a character may combine with. `joined` says that a zero-width joiner
stands in front of the letter. -/
inductive RightKind where
  | plain
  | lineFeed
  /-- A skin tone. -/
  | skinTone
  /-- One flag letter. -/
  | flagLetter
  /-- Several flag letters. -/
  | flagLetters
  /-- An emoji. -/
  | emoji
  /-- A joiner in front of an emoji. -/
  | joinedEmoji
  /-- A keycap mark in front of a joiner. -/
  | joinedKeycap
  /-- One, an even or a greater odd number of flag letters in front of a joiner. -/
  | joinedFlagLetter
  | joinedEvenFlagLetters
  | joinedOddFlagLetters
  /-- The end of a tag sequence in front of a joiner, with so many letters or digits of it. -/
  | tagEnd
  | tagLetters (count : Nat)
  | tagDigits (count : Nat)
  | kiratE
  | kiratAi
  | arabicAlef
  | hebrewLamed (joined : Bool)
  | bugineseYa (joined : Bool)
  | bugineseVowelYa
  | tifinagh (joined : Bool)
  | tifinaghJoiner
  | lisuTone
  | orkhonI (joined : Bool)
  | khmerLetter
  deriving DecidableEq, Repr

/-- What stands to the right: a kind, and whether a text or an emoji selector is in front of it. -/
structure Right where
  kind : RightKind
  textSelector : Bool
  emojiSelector : Bool
  deriving DecidableEq, Repr

namespace RightKind

/-- The kind without selectors. -/
def bare (k : RightKind) : Right := ⟨k, false, false⟩

/-- Letters that still combine across a selector. -/
def isLetter : RightKind → Bool
  | arabicAlef | hebrewLamed _ | bugineseYa _ | bugineseVowelYa | tifinagh _ | tifinaghJoiner
  | lisuTone | orkhonI _ | khmerLetter => true
  | _ => false

/-- Letters that combine across ignorable marks and joiners. -/
def crossesMarks (k : RightKind) : Bool := k.isLetter && k != arabicAlef

/-- A joiner with an emoji behind it. -/
def isJoinedEmoji : RightKind → Bool
  | joinedEmoji | joinedKeycap => true
  | _ => false

/-- The kind with a joiner in front. -/
def join : RightKind → RightKind
  | hebrewLamed _ => hebrewLamed true
  | bugineseYa _ => bugineseYa true
  | tifinagh _ => tifinagh true
  | orkhonI _ => orkhonI true
  | k => k

end RightKind

namespace Right

/-- Nothing to the right that matters. -/
def none : Right := RightKind.plain.bare

/-- An emoji selector in front; only letters and joined emoji are seen through it. -/
def addEmojiSelector (r : Right) : Right :=
  if r.kind.isLetter || (r.kind.isJoinedEmoji && !r.emojiSelector) then
    { r with emojiSelector := true }
  else ⟨.plain, false, true⟩

/-- Without the emoji selector; only letters are left. -/
def dropEmojiSelector (r : Right) : Right :=
  if r.kind.isLetter then { r with emojiSelector := false } else none

/-- A text selector in front; only letters are seen through it. -/
def addTextSelector (r : Right) : Right :=
  if r.kind.isLetter then { r with textSelector := true } else ⟨.plain, true, false⟩

/-- Without the text selector; only letters are left. -/
def dropTextSelector (r : Right) : Right :=
  if r.kind.isLetter then { r with textSelector := false } else none

end Right

/-! ## 2. Classes of characters -/

/-- The code point lies between two bounds, both included. -/
def between (first last : Nat) (c : Char) : Bool := first ≤ c.toNat && c.toNat ≤ last

/-- Letters that make flags in pairs. -/
def isFlagLetter (c : Char) : Bool := between 0x1F1E6 0x1F1FF c

/-- Skin tones. -/
def isSkinTone (c : Char) : Bool := between 0x1F3FB 0x1F3FF c

/-- Tifinagh consonants that join. -/
def isTifinagh (c : Char) : Bool := between 0x2D31 0x2D65 c || c.toNat = 0x2D6F

/-- Letters of a tag. -/
def isTagLetter (c : Char) : Bool := between 0xE0061 0xE007A c

/-- Digits of a tag. -/
def isTagDigit (c : Char) : Bool := between 0xE0030 0xE0039 c

/-- Arabic letters that join like alef. -/
def alefRanges : Ranges :=
  [(0x622, 0x623), (0x625, 0x625), (0x627, 0x627), (0x671, 0x673), (0x675, 0x675), (0x773, 0x774),
   (0x870, 0x882)]

/-- Arabic letters that join like lam. -/
def lamRanges : Ranges :=
  [(0x644, 0x644), (0x6B5, 0x6B8), (0x76A, 0x76A), (0x8A6, 0x8A6), (0x8C7, 0x8C7)]

/-- Khmer letters that go below the letter in front of a coeng sign. -/
def coengRanges : Ranges :=
  [(0x1780, 0x1782), (0x1784, 0x1787), (0x1789, 0x178C), (0x178E, 0x1793), (0x1795, 0x1798),
   (0x179B, 0x179D), (0x17A0, 0x17A0), (0x17A2, 0x17A2), (0x17A7, 0x17A7), (0x17AB, 0x17AC),
   (0x17AF, 0x17AF)]

/-- Ignorable marks and joiners, which most ligatures reach across. -/
def ligatureMarkRanges : Ranges :=
  [(0x34F, 0x34F), (0x17B4, 0x17B5), (0x180B, 0x180D), (0x180F, 0x180F), (0x200D, 0x200D),
   (0xFE00, 0xFE0F), (0xE0100, 0xE01EF)]

/-! ## 3. Single characters -/

/-- The columns of a character on its own. -/
def charColumns (c : Char) : Nat :=
  if between 0x20 0x7E c then 1
  else if c.toNat = 0x17D8 then 3
  else if zeroWidthRanges.contains c then 0
  else if wideRanges.contains c then 2
  else 1

/-- What a character is to its left neighbour. -/
def kindOf (c : Char) : Right :=
  if between 0x20 0x7E c then .none
  else if c.toNat = 0x5DC then (RightKind.hebrewLamed false).bare
  else if alefRanges.contains c then RightKind.arabicAlef.bare
  else if coengRanges.contains c then RightKind.khmerLetter.bare
  else if c.toNat = 0x1A10 then (RightKind.bugineseYa false).bare
  else if isTifinagh c then (RightKind.tifinagh false).bare
  else if between 0xA4FC 0xA4FD c then RightKind.lisuTone.bare
  else if c.toNat = 0xFE0E then ⟨.plain, true, false⟩
  else if c.toNat = 0xFE0F then ⟨.plain, false, true⟩
  else if c.toNat = 0x10C03 then (RightKind.orkhonI false).bare
  else if c.toNat = 0x16D67 then RightKind.kiratE.bare
  else if c.toNat = 0x16D68 then RightKind.kiratAi.bare
  else if isFlagLetter c then RightKind.flagLetter.bare
  else if isSkinTone c then RightKind.skinTone.bare
  else if emojiRanges.contains c then RightKind.emoji.bare
  else .none

/-! ## 4. Neighbours -/

/-- The columns that a character adds in front of a ligature or an emoji it belongs to, and what
the whole is to its left neighbour; nothing when the two do not combine. -/
def combine? (c : Char) (kind : RightKind) : Option (Int × RightKind) :=
  match kind with
  | .arabicAlef =>
    if lamRanges.contains c then some (0, .plain)
    else if arabicTransparentRanges.contains c then some (0, .arabicAlef)
    else none
  | .hebrewLamed true => if c.toNat = 0x5D0 then some (0, .plain) else none
  | .khmerLetter => if c.toNat = 0x17D2 then some (-1, .plain) else none
  | .bugineseYa true => if c.toNat = 0x1A17 then some (0, .bugineseVowelYa) else none
  | .bugineseVowelYa => if c.toNat = 0x1A15 then some (0, .plain) else none
  | .tifinagh joined =>
    if c.toNat = 0x2D7F then some (1, .tifinaghJoiner)
    else if joined && isTifinagh c then some (0, .plain)
    else none
  | .tifinaghJoiner => if isTifinagh c then some (-1, .plain) else none
  | .lisuTone => if between 0xA4F8 0xA4FB c then some (0, .plain) else none
  | .orkhonI true => if c.toNat = 0x10C32 then some (0, .plain) else none
  | .kiratE =>
    if c.toNat = 0x16D63 ∨ c.toNat = 0x16D69 then some (0, .plain)
    else if c.toNat = 0x16D67 then some (0, .kiratAi)
    else if c.toNat = 0x16D68 then some (1, .kiratE)
    else none
  | .kiratAi => if c.toNat = 0x16D63 then some (0, .plain) else none
  | .skinTone =>
    if emojiModifierBaseRanges.contains c then some (0, .emoji)
    else if c.toNat = 0x200D then some (0, .joinedEmoji)
    else none
  | .flagLetter => if isFlagLetter c then some (1, .flagLetters) else none
  | .flagLetters =>
    if isFlagLetter c then some (1, .flagLetters)
    else if c.toNat = 0x200D then some (0, .joinedEmoji)
    else none
  | .emoji => if c.toNat = 0x200D then some (0, .joinedEmoji) else none
  | .joinedEvenFlagLetters =>
    if isFlagLetter c then some (3, .joinedOddFlagLetters)
    else if c.toNat = 0x200D then some (0, .joinedEmoji)
    else none
  | .joinedOddFlagLetters =>
    if isFlagLetter c then some (-1, .joinedEvenFlagLetters)
    else if c.toNat = 0x200D then some (0, .joinedEmoji)
    else none
  | .joinedFlagLetter => if isFlagLetter c then some (-1, .joinedEvenFlagLetters) else none
  | .joinedEmoji =>
    if c.toNat = 0x20E3 then some (0, .joinedKeycap)
    else if isFlagLetter c then some (1, .joinedFlagLetter)
    else if isSkinTone c then some (0, .skinTone)
    else if c.toNat = 0xE007F then some (0, .tagEnd)
    else if emojiRanges.contains c then some (0, .emoji)
    else none
  | .tagEnd =>
    if isTagLetter c then some (0, .tagLetters 1)
    else if isTagDigit c then some (0, .tagDigits 1)
    else none
  | .tagLetters n =>
    if isTagLetter c && n < 6 then some (0, .tagLetters (n + 1))
    else if isTagDigit c && n < 5 then some (0, .tagDigits 1)
    else if c.toNat = 0x1F3F4 && 3 ≤ n then some (0, .emoji)
    else none
  | .tagDigits n =>
    if isTagDigit c && n < 3 then some (0, .tagDigits (n + 1))
    else if c.toNat = 0x1F3F4 && n = 3 then some (0, .emoji)
    else none
  | _ => none

/-- The columns of a character in front of neighbours it does not combine with. -/
def alone (c : Char) : Int × Right := (charColumns c, kindOf c)

/-- The columns of a character beyond U+00A0 in front of neighbours that matter. -/
def columnsBeforeSome (c : Char) (r : Right) : Int × Right :=
  if r = Right.none then alone c
  else if c.toNat = 0xFE0F then (0, r.addEmojiSelector)
  else if c.toNat = 0xFE0E then (0, r.addTextSelector)
  else if r.textSelector && textSequenceRanges.contains c then (1, .none)
  else
    let r := if r.textSelector then r.dropTextSelector else r
    if r.kind.crossesMarks && c.toNat = 0x200D then (0, { r with kind := r.kind.join })
    else if r.kind.crossesMarks && ligatureMarkRanges.contains c then (0, r)
    else match combine? c r.kind with
      | some (n, k) => (n, k.bare)
      | none => alone c

/-- The columns a character adds in front of what stands to its right, and what it is, with that,
to its left neighbour. -/
def columnsBefore (c : Char) (r : Right) : Int × Right :=
  if r.emojiSelector && emojiSequenceRanges.contains c then
    (if r.kind.isJoinedEmoji then 0 else 2, RightKind.emoji.bare)
  else
    let r := if r.emojiSelector then r.dropEmojiSelector else r
    if c.toNat ≤ 0xA0 then
      if c = '\n' then (1, RightKind.lineFeed.bare)
      else if c = '\r' && r = RightKind.lineFeed.bare then (0, .none)
      else (1, .none)
    else columnsBeforeSome c r

/-! ## 5. Texts -/

/-- The columns of a text and what it is to its left neighbour. -/
def columnsFrom (cs : List Char) : Int × Right :=
  cs.foldr (fun c (sum, r) => let (n, r) := columnsBefore c r; (sum + n, r)) (0, .none)

/-- The columns of a text. -/
def columns (cs : List Char) : Nat := (columnsFrom cs).1.toNat

end Stencil.Text
