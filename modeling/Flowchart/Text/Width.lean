import Flowchart.Text.Width.Tables

/-!
# Display width

The width of a text is the number of columns that it takes up in a fixed
pitch font. A character takes up none, one or two columns by itself, but
some characters draw together with what follows them: an emoji sequence is
as wide as one emoji, two flag halves make one flag, and some letters of
Arabic, Hebrew, Khmer and other scripts run together with the next letter.

The text is therefore measured from its end. `Setting` says what the text to
the right of a character begins with, as far as that matters, and `measure`
gives the columns that a character adds in a setting, and the setting that
it leaves to its left neighbour. A character may add a negative number, when
it takes back columns already counted.
-/

namespace Flowchart.Text

/-- What the text to the right begins with. -/
inductive Context where
  /-- Nothing that matters. -/
  | ordinary
  | lineFeed
  /-- A skin tone. -/
  | skinTone
  /-- One flag half, or several of them. -/
  | flagHalf
  | flagHalves
  /-- An emoji. -/
  | emoji
  /-- A joiner and an emoji, and the same behind a keycap or flag halves. -/
  | joinedEmoji
  | joinedKeycap
  | joinedFlagHalf
  | joinedFlagsEven
  | joinedFlagsOdd
  /-- The end of a tag sequence before a joined emoji, with so many tag
  letters or tag digits before it. -/
  | tagEnd
  | tagLetters (count : Nat)
  | tagDigits (count : Nat)
  /-- Arabic alef. -/
  | alef
  /-- Hebrew lamed, perhaps behind a joiner. -/
  | lamed (joined : Bool)
  /-- Buginese ya, perhaps behind a joiner, or behind a vowel sign as well. -/
  | ya (joined : Bool)
  | vowelYa
  /-- A Tifinagh consonant, perhaps behind a joiner, or behind the consonant
  joiner. -/
  | tifinagh (joined : Bool)
  | tifinaghJoined
  /-- A Lisu tone letter that closes a pair. -/
  | lisuTone
  /-- Old Turkic orkhon i, perhaps behind a joiner. -/
  | orkhonI (joined : Bool)
  /-- A Khmer letter that takes a subscript form. -/
  | subscriptLetter
  /-- Kirat Rai vowel signs e and ai. -/
  | kiratRaiE
  | kiratRaiAi
  deriving DecidableEq

namespace Context

/-- Whether the context belongs to letters that run together, so that a
variation selector does not end it. -/
def isLigature : Context → Bool
  | alef | lamed _ | ya _ | vowelYa | tifinagh _ | tifinaghJoined | lisuTone | orkhonI _
  | subscriptLetter => true
  | _ => false

/-- Whether invisible characters may stand inside the ligature. -/
def isPermeable (c : Context) : Bool :=
  c.isLigature && c != alef

/-- Whether the context is that of a joined emoji or keycap. -/
def isJoined (c : Context) : Bool :=
  c == joinedEmoji || c == joinedKeycap

/-- The context behind a joiner, inside a ligature. -/
def join : Context → Context
  | lamed _ => lamed true
  | ya _ => ya true
  | tifinagh _ => tifinagh true
  | orkhonI _ => orkhonI true
  | c => c

end Context

/-- A context, and the variation selectors that stand before it. -/
structure Setting where
  context : Context := .ordinary
  /-- U+FE0F, which asks for an emoji. -/
  asEmoji : Bool := false
  /-- U+FE0E, which asks for text. -/
  asText : Bool := false
  /-- U+FE01, which asks for a full width quotation mark. -/
  asFullWidth : Bool := false
  deriving DecidableEq

namespace Setting

/-- The setting of a context without variation selectors. -/
def of (c : Context) : Setting := { context := c }

/-- The end of the text, and every place where the right does not matter. -/
def plain : Setting := {}

/-- The same with U+FE0F in front. -/
def withEmoji (s : Setting) : Setting :=
  if s.context.isLigature || s.context.isJoined && !s.asEmoji then { s with asEmoji := true }
  else { asEmoji := true }

/-- The same without U+FE0F. -/
def withoutEmoji (s : Setting) : Setting :=
  if s.context.isLigature then { s with asEmoji := false } else plain

/-- The same with U+FE0E in front. -/
def withText (s : Setting) : Setting :=
  if s.context.isLigature then { s with asText := true } else { asText := true }

/-- The same with U+FE01 in front. -/
def withFullWidth (s : Setting) : Setting :=
  if s.context.isLigature then { s with asFullWidth := true } else { asFullWidth := true }

end Setting

/-- Whether a code point lies in a closed range. -/
def within (low high : Nat) (c : Char) : Bool :=
  low ≤ c.toNat && c.toNat ≤ high

/-- Whether a code point is one of those listed. -/
def isOneOf (points : List Nat) (c : Char) : Bool :=
  points.contains c.toNat

/-- Half of a flag. -/
def isFlagHalf (c : Char) : Bool := within 0x1F1E6 0x1F1FF c

/-- A skin tone. -/
def isSkinTone (c : Char) : Bool := within 0x1F3FB 0x1F3FF c

/-- A letter of a tag sequence. -/
def isTagLetter (c : Char) : Bool := within 0xE0061 0xE007A c

/-- A digit of a tag sequence. -/
def isTagDigit (c : Char) : Bool := within 0xE0030 0xE0039 c

/-- A Tifinagh letter that takes part in ligatures. -/
def isTifinaghConsonant (c : Char) : Bool := within 0x2D31 0x2D65 c || c.toNat == 0x2D6F

/-- A letter of the joining group of alef. -/
def isAlef (c : Char) : Bool :=
  CodeRanges.holds [(0x622, 0x623), (0x625, 0x625), (0x627, 0x627), (0x671, 0x673),
    (0x675, 0x675), (0x773, 0x774), (0x870, 0x882)] c

/-- A letter of the joining group of lam. -/
def isLam (c : Char) : Bool :=
  CodeRanges.holds [(0x644, 0x644), (0x6B5, 0x6B8), (0x76A, 0x76A), (0x8A6, 0x8A6),
    (0x8C7, 0x8C7)] c

/-- A Khmer letter that takes a subscript form behind the sign coeng. -/
def isSubscriptLetter (c : Char) : Bool :=
  CodeRanges.holds [(0x1780, 0x1782), (0x1784, 0x1787), (0x1789, 0x178C), (0x178E, 0x1793),
    (0x1795, 0x1798), (0x179B, 0x179D), (0x17A0, 0x17A0), (0x17A2, 0x17A2), (0x17A7, 0x17A7),
    (0x17AB, 0x17AC), (0x17AF, 0x17AF)] c

/-- An invisible character that may stand inside a ligature. -/
def isPermeating (c : Char) : Bool :=
  CodeRanges.holds [(0x34F, 0x34F), (0x17B4, 0x17B5), (0x180B, 0x180D), (0x180F, 0x180F),
    (0x200D, 0x200D), (0xFE00, 0xFE0F), (0xE0100, 0xE01EF)] c

/-- A character that takes up no column by itself. -/
def isZeroWidth (c : Char) : Bool := CodeRanges.holds zeroWidthRanges c

/-- An invisible character between two Arabic letters that are still joined. -/
def isJoinTransparent (c : Char) : Bool :=
  isZeroWidth c && !CodeRanges.holds joinBreakingRanges c

/-- The columns of a character by itself, and the setting to its left. -/
def measureAlone (c : Char) : Int × Setting :=
  match c.toNat with
  | 0x5DC => (1, .of (.lamed false))
  | 0x17A4 => (2, .plain)
  | 0x17D8 => (3, .plain)
  | 0x1A10 => (1, .of (.ya false))
  | 0x2D7F => (1, .plain)
  | 0xA4FC => (1, .of .lisuTone)
  | 0xA4FD => (1, .of .lisuTone)
  | 0xFE01 => (0, Setting.plain.withFullWidth)
  | 0xFE0E => (0, Setting.plain.withText)
  | 0xFE0F => (0, Setting.plain.withEmoji)
  | 0x10C03 => (1, .of (.orkhonI false))
  | 0x16D67 => (1, .of .kiratRaiE)
  | 0x16D68 => (1, .of .kiratRaiAi)
  | _ =>
    if isAlef c then (1, .of .alef)
    else if isSubscriptLetter c then (1, .of .subscriptLetter)
    else if isTifinaghConsonant c then (1, .of (.tifinagh false))
    else if isFlagHalf c then (1, .of .flagHalf)
    else if isSkinTone c then (2, .of .skinTone)
    else if CodeRanges.holds emojiRanges c then (2, .of .emoji)
    else if isZeroWidth c then (0, .plain)
    else if CodeRanges.holds doubleWidthRanges c then (2, .plain)
    else (1, .plain)

/-- What a character does in a context, if it draws together with it. -/
def measureTogether? (c : Char) (right : Context) : Option (Int × Context) :=
  match right with
  | .alef =>
    if isLam c then some (0, .ordinary)
    else if isJoinTransparent c then some (0, .alef)
    else none
  | .lamed true => if c.toNat = 0x5D0 then some (0, .ordinary) else none
  | .subscriptLetter => if c.toNat = 0x17D2 then some (-1, .ordinary) else none
  | .ya true => if c.toNat = 0x1A17 then some (0, .vowelYa) else none
  | .vowelYa => if c.toNat = 0x1A15 then some (0, .ordinary) else none
  | .tifinagh joined =>
    if c.toNat = 0x2D7F then some (1, .tifinaghJoined)
    else if joined && isTifinaghConsonant c then some (0, .ordinary)
    else none
  | .tifinaghJoined => if isTifinaghConsonant c then some (-1, .ordinary) else none
  | .lisuTone => if within 0xA4F8 0xA4FB c then some (0, .ordinary) else none
  | .orkhonI true => if c.toNat = 0x10C32 then some (0, .ordinary) else none
  | .skinTone =>
    if CodeRanges.holds skinToneBaseRanges c then some (0, .emoji)
    else if c.toNat = 0x200D then some (0, .joinedEmoji)
    else none
  | .flagHalf => if isFlagHalf c then some (1, .flagHalves) else none
  | .flagHalves =>
    if isFlagHalf c then some (1, .flagHalves)
    else if c.toNat = 0x200D then some (0, .joinedEmoji)
    else none
  | .emoji => if c.toNat = 0x200D then some (0, .joinedEmoji) else none
  | .joinedEmoji =>
    if c.toNat = 0x20E3 then some (0, .joinedKeycap)
    else if isFlagHalf c then some (1, .joinedFlagHalf)
    else if isSkinTone c then some (0, .skinTone)
    else if c.toNat = 0xE007F then some (0, .tagEnd)
    else if (measureAlone c).2.context = .emoji then some (0, .emoji)
    else none
  | .joinedFlagHalf => if isFlagHalf c then some (-1, .joinedFlagsEven) else none
  | .joinedFlagsOdd =>
    if isFlagHalf c then some (-1, .joinedFlagsEven)
    else if c.toNat = 0x200D then some (0, .joinedEmoji)
    else none
  | .joinedFlagsEven =>
    if isFlagHalf c then some (3, .joinedFlagsOdd)
    else if c.toNat = 0x200D then some (0, .joinedEmoji)
    else none
  | .tagEnd =>
    if isTagLetter c then some (0, .tagLetters 1)
    else if isTagDigit c then some (0, .tagDigits 1)
    else none
  | .tagLetters n =>
    if isTagLetter c && n < 6 then some (0, .tagLetters (n + 1))
    else if isTagDigit c && n < 5 then some (0, .tagDigits 1)
    else if c.toNat = 0x1F3F4 && 3 ≤ n then some (0, .emoji)
    else none
  | .tagDigits n =>
    if isTagDigit c && n < 3 then some (0, .tagDigits (n + 1))
    else if c.toNat = 0x1F3F4 && n = 3 then some (0, .emoji)
    else none
  | .kiratRaiE =>
    match c.toNat with
    | 0x16D63 => some (0, .ordinary)
    | 0x16D67 => some (0, .kiratRaiAi)
    | 0x16D68 => some (1, .kiratRaiE)
    | 0x16D69 => some (0, .ordinary)
    | _ => none
  | .kiratRaiAi => if c.toNat = 0x16D63 then some (0, .ordinary) else none
  | _ => none

/-- The columns of a character whose right neighbours matter, once the
request for an emoji has been dealt with. -/
def measureBefore (c : Char) (right : Setting) : Int × Setting :=
  match c.toNat with
  | 0xFE0F => (0, right.withEmoji)
  | 0xFE0E => (0, right.withText)
  | 0xFE01 => (0, right.withFullWidth)
  | point =>
    if right.asText && CodeRanges.holds textOnDemandRanges c then (1, .plain)
    else if !right.asText && right.asFullWidth && isOneOf [0x2018, 0x2019, 0x201C, 0x201D] c then
      (2, .plain)
    else
      let right :=
        if right.asText then { right with asText := false }
        else { right with asFullWidth := false }
      if right.context.isPermeable && point = 0x200D then
        (0, { right with context := right.context.join })
      else if right.context.isPermeable && isPermeating c then (0, right)
      else if right.asFullWidth then measureAlone c
      else
        match measureTogether? c right.context with
        | some (columns, context) => (columns, .of context)
        | none => measureAlone c

/-- **The columns that a character adds** in a setting, and the setting that
it leaves to its left. -/
def measure (c : Char) (right : Setting) : Int × Setting :=
  if right.asEmoji && CodeRanges.holds emojiOnDemandRanges c then
    (if right.context.isJoined then 0 else 2, .of .emoji)
  else
    let right := if right.asEmoji then right.withoutEmoji else right
    if c.toNat ≤ 0xA0 then
      if c = '\n' then (1, .of .lineFeed)
      else if c = '\r' && right == .of .lineFeed then (0, .plain)
      else (1, .plain)
    else if right = .plain then measureAlone c
    else measureBefore c right

/-- **The number of columns** that a text takes up. -/
def displayWidth (text : List Char) : Nat :=
  (text.foldr (fun c (sum, right) =>
    let (columns, left) := measure c right
    (sum + columns, left)) ((0 : Int), Setting.plain)).1.toNat

end Flowchart.Text
