import Exposure.Text.Emoji
import Exposure.Text.Width

/-!
# Columns of a text

A text takes the columns of its characters together, except where neighbours are drawn as one:

* an emoji sequence takes two columns, and so does a flag;
* a selector behind a character may ask for its picture, its text or its fullwidth form;
* a few scripts have ligatures: lam and alef, the joined lamed, the syllable of two vowel signs,
  the subscript consonants of Khmer, paired tones and paired consonants.

What a character adds therefore depends on what follows it (`Following`), and `width` goes through
a text from its end. The columns that a later character took may turn out to be shared: then an
earlier one adds nothing, or even takes a column back.
-/

namespace Exposure.Text

/-! ### Classes of letters -/

/-- Whether a character is a form of the Arabic letter alef. -/
def isAlef (c : Char) : Bool :=
  inBounds [0x622, 0x624, 0x625, 0x626, 0x627, 0x628, 0x671, 0x674, 0x675, 0x676, 0x773, 0x775,
    0x870, 0x883] c.toNat

/-- Whether a character is a form of the Arabic letter lam. -/
def isLam (c : Char) : Bool :=
  inBounds [0x644, 0x645, 0x6b5, 0x6b9, 0x76a, 0x76b, 0x8a6, 0x8a7, 0x8c7, 0x8c8] c.toNat

/-- Whether a character is a Khmer letter that has a subscript form without columns. -/
def isSubscriptLetter (c : Char) : Bool :=
  inBounds [0x1780, 0x1783, 0x1784, 0x1788, 0x1789, 0x178d, 0x178e, 0x1794, 0x1795, 0x1799, 0x179b,
    0x179e, 0x17a0, 0x17a1, 0x17a2, 0x17a3, 0x17a7, 0x17a8, 0x17ab, 0x17ad, 0x17af, 0x17b0] c.toNat

/-- Whether a character is a Tifinagh consonant. -/
def isTifinaghConsonant (c : Char) : Bool :=
  inBounds [0x2d31, 0x2d66, 0x2d6f, 0x2d70] c.toNat

/-- Whether a character is a curved quotation mark. -/
def isQuotationMark (c : Char) : Bool :=
  c = '\u2018' || c = '\u2019' || c = '\u201C' || c = '\u201D'

/-- The bounds of the characters without a column that come between lam and alef. -/
def breakingBounds : List Nat :=
  [0x605, 0x606, 0x890, 0x892, 0x8e2, 0x8e3, 0x9be, 0x9bf, 0x9d7, 0x9d8, 0xb3e, 0xb3f, 0xb57,
   0xb58, 0xbbe, 0xbbf, 0xbd7, 0xbd8, 0xcc0, 0xcc1, 0xcc2, 0xcc3, 0xcc7, 0xcc9, 0xcca, 0xccc,
   0xcd5, 0xcd7, 0xd3e, 0xd3f, 0xd4e, 0xd4f, 0xd57, 0xd58, 0xdcf, 0xdd0, 0xddf, 0xde0, 0x1160,
   0x1200, 0x1715, 0x1716, 0x1734, 0x1735, 0x180e, 0x180f, 0x1b35, 0x1b36, 0x1b3b, 0x1b3c,
   0x1b3d, 0x1b3e, 0x1b43, 0x1b45, 0x1baa, 0x1bab, 0x1bf2, 0x1bf4, 0x200c, 0x200e, 0x2065,
   0x206a, 0x302e, 0x3030, 0x3164, 0x3165, 0xa8fa, 0xa8fb, 0xa953, 0xa954, 0xa9c0, 0xa9c1,
   0xd7b0, 0xd7c7, 0xd7cb, 0xd7fc, 0xffa0, 0xffa1, 0xfff0, 0xfff9, 0x111c0, 0x111c1, 0x111c2,
   0x111c4, 0x11235, 0x11236, 0x1133e, 0x1133f, 0x1134d, 0x1134e, 0x11357, 0x11358, 0x113b8,
   0x113b9, 0x113c2, 0x113c3, 0x113c5, 0x113c6, 0x113c7, 0x113ca, 0x113cf, 0x113d0, 0x113d1,
   0x113d2, 0x114b0, 0x114b1, 0x114bd, 0x114be, 0x115af, 0x115b0, 0x116b6, 0x116b7, 0x11930,
   0x11931, 0x1193d, 0x1193e, 0x1193f, 0x11940, 0x11941, 0x11942, 0x11a84, 0x11a8a, 0x11d46,
   0x11d47, 0x11f02, 0x11f03, 0x11f41, 0x11f42, 0x16ff0, 0x16ff2, 0x1d165, 0x1d167, 0x1d16d,
   0x1d173, 0x1d250, 0x1d253, 0x1d25f, 0x1d260, 0x1d280, 0x1d282, 0xe0000, 0xe0001, 0xe0002,
   0xe0020, 0xe0080, 0xe0100, 0xe01f0, 0xe1000]

/-- Whether a character without a column leaves the lam and alef around it joined. -/
def isTransparent (c : Char) : Bool := charWidth c = 0 && !inBounds breakingBounds c.toNat

/-- Whether a character is an ignorable mark, which leaves the ligature around it as it is. -/
def isIgnorableMark (c : Char) : Bool :=
  inBounds [0x34f, 0x350, 0x17b4, 0x17b6, 0x180b, 0x180e, 0x180f, 0x1810,
    0xfe00, 0xfe10, 0xe0100, 0xe01f0] c.toNat

/-! ### What follows a character -/

/-- A character that asks for a form of the character before it. -/
inductive Selector where
  | picture
  | text
  | fullwidth
  deriving DecidableEq, Repr

/-- The selector that a character is. -/
def Selector.ofChar? (c : Char) : Option Selector :=
  if c = '\uFE0F' then some .picture
  else if c = '\uFE0E' then some .text
  else if c = '\uFE01' then some .fullwidth
  else none

/-- The end of a possible ligature. Some need a joiner in front of them. -/
inductive Link where
  | alef
  | lamed (joined : Bool)
  | ya (joined : Bool)
  /-- A joined ya with the Buginese vowel sign i in front of it. -/
  | yaSyllable
  | consonant (joined : Bool)
  /-- A Tifinagh consonant with the consonant joiner in front of it. -/
  | joinedConsonant
  | tone
  | rune (joined : Bool)
  | subscriptLetter
  deriving DecidableEq, Repr

/-- A link with a joiner in front of it. -/
def Link.join : Link → Link
  | lamed _ => lamed true
  | ya _ => ya true
  | consonant _ => consonant true
  | rune _ => rune true
  | link => link

/-- What stands after a character, selectors apart. -/
inductive Ahead where
  /-- Nothing that changes the character. -/
  | nothing
  | link (link : Link)
  /-- The Kirat Rai vowel sign e. -/
  | vowelE
  /-- The Kirat Rai vowel sign ai, or the two signs that it consists of. -/
  | vowelAi
  /-- A picture. -/
  | picture
  | skinTone
  | flagHalf
  | flagHalves
  /-- A picture with a joiner in front of it. -/
  | joined
  /-- A joined picture with the enclosing keycap in front of it. -/
  | joinedKeycap
  /-- A joined picture with one half of a flag in front of it. -/
  | joinedHalf
  /-- A joined picture with whole flags in front of it. -/
  | joinedEven
  /-- A joined picture with half a flag beside whole ones in front of it. -/
  | joinedOdd
  /-- A joined picture with the last so many letters of a tag in front of it. -/
  | tagLetters (count : Nat)
  /-- A joined picture with the last so many digits of a tag in front of it, and perhaps letters
  behind them. -/
  | tagDigits (count : Nat)
  deriving DecidableEq, Repr

/-- What a character is for the one in front of it. -/
def Ahead.ofChar (c : Char) : Ahead :=
  if isAlef c then .link .alef
  else if c = '\u05DC' then .link (.lamed false)
  else if c = '\u1A10' then .link (.ya false)
  else if isTifinaghConsonant c then .link (.consonant false)
  else if c = '\uA4FC' || c = '\uA4FD' then .link .tone
  else if c.val = 0x10C03 then .link (.rune false)
  else if isSubscriptLetter c then .link .subscriptLetter
  else if c.val = 0x16D67 then .vowelE
  else if c.val = 0x16D68 then .vowelAi
  else if isSkinTone c then .skinTone
  else if isFlagHalf c then .flagHalf
  else if isPictured c then .picture
  else .nothing

/-- What stands after a character. -/
structure Following where
  selector : Option Selector
  ahead : Ahead
  deriving DecidableEq, Repr

namespace Following

/-- Nothing that changes the character. -/
def nothing : Following := ⟨none, .nothing⟩

/-- Something without a selector in front of it. -/
def of (ahead : Ahead) : Following := ⟨none, ahead⟩

/-- Puts a selector in front. A ligature is made across selectors, and a joined picture across one
that asks for a picture. -/
def select (following : Following) (selector : Selector) : Following :=
  match following.ahead, selector with
  | .link link, _ => ⟨some selector, .link link⟩
  | .joined, .picture => ⟨some .picture, .joined⟩
  | .joinedKeycap, .picture => ⟨some .picture, .joinedKeycap⟩
  | _, _ => ⟨some selector, .nothing⟩

/-- What is left when a character in front has no picture: only a ligature is still possible. -/
def withoutPicture (following : Following) : Following :=
  match following.selector, following.ahead with
  | some .picture, .link link => of (.link link)
  | some .picture, _ => nothing
  | _, _ => following

end Following

/-! ### Adding a character -/

/-- The columns that a character adds, and what it is, with what follows it, for the character in
front. -/
abbrev Placement := Int × Following

/-- A character that stands for itself. -/
def alone (c : Char) : Placement := (charWidth c, .of (.ofChar c))

/-- A character in front of the end of a possible ligature. -/
def beforeLink (c : Char) (link : Link) : Placement :=
  if link ≠ .alef ∧ c = joiner then (0, .of (.link link.join))
  else if link ≠ .alef ∧ isIgnorableMark c then (0, .of (.link link))
  else match link with
    | .alef =>
      if isLam c then (0, .nothing)
      else if isTransparent c then (0, .of (.link .alef))
      else alone c
    | .lamed true => if c = '\u05D0' then (0, .nothing) else alone c
    | .ya true => if c = '\u1A17' then (0, .of (.link .yaSyllable)) else alone c
    | .yaSyllable => if c = '\u1A15' then (0, .nothing) else alone c
    | .consonant joined =>
      if c = '\u2D7F' then (1, .of (.link .joinedConsonant))
      else if joined && isTifinaghConsonant c then (0, .nothing)
      else alone c
    -- The consonant joiner has a column only where it joins nothing.
    | .joinedConsonant => if isTifinaghConsonant c then (-1, .nothing) else alone c
    | .tone => if '\uA4F8' ≤ c && c ≤ '\uA4FB' then (0, .nothing) else alone c
    | .rune true => if c.val = 0x10C32 then (0, .nothing) else alone c
    | .subscriptLetter => if c = '\u17D2' then (-1, .nothing) else alone c
    | _ => alone c

/-- A character in front of a tag whose end has been seen. -/
def beforeTag (c : Char) (letters digits : Nat) : Placement :=
  if digits = 0 && isTagLetter c && letters < 6 then (0, .of (.tagLetters (letters + 1)))
  else if digits = 0 && isTagDigit c && letters < 5 then (0, .of (.tagDigits 1))
  else if isTagDigit c && 0 < digits && digits < 3 then (0, .of (.tagDigits (digits + 1)))
  else if c.val = 0x1F3F4 && (digits = 3 || digits = 0 && 3 ≤ letters) then (0, .of .picture)
  else alone c

/-- A character in front of what follows it, selectors apart. -/
def beforeAhead (c : Char) : Ahead → Placement
  | .nothing | .joinedKeycap => alone c
  | .link link => beforeLink c link
  | .vowelE =>
    if c.val = 0x16D63 || c.val = 0x16D69 then (0, .nothing)
    else if c.val = 0x16D67 then (0, .of .vowelAi)
    else if c.val = 0x16D68 then (1, .of .vowelE)
    else alone c
  | .vowelAi => if c.val = 0x16D63 then (0, .nothing) else alone c
  | .picture => if c = joiner then (0, .of .joined) else alone c
  | .skinTone =>
    if isModifiable c then (0, .of .picture)
    else if c = joiner then (0, .of .joined)
    else alone c
  | .flagHalf => if isFlagHalf c then (1, .of .flagHalves) else alone c
  | .flagHalves =>
    if isFlagHalf c then (1, .of .flagHalves)
    else if c = joiner then (0, .of .joined)
    else alone c
  | .joined =>
    if c = '\u20E3' then (0, .of .joinedKeycap)
    else if isFlagHalf c then (1, .of .joinedHalf)
    else if isSkinTone c then (0, .of .skinTone)
    else if c.val = 0xE007F then (0, .of (.tagLetters 0))
    else if isPictured c then (0, .of .picture)
    else alone c
  | .joinedHalf => if isFlagHalf c then (-1, .of .joinedEven) else alone c
  | .joinedEven =>
    if isFlagHalf c then (3, .of .joinedOdd)
    else if c = joiner then (0, .of .joined)
    else alone c
  | .joinedOdd =>
    if isFlagHalf c then (-1, .of .joinedEven)
    else if c = joiner then (0, .of .joined)
    else alone c
  | .tagLetters count => beforeTag c count 0
  | .tagDigits count => beforeTag c 0 count

/-- A character in front of what follows it. -/
def placed (c : Char) (following : Following) : Placement :=
  if following.selector = some .picture ∧ hasPictureForm c then
    (if following.ahead = .joined ∨ following.ahead = .joinedKeycap then 0 else 2, .of .picture)
  else
    let following := following.withoutPicture
    if c.val < 0xA1 then (1, .nothing)
    else match Selector.ofChar? c with
      | some selector => (0, following.select selector)
      | none =>
        if following.selector = some .text ∧ hasTextForm c then (1, .nothing)
        else if following.selector = some .fullwidth ∧ isQuotationMark c then (2, .nothing)
        else beforeAhead c following.ahead

/-- The columns of a list of characters, and what they are for a character in front. -/
def measure : List Char → Placement
  | [] => (0, .nothing)
  | c :: rest =>
    let (columns, following) := measure rest
    let (own, next) := placed c following
    (own + columns, next)

/-- The columns of a text. -/
def width (s : String) : Nat := (measure s.toList).1.toNat

end Exposure.Text
