import FramedWire.Text.CharWidth
import FramedWire.Text.Emoji

/-!
# Display width

How many columns of a terminal a line takes. A character mostly takes its own width, but some
are drawn together with others: emoji with skin tones and with other emoji, signs whose style
is selected, flags, and the ligatures of a few scripts. What becomes of a character hangs on
what stands after it, so a line is measured from its end, and `Lead` says of the part that has
been measured what a character put before it needs to know.
-/
namespace FramedWire.Text

/-- A pair of letters drawn as one, named for its second letter. -/
inductive Ligature where
  | lamed
  | khmer
  | ya
  /-- The Buginese vowel sign, joined to the letter ya. -/
  | iYa
  | tifinagh
  /-- A Tifinagh consonant behind the consonant joiner. -/
  | tifinaghJoined
  | lisuTone
  | turkicI
deriving DecidableEq, Repr

/-- How a text begins, as far as a character put before it can tell. -/
inductive Lead where
  | plain
  | alef
  /-- The second letter of a ligature; whether a joiner stands before it. -/
  | ligature (second : Ligature) (joined : Bool)
  | kiratE
  | kiratAi
  | emoji
  | modifier
  /-- A letter of a flag; whether another one follows. -/
  | indicator (more : Bool)
  /-- A joiner and an emoji. -/
  | joinedEmoji
  /-- A keycap, joined to an emoji. -/
  | joinedKeycap
  /-- Letters of flags, joined to an emoji; whether their number is odd. -/
  | joinedIndicators (odd : Bool)
  /-- The end of a tag, joined to an emoji: so many letters, and so many digits before them. -/
  | joinedTag (digits letters : Nat)
deriving DecidableEq, Repr

/-- A selector of the style of the character before it. -/
inductive Selector where
  | emoji
  | text
  /-- Quotation marks as wide as an ideograph. -/
  | wideQuote
deriving DecidableEq, Repr

def selector? (c : Char) : Option Selector :=
  let n := c.toNat
  if n = 0xFE0F then some .emoji
  else if n = 0xFE0E then some .text
  else if n = 0xFE01 then some .wideQuote
  else none

def isJoiner (c : Char) : Bool := c.toNat = 0x200D

def isTifinagh (c : Char) : Bool :=
  (0x2D31 ≤ c.toNat && c.toNat ≤ 0x2D65) || c.toNat = 0x2D6F

/-- The Khmer letters whose subscript form stays below the letter that carries it. -/
def khmerBelowRanges : CodePoints :=
  [(0x1780, 0x1782), (0x1784, 0x1787), (0x1789, 0x178C), (0x178E, 0x1793), (0x1795, 0x1798),
   (0x179B, 0x179D), (0x17A0, 0x17A0), (0x17A2, 0x17A2), (0x17A7, 0x17A7), (0x17AB, 0x17AC),
   (0x17AF, 0x17AF)]

def alefRanges : CodePoints :=
  [(0x622, 0x623), (0x625, 0x625), (0x627, 0x627), (0x671, 0x673), (0x675, 0x675),
   (0x773, 0x774), (0x870, 0x882)]

def lamRanges : CodePoints :=
  [(0x644, 0x644), (0x6B5, 0x6B8), (0x76A, 0x76A), (0x8A6, 0x8A6), (0x8C7, 0x8C7)]

/-- What a text begins with once a character that joins nothing is put before it. -/
def Lead.of (c : Char) : Lead :=
  let n := c.toNat
  if n < 0x300 then .plain
  else if n = 0x5DC then .ligature .lamed false
  else if alefRanges.has c then .alef
  else if khmerBelowRanges.has c then .ligature .khmer true
  else if n = 0x1A10 then .ligature .ya false
  else if isTifinagh c then .ligature .tifinagh false
  else if n = 0xA4FC ∨ n = 0xA4FD then .ligature .lisuTone true
  else if n = 0x10C03 then .ligature .turkicI false
  else if n = 0x16D67 then .kiratE
  else if n = 0x16D68 then .kiratAi
  else if isIndicator c then .indicator false
  else if isModifier c then .modifier
  else if isEmoji c then .emoji
  else .plain

/-- The lead that is still seen across a selector. Letters are seen through any; an emoji
joined to a sign is seen through the selector that makes an emoji of that sign. -/
def Lead.behind (s : Selector) : Lead → Lead
  | .alef => .alef
  | .ligature second joined => .ligature second joined
  | .joinedEmoji => if s = .emoji then .joinedEmoji else .plain
  | .joinedKeycap => if s = .emoji then .joinedKeycap else .plain
  | _ => .plain

/-- The beginning of a text: what stands there, and the selector before it. -/
structure Front where
  lead : Lead := .plain
  selector : Option Selector := none

/-- The lead once the selector before it has found nothing to select. -/
def Front.unselected (f : Front) : Lead :=
  match f.selector, f.lead with
  | some _, .joinedEmoji => .plain
  | some _, .joinedKeycap => .plain
  | _, lead => lead

/-- How many columns a character adds to those of the text after it, and the lead that it
leaves, if the selector between them applies to it. -/
def Front.select? (f : Front) (c : Char) : Option (Int × Lead) :=
  match f.selector with
  | some .emoji =>
    if hasEmojiStyle c then
      some (if f.lead = .joinedEmoji ∨ f.lead = .joinedKeycap then 0 else 2, .emoji)
    else none
  | some .text => if hasNarrowStyle c then some (1, .plain) else none
  | some .wideQuote =>
    let n := c.toNat
    if n = 0x2018 ∨ n = 0x2019 ∨ n = 0x201C ∨ n = 0x201D then some (2, .plain) else none
  | none => none

/-- How many columns a character adds that forms a ligature with the letter after it. The
columns of that letter are counted already, and so a subscript takes back one. -/
def Ligature.join? (second : Ligature) (joined : Bool) (c : Char) : Option (Int × Lead) :=
  let n := c.toNat
  match second with
  | .lamed => if joined ∧ n = 0x5D0 then some (0, .plain) else none
  | .khmer => if n = 0x17D2 then some (-1, .plain) else none
  | .ya => if joined ∧ n = 0x1A17 then some (0, .ligature .iYa true) else none
  | .iYa => if n = 0x1A15 then some (0, .plain) else none
  | .tifinagh =>
    if n = 0x2D7F then some (1, .ligature .tifinaghJoined true)
    else if joined ∧ isTifinagh c then some (0, .plain)
    else none
  | .tifinaghJoined => if isTifinagh c then some (-1, .plain) else none
  | .lisuTone => if 0xA4F8 ≤ n ∧ n ≤ 0xA4FB then some (0, .plain) else none
  | .turkicI => if joined ∧ n = 0x10C32 then some (0, .plain) else none

/-- How a joined tag goes on to the left: up to six letters, or three digits with at most
four letters after them. The flag before them takes no column if they name a region. -/
def joinTag? (digits letters : Nat) (c : Char) : Option (Int × Lead) :=
  let n := c.toNat
  if 0xE0061 ≤ n ∧ n ≤ 0xE007A then
    if digits = 0 ∧ letters < 6 then some (0, .joinedTag 0 (letters + 1)) else none
  else if 0xE0030 ≤ n ∧ n ≤ 0xE0039 then
    if digits < 3 ∧ letters ≤ 4 then some (0, .joinedTag (digits + 1) letters) else none
  else if n = 0x1F3F4 then
    if digits = 3 ∨ (digits = 0 ∧ 3 ≤ letters) then some (0, .emoji) else none
  else none

/-- How many columns a character adds that is drawn together with the text after it, and the
lead that it leaves. Two letters of a flag are one sign of two columns, and of none when the
flag is joined to an emoji; how they pair is known from the first of them only, so each
changes the count so far. -/
def Lead.join? (c : Char) : Lead → Option (Int × Lead)
  | .plain => none
  | .alef =>
    if lamRanges.has c then some (0, .plain)
    else if joinsAcross c then some (0, .alef)
    else none
  | .ligature second joined =>
    if isJoiner c then some (0, .ligature second true)
    else if isIgnorableMark c then some (0, .ligature second joined)
    else second.join? joined c
  | .kiratE =>
    let n := c.toNat
    if n = 0x16D63 ∨ n = 0x16D69 then some (0, .plain)
    else if n = 0x16D67 then some (0, .kiratAi)
    else if n = 0x16D68 then some (1, .kiratE)
    else none
  | .kiratAi => if c.toNat = 0x16D63 then some (0, .plain) else none
  | .emoji => if isJoiner c then some (0, .joinedEmoji) else none
  | .modifier =>
    if isModifierBase c then some (0, .emoji)
    else if isJoiner c then some (0, .joinedEmoji)
    else none
  | .indicator more =>
    if isIndicator c then some (1, .indicator true)
    else if more ∧ isJoiner c then some (0, .joinedEmoji)
    else none
  | .joinedEmoji =>
    if c.toNat = 0x20E3 then some (0, .joinedKeycap)
    else if isIndicator c then some (1, .joinedIndicators true)
    else if isModifier c then some (0, .modifier)
    else if c.toNat = 0xE007F then some (0, .joinedTag 0 0)
    else if isEmoji c then some (0, .emoji)
    else none
  | .joinedKeycap => none
  | .joinedIndicators odd =>
    if isIndicator c then
      if odd then some (-1, .joinedIndicators false) else some (3, .joinedIndicators true)
    else if !odd ∧ isJoiner c then some (0, .joinedEmoji)
    else none
  | .joinedTag digits letters => joinTag? digits letters c

/-- A measured text: its columns and its beginning. -/
structure Measured where
  columns : Int := 0
  front : Front := {}

namespace Measured

/-- Puts a character before a measured text. -/
def push (c : Char) (m : Measured) : Measured :=
  match m.front.select? c with
  | some (more, lead) => ⟨m.columns + more, ⟨lead, none⟩⟩
  | none =>
    let lead := m.front.unselected
    match selector? c with
    | some s => ⟨m.columns, ⟨lead.behind s, some s⟩⟩
    | none =>
      match lead.join? c with
      | some (more, lead) => ⟨m.columns + more, ⟨lead, none⟩⟩
      | none => ⟨m.columns + charWidth c, ⟨.of c, none⟩⟩

def of (cs : List Char) : Measured := cs.foldr push {}

end Measured

/-- The columns of a line. -/
def width (cs : List Char) : Nat := (Measured.of cs).columns.toNat

end FramedWire.Text
