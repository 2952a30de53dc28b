import SchemaDiscovery.Text.Ligature
import SchemaDiscovery.Text.Pictograph
/-!
The number of columns a line of text takes in a terminal. Characters that are drawn as one sign
count as one: pictures with a skin tone, a style or joined parts, flags, and the ligatures of
several scripts. The line is read from its end, because a sign is known by what stands last in it.
-/

namespace SchemaDiscovery.Text

/-- What a picture that a joiner precedes has before that joiner. -/
inductive JoinedTo
  | nothing
  | keycap
  | indicator
  | indicatorPairs
  | indicatorPairsAndOne
  | tagEnd (letters : Nat)
  | tagDigits (digits : Nat)
  deriving DecidableEq, Repr

/-- What stands behind a character, as far as it bears on the columns of that character. -/
inductive Behind
  | other
  | skinTone
  | indicator
  | indicators
  | picture
  | joinedPicture (before : JoinedTo)
  | alef
  /-- An odd number of Kirat Rai signs e, which pair up from the front. -/
  | oddSigns
  | evenSigns
  | ligature (last : LigatureEnd) (joined : Bool)
  deriving DecidableEq, Repr

/-- What stands behind a character, with the selectors between them. -/
structure Following where
  behind : Behind := .other
  pictureStyle : Bool := false
  textStyle : Bool := false
  wideQuote : Bool := false
  deriving DecidableEq, Repr

def Behind.isLetter : Behind → Bool
  | .alef | .ligature _ _ => true
  | _ => false

def Behind.isJoinedPicture : Behind → Bool
  | .joinedPicture .nothing | .joinedPicture .keycap => true
  | _ => false

def Following.selectPicture (next : Following) : Following :=
  if next.behind.isLetter || next.behind.isJoinedPicture then { next with pictureStyle := true }
  else { pictureStyle := true }

def Following.selectText (next : Following) : Following :=
  if next.behind.isLetter then { next with textStyle := true } else { textStyle := true }

def Following.selectWideQuote (next : Following) : Following :=
  if next.behind.isLetter then { next with wideQuote := true } else { wideQuote := true }

def Following.dropPicture (next : Following) : Following :=
  if !next.pictureStyle then next
  else if next.behind.isLetter then { next with pictureStyle := false }
  else {}

/-- What stands behind the character before `c` when `c` merges with nothing. -/
def behindOf (c : Char) : Behind :=
  if isAlef c then .alef
  else if isRegionalIndicator c then .indicator
  else if isSkinTone c then .skinTone
  else if isPictograph c then .picture
  else if c.toNat = 0x16D67 then .oddSigns
  else if c.toNat = 0x16D68 then .evenSigns
  else match ligatureEnd? c with
    | some last => .ligature last false
    | none => .other

def JoinedTo.extend? (c : Char) : JoinedTo → Option (Int × Behind)
  | .nothing =>
    if c.toNat = 0x20E3 then some (0, .joinedPicture .keycap)
    else if isRegionalIndicator c then some (1, .joinedPicture .indicator)
    else if isSkinTone c then some (0, .skinTone)
    else if isTagEnd c then some (0, .joinedPicture (.tagEnd 0))
    else if isPictograph c then some (0, .picture)
    else none
  | .keycap => none
  | .indicator =>
    if isRegionalIndicator c then some (-1, .joinedPicture .indicatorPairs) else none
  | .indicatorPairs =>
    if isRegionalIndicator c then some (3, .joinedPicture .indicatorPairsAndOne)
    else if isJoiner c then some (0, .joinedPicture .nothing)
    else none
  | .indicatorPairsAndOne =>
    if isRegionalIndicator c then some (-1, .joinedPicture .indicatorPairs)
    else if isJoiner c then some (0, .joinedPicture .nothing)
    else none
  | .tagEnd letters =>
    if isTagLetter c && letters < 6 then some (0, .joinedPicture (.tagEnd (letters + 1)))
    else if isTagDigit c && letters < 5 then some (0, .joinedPicture (.tagDigits 1))
    else if isTagBase c && 3 ≤ letters then some (0, .picture)
    else none
  | .tagDigits digits =>
    if isTagDigit c && digits < 3 then some (0, .joinedPicture (.tagDigits (digits + 1)))
    else if isTagBase c && digits = 3 then some (0, .picture)
    else none

def Behind.extend? (c : Char) : Behind → Option (Int × Behind)
  | .other => none
  | .skinTone =>
    if bearsSkinTone c then some (0, .picture)
    else if isJoiner c then some (0, .joinedPicture .nothing)
    else none
  | .indicator => if isRegionalIndicator c then some (1, .indicators) else none
  | .indicators =>
    if isRegionalIndicator c then some (1, .indicators)
    else if isJoiner c then some (0, .joinedPicture .nothing)
    else none
  | .picture => if isJoiner c then some (0, .joinedPicture .nothing) else none
  | .joinedPicture before => before.extend? c
  | .alef =>
    if isLam c then some (0, .other)
    else if joinsAcross c then some (0, .alef)
    else none
  | .oddSigns =>
    if c.toNat = 0x16D63 || c.toNat = 0x16D69 then some (0, .other)
    else if c.toNat = 0x16D67 then some (0, .evenSigns)
    else if c.toNat = 0x16D68 then some (1, .oddSigns)
    else none
  | .evenSigns => if c.toNat = 0x16D63 then some (0, .other) else none
  | .ligature last joined =>
    if isJoiner c then some (0, .ligature last true)
    else if isUnseenMark c then some (0, .ligature last joined)
    else (last.extend? joined c).map fun (added, rest) =>
      (added, rest.elim .other (.ligature · true))

def isCurlyQuote (c : Char) : Bool :=
  c.toNat == 0x2018 || c.toNat == 0x2019 || c.toNat == 0x201C || c.toNat == 0x201D

def placeBeyond (c : Char) (next : Following) : Int × Following :=
  if c.toNat = 0xFE0F then (0, next.selectPicture)
  else if c.toNat = 0xFE0E then (0, next.selectText)
  else if next.textStyle && narrowsAsText c then (1, {})
  else if c.toNat = 0xFE01 then (0, { next with textStyle := false }.selectWideQuote)
  else if next.wideQuote && isCurlyQuote c then (2, {})
  else
    match next.behind.extend? c with
    | some (added, behind) => (added, { behind := behind })
    | none => (columnsOf c, { behind := behindOf c })

/-- The columns that a character adds before what follows it, and what then follows the character
before it. -/
def place (c : Char) (next : Following) : Int × Following :=
  if next.pictureStyle && hasPictureStyle c then
    (if next.behind.isJoinedPicture then 0 else 2, { behind := .picture })
  else if c.toNat ≤ 0xA0 then (1, {})
  else placeBeyond c next.dropPicture

def columns (text : String) : Nat :=
  let (total, _) := text.toList.foldr
    (fun c (line : Int × Following) =>
      let (added, following) := place c line.2
      (line.1 + added, following))
    ((0, {}) : Int × Following)
  total.toNat

example : columns "漢字a" = 5 ∧ columns "1\uFE0F\u20E3" = 2 ∧ columns "\u0644\u0627" = 1 := by
  decide +kernel

end SchemaDiscovery.Text
