import SchemaDiscovery.Json.Token
/-!
Strings and times of TOML 1.1.
-/

namespace SchemaDiscovery.Toml

open Json (hexValue?)

def isBlank (c : Char) : Bool := c == ' ' || c == '\t'

/-- Control characters other than the tab stand nowhere but in line ends. -/
def isForbidden (c : Char) : Bool := c.toNat < 32 && c != '\t' || c.toNat == 127

def isPlainText (multiline : Bool) : List Char → Bool
  | [] => true
  | '\r' :: '\n' :: rest => multiline && isPlainText multiline rest
  | '\n' :: rest => multiline && isPlainText multiline rest
  | c :: rest => !isForbidden c && isPlainText multiline rest

def charOf? (n : Nat) : Option Char :=
  if h : n.isValidChar then some (Char.ofNatAux n h) else none

def hexNumber? (digits : List Char) : Option Nat :=
  digits.foldlM (fun n c => (hexValue? c).map (n * 16 + ·)) 0

def unescape : List Char → Option (List Char)
  | [] => some []
  | '\\' :: 'x' :: a :: b :: rest => do
    return (← charOf? (← hexNumber? [a, b])) :: (← unescape rest)
  | '\\' :: 'u' :: a :: b :: c :: d :: rest => do
    return (← charOf? (← hexNumber? [a, b, c, d])) :: (← unescape rest)
  | '\\' :: 'U' :: a :: b :: c :: d :: e :: f :: g :: h :: rest => do
    return (← charOf? (← hexNumber? [a, b, c, d, e, f, g, h])) :: (← unescape rest)
  | '\\' :: c :: rest => do
    let spelled ← match c with
      | 'b' => some '\x08'
      | 't' => some '\t'
      | 'n' => some '\n'
      | 'f' => some '\x0c'
      | 'r' => some '\r'
      | 'e' => some '\x1b'
      | '"' => some '"'
      | '\\' => some '\\'
      | _ => none
    return spelled :: (← unescape rest)
  | c :: rest => if c = '\\' then none else (unescape rest).map (c :: ·)

def isGap (c : Char) : Bool := isBlank c || c == '\n' || c == '\r'

def endsLine (text : List Char) : Bool :=
  match text.dropWhile isBlank with
  | '\n' :: _ => true
  | '\r' :: '\n' :: _ => true
  | _ => false

/-- Leaves out each backslash at the end of a line with the gap that follows it. -/
def joinLines (skipping : Bool) : List Char → List Char
  | [] => []
  | '\\' :: '\\' :: rest => '\\' :: '\\' :: joinLines false rest
  | c :: rest =>
    if skipping && isGap c then joinLines true rest
    else if c = '\\' && endsLine rest then joinLines true rest
    else c :: joinLines false rest

def spanLine (quote : Char) (escapes : Bool) : List Char → Option (List Char × List Char)
  | [] => none
  | c :: rest =>
    if c = quote then some ([], rest)
    else
      match escapes && c == '\\', rest with
      | true, d :: rest =>
        (spanLine quote escapes rest).map fun (body, after) => (c :: d :: body, after)
      | _, rest => (spanLine quote escapes rest).map fun (body, after) => (c :: body, after)

/-- The body of a string on several lines, up to its three quotes, and the rest. Up to two quotes
more belong to the body. -/
def spanLines (quote : Char) (escapes : Bool) : List Char → Option (List Char × List Char)
  | [] => none
  | c :: rest =>
    if [quote, quote, quote].isPrefixOf (c :: rest) then
      let extra := (rest.drop 2).take 2 |>.takeWhile (· == quote)
      some (extra, (rest.drop 2).drop extra.length)
    else
      match escapes && c == '\\', rest with
      | true, d :: rest =>
        (spanLines quote escapes rest).map fun (body, after) => (c :: d :: body, after)
      | _, rest => (spanLines quote escapes rest).map fun (body, after) => (c :: body, after)

/-- A line end right after the opening quotes is no part of the string. -/
def dropFirstLineEnd : List Char → List Char
  | '\n' :: rest => rest
  | '\r' :: '\n' :: rest => rest
  | text => text

def stringOf? (quote : Char) (multiline : Bool) (body : List Char) : Option String :=
  if !isPlainText multiline body then none
  else if quote = '\'' then some (String.ofList body)
  else (unescape (if multiline then joinLines false body else body)).map String.ofList

def readString (quote : Char) (multilineAllowed : Bool) (text : List Char) :
    Option (String × List Char) := do
  let escapes := quote == '"'
  if multilineAllowed && [quote, quote, quote].isPrefixOf text then
    let (body, rest) ← spanLines quote escapes (dropFirstLineEnd (text.drop 3))
    return (← stringOf? quote true body, rest)
  else
    let (body, rest) ← spanLine quote escapes (text.drop 1)
    return (← stringOf? quote false body, rest)

def twoDigits? (a b : Char) : Option Nat :=
  if a.isDigit && b.isDigit then some (Decimal.digitsValue 0 [a, b]) else none

def daysIn (year month : Nat) : Nat :=
  if month = 2 then
    if year % 4 = 0 ∧ (year % 100 ≠ 0 ∨ year % 400 = 0) then 29 else 28
  else if month = 4 ∨ month = 6 ∨ month = 9 ∨ month = 11 then 30
  else 31

def afterDate? : List Char → Option (List Char)
  | y :: y' :: y'' :: y''' :: '-' :: m :: m' :: '-' :: d :: d' :: rest => do
    let year := (← twoDigits? y y') * 100 + (← twoDigits? y'' y''')
    let month ← twoDigits? m m'
    let day ← twoDigits? d d'
    if 1 ≤ month ∧ month ≤ 12 ∧ 1 ≤ day ∧ day ≤ daysIn year month then some rest else none
  | _ => none

def afterFraction? : List Char → Option (List Char)
  | '.' :: rest =>
    if rest.head?.any Char.isDigit then some (rest.dropWhile Char.isDigit) else none
  | text => some text

/-- What follows a time at the front of a text; the seconds may be left out. -/
def afterTime? : List Char → Option (List Char)
  | h :: h' :: ':' :: m :: m' :: rest => do
    let hour ← twoDigits? h h'
    let minute ← twoDigits? m m'
    if 23 < hour ∨ 59 < minute then none
    else
      match rest with
      | ':' :: s :: s' :: rest => do
        if 60 < (← twoDigits? s s') then none else afterFraction? rest
      | rest => some rest
  | _ => none

def isOffset : List Char → Bool
  | [] => true
  | ['Z'] => true
  | ['z'] => true
  | sign :: text =>
    (sign == '+' || sign == '-') && text.length == 5 && afterTime? text == some []

def isDateTime (text : List Char) : Bool :=
  match afterDate? text with
  | some [] => true
  | some (separator :: time) =>
    (separator == 'T' || separator == 't' || separator == ' ') &&
      (afterTime? time).any isOffset
  | none => afterTime? text == some []

end SchemaDiscovery.Toml
