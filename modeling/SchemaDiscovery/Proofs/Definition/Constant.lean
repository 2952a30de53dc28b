import SchemaDiscovery.Json.Token
import SchemaDiscovery.Name
/-!
Constant values as a reader of schema text takes them: numerals, strings and block strings, names,
lists and objects, with white space, commas and comments between the tokens left out. Main statement:
whatever is read has legal names only.
-/

namespace SchemaDiscovery

open Decimal (digitsValue)

/-- A constant value. A number with a fraction or an exponent is kept as it is written. -/
inductive Constant
  | null
  | bool (value : Bool)
  | int (value : Int)
  | float (numeral : List Char)
  | string (value : String)
  | enum (name : String)
  | list (items : List Constant)
  | object (members : List (String × Constant))

namespace Constant

def reserved : List String := ["null", "true", "false"]

def ofName (name : String) : Constant :=
  if name = "null" then .null
  else if name = "true" then .bool true
  else if name = "false" then .bool false
  else .enum name

inductive Token
  | beginList
  | endList
  | beginObject
  | endObject
  | colon
  | name (name : String)
  | int (value : Int)
  | float (numeral : List Char)
  | string (value : String)

def isLineEnd (c : Char) : Bool := c == '\n' || c == '\r'

def isIgnored (c : Char) : Bool := Json.isSpace c || c == ',' || c == '\uFEFF'

/-! ### Numerals -/

def readSign : List Char → List Char × List Char
  | '-' :: text => (['-'], text)
  | text => ([], text)

def readWhole : List Char → List Char × List Char
  | '0' :: text => (['0'], text)
  | text => Json.splitDigits text

def readFraction : List Char → List Char × List Char
  | '.' :: text =>
    let (digits, rest) := Json.splitDigits text
    if digits.isEmpty then ([], '.' :: text) else ('.' :: digits, rest)
  | text => ([], text)

def readExponentSign : List Char → List Char × List Char
  | '-' :: text => (['-'], text)
  | '+' :: text => (['+'], text)
  | text => ([], text)

def readExponent : List Char → List Char × List Char
  | [] => ([], [])
  | e :: text =>
    let (sign, unsigned) := readExponentSign text
    let (digits, rest) := Json.splitDigits unsigned
    if (e == 'e' || e == 'E') && !digits.isEmpty then (e :: sign ++ digits, rest)
    else ([], e :: text)

def endsNumeral (text : List Char) : Bool := text.head?.all fun c => !isNameChar c && c != '.'

def readNumeral (text : List Char) : Option (Token × List Char) :=
  let (sign, text) := readSign text
  let (whole, text) := readWhole text
  let (fraction, text) := readFraction text
  let (exponent, text) := readExponent text
  if whole.isEmpty || !endsNumeral text then none
  else if fraction.isEmpty && exponent.isEmpty then
    let n : Int := digitsValue 0 whole
    some (.int (if sign.isEmpty then n else -n), text)
  else some (.float (sign ++ whole ++ fraction ++ exponent), text)

/-! ### Strings -/

def escaped? : Char → Option Nat
  | '"' => some '"'.toNat
  | '\\' => some '\\'.toNat
  | '/' => some '/'.toNat
  | 'b' => some 8
  | 'f' => some 12
  | 'n' => some 10
  | 'r' => some 13
  | 't' => some 9
  | _ => none

def hexPoint? (a b c d : Char) : Option Nat := do
  return (((← Json.hexValue? a) * 16 + (← Json.hexValue? b)) * 16 + (← Json.hexValue? c)) * 16 +
    (← Json.hexValue? d)

def readPoints : List Char → Option (List Nat × List Char)
  | [] => none
  | '"' :: rest => some ([], rest)
  | '\\' :: 'u' :: a :: b :: c :: d :: rest => do
    let point ← hexPoint? a b c d
    let (points, after) ← readPoints rest
    return (point :: points, after)
  | '\\' :: c :: rest => do
    let point ← escaped? c
    let (points, after) ← readPoints rest
    return (point :: points, after)
  | c :: rest =>
    if isLineEnd c then none
    else (readPoints rest).map fun (points, after) => (c.toNat :: points, after)

def readString (text : List Char) : Option (Token × List Char) := do
  let (points, rest) ← readPoints text
  return (.string (String.ofList (← Json.joinSurrogates points)), rest)

def spanBlock : List Char → Option (List Char × List Char)
  | [] => none
  | '"' :: '"' :: '"' :: rest => some ([], rest)
  | '\\' :: '"' :: '"' :: '"' :: rest =>
    (spanBlock rest).map fun (body, after) => ('"' :: '"' :: '"' :: body, after)
  | c :: rest => (spanBlock rest).map fun (body, after) => (c :: body, after)

def linesOf : List Char → List (List Char)
  | [] => [[]]
  | '\r' :: '\n' :: rest => [] :: linesOf rest
  | c :: rest =>
    if isLineEnd c then [] :: linesOf rest
    else
      match linesOf rest with
      | [] => [[c]]
      | line :: lines => (c :: line) :: lines

def isIndent (c : Char) : Bool := c == ' ' || c == '\t'

/-- The lines without the indentation that all but the first have in common, and without the blank ones at
either end. -/
def blockLines (lines : List (List Char)) : List (List Char) :=
  let indented := lines.tail.filter (!·.all isIndent)
  let indent := ((indented.map fun line => (line.takeWhile isIndent).length).min?).getD 0
  let cut := lines.take 1 ++ lines.tail.map (·.drop indent)
  let fromFirst := cut.dropWhile (·.all isIndent)
  (fromFirst.reverse.dropWhile (·.all isIndent)).reverse

def readBlock (text : List Char) : Option (Token × List Char) := do
  let (body, rest) ← spanBlock text
  return (.string (String.ofList (['\n'].intercalate (blockLines (linesOf body)))), rest)

/-! ### Tokens -/

def readName (c : Char) (text : List Char) : Token × List Char :=
  (.name (String.ofList (c :: text.takeWhile isNameChar)), text.dropWhile isNameChar)

def readToken : List Char → Option (Token × List Char)
  | [] => none
  | '[' :: rest => some (.beginList, rest)
  | ']' :: rest => some (.endList, rest)
  | '\x7b' :: rest => some (.beginObject, rest)
  | '\x7d' :: rest => some (.endObject, rest)
  | ':' :: rest => some (.colon, rest)
  | '"' :: '"' :: '"' :: rest => readBlock rest
  | '"' :: rest => readString rest
  | c :: rest => if isNameStart c then some (readName c rest) else readNumeral (c :: rest)

/-- An open list or object with what it holds so far, in reverse; a key waits for its colon, a member for
its value. -/
inductive Frame
  | list (items : List Constant)
  | object (members : List (String × Constant))
  | key (members : List (String × Constant)) (name : String)
  | member (members : List (String × Constant)) (name : String)

inductive Progress
  | within (stack : List Frame)
  | complete (constant : Constant)

def deliver (constant : Constant) : List Frame → Option Progress
  | [] => some (.complete constant)
  | .list items :: stack => some (.within (.list (constant :: items) :: stack))
  | .member members name :: stack =>
    some (.within (.object ((name, constant) :: members) :: stack))
  | _ => none

def Progress.step : Progress → Token → Option Progress
  | .within (.object members :: stack), .name name => some (.within (.key members name :: stack))
  | .within (.key members name :: stack), .colon => some (.within (.member members name :: stack))
  | .within (.list items :: stack), .endList => deliver (.list items.reverse) stack
  | .within (.object members :: stack), .endObject => deliver (.object members.reverse) stack
  | .within stack, .beginList => some (.within (.list [] :: stack))
  | .within stack, .beginObject => some (.within (.object [] :: stack))
  | .within stack, .name name => deliver (ofName name) stack
  | .within stack, .int n => deliver (.int n) stack
  | .within stack, .float numeral => deliver (.float numeral) stack
  | .within stack, .string s => deliver (.string s) stack
  | _, _ => none

def readOn : Nat → Progress → List Char → Option Progress
  | _, progress, [] => some progress
  | 0, _, _ :: _ => none
  | limit + 1, progress, c :: rest =>
    if isIgnored c then readOn limit progress rest
    else if c = '#' then readOn limit progress (rest.dropWhile (!isLineEnd ·))
    else do
      let (token, after) ← readToken (c :: rest)
      readOn limit (← progress.step token) after

def read? (text : List Char) : Option Constant := do
  match ← readOn text.length (.within []) text with
  | .complete constant => some constant
  | .within _ => none

/-! ### Legal names -/

/-- The keys and the enum members in the constant are legal names, and no member is one that stands for
another value. -/
inductive IsLegal : Constant → Prop
  | null : IsLegal .null
  | bool (b : Bool) : IsLegal (.bool b)
  | int (n : Int) : IsLegal (.int n)
  | float (numeral : List Char) : IsLegal (.float numeral)
  | string (s : String) : IsLegal (.string s)
  | enum {name : String} (legal : isLegalName name = true) (free : name ∉ reserved) :
    IsLegal (.enum name)
  | list {items : List Constant} (each : ∀ item ∈ items, IsLegal item) : IsLegal (.list items)
  | object {members : List (String × Constant)}
    (keys : ∀ member ∈ members, isLegalName member.1 = true)
    (each : ∀ member ∈ members, IsLegal member.2) : IsLegal (.object members)

theorem ofName_of_free {name : String} (free : name ∉ reserved) : ofName name = .enum name := by
  simp only [reserved, List.mem_cons, List.not_mem_nil, or_false, not_or] at free
  obtain ⟨null, true, false⟩ := free
  rw [ofName, if_neg null, if_neg true, if_neg false]

theorem isLegal_ofName {name : String} (legal : isLegalName name = true) : (ofName name).IsLegal := by
  by_cases free : name ∈ reserved
  · simp only [reserved, List.mem_cons, List.not_mem_nil, or_false] at free
    rcases free with rfl | rfl | rfl
    · exact .null
    · exact .bool true
    · exact .bool false
  · rw [ofName_of_free free]
    exact .enum legal free

def Token.IsLegal : Token → Prop
  | .name called => isLegalName called = true
  | _ => True

theorem isLegal_readName {c : Char} (start : isNameStart c = true) (text : List Char) :
    (readName c text).1.IsLegal := by
  show isLegalName (String.ofList (c :: text.takeWhile isNameChar)) = true
  rw [isLegalName, String.toList_ofList, isLegalNameText, start, Bool.true_and]
  exact List.all_takeWhile

theorem isLegal_readNumeral {text rest : List Char} {token : Token}
    (read : readNumeral text = some (token, rest)) : token.IsLegal := by
  unfold readNumeral at read
  dsimp only at read
  split at read
  · cases read
  · split at read
    · cases read
      trivial
    · cases read
      trivial

theorem isLegal_readString {text rest : List Char} {token : Token}
    (read : readString text = some (token, rest)) : token.IsLegal := by
  obtain ⟨⟨points, after⟩, -, read⟩ := Option.bind_eq_some_iff.1 read
  obtain ⟨contents, -, same⟩ := Option.bind_eq_some_iff.1 read
  cases same
  trivial

theorem isLegal_readBlock {text rest : List Char} {token : Token}
    (read : readBlock text = some (token, rest)) : token.IsLegal := by
  obtain ⟨⟨body, after⟩, -, same⟩ := Option.bind_eq_some_iff.1 read
  cases same
  trivial

theorem isLegal_readToken {text rest : List Char} {token : Token}
    (read : readToken text = some (token, rest)) : token.IsLegal := by
  unfold readToken at read
  split at read
  case h_7 => exact isLegal_readBlock read
  case h_8 => exact isLegal_readString read
  case h_9 =>
    split at read
    · next start =>
      have legal := isLegal_readName start
      cases read
      exact legal _
    · exact isLegal_readNumeral read
  all_goals
    cases read
  all_goals trivial

def Frame.IsLegal : Frame → Prop
  | .list items => ∀ item ∈ items, item.IsLegal
  | .object members => ∀ member ∈ members, isLegalName member.1 = true ∧ member.2.IsLegal
  | .key members name =>
    isLegalName name = true ∧ ∀ member ∈ members, isLegalName member.1 = true ∧ member.2.IsLegal
  | .member members name =>
    isLegalName name = true ∧ ∀ member ∈ members, isLegalName member.1 = true ∧ member.2.IsLegal

def Progress.IsLegal : Progress → Prop
  | .within stack => ∀ frame ∈ stack, frame.IsLegal
  | .complete constant => constant.IsLegal

theorem isLegal_deliver {constant : Constant} {stack : List Frame} {after : Progress}
    (legal : constant.IsLegal) (outer : ∀ frame ∈ stack, frame.IsLegal)
    (delivered : deliver constant stack = some after) : after.IsLegal := by
  unfold deliver at delivered
  split at delivered
  · cases delivered
    exact legal
  · cases delivered
    obtain ⟨inner, outer⟩ := List.forall_mem_cons.1 outer
    exact List.forall_mem_cons.2 ⟨List.forall_mem_cons.2 ⟨legal, inner⟩, outer⟩
  · cases delivered
    obtain ⟨⟨named, inner⟩, outer⟩ := List.forall_mem_cons.1 outer
    exact List.forall_mem_cons.2 ⟨List.forall_mem_cons.2 ⟨⟨named, legal⟩, inner⟩, outer⟩
  · cases delivered

theorem isLegal_step {before after : Progress} {token : Token} (legal : before.IsLegal)
    (named : token.IsLegal) (stepped : before.step token = some after) : after.IsLegal := by
  unfold Progress.step at stepped
  split at stepped
  case h_1 =>
    cases stepped
    obtain ⟨inner, outer⟩ := List.forall_mem_cons.1 legal
    exact List.forall_mem_cons.2 ⟨⟨named, inner⟩, outer⟩
  case h_2 =>
    cases stepped
    obtain ⟨inner, outer⟩ := List.forall_mem_cons.1 legal
    exact List.forall_mem_cons.2 ⟨inner, outer⟩
  case h_3 =>
    obtain ⟨inner, outer⟩ := List.forall_mem_cons.1 legal
    exact isLegal_deliver (.list fun item member => inner item (List.mem_reverse.1 member)) outer
      stepped
  case h_4 =>
    obtain ⟨inner, outer⟩ := List.forall_mem_cons.1 legal
    refine isLegal_deliver (.object (fun member listed => ?_) fun member listed => ?_) outer stepped
    · exact (inner member (List.mem_reverse.1 listed)).1
    · exact (inner member (List.mem_reverse.1 listed)).2
  case h_5 =>
    cases stepped
    exact List.forall_mem_cons.2 ⟨nofun, legal⟩
  case h_6 =>
    cases stepped
    exact List.forall_mem_cons.2 ⟨nofun, legal⟩
  case h_7 => exact isLegal_deliver (isLegal_ofName named) legal stepped
  case h_8 => exact isLegal_deliver (.int _) legal stepped
  case h_9 => exact isLegal_deliver (.float _) legal stepped
  case h_10 => exact isLegal_deliver (.string _) legal stepped
  case h_11 => cases stepped

theorem isLegal_readOn {limit : Nat} {before after : Progress} {text : List Char}
    (legal : before.IsLegal) (read : readOn limit before text = some after) : after.IsLegal := by
  fun_induction readOn limit before text with
  | case1 =>
    cases read
    exact legal
  | case2 => cases read
  | case3 limit progress c rest ignored ih => exact ih legal read
  | case4 limit progress rest ignored ih => exact ih legal read
  | case5 limit progress c rest ignored comment ih =>
    obtain ⟨⟨token, after⟩, first, read⟩ := Option.bind_eq_some_iff.1 read
    obtain ⟨between, stepped, read⟩ := Option.bind_eq_some_iff.1 read
    exact ih _ _ (isLegal_step legal (isLegal_readToken first) stepped) read

theorem isLegal_of_read {text : List Char} {constant : Constant} (read : read? text = some constant) :
    constant.IsLegal := by
  obtain ⟨after, whole, complete⟩ := Option.bind_eq_some_iff.1 read
  have start : (Progress.within []).IsLegal := nofun
  have legal := isLegal_readOn start whole
  cases after with
  | complete other =>
    cases complete
    exact legal
  | within stack => cases complete

end Constant

end SchemaDiscovery
