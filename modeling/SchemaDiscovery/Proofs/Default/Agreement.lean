import SchemaDiscovery.Proofs.Default.Conformance
import SchemaDiscovery.Proofs.Json.Spelling
/-!
A default value as the text of a whole default and as a part of another one. Main statement: where the
target is a list, a map, an input type, a truth value or an integer, a text that is JSON gives the literal
that its tree gives as a part, and none where that gives none. Only a negative zero in the place of an
integer of a fixed width is a zero as a text and refused as a part.
-/

namespace SchemaDiscovery

open Decimal (readInt64 readMagnitude)

def ValueKind.isFixedWidth : ValueKind → Bool
  | .int => true
  | .short => true
  | .long => true
  | .byte => true
  | _ => false

namespace Classification

def hasParts : Classification → Bool
  | .list _ => true
  | .map => true
  | .named _ => true
  | _ => false

def isJsonLike : Classification → Bool
  | .scalar kind _ => kind.isFixedWidth || kind = .bigInteger || kind = .boolean
  | classification => classification.hasParts

def isFixedWidth : Classification → Bool
  | .scalar kind _ => kind.isFixedWidth
  | _ => false

end Classification

namespace Json

variable {body : List Char} {tree : Json} {n : Int}

def IsForeign (c : Char) : Prop := c ≠ '+' ∧ c ≠ '-' ∧ c.isDigit = false

instance (c : Char) : Decidable (IsForeign c) := inferInstanceAs (Decidable (_ ∧ _ ∧ _))

theorem Spelled.numeral_or (spelled : Spelled body tree) :
    (∃ (numeral : Numeral) (n : Number), body = numeral.text ∧ numeral.value = some n ∧ tree = .number n) ∨
      tree.number? = none ∧ ∃ c rest, body = c :: rest ∧ IsForeign c := by
  cases spelled with
  | null => exact .inr ⟨rfl, _, _, rfl, by decide⟩
  | yes => exact .inr ⟨rfl, _, _, rfl, by decide⟩
  | no => exact .inr ⟨rfl, _, _, rfl, by decide⟩
  | number value => exact .inl ⟨_, _, rfl, value, rfl⟩
  | @marked mark tree rest mem other =>
    have each : (['[', '\x7b', '"'].all fun c => IsForeign c) = true := by decide
    refine .inr ⟨?_, mark, rest, rfl, of_decide_eq_true (List.all_eq_true.1 each mark mem)⟩
    cases tree with
    | number n => cases other
    | _ => rfl

theorem readInt64_foreign {c : Char} (rest : List Char) (foreign : IsForeign c) :
    readInt64 (c :: rest) ≠ .ok n := by
  obtain ⟨plus, minus, digit⟩ := foreign
  intro read
  unfold readInt64 at read
  split at read
  case h_6 =>
    obtain ⟨_, magnitude, -⟩ := map_eq_ok.1 read
    rw [readMagnitude, digit] at magnitude
    cases magnitude
  all_goals
    next same =>
      cases same <;> contradiction

theorem readNumber?_foreign {c : Char} (rest : List Char) (foreign : IsForeign c) :
    readNumber? (c :: rest) = none := by
  obtain ⟨-, minus, digit⟩ := foreign
  have other : c ≠ '0' := by
    rintro rfl
    cases digit
  unfold readNumber? readNumber readUnsigned
  simp [minus, other, splitDigits, digit]

theorem readInt64_spelled (spelled : Spelled body tree) :
    readInt64 body = .ok n ↔
      tree.number?.bind Number.toInt64? = some n ∨ body = ['-', '0'] ∧ n = 0 := by
  rcases spelled.numeral_or with ⟨numeral, k, rfl, value, rfl⟩ | ⟨none, c, rest, rfl, foreign⟩
  · rw [numeral.readInt64_iff, value]
    simp [number?]
  · have refused := readInt64_foreign (n := n) rest foreign
    obtain ⟨-, minus, -⟩ := foreign
    simp [refused, none, minus]

theorem readNumber?_spelled (spelled : Spelled body tree) :
    readNumber? body = some (.int n) ↔ tree = .number (.int n) := by
  rcases spelled.numeral_or with ⟨numeral, k, rfl, value, rfl⟩ | ⟨none, c, rest, rfl, foreign⟩
  · rw [numeral.readNumber_int_iff, value]
    simp
  · rw [readNumber?_foreign rest foreign]
    constructor
    · exact nofun
    · rintro rfl
      cases none

theorem toInt64_negativeZero (spelled : Spelled ['-', '0'] tree) :
    tree.number?.bind Number.toInt64? = none := by
  have float (n : Int) : readNumber? ['-', '0'] ≠ some (.int n) := nofun
  rcases tree with _ | _ | (n | x) | _ | _ | _
  case number.int => exact absurd ((readNumber?_spelled spelled).2 rfl) (float n)
  all_goals rfl

theorem truth_spelled (spelled : Spelled body tree) :
    (body = "true".toList ↔ tree = .bool true) ∧ (body = "false".toList ↔ tree = .bool false) := by
  cases spelled with
  | null => simp
  | yes => simp
  | no => simp
  | @number numeral n value =>
    obtain ⟨c, rest, begins, first⟩ := numeral.exists_first
    have other : c ≠ 't' ∧ c ≠ 'f' := by
      constructor <;> rintro rfl <;> simp at first
    simp [begins, other]
  | @marked mark tree rest mem other =>
    have each : mark ≠ 't' ∧ mark ≠ 'f' := by
      constructor <;> rintro rfl <;> simp at mem
    have unmarked (b : Bool) : tree ≠ .bool b := by
      rintro rfl
      cases other
    simp [unmarked, each]

theorem distinct_ne_null (present : tree ≠ .null) : tree.distinct ≠ .null := by
  cases tree with
  | null => exact absurd rfl present
  | _ => exact nofun

end Json

theorem scalarOfJson_distinct (kind : ValueKind) (tree : Json) :
    scalarOfJson kind tree.distinct = scalarOfJson kind tree := by
  cases tree with
  | array items => cases kind <;> rfl
  | object members => cases kind <;> rfl
  | _ => rfl

variable {text whole : String} {tree : Json} {literal : Literal} {kind : ValueKind}

def IsNegativeZero (text : String) : Prop := Text.trim text.toList = ['-', '0']

theorem scalarOfJson_fixedWidth (fixed : kind.isFixedWidth = true) :
    scalarOfJson kind tree = .ok literal ↔
      ∃ n, tree.number?.bind Json.Number.toInt64? = some n ∧ kind.integerLiteral n = .ok literal := by
  cases kind with
  | int | short | long | byte =>
    unfold scalarOfJson
    cases tree.number?.bind Json.Number.toInt64? <;> simp
  | _ => cases fixed

theorem scalarOfText_integer : scalarOfText .bigInteger text = .ok literal ↔
    ∃ n, Json.readNumber? (Text.trim text.toList) = some (.int n) ∧ literal = .number (.int n) := by
  rw [scalarOfText]
  rcases Json.readNumber? (Text.trim text.toList) with _ | (n | x) <;> simp [eq_comm]

section

variable (read : Json.read? text = some tree)
include read

theorem scalarOfText_fixedWidth (fixed : kind.isFixedWidth = true) :
    scalarOfText kind text = .ok literal ↔
      scalarOfJson kind tree = .ok literal ∨ IsNegativeZero text ∧ literal = .number (.int 0) := by
  have spelled := Json.spelled_of_read read
  have fromText : scalarOfText kind text = .ok literal ↔
      ∃ n, readInt64 (Text.trim text.toList) = .ok n ∧ kind.integerLiteral n = .ok literal := by
    cases kind with
    | int | short | long | byte => exact bind_eq_ok.trans (by simp only [mapError_eq_ok])
    | _ => cases fixed
  have zero : kind.integerLiteral 0 = .ok (.number (.int 0)) := by
    cases kind with
    | int | short | long | byte => rfl
    | _ => cases fixed
  rw [fromText, scalarOfJson_fixedWidth fixed]
  simp only [Json.readInt64_spelled spelled, or_and_right, exists_or]
  refine or_congr Iff.rfl ?_
  constructor
  · rintro ⟨n, ⟨negative, rfl⟩, made⟩
    cases zero.symm.trans made
    exact ⟨negative, rfl⟩
  · rintro ⟨negative, rfl⟩
    exact ⟨0, ⟨negative, rfl⟩, zero⟩

theorem scalarOfJson_negativeZero (fixed : kind.isFixedWidth = true) (negative : IsNegativeZero text) :
    scalarOfJson kind tree ≠ .ok literal := by
  have spelled := Json.spelled_of_read read
  rw [negative] at spelled
  rw [Ne, scalarOfJson_fixedWidth fixed, Json.toInt64_negativeZero spelled]
  rintro ⟨_, none, -⟩
  cases none

theorem scalarOfText_bigInteger :
    scalarOfText .bigInteger text = .ok literal ↔ scalarOfJson .bigInteger tree = .ok literal := by
  have spelled := Json.spelled_of_read read
  have fromJson : scalarOfJson .bigInteger tree = .ok literal ↔
      ∃ n, tree = .number (.int n) ∧ literal = .number (.int n) := by
    rcases tree with _ | _ | (n | x) | _ | _ | _ <;> simp [scalarOfJson, eq_comm]
  rw [scalarOfText_integer, fromJson]
  simp only [Json.readNumber?_spelled spelled]

theorem scalarOfText_boolean :
    scalarOfText .boolean text = .ok literal ↔ scalarOfJson .boolean tree = .ok literal := by
  obtain ⟨yes, no⟩ := Json.truth_spelled (Json.spelled_of_read read)
  rcases tree with _ | (_ | _) | _ | _ | _ | _ <;>
    simp at yes no <;> simp [scalarOfText, scalarOfJson, yes, no]

end

namespace Catalog

variable {catalog : Catalog} {target : TypeUse} {classification : Classification} {json : Json}

theorem leafLiteral_within (other : String)
    (made : leafLiteral text target classification json = .ok literal) :
    leafLiteral other target classification json = .ok literal := by
  cases classification with
  | scalar kind primitive => exact mapError_eq_ok.2 (mapError_eq_ok.1 made)
  | enum type =>
    cases json with
    | string member => exact made
    | _ => cases made
  | map => exact made
  | _ => cases made

theorem literalOfJson_within (other : String)
    (made : catalog.literalOfJson text target json = .ok literal) :
    catalog.literalOfJson other target json = .ok literal := by
  refine literalOfJson_induction
    (motive := fun target json literal => catalog.literalOfJson other target json = .ok literal)
    (fun allowed => literalOfJson_null.2 ⟨allowed, rfl⟩) (fun spells present leaf => ?_)
    (fun parts => ?_) (fun {key tags type _ _} found isObject parts => ?_) made
  · exact literalOfJson_leaf (classify_iff.2 spells) present (leafLiteral_within other leaf)
  · exact bind_eq_ok.2 ⟨_, rfl, bind_eq_ok.2 ⟨_, literalsOfItems_ok.2 parts, rfl⟩⟩
  · have classified : catalog.classify (.atom (.named key) tags) = .ok (.named type) :=
      classify_iff.2 ⟨key, tags, rfl, found, isObject⟩
    exact bind_eq_ok.2 ⟨_, classified, bind_eq_ok.2 ⟨_, literalsOfMembers_ok.2 parts, rfl⟩⟩

theorem literalOfJson_scalar {primitive : Bool} (present : json ≠ .null)
    (classified : catalog.classify target = .ok (.scalar kind primitive)) :
    catalog.literalOfJson text target json = .ok literal ↔ scalarOfJson kind json = .ok literal := by
  constructor
  · intro made
    cases json with
    | null => exact absurd rfl present
    | _ =>
      obtain ⟨_, again, leaf⟩ := bind_eq_ok.1 made
      cases classified.symm.trans again
      exact mapError_eq_ok.1 leaf
  · intro made
    exact literalOfJson_leaf classified present (mapError_eq_ok.2 made)

theorem literalOfText_parts (read : Json.read? text = some tree) (present : tree ≠ .null)
    (classified : catalog.classify target = .ok classification) (parts : classification.hasParts = true) :
    catalog.literalOfText text target = catalog.literalOfJson text target tree.distinct := by
  have kept := Json.distinct_ne_null present
  unfold literalOfText
  rw [classified, read]
  dsimp only
  generalize tree.distinct = json at kept
  cases classification with
  | list element =>
    cases json with
    | null => exact absurd rfl kept
    | array items => rfl
    | _ =>
      rw [literalOfJson, classified]
      rfl
  | named type | map =>
    cases json with
    | null => exact absurd rfl kept
    | _ =>
      rw [literalOfJson, classified]
      rfl
  | _ => cases parts

theorem literalOfText_scalar {primitive : Bool}
    (classified : catalog.classify target = .ok (.scalar kind primitive)) :
    catalog.literalOfText text target = .ok literal ↔ scalarOfText kind text = .ok literal := by
  unfold literalOfText
  rw [classified]
  exact mapError_eq_ok

/-- A text that is JSON and the tree of it as a part of another text give the same literal or none, but
for a negative zero in the place of an integer of a fixed width. -/
theorem literalOfText_agrees (whole : String) (read : Json.read? text = some tree)
    (present : tree ≠ .null) (classified : catalog.classify target = .ok classification)
    (like : classification.isJsonLike = true) :
    (¬ (classification.isFixedWidth = true ∧ IsNegativeZero text) → ∀ literal,
      catalog.literalOfText text target = .ok literal ↔
        catalog.literalOfJson whole target tree.distinct = .ok literal) ∧
    (classification.isFixedWidth = true ∧ IsNegativeZero text →
      catalog.literalOfText text target = .ok (.number (.int 0)) ∧
        ∀ literal, catalog.literalOfJson whole target tree.distinct ≠ .ok literal) := by
  -- The text that a value is a part of only tells in messages.
  have within (literal : Literal) : catalog.literalOfJson text target tree.distinct = .ok literal ↔
      catalog.literalOfJson whole target tree.distinct = .ok literal :=
    ⟨literalOfJson_within whole, literalOfJson_within text⟩
  cases classification with
  | scalar kind primitive =>
    have opened (literal : Literal) : catalog.literalOfText text target = .ok literal ↔
        scalarOfText kind text = .ok literal := literalOfText_scalar classified
    have inside (literal : Literal) : catalog.literalOfJson whole target tree.distinct = .ok literal ↔
        scalarOfJson kind tree = .ok literal := by
      rw [literalOfJson_scalar (Json.distinct_ne_null present) classified, scalarOfJson_distinct]
    cases fixed : kind.isFixedWidth with
    | true =>
      refine ⟨fun other literal => ?_, fun zero => ⟨?_, fun literal => ?_⟩⟩
      · rw [opened, inside, scalarOfText_fixedWidth read fixed]
        exact or_iff_left fun zero => other ⟨fixed, zero.1⟩
      · rw [opened, scalarOfText_fixedWidth read fixed]
        exact .inr ⟨zero.2, rfl⟩
      · rw [Ne, inside]
        exact scalarOfJson_negativeZero read fixed zero.2
    | false =>
      refine ⟨fun _ literal => ?_, fun zero => ?_⟩
      · have other : kind = .bigInteger ∨ kind = .boolean := by
          simpa [Classification.isJsonLike, fixed] using like
        rw [opened, inside]
        rcases other with rfl | rfl
        · exact scalarOfText_bigInteger read
        · exact scalarOfText_boolean read
      · rw [Classification.isFixedWidth, fixed] at zero
        cases zero.1
  | list element | named type | map =>
    refine ⟨fun _ literal => ?_, nofun⟩
    rw [literalOfText_parts read present classified rfl]
    exact within literal
  | _ => cases like

theorem literalOfText_agrees_grown : ∃ tree, Json.read? grown = some tree ∧
    (∀ whole literal, grove.literalOfText grown branch = .ok literal ↔
      grove.literalOfJson whole branch tree.distinct = .ok literal) ∧
    ∃ literal, grove.literalOfText grown branch = .ok literal := by
  have isPresent : (Json.read? grown).map Json.isNull = some false := by decide +kernel
  have named : (grove.classify branch).toOption.map (fun classification =>
      (classification.isJsonLike, classification.isFixedWidth)) = some (true, false) := by
    decide +kernel
  have made : (grove.literalOfText grown branch).toOption.map (fun _ => ()) = some () := by
    decide +kernel
  obtain ⟨tree, read, present⟩ := Option.map_eq_some_iff.1 isPresent
  obtain ⟨classification, classified, same⟩ := ok_of_observed named
  obtain ⟨like, wide⟩ := Prod.mk.inj same
  obtain ⟨literal, given, -⟩ := ok_of_observed made
  refine ⟨tree, read, fun whole => ?_, literal, given⟩
  refine (literalOfText_agrees whole read ?_ classified like).1 fun zero => ?_
  · rintro rfl
    cases present
  · rw [wide] at zero
    cases zero.1

def age : TypeUse := .atom (.boxed .int) []

/-- A negative zero is a zero as a text and nothing as an item of a list. -/
theorem literalOfText_disagrees : ∃ tree, Json.read? "-0" = some tree ∧ tree ≠ .null ∧
    grove.classify age = .ok (.scalar .int false) ∧
    grove.literalOfText "-0" age = .ok (.number (.int 0)) ∧
    (∀ literal, grove.literalOfJson "[-0]" age tree.distinct ≠ .ok literal) ∧
    ∀ literal, grove.literalOfText "[-0]" (.generic .list [age] []) ≠ .ok literal := by
  refine ⟨.number (.float (.zero true)), rfl, nofun, rfl, rfl, fun literal => nofun, fun literal => ?_⟩
  exact nofun

end Catalog

end SchemaDiscovery
