import SchemaDiscovery.Proofs.Default.Conformance
import SchemaDiscovery.Proofs.Definition.Printing
/-!
Default values in schema text. Main statement: a default is read back as the literal that its text was
made into, exactly if the names in it are legal and its strings survive their escapes. Names that are not
legal come from maps, or the catalog has them.
-/

namespace SchemaDiscovery

/-- No part of the type takes just any value. -/
inductive TypeUse.IsMapless : TypeUse → Prop
  | atom (type : Atom) (tags : List Tag) : IsMapless (.atom type tags)
  | list {element : TypeUse} {tags : List Tag} (inner : IsMapless element) :
    IsMapless (.generic .list [element] tags)

namespace Catalog

variable {catalog : Catalog} {text : String} {target : TypeUse} {json : Json} {literal : Literal}

structure NamesLegal (catalog : Catalog) : Prop where
  members : ∀ type ∈ catalog.types, ∀ members ∈ type.members?, ∀ member ∈ members,
    isLegalName member = true ∧ member ∉ Constant.reserved
  fields : ∀ type ∈ catalog.types, ∀ field ∈ catalog.inputFieldsOf type,
    isLegalName field.name = true ∧ field.type.IsMapless

theorem isLegal_of_isScalar (scalar : literal.isScalar = true) : (literal.constant id).IsLegal := by
  cases literal with
  | number n => cases n <;> constructor
  | bool b => exact .bool b
  | string s => exact .string _
  | _ => cases scalar

theorem isLegal_enumLiteral {type : TypeDescriptor} {member : String} (legal : catalog.NamesLegal)
    (present : type ∈ catalog.types) (made : enumLiteral type member = .ok literal) :
    (literal.constant id).IsLegal := by
  obtain ⟨⟨members, declared, listed⟩, rfl⟩ := enumLiteral_ok.1 made
  obtain ⟨named, free⟩ := legal.members type present members declared member listed
  exact .enum named free

def NamesWell (target : TypeUse) (literal : Literal) : Prop :=
  target.IsMapless → (literal.constant id).IsLegal

theorem namesWell_leaf {classification : Classification} (legal : catalog.NamesLegal)
    (spells : catalog.Spells target classification)
    (made : leafLiteral text target classification json = .ok literal) :
    NamesWell target literal := by
  intro mapless
  cases classification with
  | scalar kind primitive =>
    exact isLegal_of_isScalar (isScalar_scalarOfJson (mapError_eq_ok.1 made))
  | enum type =>
    obtain ⟨key, tags, rfl, found, -⟩ := spells
    cases json with
    | string member => exact isLegal_enumLiteral legal (mem_of_lookup found) made
    | _ => cases made
  | map =>
    obtain ⟨args, tags, rfl⟩ := spells
    cases mapless
  | _ => cases made

theorem namesWell_list {element : TypeUse} {tags : List Tag} {items : List Json}
    {literals : List Literal} (all : List.Forall₂ (fun _ => NamesWell element) items literals) :
    NamesWell (.generic .list [element] tags) (.list literals) := by
  intro mapless
  cases mapless with
  | list inner =>
    rw [Literal.constant, Literal.constantItems_eq_map]
    refine .list (List.forall_mem_map.2 fun literal member => ?_)
    obtain ⟨_, -, well⟩ := exists_of_forall₂ all.flip member
    exact well inner

theorem namesWell_object {key : TypeKey} {tags : List Tag} {type : TypeDescriptor}
    {members : List Json.Member} {literals : List (String × Literal)} (legal : catalog.NamesLegal)
    (found : catalog.lookup? key = some type)
    (all : List.Forall₂ (fun member literal => member.1 = literal.1 ∧ ∃ field,
      (catalog.inputFieldsOf type).find? (·.name = member.1) = some field ∧
        NamesWell field.type literal.2) members literals) :
    NamesWell (.atom (.named key) tags) (.object literals) := by
  intro _
  have each : ∀ member ∈ literals, isLegalName member.1 = true ∧ (member.2.constant id).IsLegal := by
    intro member given
    obtain ⟨source, -, same, field, chosen, well⟩ := exists_of_forall₂ all.flip given
    obtain ⟨named, mapless⟩ :=
      legal.fields type (mem_of_lookup found) field (List.mem_of_find?_eq_some chosen)
    have called : field.name = source.1 := by simpa using List.find?_some chosen
    rw [called, same] at named
    exact ⟨named, well mapless⟩
  rw [Literal.constant, Literal.constantMembers_eq_map]
  exact .object (List.forall_mem_map.2 fun member given => (each member given).1)
    (List.forall_mem_map.2 fun member given => (each member given).2)

theorem namesWell_of_literalOfJson (legal : catalog.NamesLegal)
    (made : catalog.literalOfJson text target json = .ok literal) : NamesWell target literal :=
  literalOfJson_induction (motive := fun target _ => NamesWell target) (fun _ _ => .null)
    (fun spells _ => namesWell_leaf legal spells) namesWell_list
    (fun found _ => namesWell_object legal found) made

/-- A default is read back as its literal exactly if the names in it are legal and its strings survive;
without maps its names are legal where those of the catalog are. -/
theorem default_reads_back (made : catalog.literalOfText text target = .ok literal) :
    (Constant.read? literal.render = some (literal.constant id) ↔
      (literal.constant id).IsLegal ∧ literal.IsPlain) ∧
    (catalog.NamesLegal → target.IsMapless → (literal.constant id).IsLegal) := by
  refine ⟨Constant.read_render_iff, fun legal mapless => ?_⟩
  rcases literalOfText_ok made with
    ⟨kind, primitive, -, scalar⟩ | ⟨type, classified, enum⟩ | ⟨classified, -⟩ | ⟨-, json, parts⟩
  · exact isLegal_of_isScalar (isScalar_scalarOfText scalar)
  · obtain ⟨key, tags, -, found, -⟩ := classify_iff.1 classified
    exact isLegal_enumLiteral legal (mem_of_lookup found) enum
  · obtain ⟨args, tags, rfl⟩ := classify_iff.1 classified
    cases mapless
  · exact namesWell_of_literalOfJson legal parts mapless

def palette (colours : List String) : Catalog :=
  .ofTypes [
    { key := ⟨"paint::Colour"⟩, form := .isEnum colours },
    { key := ⟨"paint::Paint"⟩
      methods := [
        setter "setColour" (.atom (.named ⟨"paint::Colour"⟩) []),
        setter "setLabel" (.atom (.boxed .string) []),
        setter "setShare" (.atom (.boxed .double) [])] }]

def colour : TypeUse := .atom (.named ⟨"paint::Colour"⟩) []

def paints : TypeUse := .generic .list [.atom (.named ⟨"paint::Paint"⟩) []] []

def mixed : String :=
  "[\x7b\"colour\": \"RED\", \"share\": 25e-2\x7d, \x7b\"label\": \"a \\\"warm\\\" white\\n\"\x7d]"

theorem namesLegal_palette : (palette ["RED", "WHITE"]).NamesLegal := by
  constructor
  · decide +kernel
  · have atoms : ∀ type ∈ (palette ["RED", "WHITE"]).types,
        ∀ field ∈ (palette ["RED", "WHITE"]).inputFieldsOf type, isLegalName field.name = true ∧
          field.type ∈ [colour, .atom (.boxed .string) [], .atom (.boxed .double) []] := by
      decide +kernel
    intro type present field taken
    obtain ⟨named, atom⟩ := atoms type present field taken
    simp only [List.mem_cons, List.not_mem_nil, or_false] at atom
    rcases atom with same | same | same
    · exact ⟨named, same ▸ .atom _ _⟩
    · exact ⟨named, same ▸ .atom _ _⟩
    · exact ⟨named, same ▸ .atom _ _⟩

theorem default_reads_back_mixed : ∃ literal,
    (palette ["RED", "WHITE"]).literalOfText mixed paints = .ok literal ∧ paints.IsMapless ∧
      Constant.read? literal.render = some (literal.constant id) := by
  have observed : ((palette ["RED", "WHITE"]).literalOfText mixed paints).toOption.map
      (fun literal => decide literal.IsPlain) = some true := by
    decide +kernel
  have mapless : paints.IsMapless := .list (.atom _ _)
  obtain ⟨literal, made, plain⟩ := ok_of_observed observed
  obtain ⟨reads, named⟩ := default_reads_back made
  exact ⟨literal, made, mapless,
    reads.2 ⟨named namesLegal_palette mapless, of_decide_eq_true plain⟩⟩

/-- The text becomes a literal that is not read back. -/
def IsLost (catalog : Catalog) (text : String) (target : TypeUse) : Prop :=
  ∃ literal, catalog.literalOfText text target = .ok literal ∧
    Constant.read? literal.render ≠ some (literal.constant id)

def shares : TypeUse := .generic .map [.atom (.boxed .string) [], .atom (.boxed .double) []] []

/-- The key is no name, the colour is read as no value, and the escape is that of a digit. -/
theorem defaults_not_read_back : IsLost (palette []) "\x7b\"off white\": 1\x7d" shares ∧
    IsLost (palette ["null"]) "null" colour ∧
    IsLost (palette []) "\u001f" (.atom (.boxed .string) []) := by
  have key : ((palette []).literalOfText "\x7b\"off white\": 1\x7d" shares).toOption.map
      (fun literal => (Constant.read? literal.render).isNone) = some true := by
    decide +kernel
  have member : (palette ["null"]).literalOfText "null" colour = .ok (.enum "null") := rfl
  have control : (palette []).literalOfText "\u001f" (.atom (.boxed .string) []) =
      .ok (.string "\u001f") := rfl
  obtain ⟨literal, made, unread⟩ := ok_of_observed key
  refine ⟨⟨literal, made, fun same => ?_⟩, ⟨_, member, fun same => ?_⟩, ⟨_, control, fun same => ?_⟩⟩
  · rw [same] at unread
    cases unread
  · obtain ⟨legal, -⟩ := Constant.read_render_iff.1 same
    cases legal with
    | enum named free => exact free (by decide)
  · obtain ⟨-, plain⟩ := Constant.read_render_iff.1 same
    exact absurd plain (by decide)

end Catalog

end SchemaDiscovery
