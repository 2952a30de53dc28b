import SchemaDiscovery.Definition.Render
import SchemaDiscovery.Proofs.Definition.Grammar
/-!
Schema text of definitions that have no descriptions, default values and directives. Main statement: the
definitions are read back from their text by the grammar, so that no two lists of them have the same text.
-/

namespace SchemaDiscovery

namespace Grammar

open Lexeme (Stands stands_nil spells_nil spells_name stands_flatten spells_intercalate)

variable {text : List Char} {lexemes : List Lexeme}

theorem stands_mark (nonNull : Bool) : Stands (if nonNull then ['!'] else []) (mark nonNull) := by
  cases nonNull with
  | true => exact spells_nil.mark (by decide)
  | false => exact stands_nil

theorem spells_type {type : TypeRef} (legal : isLegalName type.base = true) :
    Lexeme.Spells type.render (ofType type) := by
  induction type with
  | named name nonNull => exact (spells_name legal).append (stands_mark nonNull)
  | list element nonNull ih =>
    have closing := (stands_mark nonNull).spells.mark (c := ']') (by decide)
    exact ((ih legal).append closing).punctuator (by decide)

theorem stands_typed {type : TypeRef} (legal : isLegalName type.base = true) :
    Stands (':' :: ' ' :: type.render) (.punctuator ':' :: ofType type) :=
  ((spells_type legal).blank rfl).spells.mark (by decide)

theorem spells_inputValue {value : InputValue} (skeleton : value.IsSkeleton)
    (legal : ∀ name ∈ value.names, isLegalName name = true) :
    Lexeme.Spells value.render (ofInputValue value) := by
  have name : isLegalName value.name = true := legal _ (by simp [InputValue.names])
  have base : isLegalName value.type.base = true := legal _ (by simp [InputValue.names])
  have split : value.render = value.name.toList ++ ':' :: ' ' :: value.type.render := by
    simp [InputValue.render, skeleton.default, skeleton.directives, renderDirectives]
  rw [split]
  exact (spells_name name).append (stands_typed base)

theorem stands_arguments {arguments : List InputValue}
    (skeletons : ∀ value ∈ arguments, value.IsSkeleton)
    (legal : ∀ value ∈ arguments, ∀ name ∈ value.names, isLegalName name = true) :
    Stands (renderArguments arguments) (block '(' ')' ofInputValue arguments) := by
  cases arguments with
  | nil => exact stands_nil
  | cons first others =>
    have each : ∀ value ∈ first :: others, Lexeme.Spells value.renderArgument (ofInputValue value) := by
      intro value member
      have plain : value.renderArgument = value.render := by
        simp [InputValue.renderArgument, (skeletons value member).description]
      rw [plain]
      exact spells_inputValue (skeletons value member) (legal value member)
    have listed := spells_intercalate [',', ' '] []
      (fun text lexemes spelled => (spelled.ignored rfl).blank rfl) each
    exact (listed.append (spells_nil.mark (c := ')') (by decide))).mark (by decide)

theorem spells_indented (spelled : Lexeme.Spells text lexemes) : Stands (indentation ++ text) lexemes :=
  (((spelled.ignored rfl).ignored rfl).ignored rfl).blank rfl

theorem stands_newline : Stands ['\n'] [] := spells_nil.blank rfl

theorem stands_field {field : FieldDefinition} (skeleton : field.IsSkeleton)
    (legal : ∀ name ∈ field.names, isLegalName name = true) : Stands field.render (ofField field) := by
  have name : isLegalName field.name = true := legal _ (by simp [FieldDefinition.names])
  have base : isLegalName field.type.base = true := legal _ (by simp [FieldDefinition.names])
  have passed : ∀ value ∈ field.arguments, ∀ name ∈ value.names, isLegalName name = true := by
    intro value member name within
    refine legal name ?_
    simp only [FieldDefinition.names, List.mem_cons, List.mem_flatMap]
    exact .inr (.inr ⟨value, member, within⟩)
  have split : field.render = indentation ++ (field.name.toList ++ (renderArguments field.arguments ++
      (':' :: ' ' :: field.type.render ++ ['\n']))) := by
    simp [FieldDefinition.render, skeleton.description, skeleton.directives, renderDirectives,
      renderDescription]
  have typed := (stands_typed base).append stands_newline
  rw [List.append_nil] at typed
  rw [split]
  have arguments := stands_arguments skeleton.arguments passed
  exact spells_indented ((spells_name name).append (arguments.append typed))

theorem stands_inputLine {value : InputValue} (skeleton : value.IsSkeleton)
    (legal : ∀ name ∈ value.names, isLegalName name = true) :
    Stands value.renderLine (ofInputValue value) := by
  have split : value.renderLine = indentation ++ (value.render ++ ['\n']) := by
    simp [InputValue.renderLine, skeleton.description, renderDescription]
  have line := (spells_inputValue skeleton legal).append stands_newline
  rw [List.append_nil] at line
  rw [split]
  exact spells_indented line

theorem stands_enumValue {value : EnumValue} (skeleton : value.IsSkeleton)
    (legal : isLegalName value.name = true) : Stands value.render (ofEnumValue value) := by
  have split : value.render = indentation ++ (value.name.toList ++ ['\n']) := by
    simp [EnumValue.render, skeleton.description, skeleton.directives, renderDirectives,
      renderDescription]
  rw [split]
  exact spells_indented ((spells_name legal).append stands_newline)

theorem stands_braced {α : Type} {write : α → List Char} {shows : α → List Lexeme} {items : List α}
    (each : ∀ item ∈ items, Stands (write item) (shows item)) :
    Stands (renderBraced (items.map write)) (braced shows items) := by
  cases items with
  | nil => exact stands_newline
  | cons first others =>
    have closing : Stands ['\x7d', '\n'] [.punctuator '\x7d'] := stands_newline.spells.mark (by decide)
    have lines := (stands_flatten each).append closing
    exact ((lines.spells.ignored (c := '\n') rfl).punctuator (by decide)).blank rfl

theorem spells_names (separator : Char) (listed : separator ∈ Lexeme.punctuators) {first : String}
    {others : List String} (legal : ∀ name ∈ first :: others, isLegalName name = true) :
    Lexeme.Spells ([' ', separator, ' '].intercalate ((first :: others).map String.toList))
      (.name first :: separated separator others) :=
  spells_intercalate [' ', separator, ' '] [.punctuator separator]
    (fun _ _ spelled => ((spelled.ignored rfl).punctuator listed).blank rfl)
    fun name member => spells_name (legal name member)

theorem stands_implements {interfaces : List String}
    (legal : ∀ name ∈ interfaces, isLegalName name = true) :
    Stands (renderImplements interfaces) (ofInterfaces interfaces) := by
  cases interfaces with
  | nil => exact stands_nil
  | cons first others =>
    have announcing : isLegalName "implements" = true := by decide
    have names := (spells_names '&' (by decide) legal).blank (c := ' ') rfl
    have word := (spells_name announcing).append names
    exact word.blank rfl

theorem stands_members {members : List String} (legal : ∀ name ∈ members, isLegalName name = true) :
    Stands (if members.isEmpty then []
      else " = ".toList ++ " | ".toList.intercalate (members.map String.toList))
      (listed (.punctuator '=') '|' members) := by
  cases members with
  | nil => exact stands_nil
  | cons first others =>
    have names := (spells_names '|' (by decide) legal).ignored (c := ' ') rfl
    exact (names.punctuator (by decide)).blank rfl

def renderRest : TypeBody → List Char
  | .scalar => ['\n']
  | .object implements fields =>
    renderImplements implements ++ renderBraced (fields.map FieldDefinition.render)
  | .interface implements fields =>
    renderImplements implements ++ renderBraced (fields.map FieldDefinition.render)
  | .union members =>
    (if members.isEmpty then []
      else " = ".toList ++ " | ".toList.intercalate (members.map String.toList)) ++ ['\n']
  | .enum values => renderBraced (values.map EnumValue.render)
  | .input fields => renderBraced (fields.map InputValue.renderLine)

theorem stands_fields {implements : List String} {fields : List FieldDefinition}
    (skeletons : ∀ field ∈ fields, field.IsSkeleton)
    (legal : ∀ name ∈ implements ++ fields.flatMap FieldDefinition.names, isLegalName name = true) :
    Stands (renderImplements implements ++ renderBraced (fields.map FieldDefinition.render))
      (ofInterfaces implements ++ braced ofField fields) := by
  rw [List.forall_mem_append, List.forall_mem_flatMap] at legal
  obtain ⟨interfaces, names⟩ := legal
  exact (stands_implements interfaces).append
    (stands_braced fun field member => stands_field (skeletons field member) (names field member))

theorem stands_rest {body : TypeBody} (skeleton : body.IsSkeleton)
    (legal : ∀ name ∈ body.names, isLegalName name = true) :
    Stands (renderRest body) (ofBody body) := by
  cases body with
  | scalar => exact stands_newline
  | object implements fields => exact stands_fields skeleton legal
  | interface implements fields => exact stands_fields skeleton legal
  | union members =>
    have line := (stands_members legal).append stands_newline
    rwa [List.append_nil] at line
  | enum values =>
    have names := List.forall_mem_map.1 legal
    exact stands_braced fun value member => stands_enumValue (skeleton value member) (names value member)
  | input fields =>
    have names := List.forall_mem_flatMap.1 legal
    exact stands_braced fun value member => stands_inputLine (skeleton value member) (names value member)

theorem renderBody_eq {definition : TypeDefinition} (plain : definition.directives = []) :
    definition.renderBody = (keyword definition.body).toList ++
      ' ' :: (definition.name.toList ++ renderRest definition.body) := by
  obtain ⟨name, isExtension, description, directives, body⟩ := definition
  obtain rfl : directives = [] := plain
  cases body <;>
    simp [TypeDefinition.renderBody, keyword, renderRest, renderDirectives]

theorem spells_definition {definition : TypeDefinition} (skeleton : definition.IsSkeleton) :
    Lexeme.Spells definition.render (ofDefinition definition) := by
  have each : ∀ word ∈ ["scalar", "type", "interface", "union", "enum", "input"],
      isLegalName word = true := by decide
  have rest := stands_rest skeleton.body skeleton.names
  have named := ((spells_name skeleton.name).append rest).blank (c := ' ') rfl
  have declared := (spells_name (each _ (keyword_mem definition.body))).append named
  have split : definition.render = renderExtension definition.isExtension ++
      ((keyword definition.body).toList ++
        ' ' :: (definition.name.toList ++ renderRest definition.body)) := by
    rw [TypeDefinition.render, skeleton.description, renderBody_eq skeleton.directives]
    rfl
  rw [split]
  unfold ofDefinition
  cases definition.isExtension with
  | true =>
    have extending : isLegalName "extend" = true := by decide
    have word := (spells_name extending).append (declared.blank (c := ' ') rfl)
    exact word
  | false => exact declared

theorem ofText_renderSchema {definitions : List TypeDefinition}
    (skeletons : ∀ definition ∈ definitions, definition.IsSkeleton) :
    Lexeme.ofText? (renderSchema (definitions.map .type)).toList =
      some (definitions.flatMap ofDefinition) := by
  have text : (renderSchema (definitions.map .type)).toList =
      ['\n'].intercalate (definitions.map TypeDefinition.render) := by
    rw [renderSchema, String.toList_ofList, List.map_map]
    rfl
  rw [text]
  cases definitions with
  | nil => rfl
  | cons first others =>
    have each : ∀ definition ∈ first :: others,
        Lexeme.Spells definition.render (ofDefinition definition) :=
      fun definition member => spells_definition (skeletons definition member)
    exact (spells_intercalate ['\n'] [] (fun _ _ spelled => spelled.blank rfl) each).ofText

theorem read_renderSchema {definitions : List TypeDefinition} {admits : String → Bool}
    (skeletons : ∀ definition ∈ definitions, definition.IsSkeleton)
    (admitted : ∀ definition ∈ definitions, definition.body.IsAdmitted admits) :
    read? admits (renderSchema (definitions.map .type)) = some definitions := by
  rw [read?, ofText_renderSchema skeletons]
  exact definitionsWithin_flatMap skeletons admitted (Nat.le_refl _)

end Grammar

/-- Definitions without descriptions, default values and directives are read back from their text, and two
lists of them have different texts. -/
theorem skeletons_read_back {definitions : List TypeDefinition}
    (skeletons : ∀ definition ∈ definitions, definition.IsSkeleton) :
    (∀ admits, (∀ definition ∈ definitions, definition.body.IsAdmitted admits) →
      Grammar.read? admits (renderSchema (definitions.map .type)) = some definitions) ∧
    ∀ others : List TypeDefinition, (∀ definition ∈ others, definition.IsSkeleton) →
      renderSchema (definitions.map .type) = renderSchema (others.map .type) → definitions = others := by
  refine ⟨fun admits admitted => Grammar.read_renderSchema skeletons admitted, ?_⟩
  intro others skeletons' same
  -- one reader gets both lists from the one text
  have first := Grammar.read_renderSchema skeletons fun definition _ => definition.body.isAdmitted_all
  have second := Grammar.read_renderSchema skeletons' fun definition _ => definition.body.isAdmitted_all
  rw [same] at first
  exact Option.some_inj.1 (first.symm.trans second)

def timetable : List TypeDefinition := [
  { name := "Time", body := .scalar },
  { name := "Track", body := .enum [⟨"NORTH", none, []⟩, ⟨"SOUTH", none, []⟩] },
  { name := "Span", body := .input [{ name := "from", type := .named "Time" true }] },
  { name := "Call", body := .interface [] [{ name := "time", type := .named "Time" true }] },
  { name := "Stop", body := .object ["Call", "Place"] [
    { name := "time", type := .named "Time" true },
    { name := "trains", type := .list (.list (.named "String" true) false) true,
      arguments := [
        { name := "span", type := .named "Span" true },
        { name := "tracks", type := .list (.named "Track" true) false }] }] },
  { name := "Place", body := .interface [] [] },
  { name := "Stop", isExtension := true,
    body := .object [] [{ name := "track", type := .named "Track" false }] }]

theorem skeletons_read_back_timetable : (∀ definition ∈ timetable, definition.IsSkeleton) ∧
    Grammar.read? (· ∉ Constant.reserved) (renderSchema (timetable.map .type)) = some timetable ∧
    renderSchema (timetable.map .type) ≠ renderSchema (timetable.reverse.map .type) := by
  have skeletons : ∀ definition ∈ timetable, definition.IsSkeleton := by decide
  have admitted : ∀ definition ∈ timetable, definition.body.IsAdmitted (· ∉ Constant.reserved) := by
    decide
  obtain ⟨read, apart⟩ := skeletons_read_back skeletons
  refine ⟨skeletons, read _ admitted, fun same => ?_⟩
  have reversed := apart timetable.reverse (fun definition member =>
    skeletons definition (List.mem_reverse.1 member)) same
  have names := congrArg (List.map TypeDefinition.name) reversed
  revert names
  decide

/-- The one value has a legal name, which the grammar keeps for a constant. -/
def toggle : TypeDefinition where
  name := "Toggle"
  body := .enum [⟨"true", none, []⟩]

theorem skeleton_not_read_back : toggle.IsSkeleton ∧
    Grammar.read? (· ∉ Constant.reserved) (renderSchema ([toggle].map .type)) = none := by
  constructor
  · decide
  · rfl

end SchemaDiscovery
