import Mathlib.Tactic.MkIffOfInductiveProp
import SchemaDiscovery.Proofs.Definition.Lexeme
import SchemaDiscovery.Proofs.Definition.Parts
/-!
The grammar of type definitions without descriptions, default values and directives. Main statement: the
lexemes of such definitions are read as these definitions.
-/

namespace SchemaDiscovery

def TypeBody.isBare : TypeBody → Bool
  | .scalar => true
  | .object implements fields => implements.isEmpty && fields.isEmpty
  | .interface implements fields => implements.isEmpty && fields.isEmpty
  | .union members => members.isEmpty
  | .enum values => values.isEmpty
  | .input fields => fields.isEmpty

/-! ### Skeletons -/

def InputValue.names (value : InputValue) : List String := [value.name, value.type.base]

def FieldDefinition.names (field : FieldDefinition) : List String :=
  field.name :: field.type.base :: field.arguments.flatMap InputValue.names

def TypeBody.names : TypeBody → List String
  | .scalar => []
  | .object implements fields => implements ++ fields.flatMap FieldDefinition.names
  | .interface implements fields => implements ++ fields.flatMap FieldDefinition.names
  | .union members => members
  | .enum values => values.map (·.name)
  | .input fields => fields.flatMap InputValue.names

@[mk_iff]
structure InputValue.IsSkeleton (value : InputValue) : Prop where
  description : value.description = none
  default : value.default = none
  directives : value.directives = []

@[mk_iff]
structure FieldDefinition.IsSkeleton (field : FieldDefinition) : Prop where
  description : field.description = none
  arguments : ∀ value ∈ field.arguments, value.IsSkeleton
  directives : field.directives = []

@[mk_iff]
structure EnumValue.IsSkeleton (value : EnumValue) : Prop where
  description : value.description = none
  directives : value.directives = []

def TypeBody.IsSkeleton : TypeBody → Prop
  | .scalar => True
  | .object _ fields => ∀ field ∈ fields, field.IsSkeleton
  | .interface _ fields => ∀ field ∈ fields, field.IsSkeleton
  | .union _ => True
  | .enum values => ∀ value ∈ values, value.IsSkeleton
  | .input fields => ∀ field ∈ fields, field.IsSkeleton

/-- All names are legal, there are no descriptions, default values and directives, and an extension adds
something. -/
@[mk_iff]
structure TypeDefinition.IsSkeleton (definition : TypeDefinition) : Prop where
  name : isLegalName definition.name = true
  names : ∀ name ∈ definition.body.names, isLegalName name = true
  description : definition.description = none
  directives : definition.directives = []
  body : definition.body.IsSkeleton
  addition : definition.isExtension = true → definition.body.isBare = false

/-- The names of the values of an enum are admitted. -/
def TypeBody.IsAdmitted (admits : String → Bool) : TypeBody → Prop
  | .enum values => ∀ value ∈ values, admits value.name = true
  | _ => True

instance (value : InputValue) : Decidable value.IsSkeleton :=
  decidable_of_iff (value.description.isNone ∧ value.default.isNone ∧ value.directives.isEmpty)
    (by simp [InputValue.isSkeleton_iff])

instance (field : FieldDefinition) : Decidable field.IsSkeleton :=
  decidable_of_iff (field.description.isNone ∧ (∀ value ∈ field.arguments, value.IsSkeleton) ∧
    field.directives.isEmpty) (by simp [FieldDefinition.isSkeleton_iff])

instance (value : EnumValue) : Decidable value.IsSkeleton :=
  decidable_of_iff (value.description.isNone ∧ value.directives.isEmpty)
    (by simp [EnumValue.isSkeleton_iff])

instance : (body : TypeBody) → Decidable body.IsSkeleton
  | .scalar => .isTrue trivial
  | .object _ fields => inferInstanceAs (Decidable (∀ field ∈ fields, field.IsSkeleton))
  | .interface _ fields => inferInstanceAs (Decidable (∀ field ∈ fields, field.IsSkeleton))
  | .union _ => .isTrue trivial
  | .enum values => inferInstanceAs (Decidable (∀ value ∈ values, value.IsSkeleton))
  | .input fields => inferInstanceAs (Decidable (∀ field ∈ fields, field.IsSkeleton))

instance (definition : TypeDefinition) : Decidable definition.IsSkeleton :=
  decidable_of_iff (isLegalName definition.name = true ∧
    (∀ name ∈ definition.body.names, isLegalName name = true) ∧ definition.description.isNone ∧
    definition.directives.isEmpty ∧ definition.body.IsSkeleton ∧
    (definition.isExtension = true → definition.body.isBare = false))
    (by simp [TypeDefinition.isSkeleton_iff])

instance (admits : String → Bool) : (body : TypeBody) → Decidable (body.IsAdmitted admits)
  | .enum values => inferInstanceAs (Decidable (∀ value ∈ values, admits value.name = true))
  | .scalar => .isTrue trivial
  | .object _ _ => .isTrue trivial
  | .interface _ _ => .isTrue trivial
  | .union _ => .isTrue trivial
  | .input _ => .isTrue trivial

theorem TypeBody.isAdmitted_all (body : TypeBody) : body.IsAdmitted fun _ => true := by
  cases body with
  | enum values => exact fun _ _ => rfl
  | _ => trivial

namespace Grammar

/-! ### Reading -/

abbrev Reader (α : Type) := List Lexeme → Option (α × List Lexeme)

def readName : Reader String
  | .name name :: rest => some (name, rest)
  | _ => none

def readMark : List Lexeme → Bool × List Lexeme
  | .punctuator '!' :: rest => (true, rest)
  | text => (false, text)

def readType : Reader TypeRef
  | .name name :: rest =>
    let (nonNull, rest) := readMark rest
    some (.named name nonNull, rest)
  | .punctuator '[' :: rest =>
    match readType rest with
    | some (element, .punctuator ']' :: rest) =>
      let (nonNull, rest) := readMark rest
      some (.list element nonNull, rest)
    | _ => none
  | _ => none

def readTyped : Reader TypeRef
  | .punctuator ':' :: rest => readType rest
  | _ => none

def itemsWithin {α : Type} (item : Reader α) (closing : Char) : Nat → Reader (List α)
  | 0, _ => none
  | _ + 1, .punctuator c :: rest => if c = closing then some ([], rest) else none
  | limit + 1, text => do
    let (first, rest) ← item text
    let (others, rest) ← itemsWithin item closing limit rest
    some (first :: others, rest)

def readBlock {α : Type} (opening closing : Char) (item : Reader α) : Reader (List α)
  | .punctuator c :: rest =>
    if c = opening then do
      let (items, rest) ← itemsWithin item closing rest.length rest
      if items.isEmpty then none else some (items, rest)
    else some ([], .punctuator c :: rest)
  | text => some ([], text)

def readNames (separator : Char) : List Lexeme → List String × List Lexeme
  | .punctuator c :: .name name :: rest =>
    if c = separator then
      let (others, rest) := readNames separator rest
      (name :: others, rest)
    else ([], .punctuator c :: .name name :: rest)
  | text => ([], text)

def readListed (separator : Char) : Reader (List String)
  | .name first :: rest =>
    let (others, rest) := readNames separator rest
    some (first :: others, rest)
  | text =>
    let (names, rest) := readNames separator text
    if names.isEmpty then none else some (names, rest)

def readAnnounced (announces : Lexeme → Bool) (separator : Char) : Reader (List String)
  | first :: rest =>
    if announces first then readListed separator rest else some ([], first :: rest)
  | [] => some ([], [])

def announcesInterfaces : Lexeme → Bool
  | .name word => word = "implements"
  | _ => false

def announcesMembers : Lexeme → Bool
  | .punctuator c => c = '='
  | _ => false

def readImplements : Reader (List String) := readAnnounced announcesInterfaces '&'

def readMembers : Reader (List String) := readAnnounced announcesMembers '|'

def readInputValue : Reader InputValue := fun text => do
  let (name, rest) ← readName text
  let (type, rest) ← readTyped rest
  some ({ name, type }, rest)

def readField : Reader FieldDefinition := fun text => do
  let (name, rest) ← readName text
  let (arguments, rest) ← readBlock '(' ')' readInputValue rest
  let (type, rest) ← readTyped rest
  some ({ name, type, arguments }, rest)

def readEnumValue (admits : String → Bool) : Reader EnumValue := fun text => do
  let (name, rest) ← readName text
  if admits name then some ({ name }, rest) else none

def readFields (make : List String → List FieldDefinition → TypeBody) : Reader TypeBody :=
  fun text => do
    let (implements, rest) ← readImplements text
    let (fields, rest) ← readBlock '\x7b' '\x7d' readField rest
    some (make implements fields, rest)

def readBody (admits : String → Bool) (keyword : String) : Reader TypeBody := fun text =>
  match keyword with
  | "scalar" => some (.scalar, text)
  | "type" => readFields .object text
  | "interface" => readFields .interface text
  | "union" => do
    let (members, rest) ← readMembers text
    some (.union members, rest)
  | "enum" => do
    let (values, rest) ← readBlock '\x7b' '\x7d' (readEnumValue admits) text
    some (.enum values, rest)
  | "input" => do
    let (fields, rest) ← readBlock '\x7b' '\x7d' readInputValue text
    some (.input fields, rest)
  | _ => none

def readDeclared (admits : String → Bool) (isExtension : Bool) : Reader TypeDefinition
  | .name keyword :: .name name :: rest => do
    let (body, rest) ← readBody admits keyword rest
    if isExtension && body.isBare then none else some ({ name, isExtension, body }, rest)
  | _ => none

def readDefinition (admits : String → Bool) : Reader TypeDefinition
  | .name word :: rest =>
    if word = "extend" then readDeclared admits true rest
    else readDeclared admits false (.name word :: rest)
  | _ => none

def definitionsWithin (admits : String → Bool) : Nat → List Lexeme → Option (List TypeDefinition)
  | _, [] => some []
  | 0, _ :: _ => none
  | limit + 1, text => do
    let (first, rest) ← readDefinition admits text
    let others ← definitionsWithin admits limit rest
    some (first :: others)

/-- Reads the text of a schema that consists of type definitions. Which names may be values of an enum is
left open: GraphQL admits all but the reserved ones. -/
def read? (admits : String → Bool) (text : String) : Option (List TypeDefinition) := do
  let lexemes ← Lexeme.ofText? text.toList
  definitionsWithin admits lexemes.length lexemes

/-! ### Lexemes of definitions -/

def mark (nonNull : Bool) : List Lexeme := if nonNull then [.punctuator '!'] else []

def ofType : TypeRef → List Lexeme
  | .named name nonNull => .name name :: mark nonNull
  | .list element nonNull =>
    .punctuator '[' :: (ofType element ++ .punctuator ']' :: mark nonNull)

def block {α : Type} (opening closing : Char) (shows : α → List Lexeme) (items : List α) : List Lexeme :=
  if items.isEmpty then []
  else .punctuator opening :: (items.flatMap shows ++ [.punctuator closing])

def separated (separator : Char) (names : List String) : List Lexeme :=
  names.flatMap fun name => [.punctuator separator, .name name]

def listed (announcing : Lexeme) (separator : Char) : List String → List Lexeme
  | [] => []
  | first :: others => announcing :: .name first :: separated separator others

def ofInputValue (value : InputValue) : List Lexeme :=
  .name value.name :: .punctuator ':' :: ofType value.type

def ofField (field : FieldDefinition) : List Lexeme :=
  .name field.name ::
    (block '(' ')' ofInputValue field.arguments ++ .punctuator ':' :: ofType field.type)

def ofEnumValue (value : EnumValue) : List Lexeme := [.name value.name]

def braced {α : Type} (shows : α → List Lexeme) (items : List α) : List Lexeme :=
  block '\x7b' '\x7d' shows items

def ofInterfaces (interfaces : List String) : List Lexeme :=
  listed (.name "implements") '&' interfaces

def keyword : TypeBody → String
  | .scalar => "scalar"
  | .object _ _ => "type"
  | .interface _ _ => "interface"
  | .union _ => "union"
  | .enum _ => "enum"
  | .input _ => "input"

def ofBody : TypeBody → List Lexeme
  | .scalar => []
  | .object implements fields => ofInterfaces implements ++ braced ofField fields
  | .interface implements fields => ofInterfaces implements ++ braced ofField fields
  | .union members => listed (.punctuator '=') '|' members
  | .enum values => braced ofEnumValue values
  | .input fields => braced ofInputValue fields

def ofDefinition (definition : TypeDefinition) : List Lexeme :=
  (if definition.isExtension then [.name "extend"] else []) ++
    .name (keyword definition.body) :: .name definition.name :: ofBody definition.body

/-! ### Reading the lexemes -/

variable {α : Type} {later : List Lexeme} {opening closing separator : Char}

def Opens (c : Char) (text : List Lexeme) : Prop := text.head? = some (.punctuator c)

/-- The text is at its end or begins with a word other than the one that announces interfaces. -/
def IsBoundary (text : List Lexeme) : Prop :=
  text = [] ∨ ∃ word rest, text = .name word :: rest ∧ word ≠ "implements"

theorem IsBoundary.not_opens (boundary : IsBoundary later) (c : Char) : ¬ Opens c later := by
  rcases boundary with rfl | ⟨word, rest, rfl, -⟩
  · exact nofun
  · exact nofun

theorem IsBoundary.announcesInterfaces (boundary : IsBoundary later) :
    ∀ first ∈ later.head?, announcesInterfaces first = false := by
  intro first head
  rcases boundary with rfl | ⟨word, rest, rfl, other⟩
  · cases head
  · cases head
    exact decide_eq_false other

theorem IsBoundary.announcesMembers (boundary : IsBoundary later) :
    ∀ first ∈ later.head?, announcesMembers first = false := by
  intro first head
  rcases boundary with rfl | ⟨word, rest, rfl, -⟩
  · cases head
  · cases head
    rfl

theorem not_opens_name (c : Char) (name : String) (rest : List Lexeme) :
    ¬ Opens c (.name name :: rest) := nofun

theorem not_opens_punctuator {c d : Char} (other : d ≠ c) (rest : List Lexeme) :
    ¬ Opens c (.punctuator d :: rest) := by
  intro opens
  cases opens
  exact other rfl

theorem readMark_mark (nonNull : Bool) (unmarked : ¬ Opens '!' later) :
    readMark (mark nonNull ++ later) = (nonNull, later) := by
  cases nonNull with
  | true => rfl
  | false =>
    show readMark later = (false, later)
    unfold readMark
    split
    · exact absurd rfl unmarked
    · rfl

theorem readType_ofType (type : TypeRef) (unmarked : ¬ Opens '!' later) :
    readType (ofType type ++ later) = some (type, later) := by
  induction type generalizing later with
  | named name nonNull =>
    show (let (nonNull, rest) := readMark (mark nonNull ++ later)
      some (TypeRef.named name nonNull, rest)) = _
    rw [readMark_mark nonNull unmarked]
  | list element nonNull ih =>
    have closed : ¬ Opens '!' (.punctuator ']' :: (mark nonNull ++ later)) :=
      not_opens_punctuator (by decide) _
    have inner := ih closed
    have split : ofType (.list element nonNull) ++ later =
        .punctuator '[' :: (ofType element ++ .punctuator ']' :: (mark nonNull ++ later)) := by
      simp [ofType]
    rw [split, readType, inner]
    show (let (nonNull, rest) := readMark (mark nonNull ++ later)
      some (TypeRef.list element nonNull, rest)) = _
    rw [readMark_mark nonNull unmarked]

/-- The item is read where no mark follows, and it begins with a name. -/
structure ReadsItem (item : Reader α) (shows : α → List Lexeme) (a : α) : Prop where
  begins : ∃ name rest, shows a = .name name :: rest
  reads : ∀ later, ¬ Opens '!' later → item (shows a ++ later) = some (a, later)

section

variable {item : Reader α} {shows : α → List Lexeme} {items : List α}

theorem not_opens_items (later : List Lexeme) (each : ∀ a ∈ items, ReadsItem item shows a) (other : closing ≠ '!') :
    ¬ Opens '!' (items.flatMap shows ++ .punctuator closing :: later) := by
  cases items with
  | nil => exact not_opens_punctuator other later
  | cons a items =>
    obtain ⟨name, rest, begins⟩ := (each a List.mem_cons_self).begins
    rw [List.flatMap_cons, begins]
    exact not_opens_name _ _ _

theorem length_le_items (each : ∀ a ∈ items, ReadsItem item shows a) :
    items.length ≤ (items.flatMap shows).length := by
  induction items with
  | nil => exact Nat.le_refl 0
  | cons a items ih =>
    obtain ⟨here, others⟩ := List.forall_mem_cons.1 each
    obtain ⟨name, rest, begins⟩ := here.begins
    have fewer := ih others
    rw [List.flatMap_cons, begins, List.length_append, List.length_cons, List.length_cons]
    omega

theorem itemsWithin_flatMap {limit : Nat} (each : ∀ a ∈ items, ReadsItem item shows a)
    (other : closing ≠ '!') (fits : items.length < limit) :
    itemsWithin item closing limit (items.flatMap shows ++ .punctuator closing :: later) =
      some (items, later) := by
  induction items generalizing limit with
  | nil =>
    cases limit with
    | zero => cases fits
    | succ limit => exact if_pos rfl
  | cons a items ih =>
    obtain ⟨here, others⟩ := List.forall_mem_cons.1 each
    cases limit with
    | zero => cases fits
    | succ limit =>
      have first := here.reads _ (not_opens_items later others other)
      have rest := ih others (Nat.lt_of_succ_lt_succ fits)
      obtain ⟨name, following, begins⟩ := here.begins
      rw [List.flatMap_cons, List.append_assoc]
      -- with its name in sight the item is not taken for the closing bracket
      rw [begins, List.cons_append] at first ⊢
      show (item _).bind _ = _
      rw [first]
      show (itemsWithin item closing limit _).bind _ = _
      rw [rest]
      rfl

theorem readBlock_absent (absent : ¬ Opens opening later) :
    readBlock opening closing item later = some ([], later) := by
  unfold readBlock
  split
  · next c rest =>
    rw [if_neg]
    rintro rfl
    exact absent rfl
  · rfl

theorem readBlock_block (each : ∀ a ∈ items, ReadsItem item shows a) (other : closing ≠ '!')
    (absent : ¬ Opens opening later) :
    readBlock opening closing item (block opening closing shows items ++ later) =
      some (items, later) := by
  cases filled : items.isEmpty with
  | true =>
    obtain rfl := List.isEmpty_iff.1 filled
    exact readBlock_absent absent
  | false =>
    have split : block opening closing shows items ++ later =
        .punctuator opening :: (items.flatMap shows ++ .punctuator closing :: later) := by
      simp [block, filled]
    have fits : items.length < (items.flatMap shows ++ .punctuator closing :: later).length := by
      have fewer := length_le_items each
      rw [List.length_append, List.length_cons]
      omega
    rw [split, readBlock, if_pos rfl, itemsWithin_flatMap each other fits]
    show (if items.isEmpty then none else some (items, later)) = _
    rw [filled]
    rfl

end

theorem not_opens_block {shows : α → List Lexeme} {c : Char} (other : opening ≠ c) (items : List α)
    (absent : ¬ Opens c later) : ¬ Opens c (block opening closing shows items ++ later) := by
  unfold block
  split
  · exact absent
  · exact not_opens_punctuator other _

theorem readsItem_inputValue {value : InputValue} (skeleton : value.IsSkeleton) :
    ReadsItem readInputValue ofInputValue value where
  begins := ⟨_, _, rfl⟩
  reads := by
    intro later unmarked
    have read := readType_ofType value.type unmarked
    obtain ⟨name, type, description, default, directives⟩ := value
    obtain ⟨rfl, rfl, rfl⟩ := skeleton
    show (readType (ofType type ++ later)).bind _ = _
    rw [read]
    rfl

theorem readsItem_field {field : FieldDefinition} (skeleton : field.IsSkeleton) :
    ReadsItem readField ofField field where
  begins := ⟨_, _, rfl⟩
  reads := by
    intro later unmarked
    have closing : ')' ≠ '!' := by decide
    have typed : ¬ Opens '(' (.punctuator ':' :: (ofType field.type ++ later)) :=
      not_opens_punctuator (by decide) _
    have passed := readBlock_block
      (fun value member => readsItem_inputValue (skeleton.arguments value member)) closing typed
    have read := readType_ofType field.type unmarked
    obtain ⟨name, type, description, arguments, directives⟩ := field
    obtain ⟨rfl, -, rfl⟩ := skeleton
    have split : ofField { name, type, arguments } ++ later = .name name ::
        (block '(' ')' ofInputValue arguments ++ .punctuator ':' :: (ofType type ++ later)) := by
      simp [ofField]
    rw [split]
    show (readBlock '(' ')' readInputValue _).bind _ = _
    rw [passed]
    show (readType (ofType type ++ later)).bind _ = _
    rw [read]
    rfl

theorem readsItem_enumValue {admits : String → Bool} {value : EnumValue} (skeleton : value.IsSkeleton)
    (admitted : admits value.name = true) : ReadsItem (readEnumValue admits) ofEnumValue value where
  begins := ⟨_, _, rfl⟩
  reads := by
    intro later _
    obtain ⟨name, description, directives⟩ := value
    obtain ⟨rfl, rfl⟩ := skeleton
    exact if_pos admitted

theorem readNames_separated (names : List String) (absent : ¬ Opens separator later) :
    readNames separator (separated separator names ++ later) = (names, later) := by
  induction names with
  | nil =>
    show readNames separator later = ([], later)
    unfold readNames
    split
    · next c name rest =>
      rw [if_neg]
      rintro rfl
      exact absent rfl
    · rfl
  | cons name names ih =>
    show readNames separator
      (.punctuator separator :: .name name :: (separated separator names ++ later)) = _
    rw [readNames, if_pos rfl, ih]

theorem readAnnounced_listed {announces : Lexeme → Bool} {announcing : Lexeme}
    (announced : announces announcing = true) (names : List String) (absent : ¬ Opens separator later)
    (other : ∀ first ∈ later.head?, announces first = false) :
    readAnnounced announces separator (listed announcing separator names ++ later) =
      some (names, later) := by
  cases names with
  | nil =>
    show readAnnounced announces separator later = some ([], later)
    cases later with
    | nil => rfl
    | cons first rest => rw [readAnnounced, other first rfl, if_neg Bool.false_ne_true]
  | cons first names =>
    show readAnnounced announces separator
      (announcing :: .name first :: (separated separator names ++ later)) = _
    rw [readAnnounced, if_pos announced, readListed, readNames_separated names absent]

theorem readBlock_braced {item : Reader α} {shows : α → List Lexeme} {items : List α}
    (each : ∀ a ∈ items, ReadsItem item shows a) (boundary : IsBoundary later) :
    readBlock '\x7b' '\x7d' item (braced shows items ++ later) = some (items, later) :=
  readBlock_block each (by decide) (boundary.not_opens '\x7b')

theorem readFields_append {make : List String → List FieldDefinition → TypeBody}
    {fields : List FieldDefinition} (implements : List String)
    (skeleton : ∀ field ∈ fields, field.IsSkeleton) (boundary : IsBoundary later) :
    readFields make (ofInterfaces implements ++ braced ofField fields ++ later) =
      some (make implements fields, later) := by
  have other : ∀ first ∈ (braced ofField fields ++ later).head?, announcesInterfaces first = false := by
    cases fields with
    | nil => exact boundary.announcesInterfaces
    | cons field fields =>
      intro first head
      cases head
      rfl
  have apart : ¬ Opens '&' (braced ofField fields ++ later) :=
    not_opens_block (by decide) fields (boundary.not_opens '&')
  have announced : announcesInterfaces (.name "implements") = true := by decide
  have named := readAnnounced_listed announced implements apart other
  have inside := readBlock_braced (fun field member => readsItem_field (skeleton field member)) boundary
  rw [List.append_assoc]
  show (readAnnounced announcesInterfaces '&' _).bind _ = _
  rw [ofInterfaces, named]
  show (readBlock '\x7b' '\x7d' readField _).bind _ = _
  rw [inside]
  rfl

theorem readBody_ofBody {admits : String → Bool} {body : TypeBody} (skeleton : body.IsSkeleton)
    (admitted : body.IsAdmitted admits) (boundary : IsBoundary later) :
    readBody admits (keyword body) (ofBody body ++ later) = some (body, later) := by
  cases body with
  | scalar => rfl
  | object implements fields => exact readFields_append implements skeleton boundary
  | interface implements fields => exact readFields_append implements skeleton boundary
  | union members =>
    have announced : announcesMembers (.punctuator '=') = true := by decide
    have read := readAnnounced_listed announced members (boundary.not_opens '|')
      boundary.announcesMembers
    show (readAnnounced announcesMembers '|' _).bind _ = _
    rw [ofBody, read]
    rfl
  | enum values =>
    have read := readBlock_braced (fun value member =>
      readsItem_enumValue (skeleton value member) (admitted value member)) boundary
    show (readBlock '\x7b' '\x7d' (readEnumValue admits) _).bind _ = _
    rw [ofBody, read]
    rfl
  | input fields =>
    have read :=
      readBlock_braced (fun field member => readsItem_inputValue (skeleton field member)) boundary
    show (readBlock '\x7b' '\x7d' readInputValue _).bind _ = _
    rw [ofBody, read]
    rfl

theorem readDeclared_ofBody {admits : String → Bool} {definition : TypeDefinition}
    (skeleton : definition.IsSkeleton)
    (admitted : definition.body.IsAdmitted admits) (boundary : IsBoundary later) :
    readDeclared admits definition.isExtension (.name (keyword definition.body) ::
      .name definition.name :: (ofBody definition.body ++ later)) = some (definition, later) := by
  have read := readBody_ofBody skeleton.body admitted boundary
  have adds := skeleton.addition
  obtain ⟨name, isExtension, description, directives, body⟩ := definition
  obtain ⟨-, -, rfl, rfl, -, -⟩ := skeleton
  have full : (isExtension && body.isBare) = false := by
    cases isExtension with
    | true => exact adds rfl
    | false => rfl
  show (readBody admits (keyword body) _).bind _ = _
  rw [read]
  show (if isExtension && body.isBare then none else _) = _
  rw [full, if_neg Bool.false_ne_true]

theorem keyword_mem (body : TypeBody) :
    keyword body ∈ ["scalar", "type", "interface", "union", "enum", "input"] := by
  cases body <;> simp [keyword]

theorem ofDefinition_cons (definition : TypeDefinition) :
    ∃ word rest, ofDefinition definition = .name word :: rest ∧ word ≠ "implements" := by
  have each : ∀ word ∈ ["scalar", "type", "interface", "union", "enum", "input"],
      word ≠ "implements" := by decide
  unfold ofDefinition
  cases definition.isExtension with
  | true => exact ⟨"extend", _, rfl, by decide⟩
  | false => exact ⟨_, _, rfl, each _ (keyword_mem definition.body)⟩

theorem readDefinition_ofDefinition {admits : String → Bool} {definition : TypeDefinition}
    (skeleton : definition.IsSkeleton)
    (admitted : definition.body.IsAdmitted admits) (boundary : IsBoundary later) :
    readDefinition admits (ofDefinition definition ++ later) = some (definition, later) := by
  have read := readDeclared_ofBody skeleton admitted boundary
  unfold ofDefinition
  cases extension : definition.isExtension with
  | true =>
    rw [extension] at read
    show readDefinition admits (.name "extend" :: .name (keyword definition.body) ::
      .name definition.name :: (ofBody definition.body ++ later)) = _
    rw [readDefinition, if_pos rfl]
    exact read
  | false =>
    have each : ∀ word ∈ ["scalar", "type", "interface", "union", "enum", "input"],
        word ≠ "extend" := by decide
    rw [extension] at read
    show readDefinition admits (.name (keyword definition.body) ::
      .name definition.name :: (ofBody definition.body ++ later)) = _
    rw [readDefinition, if_neg (each _ (keyword_mem definition.body))]
    exact read

theorem isBoundary_flatMap (definitions : List TypeDefinition) :
    IsBoundary (definitions.flatMap ofDefinition) := by
  cases definitions with
  | nil => exact .inl rfl
  | cons definition definitions =>
    obtain ⟨word, rest, begins, other⟩ := ofDefinition_cons definition
    rw [List.flatMap_cons, begins]
    exact .inr ⟨word, _, rfl, other⟩

theorem definitionsWithin_flatMap {admits : String → Bool} {definitions : List TypeDefinition}
    {limit : Nat} (skeletons : ∀ definition ∈ definitions, definition.IsSkeleton)
    (admitted : ∀ definition ∈ definitions, definition.body.IsAdmitted admits)
    (fits : (definitions.flatMap ofDefinition).length ≤ limit) :
    definitionsWithin admits limit (definitions.flatMap ofDefinition) = some definitions := by
  induction definitions generalizing limit with
  | nil => cases limit <;> rfl
  | cons definition definitions ih =>
    obtain ⟨here, others⟩ := List.forall_mem_cons.1 skeletons
    obtain ⟨free, rest⟩ := List.forall_mem_cons.1 admitted
    have first := readDefinition_ofDefinition here free (isBoundary_flatMap definitions)
    obtain ⟨word, following, begins, -⟩ := ofDefinition_cons definition
    rw [List.flatMap_cons] at fits ⊢
    rw [begins, List.cons_append] at fits first ⊢
    cases limit with
    | zero => cases fits
    | succ limit =>
      have fewer : (definitions.flatMap ofDefinition).length ≤ limit := by
        rw [List.length_cons, List.length_append] at fits
        omega
      have later := ih others rest fewer
      show (readDefinition admits _).bind _ = _
      rw [first]
      show (definitionsWithin admits limit _).bind _ = _
      rw [later]
      rfl

example : read? (fun _ => true) "extend type Port" = none := rfl

example : read? (fun _ => true) "enum Track \x7b\x7d" = none := rfl

end Grammar

end SchemaDiscovery
