import SchemaDiscovery.Descriptor.TypeUse
/-!
Source types described by plain data: what they declare, what they extend and how they are tagged.
-/

namespace SchemaDiscovery

inductive Visibility
  | isPublic
  | isPrivate
  deriving DecidableEq, Repr

structure Parameter where
  name : String
  type : TypeUse
  tags : List Tag := []
  deriving DecidableEq, Repr

structure Method where
  name : String
  visibility : Visibility := .isPublic
  isStatic : Bool := false
  params : List Parameter := []
  returns : Option TypeUse := none
  tags : List Tag := []
  deriving DecidableEq, Repr

def Method.isPublic (method : Method) : Bool := method.visibility = .isPublic

structure StorageField where
  name : String
  type : TypeUse
  tags : List Tag := []
  deriving DecidableEq, Repr

/-- A parent or an implemented interface, with the arguments for its type variables. -/
structure Supertype where
  key : TypeKey
  args : List TypeUse := []
  deriving DecidableEq, Repr

inductive TypeForm
  | isClass
  | isInterface
  | isEnum (members : List String)
  deriving DecidableEq, Repr

structure TypeDescriptor where
  key : TypeKey
  form : TypeForm := .isClass
  typeParams : List String := []
  parent : Option Supertype := none
  interfaces : List Supertype := []
  tags : List Tag := []
  fields : List StorageField := []
  methods : List Method := []
  deriving DecidableEq, Repr

namespace TypeDescriptor

def members? (type : TypeDescriptor) : Option (List String) :=
  match type.form with
  | .isEnum members => some members
  | _ => none

def isEnum (type : TypeDescriptor) : Bool := type.members?.isSome

def hasInterfaceTag (type : TypeDescriptor) : Bool := type.tags.any Tag.isInterface

def hasImplementationTag (type : TypeDescriptor) : Bool := type.tags.any Tag.isImplementation

def supertypes (type : TypeDescriptor) : List Supertype := type.parent.toList ++ type.interfaces

def description? (type : TypeDescriptor) : Option String :=
  type.tags.findSome? fun
    | .description text => some text
    | _ => none

end TypeDescriptor

inductive TypeKind
  | object
  | input
  | enum
  | interface
  deriving DecidableEq, Repr

def TypeKind.label : TypeKind → String
  | .object => "OBJECT"
  | .input => "INPUT"
  | .enum => "ENUM"
  | .interface => "INTERFACE"

end SchemaDiscovery
