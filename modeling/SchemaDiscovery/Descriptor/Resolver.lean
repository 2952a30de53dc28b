import SchemaDiscovery.Descriptor.Type
/-!
Resolvers: sources of fields for a root operation type or for one source type.
-/

namespace SchemaDiscovery

inductive ResolverRole
  | query
  | mutation
  | subscription
  | extension (source : TypeKey)
  deriving DecidableEq, Repr

def ResolverRole.rootName? : ResolverRole → Option String
  | .query => some "Query"
  | .mutation => some "Mutation"
  | .subscription => some "Subscription"
  | .extension _ => none

def ResolverRole.source? : ResolverRole → Option TypeKey
  | .extension source => some source
  | _ => none

def ResolverRole.display : ResolverRole → String
  | .query => "query"
  | .mutation => "mutation"
  | .subscription => "subscription"
  | .extension source => "extension of " ++ source.path

structure Resolver where
  name : String
  role : ResolverRole
  methods : List Method := []
  deriving DecidableEq, Repr

structure Manifest where
  types : List TypeDescriptor := []
  resolvers : List Resolver := []
  deriving DecidableEq, Repr

end SchemaDiscovery
