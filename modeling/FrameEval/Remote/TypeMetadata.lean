import FrameEval.Member
import FrameEval.Wire.Variable

/-!
# What a loaded type declares

The signature of a type, its place in the hierarchy and its declared members.  All of it
stays as it is once the type is loaded.

A search for a method goes through the declared methods in order and breaks off without an
answer at one whose parameters must be counted and cannot be split.
-/

namespace FrameEval.Remote

open Wire

/-- What a type declares. -/
structure TypeMetadata where
  signature : String
  superclass : Option TypeId
  interfaces : List TypeId
  fields : List FieldInfo
  methods : List MethodInfo

namespace TypeMetadata

/-- The first declared field of a name, of any kind or only among static or instance fields. -/
def field? (metadata : TypeMetadata) (name : String) (wantStatic : Option Bool) :
    Option FieldInfo :=
  metadata.fields.find? fun field =>
    field.name = name && (wantStatic = none || wantStatic = some field.isStatic)

/-- The first declared method, if there is one, that a selector selects among static or
instance methods. -/
def method? (metadata : TypeMetadata) (selector : MethodSelector) (wantStatic : Bool) :
    Option (Option MethodInfo) :=
  metadata.methods.findM? fun method =>
    selector.selectsAmong? wantStatic method.name method.signature method.isStatic

/-- The name under which constructors are declared. -/
def constructorName : String := "<init>"

/-- The first declared constructor, if there is one, that a selector selects. -/
def constructor? (metadata : TypeMetadata) (selector : MethodSelector) :
    Option (Option MethodInfo) :=
  metadata.methods.findM? fun method =>
    if method.name = constructorName then selector.selects? method.name method.signature
    else some false

end TypeMetadata

end FrameEval.Remote

namespace FrameEval

open Wire

/-- A declared field as a lookup finds it. -/
def FieldRef.of (declaringType : TypeId) (field : FieldInfo) : FieldRef :=
  ⟨declaringType, field.id, field.name, field.signature, field.isStatic⟩

/-- A declared method as a lookup finds it. -/
def MethodRef.of (declaringType : TypeId) (method : MethodInfo) : MethodRef :=
  ⟨declaringType, method.id, method.name, method.signature, method.isStatic⟩

end FrameEval
