import FrameEval.Remote.Errand
import FrameEval.Wire.Call.Target
import FrameEval.Wire.Call.Type

/-!
# Types and their members over a link

What a type declares is fetched once and then recalled.  A field is looked for in a type and
then in its superclasses, the nearest first.  A method is looked for in the same way, and
only then in the interfaces of all these types, breadth first, each interface once.

Neither the superclasses nor the interfaces need to be finitely many, so a search has a
limit of types to look at.  A search for a method breaks off at a method whose parameters it has
to count and cannot split.
-/

namespace FrameEval.Remote

open Wire

/-- The tag of classes. -/
def classTag : UInt8 := 1

/-- The tag of interfaces. -/
def interfaceTag : UInt8 := 2

/-- A type with its kind. -/
structure TypeHandle where
  id : TypeId
  tag : UInt8
  deriving DecidableEq

/-- A superclass, which is always a class. -/
def TypeHandle.ofClass (id : TypeId) : TypeHandle := ⟨id, classTag⟩

/-- An interface. -/
def TypeHandle.ofInterface (id : TypeId) : TypeHandle := ⟨id, interfaceTag⟩

namespace Errand

/-- Fetch what a type declares; only a class is asked for its superclass. -/
def fetchMetadata (type : TypeHandle) : Errand TypeMetadata := do
  let signature ← call (Call.typeSignature type.id)
  let superclass ←
    if type.tag = classTag then call (Call.superclass type.id) else pure none
  let interfaces ← call (Call.interfaces type.id)
  let fields ← call (Call.fields type.id)
  let methods ← call (Call.methods type.id)
  return ⟨signature, superclass, interfaces, fields, methods⟩

/-- What a type declares, fetched unless it is known. -/
def metadata (type : TypeHandle) : Errand TypeMetadata := do
  match ← ask (.lookUp type.id) with
  | some known => return known
  | none => do
      let fetched ← fetchMetadata type
      ask (.remember type.id fetched)
      return fetched

/-- The first loaded type with a signature. -/
def typeOfSignature (signature : String) : Errand TypeHandle := do
  match ← call (Call.classesBySignature signature) with
  | [] => fail (.noSuchClass (Signature.typeName signature))
  | found :: _ => return ⟨found.id, found.typeTag⟩

/-- The name of the type at which a search starts; an empty one gives way to the next. -/
def startName (holder : String) (metadata : TypeMetadata) : String :=
  if holder.isEmpty then Signature.typeName metadata.signature else holder

/-- The nearest field of a name from a type on. -/
def fieldFrom (name : String) (wantStatic : Option Bool) :
    Nat → String → TypeHandle → Errand FieldRef
  | 0, _, _ => exhaust
  | limit + 1, holder, type => do
      let declared ← metadata type
      let holder := startName holder declared
      match declared.field? name wantStatic, declared.superclass with
      | some field, _ => return .of type.id field
      | none, some superclass => fieldFrom name wantStatic limit holder (.ofClass superclass)
      | none, none => fail (.noSuchField s!"{name} in {holder}")

/-- The first method among pending interfaces and their superinterfaces. -/
def methodOfInterfaces (selector : MethodSelector) (wantStatic : Bool) (holder : String) :
    Nat → List TypeId → List TypeId → Errand MethodRef
  | _, _, [] => fail (.noSuchMethod s!"{selector.display} in {holder}")
  | 0, _, _ :: _ => exhaust
  | limit + 1, seen, type :: pending =>
      if type ∈ seen then methodOfInterfaces selector wantStatic holder limit seen pending
      else do
        let declared ← metadata (.ofInterface type)
        match ← orAbort (declared.method? selector wantStatic) with
        | some method => return .of type method
        | none =>
            methodOfInterfaces selector wantStatic holder limit (type :: seen)
              (pending ++ declared.interfaces)

/-- The nearest method from a type on, or else the first one of the interfaces, which are
collected on the way. -/
def methodFrom (selector : MethodSelector) (wantStatic : Bool) (searchLimit : Nat) :
    Nat → String → List TypeId → TypeHandle → Errand MethodRef
  | 0, _, _, _ => exhaust
  | limit + 1, holder, interfaces, type => do
      let declared ← metadata type
      let holder := startName holder declared
      match ← orAbort (declared.method? selector wantStatic) with
      | some method => return .of type.id method
      | none =>
          let interfaces := interfaces ++ declared.interfaces
          match declared.superclass with
          | some superclass =>
              methodFrom selector wantStatic searchLimit limit holder interfaces
                (.ofClass superclass)
          | none => methodOfInterfaces selector wantStatic holder searchLimit [] interfaces

/-- A field of a type. -/
def findField (searchLimit : Nat) (type : TypeHandle) (name : String)
    (wantStatic : Option Bool) : Errand FieldRef :=
  fieldFrom name wantStatic searchLimit "" type

/-- A method of a type. -/
def findMethod (searchLimit : Nat) (type : TypeHandle) (selector : MethodSelector)
    (wantStatic : Bool) : Errand MethodRef :=
  methodFrom selector wantStatic searchLimit searchLimit "" [] type

end Errand

end FrameEval.Remote
