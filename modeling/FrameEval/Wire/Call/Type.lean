import FrameEval.Wire.Call.Basic
import FrameEval.Wire.Variable

/-!
# Calls about types

The signature and the hierarchy of a type, its declared members, the values of its static
fields, the variables of its methods, and new arrays of it.
-/

namespace FrameEval.Wire

namespace Reader

def fieldInfo : Reader FieldInfo := do
  let id ← uint64
  let name ← text
  let signature ← text
  let modifiers ← int32
  return ⟨id, name, signature, modifiers⟩

def methodInfo : Reader MethodInfo := do
  let id ← uint64
  let name ← text
  let signature ← text
  let modifiers ← int32
  return ⟨id, name, signature, modifiers⟩

def tableEntry : Reader Variable := do
  let codeIndex ← uint64
  let name ← text
  let signature ← text
  let length ← uint32
  let slot ← uint32
  return ⟨codeIndex, name, signature, length, slot⟩

/-- The variables of a method, after the size of its arguments. -/
def variableTable : Reader (List Variable) := do
  let _ ← int32
  counted tableEntry

/-- The id of a superclass; zero stands for none. -/
def superclass : Reader (Option TypeId) := do
  let id ← uint64
  return if id = 0 then none else some id

end Reader

namespace Writer

/-- A number of fields to read. -/
def fieldIds (fields : List FieldId) : Bytes :=
  count fields.length ++ (fields.map uint64).flatten

/-- Fields with values that are written untagged, since the target knows the types. -/
def fieldValues (values : List (FieldId × Value)) : Bytes :=
  count values.length ++ (values.map fun entry => uint64 entry.1 ++ value entry.2).flatten

end Writer

namespace Call

def typeSignature (type : TypeId) : Call String :=
  plain CommandSet.referenceType 1 (Writer.uint64 type) Reader.text

/-- The declared fields of a type. -/
def fields (type : TypeId) : Call (List FieldInfo) :=
  plain CommandSet.referenceType 4 (Writer.uint64 type) (Reader.counted Reader.fieldInfo)

/-- The declared methods of a type. -/
def methods (type : TypeId) : Call (List MethodInfo) :=
  plain CommandSet.referenceType 5 (Writer.uint64 type) (Reader.counted Reader.methodInfo)

def staticValues (type : TypeId) (fields : List FieldId) : Call (List Value) :=
  plain CommandSet.referenceType 6 (Writer.uint64 type ++ Writer.fieldIds fields)
    (Reader.counted Reader.tagged)

/-- The interfaces that a type names itself. -/
def interfaces (type : TypeId) : Call (List TypeId) :=
  plain CommandSet.referenceType 10 (Writer.uint64 type) (Reader.counted Reader.uint64)

/-- The superclass of a class; the root class has none. -/
def superclass (type : TypeId) : Call (Option TypeId) :=
  plain CommandSet.classType 1 (Writer.uint64 type) Reader.superclass

def setStaticValues (type : TypeId) (values : List (FieldId × Value)) : Call Unit :=
  plain CommandSet.classType 2 (Writer.uint64 type ++ Writer.fieldValues values) (return ())

/-- Make an array of an array type. -/
def newArray (type : TypeId) (length : Int32) : Call ObjectId :=
  plain CommandSet.arrayType 1 (Writer.uint64 type ++ Writer.int32 length) do
    let (_, array) ← Reader.taggedObject
    return array

/-- The variables of a method; a class without debugging information refuses. -/
def variableTable (type : TypeId) (method : MethodId) : Call (List Variable) :=
  plain CommandSet.method 2 (Writer.uint64 type ++ Writer.uint64 method) Reader.variableTable

end Call

end FrameEval.Wire
