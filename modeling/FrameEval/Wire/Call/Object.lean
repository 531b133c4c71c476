import FrameEval.Wire.Call.Type

/-!
# Calls about objects

The runtime type of an object, its fields, the text of a string, and the elements of an
array.  A row of elements comes under one tag: primitives follow without a tag of their
own, while each object has its own tag, since it may be of a special kind.
-/

namespace FrameEval.Wire

namespace Reader

/-- The kind of a type and its id. -/
def typeReference : Reader (UInt8 × TypeId) := do
  let typeTag ← uint8
  let id ← uint64
  return (typeTag, id)

/-- A row of array elements. -/
def elements : Reader (List Value) := do
  let tag ← uint8
  match Tag.ofByte? tag with
  | none => fail s!"Unknown array region tag: {tag.toNat}"
  | some known => counted (if known.isObject then tagged else value tag)

end Reader

namespace Writer

/-- A row of array elements in the form in which the target sends it. -/
def elements (tag : Tag) (values : List Value) : Bytes :=
  uint8 tag.byte ++ count values.length ++
    (values.map (if tag.isObject then tagged else value)).flatten

end Writer

namespace Call

/-- The runtime type of an object: what kind of type it is, and its id. -/
def objectType (object : ObjectId) : Call (UInt8 × TypeId) :=
  plain CommandSet.object 1 (Writer.uint64 object) Reader.typeReference

def objectValues (object : ObjectId) (fields : List FieldId) : Call (List Value) :=
  plain CommandSet.object 2 (Writer.uint64 object ++ Writer.fieldIds fields)
    (Reader.counted Reader.tagged)

def setObjectValues (object : ObjectId) (values : List (FieldId × Value)) : Call Unit :=
  plain CommandSet.object 3 (Writer.uint64 object ++ Writer.fieldValues values) (return ())

def stringValue (string : ObjectId) : Call String :=
  plain CommandSet.string 1 (Writer.uint64 string) Reader.text

def arrayLength (array : ObjectId) : Call Int32 :=
  plain CommandSet.array 1 (Writer.uint64 array) Reader.int32

/-- So many elements of an array from an index on. -/
def arrayValues (array : ObjectId) (first length : Int32) : Call (List Value) :=
  plain CommandSet.array 2 (Writer.uint64 array ++ Writer.int32 first ++ Writer.int32 length)
    Reader.elements

/-- Set the elements of an array from an index on; they are written untagged. -/
def setArrayValues (array : ObjectId) (first : Int32) (values : List Value) : Call Unit :=
  plain CommandSet.array 3
    (Writer.uint64 array ++ Writer.int32 first ++ Writer.count values.length ++
      (values.map Writer.value).flatten)
    (return ())

end Call

end FrameEval.Wire
