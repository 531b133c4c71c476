import FrameEval.Proofs.Wire.Reading
import FrameEval.Wire.Event

/-!
# The layout of event sets

A set of events is laid out as its policy, the number of its events and the events, each with its
kind, its request and a payload that depends on the kind.  Reading such a layout gives the set
back, no proper prefix of it is read, and an event of an unknown kind ends the set.

`Payload` has every field that the target writes; of some of them nothing is kept.
-/

namespace FrameEval.Wire

/-- A text whose length in bytes fits into its prefix. -/
structure ShortText where
  text : String
  short : (encodeText text).length < UInt32.size

/-- What an event of a known kind carries. -/
inductive Payload where
  | vmStart (thread : ThreadId)
  | vmDeath
  | threadStart (thread : ThreadId)
  | threadDeath (thread : ThreadId)
  | classPrepare (thread : ThreadId) (typeTag : UInt8) (type : TypeId) (signature : ShortText)
      (status : Int32)
  | breakpoint (thread : ThreadId) (location : Location)
  | step (thread : ThreadId) (location : Location)
  | exception (thread : ThreadId) (location : Location) (tag : UInt8) (exception : ObjectId)
      (caught : Location)
  | methodEntry (thread : ThreadId) (location : Location)
  | methodExit (thread : ThreadId) (location : Location)

namespace Payload

/-- What happened; a location without a class and a method is where nothing is caught. -/
def occurrence : Payload → Occurrence
  | vmStart thread => .vmStart thread
  | vmDeath => .vmDeath
  | threadStart thread => .threadStart thread
  | threadDeath thread => .threadDeath thread
  | classPrepare thread _ type signature status =>
      .classPrepare thread type signature.text status
  | breakpoint thread location => .breakpoint thread location
  | step thread location => .step thread location
  | exception thread location _ thrown caught =>
      .exception thread location thrown
        (if caught.classId = 0 ∧ caught.methodId = 0 then none else some caught)
  | methodEntry thread location => .methodEntry thread location
  | methodExit thread location => .methodExit thread location

/-- The fields of a payload in the order in which they are written. -/
def bytes : Payload → Bytes
  | vmStart thread => Writer.uint64 thread
  | vmDeath => []
  | threadStart thread => Writer.uint64 thread
  | threadDeath thread => Writer.uint64 thread
  | classPrepare thread typeTag type signature status =>
      Writer.uint64 thread ++ Writer.uint8 typeTag ++ Writer.uint64 type ++
        Writer.text signature.text ++ Writer.int32 status
  | breakpoint thread location => Writer.uint64 thread ++ Writer.location location
  | step thread location => Writer.uint64 thread ++ Writer.location location
  | exception thread location tag thrown caught =>
      Writer.uint64 thread ++ Writer.location location ++ Writer.uint8 tag ++
        Writer.uint64 thrown ++ Writer.location caught
  | methodEntry thread location => Writer.uint64 thread ++ Writer.location location
  | methodExit thread location => Writer.uint64 thread ++ Writer.location location

end Payload

/-- An event of a known kind as the target reports it. -/
structure Report where
  requestId : Int32
  payload : Payload

namespace Report

def kind (report : Report) : UInt8 := report.payload.occurrence.kind

def event (report : Report) : Event :=
  ⟨report.kind, report.requestId, report.payload.occurrence⟩

def bytes (report : Report) : Bytes :=
  Writer.uint8 report.kind ++ Writer.int32 report.requestId ++ report.payload.bytes

end Report

/-- The layout of a set: a policy, a count and the events. -/
def layout (policy : SuspendPolicy) (count : Int32) (reports : List Report) : Bytes :=
  Writer.uint8 policy.byte ++ Writer.int32 count ++ (reports.map Report.bytes).flatten

/-- The kinds of which the payload is known. -/
def knownKinds : List UInt8 := [1, 2, 4, 6, 7, 8, 40, 41, 90, 99]

namespace Reader

/-! ## One event -/

theorem reads_threadAndLocation (thread : ThreadId) (place : Location) :
    threadAndLocation.Reads (Writer.uint64 thread ++ Writer.location place) (thread, place) :=
  (codec_uint64.reads thread trivial).bind ((reads_location place).map (Prod.mk thread))

theorem local_threadAndLocation : threadAndLocation.Local :=
  codec_uint64.toLocal.bind fun _ => local_location.map _

theorem reads_taggedObject (tag : UInt8) (id : ObjectId) :
    taggedObject.Reads (Writer.uint8 tag ++ Writer.uint64 id) (tag, id) :=
  (codec_uint8.reads tag trivial).bind ((codec_uint64.reads id trivial).map (Prod.mk tag))

theorem local_taggedObject : taggedObject.Local :=
  codec_uint8.toLocal.bind fun _ => codec_uint64.toLocal.map _

theorem reads_occurrence (payload : Payload) :
    (occurrence payload.occurrence.kind).Reads payload.bytes (some payload.occurrence) := by
  cases payload with
  | vmStart thread =>
      exact (codec_uint64.reads thread trivial).map fun thread => some (Occurrence.vmStart thread)
  | vmDeath => exact reads_pure _
  | threadStart thread =>
      exact (codec_uint64.reads thread trivial).map fun thread =>
        some (Occurrence.threadStart thread)
  | threadDeath thread =>
      exact (codec_uint64.reads thread trivial).map fun thread =>
        some (Occurrence.threadDeath thread)
  | classPrepare thread typeTag type signature status =>
      have whole : (occurrence 8).Reads
          (Writer.uint64 thread ++ (Writer.uint8 typeTag ++ (Writer.uint64 type ++
            (Writer.text signature.text ++ Writer.int32 status))))
          (some (.classPrepare thread type signature.text status)) :=
        (codec_uint64.reads thread trivial).bind
          ((codec_uint8.reads typeTag trivial).bind
            ((codec_uint64.reads type trivial).bind
              ((reads_text signature.short).bind
                ((codec_int32.reads status trivial).map fun status =>
                  some (Occurrence.classPrepare thread type signature.text status)))))
      simp only [← List.append_assoc] at whole
      exact whole
  | breakpoint thread place =>
      exact (reads_threadAndLocation thread place).map fun known =>
        some (Occurrence.breakpoint known.1 known.2)
  | step thread place =>
      exact (reads_threadAndLocation thread place).map fun known =>
        some (Occurrence.step known.1 known.2)
  | exception thread place tag thrown caught =>
      have whole : (occurrence 4).Reads
          ((Writer.uint64 thread ++ Writer.location place) ++
            ((Writer.uint8 tag ++ Writer.uint64 thrown) ++ Writer.location caught))
          (some (Payload.exception thread place tag thrown caught).occurrence) :=
        (reads_threadAndLocation thread place).bind
          ((reads_taggedObject tag thrown).bind
            ((reads_location caught).map fun caught =>
              some (Payload.exception thread place tag thrown caught).occurrence))
      simp only [← List.append_assoc] at whole
      exact whole
  | methodEntry thread place =>
      exact (reads_threadAndLocation thread place).map fun known =>
        some (Occurrence.methodEntry known.1 known.2)
  | methodExit thread place =>
      exact (reads_threadAndLocation thread place).map fun known =>
        some (Occurrence.methodExit known.1 known.2)

theorem local_occurrence (kind : UInt8) : (occurrence kind).Local := by
  have withThread : ∀ conclude : ThreadId → Occurrence,
      (do return some (conclude (← uint64)) : Reader (Option Occurrence)).Local :=
    fun conclude => codec_uint64.toLocal.map fun thread => some (conclude thread)
  have withLocation : ∀ conclude : ThreadId → Location → Occurrence,
      (do
        let known ← threadAndLocation
        return some (conclude known.1 known.2) : Reader (Option Occurrence)).Local :=
    fun conclude => local_threadAndLocation.map fun known => some (conclude known.1 known.2)
  have exception : (do
      let known ← threadAndLocation
      let object ← taggedObject
      let caught ← Reader.location
      let caughtAt := if caught.classId = 0 ∧ caught.methodId = 0 then none else some caught
      return some (.exception known.1 known.2 object.2 caughtAt) :
        Reader (Option Occurrence)).Local :=
    local_threadAndLocation.bind fun _ => local_taggedObject.bind fun _ => local_location.map _
  have classPrepare : (do
      let thread ← uint64
      let _ ← uint8
      let type ← uint64
      let signature ← text
      let status ← int32
      return some (.classPrepare thread type signature status) : Reader (Option Occurrence)).Local :=
    codec_uint64.toLocal.bind fun _ => codec_uint8.toLocal.bind fun _ =>
      codec_uint64.toLocal.bind fun _ => local_text.bind fun _ => codec_int32.toLocal.map _
  exact local_ite (withLocation .breakpoint) <| local_ite (withLocation .step) <|
    local_ite exception <| local_ite (withLocation .methodEntry) <|
    local_ite (withLocation .methodExit) <| local_ite classPrepare <|
    local_ite (withThread .vmStart) <| local_ite (local_pure _) <|
    local_ite (withThread .threadStart) <| local_ite (withThread .threadDeath) (local_pure _)

/-- Of an event of an unknown kind no payload is read. -/
theorem occurrence_of_unknown
    {kind : UInt8} (unknown : kind ∉ knownKinds) :
    occurrence kind = return none := by
  simp only [knownKinds, List.mem_cons, List.not_mem_nil, or_false, not_or] at unknown
  obtain ⟨step, breakpoint, exception, start, death, prepare, entry, exit, vmStart, vmDeath⟩ :=
    unknown
  simp only [occurrence, step, breakpoint, exception, start, death, prepare, entry, exit, vmStart,
    vmDeath, if_false]

/-! ## Lists of events -/

/-- Events are read before what comes after them. -/
theorem reads_events
    (reports : List Report) {count : Nat} {more : Bytes} {later : List Event}
    (reads : (events count).Reads more later) :
    (events (reports.length + count)).Reads ((reports.map Report.bytes).flatten ++ more)
      (reports.map Report.event ++ later) := by
  induction reports with
  | nil =>
      rw [List.length_nil, Nat.zero_add]
      exact reads
  | cons report reports ih =>
      have whole : (events (reports.length + count + 1)).Reads
          (Writer.uint8 report.kind ++ (Writer.int32 report.requestId ++ (report.payload.bytes ++
            ((reports.map Report.bytes).flatten ++ more))))
          (report.event :: (reports.map Report.event ++ later)) :=
        (codec_uint8.reads report.kind trivial).bind
          ((codec_int32.reads report.requestId trivial).bind
            ((reads_occurrence report.payload).bind
              (ih.map fun later => report.event :: later)))
      simp only [← List.append_assoc] at whole
      rw [List.length_cons, Nat.add_right_comm, List.map_cons, List.flatten_cons,
        List.append_assoc]
      simp only [← List.append_assoc]
      exact whole

/-- An event of an unknown kind is the last one. -/
theorem reads_unknown
    {kind : UInt8} (unknown : kind ∉ knownKinds) (requestId : Int32) (count : Nat) :
    (events (count + 1)).Reads (Writer.uint8 kind ++ Writer.int32 requestId)
      [⟨kind, requestId, .unknown kind⟩] := by
  have payload : (occurrence kind).Reads [] none := by
    rw [occurrence_of_unknown unknown]
    exact reads_pure none
  have whole : (events (count + 1)).Reads
      (Writer.uint8 kind ++ (Writer.int32 requestId ++ ([] ++ [])))
      [⟨kind, requestId, .unknown kind⟩] :=
    (codec_uint8.reads kind trivial).bind
      ((codec_int32.reads requestId trivial).bind (payload.bind (reads_pure _)))
  rw [List.append_nil, List.append_nil] at whole
  exact whole

theorem local_events (count : Nat) : (events count).Local := by
  induction count with
  | zero => exact local_pure []
  | succ count ih =>
      refine codec_uint8.toLocal.bind fun kind => codec_int32.toLocal.bind fun requestId => ?_
      refine (local_occurrence kind).bind fun details => ?_
      cases details with
      | some details => exact ih.map _
      | none => exact local_pure _

/-! ## Sets -/

theorem reads_eventSet
    (policy : SuspendPolicy) {count : Int32} {bytes : Bytes} {list : List Event}
    (reads : (events count.toInt.toNat).Reads bytes list) :
    eventSet.Reads (Writer.uint8 policy.byte ++ Writer.int32 count ++ bytes) ⟨policy, list⟩ := by
  rw [List.append_assoc]
  refine (codec_uint8.reads policy.byte trivial).bind ?_
  rw [SuspendPolicy.ofByte?_byte]
  exact (codec_int32.reads count trivial).bind (reads.map (EventSet.mk policy))

theorem local_eventSet : eventSet.Local := by
  refine codec_uint8.toLocal.bind fun byte => ?_
  cases SuspendPolicy.ofByte? byte with
  | none => exact local_fail _
  | some policy => exact codec_int32.toLocal.bind fun count => (local_events _).map _

end Reader

/-- A layout is read before what comes after it, up to the number that it announces. -/
theorem reads_layout
    (policy : SuspendPolicy) {count : Int32} {reports : List Report} {further : Nat}
    {bytes : Bytes} {later : List Event} (announced : count.toInt = reports.length + further)
    (reads : (Reader.events further).Reads bytes later) :
    Reader.eventSet.Reads (layout policy count reports ++ bytes)
      ⟨policy, reports.map Report.event ++ later⟩ := by
  have number : count.toInt.toNat = reports.length + further := by omega
  have whole := Reader.reads_events reports reads
  rw [← number] at whole
  have set := Reader.reads_eventSet policy whole
  rw [← List.append_assoc] at set
  exact set

/-- The layout of a set that announces its events is read as that set, whatever follows, and no
part of it that breaks off is read at all.  If more events are announced, the next one is of an
unknown kind and whatever follows, the set ends with it. -/
theorem event_layout_is_read_back
    (policy : SuspendPolicy) (count : Int32) (reports : List Report) :
    (count.toInt = reports.length →
      (∀ rest, EventSet.ofBytes (layout policy count reports ++ rest) =
        .ok ⟨policy, reports.map Report.event⟩) ∧
      ∀ bytes missing, layout policy count reports = bytes ++ missing → missing ≠ [] →
        ∃ error, EventSet.ofBytes bytes = .error error) ∧
    (reports.length < count.toInt → ∀ kind, kind ∉ knownKinds → ∀ requestId rest,
      EventSet.ofBytes
          (layout policy count reports ++ Writer.uint8 kind ++ Writer.int32 requestId ++ rest) =
        .ok ⟨policy, reports.map Report.event ++ [⟨kind, requestId, .unknown kind⟩]⟩) := by
  constructor
  · intro announced
    have all : count.toInt = reports.length + (0 : Nat) := by omega
    have reads := reads_layout policy all (Reader.reads_pure [])
    rw [List.append_nil, List.append_nil] at reads
    constructor
    · intro rest
      exact congrArg Prod.fst (reads rest)
    · intro bytes missing split short
      rw [split] at reads
      exact Reader.local_eventSet.fails_of_prefix reads short
  · intro more kind unknown requestId rest
    obtain ⟨further, announced⟩ : ∃ further : Nat, count.toInt = reports.length + (further + 1 : Nat) :=
      ⟨(count.toInt - reports.length - 1).toNat, by omega⟩
    have reads := reads_layout policy announced (Reader.reads_unknown unknown requestId further)
    rw [← List.append_assoc] at reads
    exact congrArg Prod.fst (reads rest)

/-- A breakpoint and an exception that nothing catches. -/
def stopAndThrow : List Report :=
  [⟨5, .breakpoint 7 ⟨1, 2, 3, 4⟩⟩, ⟨6, .exception 7 ⟨1, 2, 3, 4⟩ 76 9 ⟨0, 0, 0, 8⟩⟩]

theorem stop_and_throw_are_read_back :
    (2 : Int32).toInt = stopAndThrow.length ∧ stopAndThrow.length < (3 : Int32).toInt ∧
      50 ∉ knownKinds ∧
      (∃ error, EventSet.ofBytes [2, 0, 0, 0] = .error error) ∧
      EventSet.ofBytes (layout .all 2 stopAndThrow ++ [1, 2]) =
        .ok ⟨.all, [⟨2, 5, .breakpoint 7 ⟨1, 2, 3, 4⟩⟩,
          ⟨4, 6, .exception 7 ⟨1, 2, 3, 4⟩ 9 none⟩]⟩ ∧
      EventSet.ofBytes (layout .all 3 stopAndThrow ++ Writer.uint8 50 ++ Writer.int32 8 ++ [3]) =
        .ok ⟨.all, [⟨2, 5, .breakpoint 7 ⟨1, 2, 3, 4⟩⟩,
          ⟨4, 6, .exception 7 ⟨1, 2, 3, 4⟩ 9 none⟩, ⟨50, 8, .unknown 50⟩]⟩ := by
  have announced : (2 : Int32).toInt = stopAndThrow.length := by decide
  have more : stopAndThrow.length < (3 : Int32).toInt := by decide
  have unknown : 50 ∉ knownKinds := by decide
  exact ⟨announced, more, unknown,
    ((event_layout_is_read_back .all 2 stopAndThrow).1 announced).2 [2, 0, 0, 0] _ rfl (by decide),
    ((event_layout_is_read_back .all 2 stopAndThrow).1 announced).1 [1, 2],
    (event_layout_is_read_back .all 3 stopAndThrow).2 more 50 unknown 8 [3]⟩

end FrameEval.Wire
