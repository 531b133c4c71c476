import FrameEval.Proofs.Course
import FrameEval.Proofs.Json.Natural
import FrameEval.Proofs.Text.Numeral
import FrameEval.Server.Tool

/-!
# The ids of threads, told and taken

A client learns the ids of threads from a listing and gives one of them to have a program run.  It
may give back the word of the listing, or the number of the thread in base ten, as a text or as a
number.  `Designates` says which values give which number, be it the number of a thread or greater
than all of them; a value is taken for a thread exactly when it gives its number.
-/

namespace FrameEval.Server

open Dialogue Text Wire

/-! ## Ids that are given -/

/-- The ways in which a client may give the number of a thread. -/
inductive Designates : Json → ℕ → Prop where
  /-- In base sixteen, after `0x`. -/
  | sixteen {text : String} {letters : List Char} {number : ℕ}
      (opens : text.toList = '0' :: 'x' :: letters) (numeral : IsNumeral 16 letters number) :
      Designates (.string text) number
  | ten {text : String} {number : ℕ} (numeral : IsNumeral 10 text.toList number) :
      Designates (.string text) number
  | number {word : UInt64} {number : ℕ} (counts : word.toNat = number) :
      Designates (.number (.natural word)) number

variable {given : Json} {number other : ℕ} {thread : ThreadId} {letters : List Char}

/-- An `x` is no digit of base ten. -/
theorem not_isNumeral_ten : ¬ IsNumeral 10 ('0' :: 'x' :: letters) number := by
  intro numeral
  have read := (readNumeral?_eq_some_iff (by decide)).2 numeral
  cases read

/-- A value gives a single number. -/
theorem Designates.unique
    (designates : Designates given number) (designates' : Designates given other) :
    number = other := by
  cases designates with
  | sixteen opens numeral =>
      cases designates' with
      | sixteen opens' numeral' =>
          rw [opens, List.cons.injEq, List.cons.injEq] at opens'
          obtain ⟨-, -, rfl⟩ := opens'
          exact numeral.unique (by decide) numeral'
      | ten numeral' => exact (not_isNumeral_ten (opens ▸ numeral')).elim
  | ten numeral =>
      cases designates' with
      | sixteen opens' numeral' => exact (not_isNumeral_ten (opens' ▸ numeral)).elim
      | ten numeral' => exact numeral.unique (by decide) numeral'
  | number counts =>
      cases designates' with
      | number counts' => exact counts.symm.trans counts'

/-- A value is taken for a thread exactly when it gives the number of the thread. -/
theorem threadId?_eq_some_iff : threadId? given = some thread ↔ Designates given thread.toNat := by
  constructor
  · intro taken
    unfold threadId? at taken
    split at taken
    · split at taken
      · next digits opens => exact .sixteen opens ((readWord?_eq_some_iff (by decide)).1 taken)
      · exact .ten ((readWord?_eq_some_iff (by decide)).1 taken)
    · unfold Json.natural? at taken
      split at taken
      · cases taken
        exact .number rfl
      · cases taken
  · intro designates
    cases designates with
    | sixteen opens numeral =>
        rw [threadId?, opens]
        exact (readWord?_eq_some_iff (by decide)).2 numeral
    | ten numeral =>
        rw [threadId?]
        split
        · next digits opens => exact (not_isNumeral_ten (opens ▸ numeral)).elim
        · exact (readWord?_eq_some_iff (by decide)).2 numeral
    | number counts =>
        rw [← UInt64.toNat_inj.1 counts]
        rfl

/-- A number beyond the words is not taken for the thread with which it agrees modulo their size,
nor for any other. -/
theorem threadId?_eq_none
    (designates : Designates given number) (large : UInt64.size ≤ number) :
    threadId? given = none := by
  rw [Option.eq_none_iff_forall_ne_some]
  intro thread taken
  have same := designates.unique (threadId?_eq_some_iff.1 taken)
  exact absurd (same ▸ thread.toNat_lt) (Nat.not_lt.2 large)

/-- The word that stands for a thread in base sixteen, in lower case. -/
def sixteenWord (thread : ThreadId) : String :=
  "0x" ++ String.ofList (Nat.toDigits 16 thread.toNat)

theorem designates_sixteenWord (thread : ThreadId) :
    Designates (.string (sixteenWord thread)) thread.toNat := by
  have opens : (sixteenWord thread).toList = '0' :: 'x' :: Nat.toDigits 16 thread.toNat := by
    simp [sixteenWord]
  exact .sixteen opens (isNumeral_toDigits (by decide) _)

theorem designates_toString (number : ℕ) : Designates (.string (toString number)) number := by
  have numeral : IsNumeral 10 (Nat.toDigits 10 number) number :=
    isNumeral_toDigits (by decide) number
  rw [← Json.toList_toString] at numeral
  exact .ten numeral

/-- A number of a text is taken for the thread that it counts, if there is one. -/
theorem threadId?_parse? (number : ℕ) :
    (Json.parse? (toString number)).bind threadId? =
      if number < UInt64.size then some (UInt64.ofNat number) else none := by
  split
  · next fits =>
      rw [Json.parse?_toString_of_lt fits]
      rfl
  · next large =>
      rw [Option.bind_eq_none_iff]
      intro json found
      obtain ⟨value, rfl⟩ := Json.exists_real_of_parse?_toString (Nat.not_lt.1 large) found
      rfl

/-! ## Ids that are told -/

/-- One line of a listing: the word that stands for a thread, its name, and what is told of it. -/
structure ThreadLine where
  word : String
  name : String
  status : String

def ThreadLine.text (line : ThreadLine) : String :=
  s!"  {line.word} {line.name} ({line.status})\n"

/-- The name under which a thread is listed. -/
def listedName : Except ClientError String → String
  | .ok name => name
  | .error _ => "<unknown>"

/-- A listing of threads: how many there are, and a line for each of them. -/
def listing (lines : List ThreadLine) : String :=
  s!"{lines.length} thread(s):\n" ++ (lines.map ThreadLine.text).foldr (· ++ ·) ""

/-- In one of the exchanges a target has told which threads it has. -/
def TellsThreads (record : Record Query.Answer) (threads : List ThreadId) : Prop :=
  ∃ link reply, ⟨.plain (.overLink link (.send Call.allThreads.order)), reply⟩ ∈ record ∧
    reply.bind Call.allThreads.conclude = .ok threads

namespace Tool

variable {α β : Type} {record : Record Query.Answer} {text : String}

/-- When a sequence tells something, neither of its parts is refused. -/
theorem exists_ends_of_bind
    {tool : Tool α} {onward : α → Tool β} {value : β}
    (ends : (tool >>= onward).run.Ends record (.ok value)) :
    ∃ first found second, record = first ++ second ∧ tool.run.Ends first (.ok found) ∧
      (onward found).run.Ends second (.ok value) := by
  rw [ExceptT.run_bind, ends_bind_iff] at ends
  obtain ⟨first, result, second, rfl, ends, rest⟩ := ends
  cases result with
  | ok found => exact ⟨first, found, second, rfl, ends, rest⟩
  | error failure => cases rest

theorem not_ends_refuse {value : α} : ¬ (refuse text : Tool α).run.Ends record (.ok value) := by
  intro ends
  cases ends

/-- A call is one exchange, and its result is what the reply means. -/
theorem ends_attempt
    {link : LinkId} {call : Call α} {result : Except ClientError α}
    (ends : (attempt link call).run.Ends record (.ok result)) :
    ∃ reply, record = [⟨.plain (.overLink link (.send call.order)), reply⟩] ∧
      reply.bind call.conclude = result := by
  cases ends with
  | ask rest =>
      cases rest
      exact ⟨_, rfl, rfl⟩

/-- The first thread has the first line, which begins with its word. -/
theorem exists_line_of_ends
    {link : LinkId} {threads : List ThreadId}
    (ends : (threadLines link (thread :: threads)).run.Ends record (.ok text)) :
    ∃ name status later more, text = ThreadLine.text ⟨sixteenWord thread, name, status⟩ ++ later ∧
      (threadLines link threads).run.Ends more (.ok later) := by
  rw [threadLines] at ends
  obtain ⟨_, named, _, -, -, afterName⟩ := exists_ends_of_bind ends
  obtain ⟨_, frames, _, -, -, afterFrames⟩ := exists_ends_of_bind afterName
  split at afterFrames
  · exact (not_ends_refuse afterFrames).elim
  · next status _ =>
      obtain ⟨more, later, _, -, rest, last⟩ := exists_ends_of_bind afterFrames
      cases last
      have opening : "  0x" = "  " ++ "0x" := rfl
      refine ⟨listedName named, status, later, more, ?_, rest⟩
      simp only [ThreadLine.text, sixteenWord, hex, opening, toString, String.append_assoc]
      rfl

/-- Each thread has its line. -/
theorem exists_lines_of_ends
    {link : LinkId} {threads : List ThreadId}
    (ends : (threadLines link threads).run.Ends record (.ok text)) :
    ∃ lines : List ThreadLine, lines.map ThreadLine.word = threads.map sixteenWord ∧
      text = (lines.map ThreadLine.text).foldr (· ++ ·) "" := by
  induction threads generalizing record text with
  | nil =>
      cases ends
      exact ⟨[], rfl, rfl⟩
  | cons thread threads ih =>
      obtain ⟨name, status, later, more, rfl, rest⟩ := exists_line_of_ends ends
      obtain ⟨lines, words, rfl⟩ := ih rest
      refine ⟨⟨sixteenWord thread, name, status⟩ :: lines, ?_, rfl⟩
      rw [List.map_cons, List.map_cons, words]

/-- A listing has a line for each thread of which the target has told. -/
theorem exists_listing_of_ends (ends : listThreads.run.Ends record (.ok text)) :
    ∃ threads lines, TellsThreads record threads ∧ text = listing lines ∧
      lines.map ThreadLine.word = threads.map sixteenWord := by
  rw [listThreads] at ends
  obtain ⟨_, link, _, rfl, -, onLink⟩ := exists_ends_of_bind ends
  obtain ⟨_, result, _, rfl, asked, onThreads⟩ := exists_ends_of_bind onLink
  obtain ⟨reply, rfl, means⟩ := ends_attempt asked
  cases result with
  | error error => exact (not_ends_refuse onThreads).elim
  | ok threads =>
      obtain ⟨_, _, _, -, listed, last⟩ := exists_ends_of_bind onThreads
      obtain ⟨lines, words, rfl⟩ := exists_lines_of_ends listed
      cases last
      refine ⟨threads, lines, ⟨link, reply, by simp, means⟩, ?_, words⟩
      have same : lines.length = threads.length := by
        simpa using congrArg List.length words
      rw [listing, same]

end Tool

/-! ## From the listing and back -/

/-- An evaluation whose thread is given by a value that is taken for none is refused before anything
is asked of the target. -/
theorem Tool.evaluate_eq_refuse
    (setup : Setup) {arguments : Json} (member : arguments.member? "thread_id" = some given)
    (untaken : threadId? given = none) :
    evaluate setup arguments =
      currentLink >>= fun _ => refuse s!"Invalid thread_id: {given.print}" := by
  simp only [evaluate, member, untaken]

/-- The ids of threads come back from a client as they went.  A listing names each thread of which
the target has told by a word that is taken for that thread; so are its number in base ten and the
number itself, which is read from its digits.  A value is taken for a thread exactly when it gives
the number of that thread, so two threads never come back as one.  A number beyond the words is
taken for no thread, however it is given, and an evaluation that names it is refused. -/
theorem thread_ids_come_back :
    (∀ record text, Tool.listThreads.run.Ends record (.ok text) →
      ∃ threads lines, TellsThreads record threads ∧ text = listing lines ∧
        lines.map ThreadLine.word = threads.map sixteenWord ∧
        lines.map (fun line => threadId? (.string line.word)) = threads.map some) ∧
    (∀ thread : ThreadId,
      threadId? (.string (sixteenWord thread)) = some thread ∧
        threadId? (.string (toString thread.toNat)) = some thread ∧
        threadId? (.number (.natural thread)) = some thread ∧
        (Json.parse? (toString thread.toNat)).bind threadId? = some thread) ∧
    (∀ given thread, threadId? given = some thread ↔ Designates given thread.toNat) ∧
    (∀ given given' (thread thread' : ThreadId), thread ≠ thread' →
      Designates given thread.toNat → Designates given' thread'.toNat →
        threadId? given ≠ threadId? given') ∧
    (∀ given number, 2 ^ 64 ≤ number → Designates given number →
      threadId? given = none ∧
        ∀ setup arguments, arguments.member? "thread_id" = some given →
          Tool.evaluate setup arguments =
            Tool.currentLink >>= fun _ => Tool.refuse s!"Invalid thread_id: {given.print}") ∧
    ∀ number, 2 ^ 64 ≤ number → (Json.parse? (toString number)).bind threadId? = none := by
  have taken (thread : ThreadId) : threadId? (.string (sixteenWord thread)) = some thread :=
    threadId?_eq_some_iff.2 (designates_sixteenWord thread)
  refine ⟨?listed, ?forms, fun _ _ => threadId?_eq_some_iff, ?distinct, ?refused, ?long⟩
  case listed =>
    intro record text ends
    obtain ⟨threads, lines, told, same, words⟩ := Tool.exists_listing_of_ends ends
    refine ⟨threads, lines, told, same, words, ?_⟩
    calc lines.map (fun line => threadId? (.string line.word))
        = (lines.map ThreadLine.word).map fun word => threadId? (.string word) := by
          rw [List.map_map]
          rfl
      _ = threads.map some := by
          rw [words, List.map_map]
          exact List.map_congr_left fun thread _ => taken thread
  case forms =>
    intro thread
    have read := threadId?_parse? thread.toNat
    rw [if_pos thread.toNat_lt, UInt64.ofNat_toNat] at read
    exact ⟨taken thread, threadId?_eq_some_iff.2 (designates_toString _), rfl, read⟩
  case distinct =>
    intro given given' thread thread' differ designates designates' same
    rw [threadId?_eq_some_iff.2 designates, threadId?_eq_some_iff.2 designates'] at same
    exact differ (Option.some.inj same)
  case refused =>
    intro given number large designates
    have untaken := threadId?_eq_none designates large
    exact ⟨untaken, fun setup _ member => Tool.evaluate_eq_refuse setup member untaken⟩
  case long =>
    intro number large
    have tooLarge : ¬ number < UInt64.size := Nat.not_lt.2 large
    rw [threadId?_parse?, if_neg tooLarge]

/-- What a target tells of two threads.  The first one runs; the second one, which has the greatest
id, is suspended, and its name is not told. -/
def twoThreadsTold : Record Query.Answer :=
  let sent (order : Order) (reply : Except ClientError Reply) : Exchange Query.Answer :=
    ⟨.plain (.overLink 7 (.send order)), reply⟩
  [⟨.plain (.onSessions .current), some "s"⟩,
    ⟨.plain (.onSessions (.find "s")), some (7 : ℕ)⟩,
    sent Call.allThreads.order
      (.ok ⟨0, 0, Writer.count 2 ++ Writer.uint64 31 ++ Writer.uint64 18446744073709551615⟩),
    sent (Call.threadName 31).order (.ok ⟨1, 0, Writer.text "main"⟩),
    sent (Call.frames 31 0 (-1)).order (.ok ⟨2, ErrorCode.threadNotSuspended, []⟩),
    sent (Call.threadName 18446744073709551615).order (.ok ⟨3, ErrorCode.invalidThread, []⟩),
    sent (Call.frames 18446744073709551615 0 (-1)).order (.ok ⟨4, 0, Writer.count 0⟩)]

def twoThreadsListed : String :=
  "2 thread(s):\n  0x1f main (running)\n  0xffffffffffffffff <unknown> (suspended, 0 frame(s))\n"

/-- Two threads are listed and told apart when they come back, and the id of the first one with
`2 ^ 64` added to it is not taken for the first one. -/
theorem greatest_thread_id_comes_back :
    (Tool.listThreads.run.Ends twoThreadsTold (.ok twoThreadsListed) ∧
      ∃ threads lines, TellsThreads twoThreadsTold threads ∧ twoThreadsListed = listing lines ∧
        lines.map ThreadLine.word = threads.map sixteenWord ∧
        lines.map (fun line => threadId? (.string line.word)) = threads.map some) ∧
    (Designates (.string "0xFFFFFFFFFFFFFFFF") 18446744073709551615 ∧
      Designates (.string "+31") 31 ∧
      threadId? (.string "0xFFFFFFFFFFFFFFFF") ≠ threadId? (.string "+31")) ∧
    Designates (.string "0x1000000000000001f") 18446744073709551647 ∧
      threadId? (.string "0x1000000000000001f") = none ∧
      Tool.evaluate ⟨0, 0, fun _ _ => ""⟩ (.object [("thread_id", .string "0x1000000000000001f")]) =
        (Tool.currentLink >>= fun _ =>
          Tool.refuse "Invalid thread_id: \"0x1000000000000001f\"") ∧
      (Json.parse? "18446744073709551647").bind threadId? = none := by
  obtain ⟨listed, -, -, distinct, refused, long⟩ := thread_ids_come_back
  have ends : Tool.listThreads.run.Ends twoThreadsTold (.ok twoThreadsListed) :=
    .ask (.ask (.ask (.ask (.ask (.ask (.ask .done))))))
  have greatest : Designates (.string "0xFFFFFFFFFFFFFFFF") 18446744073709551615 :=
    .sixteen rfl ((readNumeral?_eq_some_iff (by decide)).1 rfl)
  have first : Designates (.string "+31") 31 :=
    .ten ((readNumeral?_eq_some_iff (by decide)).1 rfl)
  have beyond : Designates (.string "0x1000000000000001f") 18446744073709551647 :=
    .sixteen rfl ((readNumeral?_eq_some_iff (by decide)).1 rfl)
  obtain ⟨untaken, refusal⟩ := refused _ _ (by norm_num) beyond
  refine ⟨⟨ends, listed _ _ ends⟩, ⟨greatest, first, ?_⟩, beyond, untaken, ?_, ?_⟩
  · exact distinct _ _ 18446744073709551615 31 (by decide) greatest first
  · exact refusal _ _ rfl
  · exact long 18446744073709551647 (by norm_num)

end FrameEval.Server
