import FrameEval.Proofs.Course
import FrameEval.Session.Binding

/-!
# Visits to a thread

Whoever binds a context and uses it visits the thread: the visit asks for the thread, then
only makes inquiries, and in the end, whether the binding failed or the use is over, gives the
thread up.  An evaluation is a visit, and `Holds` describes what any visit does once the thread
is reserved.
-/

namespace FrameEval.Session

open Wire

/-- Bind a context, use it and release the thread. -/
def visit
    (thread : ThreadId) (depth : Nat)
    (use : Context → Dialogue Inquiry Inquiry.Answer (Except Halt RemoteValue)) :
    Program (Except Halt RemoteValue) := do
  match ← bind thread depth with
  | .error halt => return .error halt
  | .ok context => do
      let result ← ofInquiries (use context)
      release thread
      return result

theorem ofInquiries_bind
    {α β : Type} (dialogue : Dialogue Inquiry Inquiry.Answer α)
    (onward : α → Dialogue Inquiry Inquiry.Answer β) :
    ofInquiries (dialogue >>= onward) =
      ofInquiries dialogue >>= fun result => ofInquiries (onward result) := by
  induction dialogue with
  | done result => rfl
  | ask inquiry next ih =>
      simp only [Dialogue.ask_bind, ofInquiries, ih]

/-- An evaluation is a visit that runs a program. -/
theorem evaluate_eq_visit
    (thread : ThreadId) (depth : Nat) (mode : RunMode) (program : FrameEval.Program) :
    evaluate thread depth mode program =
      visit thread depth fun context => do
        let (result, _) ← context.run mode program
        return result := by
  rw [evaluate, visit]
  congr 1
  funext bound
  cases bound with
  | error halt => rfl
  | ok context =>
      simp only [ofInquiries_bind, Dialogue.pure_eq, ofInquiries, Dialogue.bind_assoc,
        Dialogue.done_bind]

/-- A program that has a thread to itself: it inquires, and gives the thread up in the end. -/
inductive Holds {α : Type} (thread : ThreadId) : Program α → Prop where
  | inquire
      {inquiry : Inquiry} {next : inquiry.Answer → Program α}
      (onward : ∀ answer, Holds thread (next answer)) :
      Holds thread (.ask (.inquiry inquiry) next)
  | leave
      {next : Unit → Program α} {result : α} (finished : next () = .done result) :
      Holds thread (.ask (.release thread) next)

theorem holds_ofInquiries
    {α β : Type} {thread : ThreadId} (dialogue : Dialogue Inquiry Inquiry.Answer α)
    {onward : α → Program β} (leaves : ∀ result, Holds thread (onward result)) :
    Holds thread (ofInquiries dialogue >>= onward) := by
  induction dialogue with
  | done result => exact leaves result
  | ask inquiry next ih => exact .inquire ih

/-- What a visit does as soon as it has the thread. -/
theorem holds_visit
    (thread : ThreadId) (depth : Nat)
    (use : Context → Dialogue Inquiry Inquiry.Answer (Except Halt RemoteValue)) :
    ∃ next, visit thread depth use = .ask (.acquire thread) next ∧ Holds thread (next ()) := by
  have leaves : ∀ result : Except Halt RemoteValue,
      Holds thread (release thread >>= fun _ => .done result) := by
    intro result
    exact .leave rfl
  refine ⟨_, rfl, ?_⟩
  apply Holds.inquire
  intro framed
  cases framed with
  | error halt => exact .leave rfl
  | ok frame =>
      apply Holds.inquire
      intro listed
      cases listed with
      | error halt => exact .leave rfl
      | ok table => exact holds_ofInquiries _ leaves

/-- A binding gives its thread up just if it fails; a context that was bound keeps it. -/
theorem released_iff_failed
    {thread : ThreadId} {depth : Nat} {asked : Dialogue.Record Request.Answer}
    {result : Except Halt Context} (ends : (bind thread depth).Ends asked result) :
    ⟨.release thread, ()⟩ ∈ asked ↔ ∃ halt, result = .error halt := by
  have refused : ∀ {halt : Halt} {asked : Dialogue.Record Request.Answer},
      (release thread >>= fun _ => .done (.error halt) : Program (Except Halt Context)).Ends
        asked result → asked = [⟨.release thread, ()⟩] ∧ result = .error halt := by
    intro halt asked ends
    cases ends with
    | ask rest =>
        cases rest
        exact ⟨rfl, rfl⟩
  cases ends with
  | ask framed =>
  cases framed with
  | @ask _ _ frame _ _ listed =>
  cases frame with
  | error halt =>
      rcases refused listed with ⟨rfl, rfl⟩
      simp
  | ok frame =>
  cases listed with
  | @ask _ _ table _ _ rest =>
  cases table with
  | error halt =>
      rcases refused rest with ⟨rfl, rfl⟩
      simp
  | ok table =>
      cases rest
      simp

end FrameEval.Session
