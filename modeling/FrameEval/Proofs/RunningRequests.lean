import FrameEval.Proofs.Histories
import FrameEval.Proofs.Json.Text
import FrameEval.Server.Handler
import FrameEval.Server.InFlight

/-!
# Cancellation reaches the running requests

Requests start and finish in any order, and between any two of these steps a notification may
look up the request that it names, or cancel the token that it has found.  The entries of the
table are the running requests, each under the token of its start.  A notification therefore
finds the token of the one request with the id that it names, or none, and no other token is
ever cancelled.  What tells the requests apart is the text of their ids, and values with the
same text are the same.
-/

namespace FrameEval.Server.InFlight

/-! ## Histories -/

/-- What the handlers of requests and notifications do to the table, one step each. -/
inductive Deed where
  | start (id : Json)
  | finish (id : Json)
  /-- A notification looks up the request that it names. -/
  | look (notification : Notification)
  /-- A notification cancels the token that it has found. -/
  | cancel (token : Token)

/-- The table and the notifications that are being handled. -/
structure Scene where
  table : InFlight
  /-- The tokens that notifications have found. -/
  found : List Token

namespace Scene

def empty : Scene := ⟨InFlight.empty, []⟩

/-- A token that was found is cancelled. -/
def cancel (token : Token) (scene : Scene) : Scene :=
  if token ∈ scene.found then
    { scene with table := { scene.table with cancelled := token :: scene.table.cancelled } }
  else scene

/-- The token of the request that a notification names, if it names one that runs. -/
def lookup (notification : Notification) (scene : Scene) : Option Token :=
  (cancelledId? notification).bind scene.table.token?

/-- What a step does. -/
def step (scene : Scene) : Deed → Scene
  | .start id => { scene with table := (scene.table.start id).2 }
  | .finish id => { scene with table := scene.table.finish id }
  | .look notification => { scene with found := (scene.lookup notification).toList ++ scene.found }
  | .cancel token => scene.cancel token

/-- A notification that is handled without a step of another handler in between cancels the
request that it names. -/
theorem table_cancel_of_look
    (scene : Scene) {notification : Notification} {id : Json}
    (names : cancelledId? notification = some id) :
    scene.table.cancel id =
      match scene.lookup notification with
      | none => (scene.step (.look notification)).table
      | some token => ((scene.step (.look notification)).step (.cancel token)).table := by
  rw [InFlight.cancel, step, lookup, names, Option.bind_some]
  cases scene.table.token? id with
  | none => rfl
  | some token => simp [step, cancel]

end Scene

/-- The scene after a history. -/
def after (history : List Deed) : Scene :=
  history.foldl Scene.step .empty

@[simp]
theorem after_nil : after [] = .empty := rfl

theorem after_concat (history : List Deed) (deed : Deed) :
    after (history ++ [deed]) = (after history).step deed := by
  rw [after, List.foldl_append]
  rfl

/-- A request was started under a token and is not finished. -/
def Current (history : List Deed) (id : Json) (token : Token) : Prop :=
  ∃ earlier later, history = earlier ++ .start id :: later ∧
    ((after earlier).table.start id).1 = token ∧ .finish id ∉ later

/-- A start of a request returned a token. -/
def Granted (history : List Deed) (id : Json) (token : Token) : Prop :=
  Happened (fun earlier deed =>
    deed = .start id ∧ ((after earlier).table.start id).1 = token) history

/-- A notification named a request while that ran under a token. -/
def Named (history : List Deed) (id : Json) (token : Token) : Prop :=
  Happened (fun earlier deed => ∃ notification, deed = .look notification ∧
    cancelledId? notification = some id ∧ Current earlier id token) history

/-- A notification that named a request while that ran under a token has cancelled the token. -/
def Struck (history : List Deed) (id : Json) (token : Token) : Prop :=
  Happened (fun earlier deed => deed = .cancel token ∧ Named earlier id token) history

/-- No request is started while one with its id runs. -/
def StartsApart (history : List Deed) : Prop :=
  ¬ Happened (fun earlier deed =>
    ∃ id token, deed = .start id ∧ Current earlier id token) history

/-- The ids of a step are values as they are read. -/
def Deed.IsProper : Deed → Prop
  | .start id => id.IsProper
  | .finish id => id.IsProper
  | .look notification => ∀ id, cancelledId? notification = some id → id.IsProper
  | .cancel _ => True

/-! ## One more step -/

section

variable {history : List Deed} {deed : Deed} {id other : Json} {token : Token}

theorem not_current_nil : ¬ Current [] id token := by
  rintro ⟨earlier, later, whole, -⟩
  exact absurd whole.symm (by simp)

theorem current_concat :
    Current (history ++ [deed]) id token ↔
      deed = .start id ∧ (after history).table.nextToken = token ∨
        Current history id token ∧ deed ≠ .finish id := by
  constructor
  · rintro ⟨earlier, later, whole, grants, unfinished⟩
    rcases concat_eq_append_cons.1 whole with ⟨rfl, starts, rfl⟩ | ⟨rest, rfl, same⟩
    · exact .inl ⟨starts, grants⟩
    · rw [List.mem_append, List.mem_singleton, not_or] at unfinished
      exact .inr ⟨⟨earlier, rest, same, grants, unfinished.1⟩, Ne.symm unfinished.2⟩
  · rintro (⟨rfl, grants⟩ | ⟨⟨earlier, rest, rfl, grants, unfinished⟩, unlike⟩)
    · exact ⟨history, [], rfl, grants, List.not_mem_nil⟩
    · refine ⟨earlier, rest ++ [deed], by simp, grants, ?_⟩
      rw [List.mem_append, List.mem_singleton, not_or]
      exact ⟨unfinished, Ne.symm unlike⟩

theorem Current.granted (current : Current history id token) : Granted history id token := by
  rcases current with ⟨earlier, later, whole, grants, -⟩
  exact ⟨earlier, .start id, later, whole, rfl, grants⟩

theorem Current.isProper
    (proper : ∀ deed ∈ history, deed.IsProper) (current : Current history id token) :
    id.IsProper := by
  rcases current with ⟨earlier, later, rfl, -⟩
  exact proper (.start id) (by simp)

/-- Only tokens that starts have returned are cancelled. -/
theorem Struck.granted (struck : Struck history id token) : Granted history id token := by
  rcases struck with ⟨earlier, deed, later, rfl, -, first, look, rest, rfl, -, -, -, current⟩
  exact current.granted.of_append.of_append

/-- A finished request does not run until it is started again. -/
theorem not_current_of_finish
    (earlier : List Deed) {later : List Deed} (stopped : .start id ∉ later) :
    ¬ Current (earlier ++ .finish id :: later) id token := by
  induction later using List.reverseRecOn with
  | nil =>
      rw [current_concat]
      rintro (⟨starts, -⟩ | ⟨-, unlike⟩)
      · cases starts
      · exact unlike rfl
  | append_singleton later deed ih =>
      rw [List.mem_append, List.mem_singleton, not_or] at stopped
      rw [← List.cons_append, ← List.append_assoc, current_concat]
      rintro (⟨starts, -⟩ | ⟨current, -⟩)
      · exact stopped.2 starts.symm
      · exact ih stopped.1 current

/-! ## Tokens are given out once -/

theorem nextToken_le_step (scene : Scene) (deed : Deed) :
    scene.table.nextToken ≤ (scene.step deed).table.nextToken := by
  cases deed with
  | start id => exact Nat.le_succ _
  | finish id => exact Nat.le_refl _
  | look notification => exact Nat.le_refl _
  | cancel token =>
      rw [Scene.step, Scene.cancel]
      split <;> exact Nat.le_refl _

theorem nextToken_le_append (earlier later : List Deed) :
    (after earlier).table.nextToken ≤ (after (earlier ++ later)).table.nextToken := by
  induction later using List.reverseRecOn with
  | nil => rw [List.append_nil]
  | append_singleton later deed ih =>
      rw [← List.append_assoc, after_concat]
      exact ih.trans (nextToken_le_step _ deed)

/-- What a start returned is not returned by a later one. -/
theorem grant_lt_nextToken (earlier later : List Deed) (id : Json) :
    ((after earlier).table.start id).1 <
      (after (earlier ++ .start id :: later)).table.nextToken := by
  rw [List.append_cons]
  have next := nextToken_le_append (earlier ++ [.start id]) later
  rw [after_concat] at next
  exact next

theorem Granted.token_lt (granted : Granted history id token) :
    token < (after history).table.nextToken := by
  rcases granted with ⟨earlier, deed, later, rfl, rfl, rfl⟩
  exact grant_lt_nextToken earlier later id

/-- Two starts do not return the same token. -/
theorem starts_eq_of_token
    {earlier later earlier' later' : List Deed} {id id' : Json}
    (whole : history = earlier ++ .start id :: later)
    (whole' : history = earlier' ++ .start id' :: later')
    (same : ((after earlier).table.start id).1 = ((after earlier').table.start id').1) :
    earlier = earlier' := by
  rcases List.append_eq_append_iff.1 (whole.symm.trans whole') with
    ⟨rest, rfl, split⟩ | ⟨rest, rfl, split⟩
  · cases rest with
    | nil => rw [List.append_nil]
    | cons deed rest =>
        cases split
        exact absurd same (Nat.ne_of_lt (grant_lt_nextToken earlier rest id))
  · cases rest with
    | nil => rw [List.append_nil]
    | cons deed rest =>
        cases split
        exact absurd same.symm (Nat.ne_of_lt (grant_lt_nextToken earlier' rest id'))

theorem Granted.id_eq
    (granted : Granted history id token) (granted' : Granted history other token) :
    id = other := by
  rcases granted with ⟨earlier, deed, later, whole, rfl, grants⟩
  rcases granted' with ⟨earlier', deed', later', whole', rfl, grants'⟩
  cases starts_eq_of_token whole whole' (grants.trans grants'.symm)
  have rest := List.append_cancel_left (whole.symm.trans whole')
  exact Deed.start.inj (List.cons.inj rest).1

end

/-! ## The table keeps the running requests -/

/-- What a history leaves in the table and with the notifications. -/
structure Kept (history : List Deed) : Prop where
  entry : ∀ key token, (after history).table.tokens.find? key = some token ↔
    ∃ id, Current history id token ∧ id.print = key
  found : ∀ token, token ∈ (after history).found ↔ ∃ id, Named history id token
  cancelled : ∀ token, token ∈ (after history).table.cancelled ↔ ∃ id, Struck history id token

theorem kept_nil : Kept [] where
  entry key token := by
    constructor
    · intro found
      cases found
    · rintro ⟨id, current, -⟩
      exact (not_current_nil current).elim
  found token := by
    constructor
    · intro member
      cases member
    · rintro ⟨id, named⟩
      exact (not_happened_nil named).elim
  cancelled token := by
    constructor
    · intro member
      cases member
    · rintro ⟨id, struck⟩
      exact (not_happened_nil struck).elim

section

variable {history : List Deed} {deed : Deed} {id other : Json} {token : Token}

/-- The entry under the text of an id is that of the request with the id. -/
theorem Kept.token?_eq_some_iff
    (kept : Kept history) (proper : ∀ deed ∈ history, deed.IsProper) (isProper : id.IsProper) :
    (after history).table.token? id = some token ↔ Current history id token := by
  rw [token?, kept.entry]
  constructor
  · rintro ⟨known, current, same⟩
    rwa [← Json.print_injective (current.isProper proper) isProper same]
  · intro current
    exact ⟨id, current, rfl⟩

theorem Kept.entry_start
    (kept : Kept history) (proper : ∀ deed ∈ history, deed.IsProper) (isProper : id.IsProper)
    (idle : ∀ token, ¬ Current history id token) (key : String) (token : Token) :
    (after (history ++ [.start id])).table.tokens.find? key = some token ↔
      ∃ known, Current (history ++ [.start id]) known token ∧ known.print = key := by
  simp only [after_concat, current_concat]
  by_cases same : key = id.print
  · subst same
    rw [Scene.step, start, Table.find?_insert_self, Option.some.injEq]
    constructor
    · intro grants
      exact ⟨id, .inl ⟨rfl, grants⟩, rfl⟩
    · rintro ⟨known, ⟨-, grants⟩ | ⟨current, -⟩, text⟩
      · exact grants
      · rw [Json.print_injective (current.isProper proper) isProper text] at current
        exact (idle token current).elim
  · rw [Scene.step, start, Table.find?_insert_ne _ _ same, kept.entry]
    constructor
    · rintro ⟨known, current, text⟩
      exact ⟨known, .inr ⟨current, by simp⟩, text⟩
    · rintro ⟨known, ⟨starts, -⟩ | ⟨current, -⟩, text⟩
      · rw [Deed.start.inj starts] at same
        exact (same text.symm).elim
      · exact ⟨known, current, text⟩

theorem Kept.entry_finish
    (kept : Kept history) (proper : ∀ deed ∈ history, deed.IsProper) (isProper : id.IsProper)
    (key : String) (token : Token) :
    (after (history ++ [.finish id])).table.tokens.find? key = some token ↔
      ∃ known, Current (history ++ [.finish id]) known token ∧ known.print = key := by
  simp only [after_concat, current_concat]
  by_cases same : key = id.print
  · subst same
    rw [Scene.step, finish, Table.find?_erase_self]
    constructor
    · intro found
      cases found
    · rintro ⟨known, ⟨starts, -⟩ | ⟨current, unlike⟩, text⟩
      · cases starts
      · rw [Json.print_injective (current.isProper proper) isProper text] at unlike
        exact (unlike rfl).elim
  · rw [Scene.step, finish, Table.find?_erase_ne _ same, kept.entry]
    constructor
    · rintro ⟨known, current, text⟩
      refine ⟨known, .inr ⟨current, ?_⟩, text⟩
      rintro finishes
      rw [Deed.finish.inj finishes] at same
      exact same text.symm
    · rintro ⟨known, ⟨starts, -⟩ | ⟨current, -⟩, text⟩
      · cases starts
      · exact ⟨known, current, text⟩

/-- A step other than a start or a finish leaves the running requests alone. -/
theorem current_concat_of_unlike
    (noStart : ∀ id, deed ≠ .start id) (noFinish : ∀ id, deed ≠ .finish id) :
    Current (history ++ [deed]) id token ↔ Current history id token := by
  rw [current_concat]
  constructor
  · rintro (⟨starts, -⟩ | ⟨current, -⟩)
    · exact (noStart id starts).elim
    · exact current
  · intro current
    exact .inr ⟨current, noFinish id⟩

theorem Scene.tokens_cancel (scene : Scene) (token : Token) :
    (scene.cancel token).table.tokens = scene.table.tokens := by
  rw [Scene.cancel]
  split <;> rfl

theorem Scene.found_cancel (scene : Scene) (token : Token) :
    (scene.cancel token).found = scene.found := by
  rw [Scene.cancel]
  split <;> rfl

theorem Scene.mem_cancelled_cancel (scene : Scene) (token other : Token) :
    token ∈ (scene.cancel other).table.cancelled ↔
      other = token ∧ other ∈ scene.found ∨ token ∈ scene.table.cancelled := by
  rw [Scene.cancel]
  split
  · next found => simp [found, eq_comm]
  · next missing => simp [missing]

/-- The entries are the running requests after a step, if they were so before. -/
theorem Kept.entry_step
    (kept : Kept history) (proper : ∀ each ∈ history ++ [deed], each.IsProper)
    (apart : StartsApart (history ++ [deed])) (key : String) (token : Token) :
    (after (history ++ [deed])).table.tokens.find? key = some token ↔
      ∃ known, Current (history ++ [deed]) known token ∧ known.print = key := by
  have before : ∀ deed ∈ history, deed.IsProper :=
    fun deed member => proper deed (List.mem_append_left _ member)
  have last : deed.IsProper := proper deed (by simp)
  cases deed with
  | start id =>
      have idle : ∀ token, ¬ Current history id token :=
        fun token current => apart (happened_concat.2 (.inl ⟨id, token, rfl, current⟩))
      exact kept.entry_start before last idle key token
  | finish id => exact kept.entry_finish before last key token
  | look notification =>
      have same : ∀ id, Current (history ++ [.look notification]) id token ↔
          Current history id token :=
        fun id => current_concat_of_unlike (by simp) (by simp)
      simp only [same]
      rw [after_concat]
      exact kept.entry key token
  | cancel other =>
      have same : ∀ id, Current (history ++ [.cancel other]) id token ↔
          Current history id token :=
        fun id => current_concat_of_unlike (by simp) (by simp)
      simp only [same]
      rw [after_concat, Scene.step, Scene.tokens_cancel]
      exact kept.entry key token

/-- A notification finds the token of the request that it names. -/
theorem Kept.lookup_eq_some_iff
    (kept : Kept history) (proper : ∀ deed ∈ history, deed.IsProper)
    {notification : Notification} (isProper : (Deed.look notification).IsProper) :
    (after history).lookup notification = some token ↔
      ∃ id, cancelledId? notification = some id ∧ Current history id token := by
  rw [Scene.lookup, Option.bind_eq_some_iff]
  apply exists_congr
  intro id
  apply and_congr_right
  intro names
  exact kept.token?_eq_some_iff proper (isProper id names)

/-- The found tokens are those of the requests that were named while they ran. -/
theorem Kept.found_step
    (kept : Kept history) (proper : ∀ each ∈ history ++ [deed], each.IsProper) (token : Token) :
    token ∈ (after (history ++ [deed])).found ↔ ∃ id, Named (history ++ [deed]) id token := by
  have before : ∀ deed ∈ history, deed.IsProper :=
    fun deed member => proper deed (List.mem_append_left _ member)
  have last : deed.IsProper := proper deed (by simp)
  have old := kept.found token
  simp only [Named] at old
  simp only [Named, happened_concat, exists_or]
  rw [after_concat, ← old]
  cases deed with
  | look notification =>
      rw [Scene.step, List.mem_append, Option.mem_toList, kept.lookup_eq_some_iff before last]
      simp
  | cancel other =>
      rw [Scene.step, Scene.found_cancel]
      simp
  | _ => simp [Scene.step]

/-- The cancelled tokens are those that were found before. -/
theorem Kept.cancelled_step (kept : Kept history) (token : Token) :
    token ∈ (after (history ++ [deed])).table.cancelled ↔
      ∃ id, Struck (history ++ [deed]) id token := by
  have old := kept.cancelled token
  simp only [Struck] at old
  simp only [Struck, happened_concat, exists_or]
  rw [after_concat, ← old]
  cases deed with
  | cancel other =>
      rw [Scene.step, Scene.mem_cancelled_cancel, kept.found]
      apply or_congr_left
      constructor
      · rintro ⟨rfl, id, named⟩
        exact ⟨id, rfl, named⟩
      · rintro ⟨id, same, named⟩
        exact ⟨Deed.cancel.inj same, id, Deed.cancel.inj same ▸ named⟩
  | _ => simp [Scene.step, start, finish]

theorem kept
    (apart : StartsApart history) (proper : ∀ deed ∈ history, deed.IsProper) : Kept history := by
  induction history using List.reverseRecOn with
  | nil => exact kept_nil
  | append_singleton history deed ih =>
      have before := ih (fun happened => apart happened.of_append)
        (fun deed member => proper deed (List.mem_append_left _ member))
      exact ⟨before.entry_step proper apart, before.found_step proper, before.cancelled_step⟩

end

/-! ## The requests that are reached -/

/-- The table tells the running requests, and cancellation reaches them and nothing else. -/
structure ReachesRunning (history : List Deed) : Prop where
  /-- Under an id there is the token of the running request with that id. -/
  holds : ∀ id, id.IsProper → ∀ token,
    (after history).table.token? id = some token ↔ Current history id token
  /-- There are no other entries. -/
  only : ∀ key token, (after history).table.tokens.find? key = some token →
    ∃ id, Current history id token ∧ id.print = key
  /-- No two starts return the same token. -/
  distinct : ∀ earlier id later earlier' id' later',
    history = earlier ++ .start id :: later → history = earlier' ++ .start id' :: later' →
      ((after earlier).table.start id).1 = ((after earlier').table.start id').1 →
        earlier = earlier'
  /-- The token of a start is cancelled just if a notification that named the request while it
  ran has cancelled what it found. -/
  cancels : ∀ id token, Granted history id token →
    ((after history).table.isCancelled token = true ↔ Struck history id token)
  /-- No other token is cancelled. -/
  spares : ∀ token, (after history).table.isCancelled token = true → ∃ id, Granted history id token
  /-- A notification that names a finished request finds nothing. -/
  finished : ∀ earlier id later, history = earlier ++ .finish id :: later → .start id ∉ later →
    ∀ notification, cancelledId? notification = some id →
      after (history ++ [.look notification]) = after history

/-- Cancellation reaches exactly the running requests, however starts, ends and notifications
come one after another. -/
theorem running_requests_are_reached
    {history : List Deed}
    (apart : StartsApart history)
    (proper : ∀ deed ∈ history, deed.IsProper) :
    ReachesRunning history := by
  have kept := kept apart proper
  exact {
    holds := fun id isProper token => kept.token?_eq_some_iff proper isProper
    only := fun key token found => (kept.entry key token).1 found
    distinct := fun earlier id later earlier' id' later' => starts_eq_of_token
    cancels := by
      intro id token granted
      rw [isCancelled, List.contains_iff_mem, kept.cancelled]
      constructor
      · rintro ⟨other, struck⟩
        rwa [granted.id_eq (struck.granted)]
      · intro struck
        exact ⟨id, struck⟩
    spares := by
      intro token cancelled
      rw [isCancelled, List.contains_iff_mem, kept.cancelled] at cancelled
      rcases cancelled with ⟨id, struck⟩
      exact ⟨id, struck.granted⟩
    finished := by
      rintro earlier id later rfl stopped notification names
      have isProper : id.IsProper := proper (.finish id) (by simp)
      have nothing : (after (earlier ++ .finish id :: later)).lookup notification = none := by
        rw [Scene.lookup, names, Option.bind_some, Option.eq_none_iff_forall_ne_some]
        intro token found
        exact not_current_of_finish earlier stopped
          ((kept.token?_eq_some_iff proper isProper).1 found)
      rw [after_concat, Scene.step, nothing]
      rfl }

/-! ## A number and a text with the same digits -/

/-- An id that is a number. -/
def one : Json := .number (.natural 1)

/-- The same digit as a text is another id. -/
def oneText : Json := .string "1"

/-- A notification that names the number. -/
def withdrawal : Notification :=
  ⟨"notifications/cancelled", some (.object [("requestId", one)])⟩

theorem cancelledId?_withdrawal : cancelledId? withdrawal = some one := rfl

/-- Both run; the number is named, and finishes before its token is cancelled. -/
def overlap : List Deed :=
  [.start one, .start oneText, .look withdrawal, .finish one, .cancel 0]

theorem one_ne_oneText : one ≠ oneText := by
  rintro same
  cases same

theorem startsApart_overlap : StartsApart overlap := by
  have steps : overlap =
      [] ++ [.start one] ++ [.start oneText] ++ [.look withdrawal] ++ [.finish one] ++
        [.cancel 0] := rfl
  rw [StartsApart, steps]
  simp only [happened_concat, not_happened_nil, current_concat, not_current_nil]
  simp [one_ne_oneText]

theorem isProper_of_mem_overlap : ∀ deed ∈ overlap, deed.IsProper := by
  have proper : one.IsProper := .number trivial
  have named : (Deed.look withdrawal).IsProper := by
    intro id names
    rw [cancelledId?_withdrawal, Option.some.injEq] at names
    rwa [← names]
  simp only [overlap, List.forall_mem_cons]
  exact ⟨proper, .string "1", named, proper, trivial, by simp⟩

theorem current_oneText_overlap : Current overlap oneText 1 :=
  ⟨[.start one], [.look withdrawal, .finish one, .cancel 0], rfl, rfl, by
    simp [one_ne_oneText.symm]⟩

theorem struck_one_overlap : Struck overlap one 0 := by
  have current : Current [.start one, .start oneText] one 0 :=
    ⟨[], [.start oneText], rfl, rfl, by simp⟩
  have named : Named [.start one, .start oneText, .look withdrawal, .finish one] one 0 :=
    ⟨_, _, [.finish one], rfl, withdrawal, rfl, cancelledId?_withdrawal, current⟩
  exact ⟨_, _, [], rfl, rfl, named⟩

theorem named_request_is_reached :
    StartsApart overlap ∧ (∀ deed ∈ overlap, deed.IsProper) ∧
      (after overlap).table.isCancelled 0 = true ∧
      (after overlap).table.isCancelled 1 = false ∧
      (after overlap).table.token? oneText = some 1 := by
  have reaches := running_requests_are_reached startsApart_overlap isProper_of_mem_overlap
  have cancelled : (after overlap).table.isCancelled 0 = true :=
    (reaches.cancels one 0 struck_one_overlap.granted).2 struck_one_overlap
  have spared : ¬ (after overlap).table.isCancelled 1 = true := by
    rw [reaches.cancels oneText 1 current_oneText_overlap.granted]
    rintro ⟨earlier, deed, later, whole, rfl, -⟩
    have member : Deed.cancel 1 ∈ overlap := by
      rw [whole]
      simp
    simp [overlap] at member
  have found := (reaches.holds oneText (.string "1") 1).2 current_oneText_overlap
  exact ⟨startsApart_overlap, isProper_of_mem_overlap, cancelled, Bool.eq_false_iff.2 spared,
    found⟩

end FrameEval.Server.InFlight
