import Stepwise.Store.Buffers

/-!
# Conservation of buffered records

Calls put records into buffers and take batches out of them, under many names and in any order. What was
put in under a name is what was taken out under that name, followed by what still waits there: no record
is lost, doubled, moved to another name, or handed out before one that came earlier.

`perform_effect` says what one call does to the buffer it names, and that it touches no other.
`isAccountedFor_ofCalls` carries this through every sequence of calls.
-/

set_option autoImplicit false

namespace Stepwise

/-- A call on the buffers. -/
inductive BufferCall where
  | append (name : String) (data : Value) (batchSize : Nat)
  | flush (name : String) (batchSize : Option Nat) (everything : Bool)

/-- What a call comes to. -/
inductive BufferAnswer where
  | appended (done : Appended)
  | flushed (done : Option Flushed)
  | refused (error : InvalidBatchSize)

/-- The name of the buffer that a call is about. -/
def BufferCall.target : BufferCall → String
  | .append name _ _ => name
  | .flush name _ _ => name

/-- Carries out a call. -/
def Buffers.perform (buffers : Buffers) (call : BufferCall) : BufferAnswer × Buffers :=
  match call with
  | .append name data batchSize =>
    match buffers.add name data batchSize with
    | (.ok done, after) => (.appended done, after)
    | (.error error, after) => (.refused error, after)
  | .flush name batchSize everything =>
    match buffers.drain name batchSize everything with
    | (.ok done, after) => (.flushed done, after)
    | (.error error, after) => (.refused error, after)

/-- A call and what it came to. -/
structure BufferExchange where
  call : BufferCall
  answer : BufferAnswer

namespace BufferExchange

/-- The records that a call put in. -/
def accepted : BufferExchange → List Value
  | ⟨.append _ data _, .appended _⟩ => Buffers.recordsOf data
  | _ => []

/-- The batches that a call took out. -/
def returned : BufferExchange → List (List Value)
  | ⟨.flush .., .flushed (some done)⟩ => done.batches
  | _ => []

/-- The batch size that a call gave with the records it put in. -/
def givenSize? : BufferExchange → Option Nat
  | ⟨.append _ _ batchSize, .appended _⟩ => some batchSize
  | _ => none

end BufferExchange

/-- Calls that were carried out, in order, and the buffers after them. -/
structure BufferSession where
  history : List BufferExchange
  buffers : Buffers

namespace BufferSession

/-- Carries out one more call. -/
def call (session : BufferSession) (call : BufferCall) : BufferSession :=
  let (answer, after) := session.buffers.perform call
  ⟨session.history ++ [⟨call, answer⟩], after⟩

/-- Carries out calls, starting without any buffers. -/
def ofCalls (calls : List BufferCall) : BufferSession := calls.foldl call ⟨[], []⟩

/-- The calls about a buffer. -/
def about (session : BufferSession) (name : String) : List BufferExchange :=
  session.history.filter fun exchange => exchange.call.target = name

/-- All records that were put in under a name. -/
def accepted (session : BufferSession) (name : String) : List Value :=
  (session.about name).flatMap BufferExchange.accepted

/-- All batches that were taken out under a name. -/
def returned (session : BufferSession) (name : String) : List (List Value) :=
  (session.about name).flatMap BufferExchange.returned

/-- The batch size that came with the first records under a name. -/
def firstSize? (session : BufferSession) (name : String) : Option Nat :=
  (session.about name).findSome? BufferExchange.givenSize?

/-- The number of records put in under any name. -/
def acceptedCount (session : BufferSession) : Nat :=
  (session.history.flatMap BufferExchange.accepted).length

/-- The number of records taken out under any name. -/
def returnedCount (session : BufferSession) : Nat :=
  (session.history.flatMap BufferExchange.returned).flatten.length

end BufferSession

namespace Buffers

/-- The records that wait under a name. -/
def waiting (buffers : Buffers) (name : String) : List Value :=
  ((Table.get? buffers name).map Buffer.items).getD []

/-- The number of batches that were taken out under a name. -/
def flushedCount (buffers : Buffers) (name : String) : Nat :=
  ((Table.get? buffers name).map Buffer.batchesFlushed).getD 0

/-- The batch size of the buffer of a name. -/
def sizeOf? (buffers : Buffers) (name : String) : Option Nat :=
  (Table.get? buffers name).map Buffer.batchSize

end Buffers

/-! ## One call -/

/-- Batches and the rest make up the items they are cut from. -/
theorem flatten_takeBatches (size : Nat) (everything : Bool) (items : List Value) :
    (takeBatches size everything items).1.flatten ++ (takeBatches size everything items).2 = items := by
  fun_induction takeBatches size everything items with
  | case1 items _ batches rest cut ih =>
    rw [cut] at ih
    rw [List.flatten_cons, List.append_assoc, ih, List.take_append_drop]
  | case2 => rfl

namespace Buffers

/-- What an exchange does to the buffers: the buffer that it names gives the batches from its front and
takes the records at its back, counts the batches, and gets its size with its first records; the others
stay as they are. -/
structure Effect (before : Buffers) (exchange : BufferExchange) (after : Buffers) : Prop where
  frame : ∀ other, other ≠ exchange.call.target → Table.get? after other = Table.get? before other
  moved : exchange.returned.flatten ++ after.waiting exchange.call.target =
    before.waiting exchange.call.target ++ exchange.accepted
  counted : after.flushedCount exchange.call.target =
    before.flushedCount exchange.call.target + exchange.returned.length
  sized : after.sizeOf? exchange.call.target =
    (before.sizeOf? exchange.call.target).or exchange.givenSize?
  sorted : Table.Sorted before → Table.Sorted after
  total : Table.Sorted before →
    after.totalItems + (before.waiting exchange.call.target).length =
      before.totalItems + (after.waiting exchange.call.target).length

/-- An exchange that changes nothing, and neither puts in nor takes out anything, has its effect. -/
theorem Effect.unchanged {buffers : Buffers} {exchange : BufferExchange} (accepted : exchange.accepted = [])
    (returned : exchange.returned = []) (givenSize : exchange.givenSize? = none) :
    Effect buffers exchange buffers where
  frame _ _ := rfl
  moved := by simp [accepted, returned]
  counted := by simp [returned]
  sized := by simp [givenSize]
  sorted := id
  total _ := rfl

/-- An exchange whose buffer is set has its effect if that buffer has the right items, count and size. -/
theorem Effect.put {buffers : Buffers} {exchange : BufferExchange} {buffer : Buffer}
    (moved : exchange.returned.flatten ++ buffer.items =
      buffers.waiting exchange.call.target ++ exchange.accepted)
    (counted : buffer.batchesFlushed =
      buffers.flushedCount exchange.call.target + exchange.returned.length)
    (sized : some buffer.batchSize = (buffers.sizeOf? exchange.call.target).or exchange.givenSize?) :
    Effect buffers exchange (Table.put buffers exchange.call.target buffer) where
  frame other distinct := Table.get?_put_of_ne buffers buffer distinct
  moved := by simpa [waiting] using moved
  counted := by simpa [flushedCount] using counted
  sized := by simpa [sizeOf?] using sized
  sorted ordered := Table.sorted_put ordered _ _
  total ordered := by
    have weights := Table.total_put ordered (fun buffer => buffer.items.length) exchange.call.target buffer
    have before : (buffers.waiting exchange.call.target).length =
        ((Table.get? buffers exchange.call.target).map fun buffer => buffer.items.length).getD 0 := by
      unfold waiting
      cases Table.get? buffers exchange.call.target <;> rfl
    rw [before]
    simpa [totalItems, waiting] using weights

/-- An append has its effect. -/
theorem perform_append_effect (buffers : Buffers) (name : String) (data : Value) (batchSize : Nat) :
    let done := buffers.perform (.append name data batchSize)
    Effect buffers ⟨.append name data batchSize, done.1⟩ done.2 := by
  intro done
  cases found : Table.get? buffers name with
  | some buffer =>
    have done_eq : done =
        (.appended ⟨(recordsOf data).length, (buffer.items ++ recordsOf data).length, buffer.batchSize⟩,
          Table.put buffers name { buffer with items := buffer.items ++ recordsOf data }) := by
      simp [done, perform, add, found]
    rw [done_eq]
    apply Effect.put
    · simp [waiting, BufferCall.target, BufferExchange.returned, BufferExchange.accepted, found]
    · simp [flushedCount, BufferCall.target, BufferExchange.returned, found]
    · simp [sizeOf?, BufferCall.target, found]
  | none =>
    by_cases size_pos : 0 < batchSize
    · have done_eq : done =
          (.appended ⟨(recordsOf data).length, (recordsOf data).length, batchSize⟩,
            Table.put buffers name ⟨recordsOf data, batchSize, 0, size_pos⟩) := by
        simp [done, perform, add, found, size_pos]
      rw [done_eq]
      apply Effect.put
      · simp [waiting, BufferCall.target, BufferExchange.returned, BufferExchange.accepted, found]
      · simp [flushedCount, BufferCall.target, BufferExchange.returned, found]
      · simp [sizeOf?, BufferCall.target, BufferExchange.givenSize?, found]
    · have done_eq : done = (.refused ⟨name⟩, buffers) := by
        simp [done, perform, add, found, size_pos]
      rw [done_eq]
      exact .unchanged rfl rfl rfl

/-- A flush has its effect. -/
theorem perform_flush_effect (buffers : Buffers) (name : String) (batchSize : Option Nat)
    (everything : Bool) :
    let done := buffers.perform (.flush name batchSize everything)
    Effect buffers ⟨.flush name batchSize everything, done.1⟩ done.2 := by
  intro done
  cases found : Table.get? buffers name with
  | none =>
    have done_eq : done = (.flushed none, buffers) := by simp [done, perform, drain, found]
    rw [done_eq]
    exact .unchanged rfl rfl rfl
  | some buffer =>
    by_cases zero : batchSize.getD buffer.batchSize = 0
    · have done_eq : done = (.refused ⟨name⟩, buffers) := by simp [done, perform, drain, found, zero]
      rw [done_eq]
      exact .unchanged rfl rfl rfl
    · have parts := flatten_takeBatches (batchSize.getD buffer.batchSize) everything buffer.items
      rcases cut : takeBatches (batchSize.getD buffer.batchSize) everything buffer.items with
        ⟨batches, rest⟩
      rw [cut] at parts
      have done_eq : done =
          (.flushed (some ⟨batches, batches.flatten.length, rest.length,
              buffer.batchesFlushed + batches.length⟩),
            Table.put buffers name
              { buffer with items := rest, batchesFlushed := buffer.batchesFlushed + batches.length }) := by
        simp [done, perform, drain, found, zero, cut]
      rw [done_eq]
      apply Effect.put
      · simpa [waiting, BufferCall.target, BufferExchange.returned, BufferExchange.accepted, found]
          using parts
      · simp [flushedCount, BufferCall.target, BufferExchange.returned, found]
      · simp [sizeOf?, BufferCall.target, BufferExchange.givenSize?, found]

/-- Every call has its effect. -/
theorem perform_effect (buffers : Buffers) (call : BufferCall) :
    Effect buffers ⟨call, (buffers.perform call).1⟩ (buffers.perform call).2 := by
  cases call with
  | append name data batchSize => exact perform_append_effect buffers name data batchSize
  | flush name batchSize everything => exact perform_flush_effect buffers name batchSize everything

/-- A call that is refused leaves all buffers as they were. -/
theorem perform_refused {buffers : Buffers} {call : BufferCall} {error : InvalidBatchSize}
    (refused : (buffers.perform call).1 = .refused error) : (buffers.perform call).2 = buffers := by
  cases call with
  | append name data batchSize =>
    simp only [perform, add] at refused ⊢
    split at refused <;> grind
  | flush name batchSize everything =>
    simp only [perform, drain] at refused ⊢
    split at refused <;> grind

/-- A flush that takes the size of the buffer is never refused. -/
theorem perform_flush_none (buffers : Buffers) (name : String) (everything : Bool) :
    ∃ done, (buffers.perform (.flush name none everything)).1 = .flushed done := by
  cases found : Table.get? buffers name with
  | none => exact ⟨none, by simp [perform, drain, found]⟩
  | some buffer =>
    have positive : buffer.batchSize ≠ 0 := Nat.pos_iff_ne_zero.mp buffer.size_pos
    exact ⟨_, by simp [perform, drain, found, positive]; rfl⟩

end Buffers

/-! ## Every sequence of calls -/

namespace BufferSession

/-- The buffers and the history of a session agree. -/
structure IsAccountedFor (session : BufferSession) : Prop where
  sorted : Table.Sorted session.buffers
  /-- What came in is what went out and what waits. -/
  conserved : ∀ name,
    (session.returned name).flatten ++ session.buffers.waiting name = session.accepted name
  counted : ∀ name, session.buffers.flushedCount name = (session.returned name).length
  sized : ∀ name, session.buffers.sizeOf? name = session.firstSize? name
  total : session.buffers.totalItems + session.returnedCount = session.acceptedCount

/-- One more call is one more exchange about the buffer that it names. -/
theorem about_call (session : BufferSession) (call : BufferCall) (name : String) :
    (session.call call).about name = session.about name ++
      if call.target = name then [⟨call, (session.buffers.perform call).1⟩] else [] := by
  unfold about BufferSession.call
  rw [List.filter_append]
  by_cases same : call.target = name <;> simp [same]

/-- A session without calls is accounted for. -/
theorem isAccountedFor_nil : IsAccountedFor ⟨[], []⟩ where
  sorted := List.Pairwise.nil
  conserved _ := rfl
  counted _ := rfl
  sized _ := rfl
  total := rfl

/-- One more call keeps a session accounted for. -/
theorem IsAccountedFor.call {session : BufferSession} (accounts : session.IsAccountedFor)
    (call : BufferCall) : (session.call call).IsAccountedFor := by
  have effect := session.buffers.perform_effect call
  have after : (session.call call).buffers = (session.buffers.perform call).2 := rfl
  refine
    { sorted := effect.sorted accounts.sorted, conserved := ?_, counted := ?_, sized := ?_, total := ?_ }
  · intro name
    by_cases same : call.target = name
    · subst same
      simp only [returned, accepted, about_call, if_true, List.flatMap_append, List.flatMap_singleton,
        List.flatten_append, List.append_assoc]
      rw [after, effect.moved, ← List.append_assoc]
      exact congrArg (· ++ _) (accounts.conserved call.target)
    · have kept := effect.frame name (Ne.symm same)
      simpa [returned, accepted, about_call, same, after, Buffers.waiting, kept] using accounts.conserved name
  · intro name
    by_cases same : call.target = name
    · subst same
      simp only [returned, about_call, if_true, List.flatMap_append, List.flatMap_singleton,
        List.length_append]
      rw [after, effect.counted]
      exact congrArg (· + _) (accounts.counted call.target)
    · have kept := effect.frame name (Ne.symm same)
      simpa [returned, about_call, same, after, Buffers.flushedCount, kept] using accounts.counted name
  · intro name
    by_cases same : call.target = name
    · subst same
      have before := accounts.sized call.target
      simp only [firstSize?] at before ⊢
      rw [after, effect.sized, before, about_call, if_pos rfl, List.findSome?_append]
      simp
    · have kept := effect.frame name (Ne.symm same)
      simpa [firstSize?, about_call, same, after, Buffers.sizeOf?, kept] using accounts.sized name
  · -- the buffer that is named grows by what came in less what went out, and so does the total
    have moved := congrArg List.length effect.moved
    have total := effect.total accounts.sorted
    have before := accounts.total
    simp only [List.length_append] at moved total
    simp only [returnedCount, acceptedCount, BufferSession.call, List.flatMap_append,
      List.flatMap_singleton, List.flatten_append, List.length_append] at before ⊢
    omega

/-- Every sequence of calls is accounted for. -/
theorem isAccountedFor_ofCalls (calls : List BufferCall) : (ofCalls calls).IsAccountedFor := by
  have every : ∀ (calls : List BufferCall) (session : BufferSession), session.IsAccountedFor →
      (calls.foldl BufferSession.call session).IsAccountedFor := by
    intro calls
    induction calls with
    | nil => exact fun _ accounts => accounts
    | cons call rest ih => exact fun session accounts => ih _ (accounts.call call)
  exact every calls _ isAccountedFor_nil

/-- A session remembers the calls that were carried out. -/
theorem map_call_history (calls : List BufferCall) :
    (ofCalls calls).history.map BufferExchange.call = calls := by
  have every : ∀ (calls : List BufferCall) (session : BufferSession),
      (calls.foldl BufferSession.call session).history.map BufferExchange.call =
        session.history.map BufferExchange.call ++ calls := by
    intro calls
    induction calls with
    | nil => simp
    | cons call rest ih =>
      intro session
      rw [List.foldl_cons, ih]
      simp [BufferSession.call]
  simpa [ofCalls] using every calls ⟨[], []⟩

/-- After any calls, starting without buffers: what was put in under a name is what was taken out under it
followed by what waits there; a buffer counts the batches taken out of it; it has the size given with its
first records, at least one, so that a flush which takes this size is never refused; a call that is
refused changes nothing; and the records that wait anywhere are those put in less those taken out. -/
theorem ofCalls_conserves (calls : List BufferCall) :
    let session := ofCalls calls
    session.history.map BufferExchange.call = calls ∧
    (∀ name, (session.returned name).flatten ++ session.buffers.waiting name = session.accepted name) ∧
    (∀ name, session.buffers.flushedCount name = (session.returned name).length) ∧
    (∀ name, session.buffers.sizeOf? name = session.firstSize? name ∧
      ∀ size, session.buffers.sizeOf? name = some size → 1 ≤ size) ∧
    (∀ name everything,
      ∃ done, (session.buffers.perform (.flush name none everything)).1 = .flushed done) ∧
    (∀ call error, (session.buffers.perform call).1 = .refused error →
      (session.buffers.perform call).2 = session.buffers) ∧
    session.returnedCount ≤ session.acceptedCount ∧
    session.buffers.totalItems = session.acceptedCount - session.returnedCount := by
  intro session
  have accounts : session.IsAccountedFor := isAccountedFor_ofCalls calls
  have total := accounts.total
  refine ⟨map_call_history calls, accounts.conserved, accounts.counted, ?_,
    session.buffers.perform_flush_none, fun _ _ => Buffers.perform_refused, by omega, by omega⟩
  intro name
  refine ⟨accounts.sized name, ?_⟩
  intro size size_eq
  obtain ⟨buffer, -, rfl⟩ := Option.map_eq_some_iff.mp size_eq
  exact buffer.size_pos

/-- A buffer of two at a time that was flushed once, and a call that is refused. -/
theorem ofCalls_conserves_trial :
    let session := ofCalls [.append "a" (.list [.flag true, .null, .flag false]) 2, .flush "a" none false]
    session.returned "a" = [[.flag true, .null]] ∧
    (session.returned "a").flatten ++ session.buffers.waiting "a" = session.accepted "a" ∧
    (session.buffers.sizeOf? "a" = some 2 ∧ 1 ≤ 2) ∧
    (session.buffers.perform (.append "b" .null 0)).1 = .refused ⟨"b"⟩ ∧
    (session.buffers.perform (.append "b" .null 0)).2 = session.buffers := by
  intro session
  obtain ⟨-, conserved, -, sized, -, refused, -⟩ := ofCalls_conserves
    [.append "a" (.list [.flag true, .null, .flag false]) 2, .flush "a" none false]
  have size_eq : session.buffers.sizeOf? "a" = some 2 := by rfl
  have refusal : (session.buffers.perform (.append "b" .null 0)).1 = .refused ⟨"b"⟩ := by rfl
  have cut : takeBatches 2 false [.flag true, .null, .flag false] =
      ([[.flag true, .null]], [.flag false]) := by
    simp [takeBatches]
  have taken : session.returned "a" = [[.flag true, .null]] := by
    simp [session, returned, about, ofCalls, BufferSession.call, Buffers.perform, Buffers.add, Buffers.drain,
      Table.get?, Table.put, Buffers.recordsOf, cut, BufferExchange.returned, BufferCall.target]
  exact ⟨taken, conserved "a", ⟨size_eq, (sized "a").2 2 size_eq⟩, refusal, refused _ _ refusal⟩

end BufferSession

end Stepwise
