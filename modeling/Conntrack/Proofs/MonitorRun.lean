import Conntrack.Command.Run
import Conntrack.Proofs.BatchHistory

/-!
# What a monitor prints, and when it stops

A monitor goes round: it receives, prints the events one by one, and looks for an
interrupt before it receives again. Four things stop it (`Host.StopsAt`), two of
them with an error and two without. Up to there it has printed one line for each
event, in order, as far as standard output takes them (`monitor_prints`): after so
many rounds the host is in a state that is known in closed form (`Host.through`),
and every round leads from one such state to the next (`watch_of_goesOn`) or ends
the monitor there (`watch_of_stopsAt`).
-/

namespace Conntrack

open Wire Connection

/-- The lines that tell the events of a batch. -/
def batchLines (batch : Batch) : List String :=
  batch.map fun (event, record) => eventLine event record

/-- The lines that tell the events in a reply. -/
def ReceiveReply.lines (capacity : Nat) (reply : ReceiveReply) : List String :=
  match reply.batch capacity with
  | .ok batch => batchLines batch
  | .error _ => []

namespace Host

/-- The lines that tell the events in the first replies, in order. -/
def told (host : Host) (capacity count : Nat) : List String :=
  (List.range count).flatMap fun index => (host.arrivalAt index).reply.lines capacity

/-- Whether standard output takes so many lines in all. -/
def takes (host : Host) (count : Nat) : Bool :=
  match host.lineLimit with
  | none => true
  | some limit => decide (count ≤ limit)

/-- What standard output takes of lines: the first ones, or all. -/
def taken (host : Host) (lines : List String) : List String :=
  match host.lineLimit with
  | none => lines
  | some limit => lines.take limit

/-- The host with other lines on standard output. -/
def withLines (host : Host) (lines : List String) : Host := { host with lines := lines.toArray }

@[simp] theorem takes_withLines (host : Host) (lines : List String) :
    (host.withLines lines).takes = host.takes := rfl

/-- The round with an index stops the monitor, which ends as given. -/
inductive StopsAt (host : Host) (capacity index : Nat) : Except Command.Error Unit → Prop
  /-- The receive fails, and neither by a timeout nor by an overrun. -/
  | receiveFailed {errno : Errno} (replied : (host.arrivalAt index).reply = .failed errno)
      (serious : errno ≠ Errno.wouldBlock ∧ errno ≠ Errno.timedOut ∧ errno ≠ Errno.noBufferSpace) :
      StopsAt host capacity index (.error (.exchange (.socket (.failed .receive errno))))
  /-- The datagram is unusable. -/
  | rejected {bytes : Bytes} {fault : Datagram.Fault}
      (replied : (host.arrivalAt index).reply = .datagram bytes)
      (refused : Datagram.entries (bytes.take capacity) = .error fault) :
      StopsAt host capacity index (.error (.exchange (.datagram fault)))
  /-- An interrupt was noted during the receive of this batch, which is still printed. -/
  | interrupted {batch : Batch} (received : (host.arrivalAt index).reply.batch capacity = .ok batch)
      (noted : (host.arrivalAt index).interrupt) : StopsAt host capacity index (.ok ())
  /-- Standard output refuses a line of this batch. -/
  | outputClosed {batch : Batch}
      (received : (host.arrivalAt index).reply.batch capacity = .ok batch)
      (refused : ¬ host.takes (host.told capacity (index + 1)).length) :
      StopsAt host capacity index (.ok ())

/-- No round in front of this one stops the monitor. -/
def GoesOnTo (host : Host) (capacity count : Nat) : Prop :=
  ∀ index < count, ∀ result, ¬ host.StopsAt capacity index result

/-! ## Standard output -/

theorem takes_zero (host : Host) : host.takes 0 = true := by
  rw [takes]
  split
  · rfl
  · exact decide_eq_true (Nat.zero_le _)

theorem taken_of_takes {host : Host} {lines : List String} (room : host.takes lines.length) :
    host.taken lines = lines := by
  simp only [takes] at room
  simp only [taken]
  split
  · rfl
  · next limit limited =>
    rw [limited] at room
    exact List.take_of_length_le (of_decide_eq_true room)

theorem taken_append_of_full {host : Host} {lines : List String} (room : host.takes lines.length)
    (full : ¬ host.takes (lines.length + 1)) (more : List String) :
    host.taken (lines ++ more) = lines := by
  simp only [takes] at room full
  simp only [taken]
  split
  · next unlimited =>
    rw [unlimited] at full
    exact absurd rfl full
  · next limit limited =>
    rw [limited] at room full
    have least : lines.length ≤ limit := of_decide_eq_true room
    have most : ¬ lines.length + 1 ≤ limit := fun fits => full (decide_eq_true fits)
    exact List.take_left' (by omega)

theorem takes_of_le {host : Host} {fewer more : Nat} (le : fewer ≤ more) (room : host.takes more) :
    host.takes fewer := by
  simp only [takes] at room ⊢
  split
  · rfl
  · next limit limited =>
    rw [limited] at room
    exact decide_eq_true (Nat.le_trans le (of_decide_eq_true room))

theorem writeLine_apply (line : String) (host : Host) (before : List String) :
    writeLine line (host.withLines before) =
      if host.takes (before.length + 1) then (true, host.withLines (before ++ [line]))
      else (false, host.withLines before) := by
  have pushed : { host.withLines before with lines := (host.withLines before).lines.push line } =
      host.withLines (before ++ [line]) := by
    simp [withLines]
  have size : (host.withLines before).lines.size = before.length := by simp [withLines]
  obtain ⟨limit?, limited⟩ : ∃ limit?, (host.withLines before).lineLimit = limit? := ⟨_, rfl⟩
  simp only [writeLine, pushed, size, ← takes_withLines host before]
  simp only [takes, limited]
  cases limit? with
  | none => rfl
  | some limit =>
    have either : limit ≤ before.length ↔ ¬ before.length + 1 ≤ limit := by omega
    by_cases room : before.length + 1 ≤ limit <;> simp [either, room]

end Host

namespace Command

theorem printBatch_cons (event : Event) (record : Record) (batch : Batch) (host : Host) :
    printBatch ((event, record) :: batch) host =
      match Host.writeLine (eventLine event record) host with
      | (true, host) => printBatch batch host
      | (false, host) => (false, host) := by
  simp only [printBatch, bind, StateT.bind]
  rcases Host.writeLine (eventLine event record) host with ⟨accepted, after⟩
  cases accepted <;> rfl

/-- A batch is printed line by line, up to the first that is refused. -/
theorem printBatch_apply (batch : Batch) (host : Host) {before : List String}
    (room : host.takes before.length) :
    printBatch batch (host.withLines before) =
      (host.takes (before ++ batchLines batch).length,
        host.withLines (host.taken (before ++ batchLines batch))) := by
  induction batch generalizing before with
  | nil =>
    rw [batchLines, List.map_nil, List.append_nil, room, Host.taken_of_takes room]
    rfl
  | cons told batch ih =>
    obtain ⟨event, record⟩ := told
    let line := eventLine event record
    have more : before ++ batchLines ((event, record) :: batch) =
        (before ++ [line]) ++ batchLines batch := by
      simp [batchLines, line]
    rw [printBatch_cons, Host.writeLine_apply, more]
    by_cases fits : host.takes (before.length + 1)
    · rw [if_pos fits]
      apply ih
      rw [List.length_append]
      exact fits
    · have closed : host.takes ((before ++ [line]) ++ batchLines batch).length = false := by
        apply eq_false_of_ne_true
        intro room
        exact fits (Host.takes_of_le (by simp) room)
      rw [if_neg fits, closed, List.append_assoc, Host.taken_append_of_full room fits]

end Command

/-! ## Rounds -/

namespace Host

/-- A monitor has just been started on the host. -/
structure Watching (host : Host) : Prop where
  handled : host.handlerInstalled = true
  uninterrupted : host.interrupted = false
  unwritten : host.lines = #[]

/-- The host after so many rounds of a monitor that was started on it. -/
def through (host : Host) (capacity count : Nat) : Host :=
  { host.logAll (List.replicate count (.receive capacity)) with
    arrivals := host.arrivals.drop count
    lines := (host.taken (host.told capacity count)).toArray
    interrupted := (List.range count).any fun index => (host.arrivalAt index).interrupt }

theorem told_succ (host : Host) (capacity count : Nat) : host.told capacity (count + 1) =
    host.told capacity count ++ (host.arrivalAt count).reply.lines capacity := by
  simp [told, List.range_succ]

theorem through_zero {host : Host} (watching : host.Watching) (capacity : Nat) :
    host.through capacity 0 = host := by
  have nothing : host.taken [] = [] := by
    simp only [taken]
    split <;> simp
  obtain ⟨-, uninterrupted, unwritten⟩ := watching
  simp [through, told, nothing, logAll, ← uninterrupted, ← unwritten]

theorem arrivalAt_through (host : Host) (capacity count : Nat) :
    (host.through capacity count).arrivalAt 0 = host.arrivalAt count := by
  simp [arrivalAt, through, List.getD_eq_getElem?_getD]

/-- A receive makes one round of another but for the printing. -/
theorem received_through {host : Host} (watching : host.Watching) (capacity count : Nat) :
    (host.through capacity count).received capacity =
      (host.through capacity (count + 1)).withLines (host.taken (host.told capacity count)) := by
  have handled : (host.through capacity count).handlerInstalled = true := watching.handled
  have next := host.arrivalAt_through capacity count
  simp only [received, handled, next, Bool.and_true]
  simp [through, withLines, logAll, List.range_succ, Array.replicate_succ]

variable {host : Host} {capacity : Nat}

theorem stopsAt_of_error {index : Nat} {failure : Failure}
    (failed : (host.arrivalAt index).reply.batch capacity = .error failure) :
    host.StopsAt capacity index (.error (.exchange failure)) := by
  cases replied : (host.arrivalAt index).reply with
  | datagram bytes =>
    rw [replied, ReceiveReply.batch] at failed
    split at failed
    · cases failed
    · next fault refused =>
      obtain rfl := Except.error.inj failed
      exact .rejected replied refused
  | failed errno =>
    rw [replied, ReceiveReply.batch] at failed
    split at failed
    · cases failed
    · next serious =>
      obtain rfl := Except.error.inj failed
      rw [not_or, not_or] at serious
      exact .receiveFailed replied serious

/-- A round that stops the monitor has failed, or has a batch and stops for one of two reasons. -/
theorem batch_of_stopsAt {index : Nat} {result : Except Command.Error Unit}
    (stops : host.StopsAt capacity index result) :
    (∃ failure, (host.arrivalAt index).reply.batch capacity = .error failure ∧
        result = .error (.exchange failure)) ∨
      ∃ batch, (host.arrivalAt index).reply.batch capacity = .ok batch ∧ result = .ok () ∧
        ((host.arrivalAt index).interrupt ∨
          ¬ host.takes (host.told capacity (index + 1)).length) := by
  cases stops with
  | @receiveFailed errno replied serious =>
    refine .inl ⟨.socket (.failed .receive errno), ?_, rfl⟩
    simp [replied, ReceiveReply.batch, serious]
  | @rejected bytes fault replied refused =>
    refine .inl ⟨.datagram fault, ?_, rfl⟩
    simp [replied, ReceiveReply.batch, refused]
  | interrupted received noted => exact .inr ⟨_, received, rfl, .inl noted⟩
  | outputClosed received refused => exact .inr ⟨_, received, rfl, .inr refused⟩

theorem exists_batch_of_goesOn {index : Nat}
    (goesOn : ∀ result, ¬ host.StopsAt capacity index result) :
    ∃ batch, (host.arrivalAt index).reply.batch capacity = .ok batch ∧
      (host.arrivalAt index).interrupt = false ∧
      host.takes (host.told capacity (index + 1)).length := by
  cases received : (host.arrivalAt index).reply.batch capacity with
  | error failure => exact absurd (stopsAt_of_error received) (goesOn _)
  | ok batch =>
    refine ⟨batch, rfl, ?_, ?_⟩
    · cases noted : (host.arrivalAt index).interrupt with
      | false => rfl
      | true => exact absurd (.interrupted received noted) (goesOn _)
    · cases room : host.takes (host.told capacity (index + 1)).length with
      | true => rfl
      | false => exact absurd (.outputClosed received (ne_true_of_eq_false room)) (goesOn _)

/-- Only one round can be the first that stops the monitor. -/
theorem first_stop_unique {last other : Nat} {result result' : Except Command.Error Unit}
    (goesOn : host.GoesOnTo capacity last) (stops : host.StopsAt capacity last result)
    (goesOn' : host.GoesOnTo capacity other) (stops' : host.StopsAt capacity other result') :
    last = other := by
  rcases Nat.lt_trichotomy last other with sooner | same | later
  · exact absurd stops (goesOn' last sooner result)
  · exact same
  · exact absurd stops' (goesOn other later result')

/-- An empty batch during which no interrupt comes stops no monitor. -/
theorem goesOnTo_one_of_empty (empty : (host.arrivalAt 0).reply.batch capacity = .ok [])
    (quiet : (host.arrivalAt 0).interrupt = false) : host.GoesOnTo capacity 1 := by
  intro index before result stops
  obtain rfl := Nat.lt_one_iff.mp before
  have told : host.told capacity 1 = [] := by
    rw [told_succ, ReceiveReply.lines, empty]
    rfl
  rcases batch_of_stopsAt stops with ⟨_, failed, -⟩ | ⟨_, -, -, noted | refused⟩
  · cases empty.symm.trans failed
  · cases quiet.symm.trans noted
  · rw [told] at refused
    exact refused host.takes_zero

theorem takes_told_of_goesOnTo {count : Nat} (goesOn : host.GoesOnTo capacity count) :
    host.takes (host.told capacity count).length := by
  cases count with
  | zero => exact host.takes_zero
  | succ count =>
    obtain ⟨-, -, -, room⟩ := exists_batch_of_goesOn (goesOn count (Nat.lt_succ_self count))
    exact room

theorem uninterrupted_of_goesOnTo {count : Nat} (goesOn : host.GoesOnTo capacity count) :
    (host.through capacity count).interrupted = false := by
  simp only [through, List.any_eq_false, List.mem_range]
  intro index earlier
  obtain ⟨-, -, quiet, -⟩ := exists_batch_of_goesOn (goesOn index earlier)
  simp [quiet]

end Host

namespace Command

theorem watch_succ (rounds : Nat) (buffer : Buffer) (host : Host) :
    watch (rounds + 1) buffer host =
      if host.interrupted then ((.ok (), buffer), host)
      else match receiveBatch buffer host with
        | ((.error failure, buffer), host) => ((.error (.exchange failure), buffer), host)
        | ((.ok batch, buffer), host) => match printBatch batch host with
          | (true, host) => watch rounds buffer host
          | (false, host) => ((.ok (), buffer), host) := by
  rw [watch, Receiving.bind_apply]
  change (if host.interrupted then pure () else _ : Receiving Error Unit) buffer host = _
  split
  · rfl
  · rw [Receiving.bind_apply, Receiving.adapt_apply]
    rcases receiveBatch buffer host with ⟨⟨result, left⟩, after⟩
    cases result with
    | error failure => rfl
    | ok batch =>
      change (liftM (printBatch batch) >>= _ : Receiving Error Unit) left after = _
      rw [Receiving.bind_apply, Receiving.lift_apply]
      dsimp only
      rcases printBatch batch after with ⟨accepted, printed⟩
      cases accepted <;> rfl

theorem watch_of_interrupted {host : Host} (noted : host.interrupted = true) (rounds : Nat)
    (buffer : Buffer) : watch rounds buffer host = ((.ok (), buffer), host) := by
  cases rounds with
  | zero => rfl
  | succ rounds => rw [watch_succ, if_pos noted]

/-- A monitor that has its buffer begins its rounds as soon as the handler is installed. -/
theorem monitorEvents_of_le {config : Config} (room : config.receiveBuffer.toNat ≤ Buffer.largest)
    (host : Host) :
    monitorEvents config host = match host.handlerFault with
      | some reason => (.error (.noHandler reason), host)
      | none => (watch (host.arrivals.length + 1)).within (.zeros (monitorCapacity config))
          { host with handlerInstalled := true } := by
  rw [monitorEvents, monitorBuffer_of_le room, Session.bind_apply, Session.adapt_apply]
  change (ExceptT.adapt Error.noHandler Host.installHandler >>= _ : Session Error Unit) host = _
  rw [Session.bind_apply, Session.adapt_apply, Host.installHandler]
  cases host.handlerFault <;> rfl

/-- Without a buffer nothing is done, and not even the handler is installed. -/
theorem monitorEvents_of_lt {config : Config}
    (oversized : Buffer.largest < config.receiveBuffer.toNat) (host : Host) :
    monitorEvents config host = (.error (.exchange .capacityOverflow), host) := by
  rw [monitorEvents, monitorBuffer_of_lt oversized]
  rfl

variable {host : Host} {capacity : Nat}

/-- One round up to the printing. -/
theorem receiveBatch_through (watching : host.Watching) (count : Nat) {buffer : Buffer}
    (sized : buffer.size = capacity) :
    receiveBatch buffer (host.through capacity count) =
      (((host.arrivalAt count).reply.batch capacity, buffer.after (host.arrivalAt count).reply),
        (host.through capacity (count + 1)).withLines
          (host.taken (host.told capacity count))) := by
  rw [receiveBatch_apply, sized, Host.arrivalAt_through, Host.received_through watching]

/-- The printing of a round. -/
theorem printBatch_through {count : Nat} {batch : Batch}
    (goesOn : host.GoesOnTo capacity count)
    (received : (host.arrivalAt count).reply.batch capacity = .ok batch) :
    printBatch batch ((host.through capacity (count + 1)).withLines
        (host.taken (host.told capacity count))) =
      (host.takes (host.told capacity (count + 1)).length, host.through capacity (count + 1)) := by
  have room := Host.takes_told_of_goesOnTo goesOn
  have lines : (host.arrivalAt count).reply.lines capacity = batchLines batch := by
    rw [ReceiveReply.lines, received]
  have printed := printBatch_apply batch (host.through capacity (count + 1)) room
  rw [← lines, ← Host.told_succ] at printed
  rw [Host.taken_of_takes room, printed]
  rfl

/-- A round that does not stop the monitor leads to the next. -/
theorem watch_of_goesOn (watching : host.Watching) {count : Nat}
    (goesOn : host.GoesOnTo capacity (count + 1)) (rounds : Nat) {buffer : Buffer}
    (sized : buffer.size = capacity) :
    watch (rounds + 1) buffer (host.through capacity count) =
      watch rounds (buffer.after (host.arrivalAt count).reply)
        (host.through capacity (count + 1)) := by
  have earlier : host.GoesOnTo capacity count :=
    fun index before => goesOn index (Nat.lt_succ_of_lt before)
  obtain ⟨batch, received, -, room⟩ :=
    Host.exists_batch_of_goesOn (goesOn count (Nat.lt_succ_self count))
  have printed := printBatch_through earlier received
  rw [watch_succ, Host.uninterrupted_of_goesOnTo earlier, if_neg Bool.false_ne_true,
    receiveBatch_through watching count sized, received]
  simp only [printed, room]

/-- A round that stops the monitor is its last. -/
theorem watch_of_stopsAt (watching : host.Watching) {count : Nat}
    {result : Except Error Unit} (earlier : host.GoesOnTo capacity count)
    (stops : host.StopsAt capacity count result) (rounds : Nat) {buffer : Buffer}
    (sized : buffer.size = capacity) :
    watch (rounds + 1) buffer (host.through capacity count) =
      ((result, buffer.after (host.arrivalAt count).reply), host.through capacity (count + 1)) := by
  rw [watch_succ, Host.uninterrupted_of_goesOnTo earlier, if_neg Bool.false_ne_true,
    receiveBatch_through watching count sized]
  rcases Host.batch_of_stopsAt stops with ⟨failure, failed, rfl⟩ | ⟨batch, received, rfl, reason⟩
  · -- nothing is printed, and the reply has no lines
    have lines : (host.arrivalAt count).reply.lines capacity = [] := by
      rw [ReceiveReply.lines, failed]
    have told : host.told capacity (count + 1) = host.told capacity count := by
      rw [Host.told_succ, lines, List.append_nil]
    simp only [failed, ← told]
    rfl
  · have printed := printBatch_through earlier received
    simp only [received, printed]
    cases room : host.takes (host.told capacity (count + 1)).length with
    | false => rfl
    | true =>
      have noted : (host.arrivalAt count).interrupt = true :=
        reason.resolve_right (not_not_intro room)
      have seen : (host.through capacity (count + 1)).interrupted = true := by
        simp [Host.through, List.range_succ, noted]
      exact watch_of_interrupted seen rounds _

/-- A monitor with as many rounds as there may be replies stops at one of them. -/
theorem exists_stop (watching : host.Watching) (rounds : Nat) {count : Nat}
    (enough : host.arrivals.length < count + rounds) (earlier : host.GoesOnTo capacity count)
    {buffer : Buffer} (sized : buffer.size = capacity) :
    ∃ last result, host.GoesOnTo capacity last ∧ host.StopsAt capacity last result ∧
      ∃ left, watch rounds buffer (host.through capacity count) =
        ((result, left), host.through capacity (last + 1)) := by
  induction rounds generalizing count buffer with
  | zero =>
    -- the reply behind the last arrival is a failure, so the monitor has stopped before
    have lost : (host.arrivalAt host.arrivals.length) = .lost := by
      simp [Host.arrivalAt]
    have stops : host.StopsAt capacity host.arrivals.length
        (.error (.exchange (.socket (.failed .receive Errno.inputOutput)))) :=
      .receiveFailed (congrArg Arrival.reply lost) (by decide)
    exact absurd stops (earlier _ enough _)
  | succ rounds ih =>
    by_cases stops : ∃ result, host.StopsAt capacity count result
    · obtain ⟨result, stops⟩ := stops
      exact ⟨count, result, earlier, stops, _, watch_of_stopsAt watching earlier stops rounds sized⟩
    · have goesOn : host.GoesOnTo capacity (count + 1) := by
        intro index before result
        rcases Nat.lt_succ_iff_lt_or_eq.mp before with sooner | rfl
        · exact earlier index sooner result
        · exact fun stop => stops ⟨result, stop⟩
      rw [watch_of_goesOn watching goesOn rounds sized]
      exact ih (by omega) goesOn (by rw [Buffer.size_after, sized])

end Command

/-! ## The whole monitor -/

namespace Host

/-- A host on which nothing has happened yet, and on which subscribing with a
configuration and installing the interrupt handler succeed. -/
structure Ready (host : Host) (config : Config) : Prop where
  opens : host.Opens
  room : config.receiveBuffer.toNat ≤ Buffer.largest
  handler : host.handlerFault = none
  uninterrupted : host.interrupted = false
  unwritten : host.lines = #[]

/-- The host when the monitor begins its rounds. -/
def started (host : Host) (config : Config) : Host :=
  { host.logAll config.openingCalls with handlerInstalled := true }

theorem Ready.watching {host : Host} {config : Config} (ready : host.Ready config) :
    (host.started config).Watching :=
  ⟨rfl, ready.uninterrupted, ready.unwritten⟩

theorem StopsAt.of_same {host other : Host} {capacity index : Nat}
    {result : Except Command.Error Unit} (arrivals : host.arrivals = other.arrivals)
    (limit : host.lineLimit = other.lineLimit) (stops : host.StopsAt capacity index result) :
    other.StopsAt capacity index result := by
  have replies : host.arrivalAt = other.arrivalAt := by
    funext index
    rw [arrivalAt, arrivals, arrivalAt]
  have output : host.takes (host.told capacity (index + 1)).length =
      other.takes (other.told capacity (index + 1)).length := by
    rw [takes, limit, told, replies, takes, told]
  cases stops with
  | receiveFailed replied serious => exact .receiveFailed (replies ▸ replied) serious
  | rejected replied refused => exact .rejected (replies ▸ replied) refused
  | interrupted received noted => exact .interrupted (replies ▸ received) (replies ▸ noted)
  | outputClosed received refused => exact .outputClosed (replies ▸ received) (output ▸ refused)

/-- Where a monitor stops depends on the replies and on standard output only. -/
theorem stopsAt_congr {host other : Host} {capacity : Nat}
    (arrivals : host.arrivals = other.arrivals) (limit : host.lineLimit = other.lineLimit) :
    host.StopsAt capacity = other.StopsAt capacity := by
  funext index result
  exact propext ⟨.of_same arrivals limit, .of_same arrivals.symm limit.symm⟩

end Host

namespace Command

/-- A monitor runs up to the first round that stops it, and then closes its socket. -/
theorem runMonitor_eq (config : Config) {host : Host} (ready : host.Ready config) :
    ∃ last result, host.GoesOnTo (monitorCapacity config) last ∧
      host.StopsAt (monitorCapacity config) last result ∧
      runMonitor config host = (result,
        ((host.started config).through (monitorCapacity config) (last + 1)).logAll [.close]) := by
  have watching := ready.watching
  obtain ⟨last, result, goesOn, stops, left, ran⟩ :=
    exists_stop watching (host.arrivals.length + 1) (Nat.lt_of_lt_of_eq (Nat.lt_succ_self _)
      (Nat.zero_add _).symm) (fun index before => absurd before (Nat.not_lt_zero index))
      (Buffer.size_zeros (monitorCapacity config))
  rw [Host.through_zero watching] at ran
  have same : (host.started config).StopsAt (monitorCapacity config) =
      host.StopsAt (monitorCapacity config) := Host.stopsAt_congr rfl rfl
  rw [Host.GoesOnTo, same] at goesOn
  rw [same] at stops
  refine ⟨last, result, goesOn, stops, ?_⟩
  have events : monitorEvents config (host.logAll config.openingCalls) =
      (result, (host.started config).through (monitorCapacity config) (last + 1)) := by
    rw [monitorEvents_of_le ready.room]
    split
    · next reason refused => cases ready.handler.symm.trans refused
    · change Receiving.within _ (watch (host.arrivals.length + 1)) (host.started config) = _
      rw [Receiving.within, ran]
  rw [runMonitor, Socket.withOpen_of_opens config _ _ ready.opens, events]

/-- The configuration is read before anything is done. -/
theorem run_monitor_apply (path : Option String) (host : Host) :
    run (.monitor path) host = match monitorConfig host.files path with
      | .error error => (.error error, host)
      | .ok config => runMonitor config host := by
  have read : (get : Session Error Host) host = (.ok host, host) := rfl
  rw [run, Session.bind_apply, read]
  dsimp only
  cases monitorConfig host.files path <;> rfl

theorem run_monitor_of_loaded {config : Config} {host : Host} {path : Option String}
    (loaded : monitorConfig host.files path = .ok config) :
    run (.monitor path) host = runMonitor config host := by
  rw [run_monitor_apply, loaded]

theorem runArguments_of_asked {arguments : List String} {command : Command}
    (asked : ofArguments arguments = .ok command) (host : Host) :
    runArguments arguments host = run command host := by
  rw [runArguments, asked]

end Command

end Conntrack
