import Conntrack.Proofs.MonitorRun
import Conntrack.Proofs.UpdateOutcome

/-!
# A socket is opened once and closed once

Everything that is done with an open socket only sends and receives
(`Host.Exchanges`), whether it ends well, fails or is given up half way. So the
calls of a program are the opening of its socket, cut behind a call that fails,
then sends and receives if the opening is complete, and then one close
(`Host.LifeCycle`). This holds for any client of a socket (`Client`), for an
update and for a run of batches, and for the program on the command line
(`socket_closed_once`). A monitor that is given up because no buffer can have the
size that it asks for is no exception.
-/

namespace Conntrack

open Wire Connection

/-- A call that moves bytes over an open socket. -/
def Call.isExchange : Call → Bool
  | .sendTo _ _ | .receive _ => true
  | _ => false

namespace Host

/-! ## What is done with an open socket -/

/-- No call but sends and receives has come to those made before. -/
def Exchanges (before after : Host) : Prop :=
  ∃ calls, after.calls.toList = before.calls.toList ++ calls ∧ ∀ call ∈ calls, call.isExchange

theorem Exchanges.refl (host : Host) : host.Exchanges host :=
  ⟨[], (List.append_nil _).symm, nofun⟩

theorem Exchanges.of_calls_eq {before after : Host} (same : after.calls = before.calls) :
    before.Exchanges after :=
  ⟨[], by rw [same, List.append_nil], nofun⟩

theorem Exchanges.trans {before between after : Host} (first : before.Exchanges between)
    (second : between.Exchanges after) : before.Exchanges after := by
  obtain ⟨calls, made, only⟩ := first
  obtain ⟨more, made', only'⟩ := second
  refine ⟨calls ++ more, ?_, ?_⟩
  · rw [made', made, List.append_assoc]
  · intro call member
    rcases List.mem_append.mp member with early | late
    · exact only call early
    · exact only' call late

theorem exchanges_sent (host : Host) (bytes : Bytes) : host.Exchanges (host.sent bytes) :=
  ⟨[.sendTo bytes kernelAddress], host.toList_calls_logAll _, by simp [Call.isExchange]⟩

theorem exchanges_received (host : Host) (capacity : Nat) :
    host.Exchanges (host.received capacity) :=
  ⟨[.receive capacity], host.toList_calls_logAll _, by simp [Call.isExchange]⟩

theorem exchanges_send (bytes : Bytes) (host : Host) :
    host.Exchanges (Socket.send bytes host).2 := by
  rw [Socket.send_apply]
  split <;> exact host.exchanges_sent bytes

theorem exchanges_receive (capacity : Nat) (host : Host) :
    host.Exchanges (Socket.receive capacity host).2 := by
  rw [Socket.receive_apply]
  exact host.exchanges_received capacity

theorem exchanges_update (update : TimeoutUpdate) (host : Host) :
    host.Exchanges (updateTimeout update host).2 := by
  rw [updateTimeout_apply]
  split
  · exact host.exchanges_sent update.encode
  · exact (host.exchanges_sent update.encode).trans (exchanges_received _ replyCapacity)

theorem exchanges_batch (buffer : Buffer) (host : Host) :
    host.Exchanges (receiveBatch buffer host).2 := by
  rw [receiveBatch_apply]
  exact host.exchanges_received buffer.size

theorem exchanges_batches (count : Nat) (buffer : Buffer) (host : Host) :
    host.Exchanges (receiveBatches count buffer host).2 := by
  induction count generalizing buffer host with
  | zero => exact .refl host
  | succ count ih => exact (host.exchanges_batch buffer).trans (ih _ _)

/-- The buffer of a monitor is had, or refused, without a call. -/
theorem exchanges_withBuffer {α : Type} (config : Config) {use : Buffer → Session Failure α}
    (exchanges : ∀ buffer host, Exchanges host (use buffer host).2) (host : Host) :
    host.Exchanges ((monitorBuffer config >>= use) host).2 := by
  rcases Nat.lt_or_ge Buffer.largest config.receiveBuffer.toNat with oversized | room
  · rw [monitorBuffer_of_lt oversized]
    exact .refl host
  · rw [monitorBuffer_of_le room]
    exact exchanges _ host

theorem calls_writeLine (line : String) (host : Host) :
    (writeLine line host).2.calls = host.calls := by
  simp only [writeLine, apply_ite Prod.snd, apply_ite Host.calls, ite_self]

end Host

namespace Command

/-- Printing makes no call. -/
theorem calls_printBatch (batch : Batch) (host : Host) :
    (printBatch batch host).2.calls = host.calls := by
  induction batch generalizing host with
  | nil => rfl
  | cons told batch ih =>
    obtain ⟨event, record⟩ := told
    have kept := Host.calls_writeLine (eventLine event record) host
    rw [printBatch_cons]
    generalize Host.writeLine (eventLine event record) host = written at kept ⊢
    obtain ⟨_ | _, after⟩ := written
    · exact kept
    · exact (ih after).trans kept

theorem exchanges_watch (rounds : Nat) (buffer : Buffer) (host : Host) :
    host.Exchanges (watch rounds buffer host).2 := by
  induction rounds generalizing buffer host with
  | zero => exact .refl host
  | succ rounds ih =>
    have received := host.exchanges_batch buffer
    rw [watch_succ]
    split
    · exact .refl host
    · generalize receiveBatch buffer host = outcome at received ⊢
      obtain ⟨⟨failure | batch, left⟩, after⟩ := outcome
      · exact received
      · have printed : host.Exchanges (printBatch batch after).2 :=
          received.trans (.of_calls_eq (calls_printBatch batch after))
        dsimp only
        generalize printBatch batch after = outcome at printed ⊢
        obtain ⟨_ | _, shown⟩ := outcome
        · exact printed
        · exact printed.trans (ih left shown)

theorem exchanges_monitorEvents (config : Config) (host : Host) :
    host.Exchanges (monitorEvents config host).2 := by
  rcases Nat.lt_or_ge Buffer.largest config.receiveBuffer.toNat with oversized | room
  · rw [monitorEvents_of_lt oversized]
    exact .refl host
  · rw [monitorEvents_of_le room]
    cases host.handlerFault with
    | some reason => exact .refl host
    | none =>
      have handled : host.Exchanges { host with handlerInstalled := true } := .of_calls_eq rfl
      exact handled.trans (exchanges_watch (host.arrivals.length + 1) _ _)

end Command

/-- What is done with an open socket, one operation after the other. What comes
next may depend on how the operations before it ended. -/
inductive Client where
  | stop
  | send (bytes : Bytes) (next : Except SocketError Unit → Client)
  | receive (capacity : Nat) (next : Except SocketError Bytes → Client)
  | update (request : TimeoutUpdate) (next : Except Failure Unit → Client)
  /-- The next batch of a monitor, received into the buffer that all batches share.
  If there can be no such buffer, everything ends here. -/
  | batch (next : Except Failure Batch → Client)

namespace Client

/-- What a client leaves of the buffer of its batches, if it has one, and of the host. -/
def run : Client → Option Buffer → Host → Option Buffer × Host
  | .stop, buffer, host => (buffer, host)
  | .send bytes next, buffer, host =>
    let (result, host) := Socket.send bytes host
    (next result).run buffer host
  | .receive capacity next, buffer, host =>
    let (result, host) := Socket.receive capacity host
    (next result).run buffer host
  | .update request next, buffer, host =>
    let (result, host) := updateTimeout request host
    (next result).run buffer host
  | .batch _, none, host => (none, host)
  | .batch next, some buffer, host =>
    let ((result, buffer), host) := receiveBatch buffer host
    (next result).run buffer host

theorem exchanges_run (client : Client) (buffer : Option Buffer) (host : Host) :
    host.Exchanges (client.run buffer host).2 := by
  induction client generalizing buffer host with
  | stop => exact .refl host
  | send bytes next ih => exact (host.exchanges_send bytes).trans (ih _ _ _)
  | receive capacity next ih => exact (host.exchanges_receive capacity).trans (ih _ _ _)
  | update request next ih => exact (host.exchanges_update request).trans (ih _ _ _)
  | batch next ih =>
    cases buffer with
    | none => exact .refl host
    | some buffer => exact (host.exchanges_batch buffer).trans (ih _ _ _)

/-- A client on a socket that is opened for it. -/
def session (config : Config) (client : Client) : Session SocketError Unit :=
  Socket.withOpen config id fun host =>
    (.ok (), (client.run (Buffer.allocate? (monitorCapacity config)) host).2)

end Client

/-! ## The calls of a whole program -/

theorem upToFault_isPrefix (calls : List Call) (faults : List (Option Errno)) :
    upToFault (calls.zip faults) <+: calls := by
  induction calls generalizing faults with
  | nil => exact List.nil_prefix
  | cons call calls ih =>
    cases faults with
    | nil => exact List.nil_prefix
    | cons fault faults =>
      cases fault with
      | none => exact (List.prefix_cons_inj call).mpr (ih faults)
      | some errno => exact (List.prefix_cons_inj call).mpr List.nil_prefix

theorem Config.mem_openingCalls {config : Config} {call : Call}
    (member : call ∈ config.openingCalls) : call.isExchange = false ∧ call ≠ .close := by
  simp only [openingCalls, setUpCalls, List.mem_cons, List.not_mem_nil, or_false] at member
  rcases member with rfl | rfl | rfl | rfl <;> exact ⟨rfl, nofun⟩

namespace Host

/-- The step is the first of the opening that fails. -/
def FailsAt (host : Host) (step : SocketStep) (errno : Errno) : Prop :=
  ∃ front behind, host.openingFaults = front ++ (step, some errno) :: behind ∧
    ∀ earlier ∈ front, earlier.2 = none

theorem firstFault?_of_failsAt {host : Host} {step : SocketStep} {errno : Errno}
    (fails : host.FailsAt step errno) :
    firstFault? host.openingFaults = some (.failed step errno) := by
  obtain ⟨front, behind, split, sound⟩ := fails
  refine List.findSome?_eq_some_iff.mpr ⟨front, _, behind, split, rfl, ?_⟩
  rintro ⟨step, fault⟩ member
  rw [show fault = none from sound _ member]
  rfl

/-- The calls of a program that opens a socket. -/
structure LifeCycle (host : Host) (config : Config) (made : List Call) : Prop where
  /-- Nothing but sends and receives stands between the opening, which is cut
  behind a call that fails, and the close. -/
  between : ∃ exchanged, made = host.opening config ++ exchanged ++ host.closing ∧
    ∀ call ∈ exchanged, call.isExchange
  /-- Sends and receives stand behind a complete opening and in front of the close. -/
  inside : ∀ front call behind, made = front ++ call :: behind → call.isExchange →
    host.Opens ∧ config.openingCalls <+: front ∧ .close ∈ behind
  /-- A socket that could not be opened is not closed, nor is anything else done. -/
  refused : host.socketFault ≠ none → made = [.socket netlinkDomain rawType netfilterProtocol]
  once : host.socketFault = none → made.count .close = 1
  last : ∀ front behind, made = front ++ .close :: behind → behind = []

variable {host : Host} {config : Config} {exchanged : List Call}

theorem mem_opening {call : Call} (member : call ∈ host.opening config) :
    call.isExchange = false ∧ call ≠ .close :=
  Config.mem_openingCalls ((upToFault_isPrefix _ _).subset member)

theorem mem_closing {call : Call} (member : call ∈ host.closing) : call = .close := by
  rw [closing] at member
  split at member
  · exact List.mem_singleton.mp member
  · cases member

theorem opening_of_refused (refused : host.socketFault ≠ none) :
    host.opening config = [.socket netlinkDomain rawType netfilterProtocol] := by
  obtain ⟨errno, failed⟩ := Option.ne_none_iff_exists'.mp refused
  rw [opening, openingFaults, failed]
  rfl

theorem closing_of_refused (refused : host.socketFault ≠ none) : host.closing = [] := by
  obtain ⟨errno, failed⟩ := Option.ne_none_iff_exists'.mp refused
  rw [closing, failed]

/-- An element of a concatenation stands in its first part or in its second. -/
theorem append_eq_append_cons {α : Type} {one two front behind : List α} {value : α}
    (split : one ++ two = front ++ value :: behind) :
    (∃ inner, one = front ++ value :: inner ∧ behind = inner ++ two) ∨
      ∃ inner, front = one ++ inner ∧ two = inner ++ value :: behind := by
  rcases List.append_eq_append_iff.mp split with ⟨inner, rfl, rest⟩ | ⟨outer, rfl, rest⟩
  · exact .inr ⟨inner, rfl, rest⟩
  · cases outer with
    | nil => exact .inr ⟨[], by simp, rest.symm⟩
    | cons first outer =>
      obtain ⟨rfl, rfl⟩ := List.cons.inj rest
      exact .inl ⟨outer, rfl, rfl⟩

/-- What is sent and received stands between the opening and the closing. -/
theorem exchanged_of_isExchange {front behind : List Call} {call : Call}
    (split : host.opening config ++ exchanged ++ host.closing = front ++ call :: behind)
    (exchange : call.isExchange) :
    ∃ before inner, exchanged = before ++ call :: inner ∧
      front = host.opening config ++ before ∧ behind = inner ++ host.closing := by
  rcases append_eq_append_cons split with ⟨inner, used, rfl⟩ | ⟨inner, -, closed⟩
  · rcases append_eq_append_cons used with ⟨_, early, -⟩ | ⟨before, rfl, rfl⟩
    · have member : call ∈ host.opening config :=
        early ▸ List.mem_append_right _ List.mem_cons_self
      cases exchange.symm.trans (mem_opening member).1
    · exact ⟨before, inner, rfl, rfl, rfl⟩
  · have member : call ∈ host.closing := closed ▸ List.mem_append_right _ List.mem_cons_self
    cases mem_closing member ▸ exchange

theorem LifeCycle.of_exchanged (only : ∀ call ∈ exchanged, call.isExchange)
    (unused : ¬ host.Opens → exchanged = []) :
    host.LifeCycle config (host.opening config ++ exchanged ++ host.closing) := by
  have unclosed : .close ∉ host.opening config ++ exchanged := by
    intro member
    rcases List.mem_append.mp member with early | late
    · exact (mem_opening early).2 rfl
    · cases only _ late
  refine ⟨⟨exchanged, rfl, only⟩, ?_, ?_, ?_, ?_⟩
  · intro front call behind split exchange
    obtain ⟨before, inner, rfl, rfl, rfl⟩ := exchanged_of_isExchange split exchange
    have some_used : before ++ call :: inner ≠ [] :=
      List.append_ne_nil_of_right_ne_nil before (List.cons_ne_nil call inner)
    have opens : host.Opens := Classical.byContradiction fun fails => some_used (unused fails)
    refine ⟨opens, opens.opening config ▸ List.prefix_append _ _, ?_⟩
    rw [opens.closing]
    exact List.mem_append_right _ List.mem_cons_self
  · intro refused
    have fails : ¬ host.Opens := fun opens => refused opens.socket
    rw [opening_of_refused refused, closing_of_refused refused, unused fails]
    rfl
  · intro opened
    rw [List.count_append, List.count_eq_zero.mpr unclosed, closing, opened]
    rfl
  · intro front behind split
    rcases append_eq_append_cons split with ⟨_, early, -⟩ | ⟨inner, -, closed⟩
    · exact absurd (early ▸ List.mem_append_right _ List.mem_cons_self) unclosed
    · have alone : (inner ++ Call.close :: behind).length ≤ 1 := by
        rw [← closed, closing]
        split <;> decide
      rw [List.length_append, List.length_cons] at alone
      exact List.eq_nil_of_length_eq_zero (by omega)

end Host

/-- What a program has done that opens a socket: its calls are those of a life
cycle, and it reports the call of the opening that has failed. -/
structure OpensOnce {ε α : Type} (host : Host) (config : Config) (lift : SocketError → ε)
    (ran : Except ε α × Host) : Prop where
  reported : ∀ step errno, host.FailsAt step errno → ran.1 = .error (lift (.failed step errno))
  logged : ∃ made, ran.2.calls.toList = host.calls.toList ++ made ∧ host.LifeCycle config made

/-- Whatever only sends and receives may be done with a socket. -/
theorem opensOnce_withOpen {ε α : Type} (host : Host) (config : Config) (lift : SocketError → ε)
    {use : Session ε α} (exchanges : ∀ host : Host, host.Exchanges (use host).2) :
    OpensOnce host config lift (Socket.withOpen config lift use host) := by
  rw [Socket.withOpen_apply]
  constructor
  · intro step errno fails
    rw [Host.firstFault?_of_failsAt fails]
  · cases fault : firstFault? host.openingFaults with
    | some error =>
      have closed : ¬ host.Opens := fun opens => by cases fault.symm.trans opens.firstFault?
      refine ⟨_, host.toList_calls_logAll _, ?_⟩
      have unused : host.LifeCycle config (host.opening config ++ [] ++ host.closing) :=
        .of_exchanged nofun fun _ => rfl
      rwa [List.append_nil] at unused
    | none =>
      obtain ⟨exchanged, made, only⟩ := exchanges (host.logAll (host.opening config))
      refine ⟨host.opening config ++ exchanged ++ host.closing, ?_, .of_exchanged only ?_⟩
      · dsimp only
        rw [Host.toList_calls_logAll, made, Host.toList_calls_logAll]
        simp only [List.append_assoc]
      · exact fun fails => absurd (Host.firstFault?_eq_none_iff.mp fault) fails

namespace Command

/-- The program gets as far as to open a socket of the configuration. -/
inductive Reaches (arguments : List String) (host : Host) : Config → Prop
  | update {request : TimeoutUpdate}
      (asked : ofArguments arguments = .ok (.updateTimeout request)) : Reaches arguments host {}
  | monitor {path : Option String} {config : Config}
      (asked : ofArguments arguments = .ok (.monitor path))
      (loaded : monitorConfig host.files path = .ok config) : Reaches arguments host config

theorem opensOnce_runArguments {arguments : List String} {host : Host} {config : Config}
    (reaches : Reaches arguments host config) :
    OpensOnce host config socketError (runArguments arguments host) := by
  cases reaches with
  | update asked =>
    rw [runArguments_of_asked asked]
    exact opensOnce_withOpen host {} socketError fun host => host.exchanges_update _
  | monitor asked loaded =>
    rw [runArguments_of_asked asked, run_monitor_of_loaded loaded]
    exact opensOnce_withOpen host config socketError (exchanges_monitorEvents config)

end Command

/-- A program opens its socket by four calls in a fixed order, of which the first
that fails is the last and is reported. It closes a socket that it has opened by
its very last call and by no other, and sends and receives only on a socket that
is completely set up and not yet closed. So it is for whatever a client does with
a socket, for an update, for any number of batches and for every run of the
program on the command line that gets as far as to open one. -/
theorem socket_closed_once (host : Host) :
    (∀ config : Config, config.openingCalls = [
      .socket 16 524291 12, .bind ⟨16, 0, config.mask⟩,
      .setReceiveBuffer (min config.receiveBuffer.toNat 2147483647),
      .setReceiveTimeout (min config.receiveTimeout.toNat 9223372036854775807) 0]) ∧
      (∀ config client, OpensOnce host config id (Client.session config client host)) ∧
      (∀ update, OpensOnce host {} .socket (updateAlone update host)) ∧
      (∀ config count, OpensOnce host config .socket (subscribedBatches config count host)) ∧
      ∀ arguments config, Command.Reaches arguments host config →
        OpensOnce host config Command.socketError (Command.runArguments arguments host) ∧
        (Command.main arguments host).2 = (Command.runArguments arguments host).2 := by
  refine ⟨fun config => rfl, ?_, ?_, ?_, ?_⟩
  · intro config client
    exact opensOnce_withOpen host config id fun host => client.exchanges_run _ host
  · intro update
    exact opensOnce_withOpen host {} .socket fun host => host.exchanges_update update
  · intro config count
    apply opensOnce_withOpen
    exact Host.exchanges_withBuffer config fun buffer host => host.exchanges_batches count buffer
  · intro arguments config reaches
    exact ⟨Command.opensOnce_runArguments reaches, rfl⟩

/-! A monitor whose interrupt handler cannot be installed. -/

def unhandledHost : Host where
  handlerFault := some "already installed"

theorem socket_closed_once_unhandled :
    Command.Reaches ["monitor"] unhandledHost .events ∧
      OpensOnce unhandledHost .events Command.socketError
        (Command.runArguments ["monitor"] unhandledHost) ∧
      (Command.runArguments ["monitor"] unhandledHost).1 =
        .error (.noHandler "already installed") := by
  have reaches : Command.Reaches ["monitor"] unhandledHost .events := .monitor rfl rfl
  obtain ⟨-, -, -, -, program⟩ := socket_closed_once unhandledHost
  exact ⟨reaches, (program _ _ reaches).1, rfl⟩

end Conntrack
