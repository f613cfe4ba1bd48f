import Conntrack.Session.Socket

/-!
# Opening and closing a socket

Four calls open a socket and set it up, and the first of them that fails is the
last of them and is reported. A session on the socket runs only if none has
failed, between those four calls and the one that closes the socket
(`Socket.withOpen_apply`). On a host on which no such call fails this is so for
every session (`Socket.withOpen_of_opens`).
-/

namespace Conntrack

namespace Session

variable {ε ε' α β : Type}

theorem bind_apply (first : Session ε α) (next : α → Session ε β) (host : Host) :
    (first >>= next) host = match first host with
      | (.ok value, host) => next value host
      | (.error error, host) => (.error error, host) := by
  simp only [bind, ExceptT.bind, ExceptT.mk, StateT.bind]
  rcases first host with ⟨result, after⟩
  cases result <;> rfl

theorem adapt_apply (lift : ε → ε') (session : Session ε α) (host : Host) :
    ExceptT.adapt lift session host = ((session host).1.mapError lift, (session host).2) := rfl

end Session

/-- The calls that set an open socket up, in order. -/
def Config.setUpCalls (config : Config) : List Call := [
  .bind { Host.kernelAddress with groups := config.mask },
  .setReceiveBuffer (min config.receiveBuffer.toNat Socket.maxReceiveBuffer),
  .setReceiveTimeout (min config.receiveTimeout.toNat Socket.maxReceiveTimeout) 0]

/-- The calls that open a socket and set it up, in order. -/
def Config.openingCalls (config : Config) : List Call :=
  .socket Host.netlinkDomain Host.rawType Host.netfilterProtocol :: config.setUpCalls

/-- Calls up to the first that fails, which is the last to be made. -/
def upToFault : List (Call × Option Errno) → List Call
  | [] => []
  | (call, none) :: steps => call :: upToFault steps
  | (call, some _) :: _ => [call]

/-- The error of the first step that fails. -/
def firstFault? (steps : List (SocketStep × Option Errno)) : Option SocketError :=
  steps.findSome? fun (step, fault) => fault.map (.failed step)

namespace Host

/-- How the calls that set an open socket up will end, in order. -/
def setUpFaults (host : Host) : List (SocketStep × Option Errno) := [
  (.bind, host.bindFault), (.receiveBuffer, host.receiveBufferFault),
  (.receiveTimeout, host.receiveTimeoutFault)]

/-- How the calls that open a socket and set it up will end, in order. -/
def openingFaults (host : Host) : List (SocketStep × Option Errno) :=
  (.socket, host.socketFault) :: host.setUpFaults

/-- The calls that open a socket, cut behind the first that fails. -/
def opening (host : Host) (config : Config) : List Call :=
  upToFault (config.openingCalls.zip (host.openingFaults.map Prod.snd))

/-- The call behind all others: a socket that was opened is closed. -/
def closing (host : Host) : List Call :=
  match host.socketFault with
  | none => [.close]
  | some _ => []

/-- No call that opens a socket or sets it up fails. -/
structure Opens (host : Host) : Prop where
  socket : host.socketFault = none
  bind : host.bindFault = none
  receiveBuffer : host.receiveBufferFault = none
  receiveTimeout : host.receiveTimeoutFault = none

/-- The host after calls that leave nothing but their traces. -/
def logAll (host : Host) (calls : List Call) : Host :=
  { host with calls := host.calls ++ calls.toArray }

theorem log_eq_logAll (host : Host) (call : Call) : host.log call = host.logAll [call] := by
  simp [log, logAll]

theorem logAll_logAll (host : Host) (first second : List Call) :
    (host.logAll first).logAll second = host.logAll (first ++ second) := by
  simp [logAll, Array.append_assoc]

@[simp] theorem toList_calls_logAll (host : Host) (calls : List Call) :
    (host.logAll calls).calls.toList = host.calls.toList ++ calls := by
  simp [logAll]

theorem Opens.firstFault? {host : Host} (opens : host.Opens) :
    firstFault? host.openingFaults = none := by
  rw [openingFaults, setUpFaults, opens.socket, opens.bind, opens.receiveBuffer,
    opens.receiveTimeout]
  rfl

theorem firstFault?_eq_none_iff {host : Host} :
    firstFault? host.openingFaults = none ↔ host.Opens := by
  constructor
  · intro sound
    have none_of : ∀ step fault, (step, fault) ∈ host.openingFaults → fault = none := by
      intro step fault member
      exact Option.map_eq_none_iff.mp (List.findSome?_eq_none_iff.mp sound (step, fault) member)
    constructor
    · exact none_of .socket _ (by simp [openingFaults])
    · exact none_of .bind _ (by simp [openingFaults, setUpFaults])
    · exact none_of .receiveBuffer _ (by simp [openingFaults, setUpFaults])
    · exact none_of .receiveTimeout _ (by simp [openingFaults, setUpFaults])
  · exact Opens.firstFault?

theorem Opens.opening {host : Host} (opens : host.Opens) (config : Config) :
    host.opening config = config.openingCalls := by
  rw [Host.opening, openingFaults, setUpFaults, opens.socket, opens.bind, opens.receiveBuffer,
    opens.receiveTimeout]
  rfl

theorem Opens.closing {host : Host} (opens : host.Opens) : host.closing = [.close] := by
  rw [Host.closing, opens.socket]

end Host

namespace Socket

/-- A call of the set-up that fails is the last one. -/
theorem perform_bind {α : Type} (step : SocketStep) (call : Call) (fault : Host → Option Errno)
    (next : Unit → Session SocketError α) (host : Host) :
    (ExceptT.adapt (.failed step) (Host.perform call fault) >>= next) host =
      match fault host with
      | some errno => (.error (.failed step errno), host.logAll [call])
      | none => next () (host.logAll [call]) := by
  rw [Session.bind_apply, Session.adapt_apply, Host.perform, ← Host.log_eq_logAll]
  cases fault host <;> rfl

theorem setUp_apply (config : Config) (host : Host) :
    setUp config host = (match firstFault? host.setUpFaults with
      | some error => .error error
      | none => .ok (),
      host.logAll (upToFault (config.setUpCalls.zip (host.setUpFaults.map Prod.snd)))) := by
  let bind : Call := .bind { Host.kernelAddress with groups := config.mask }
  let sized : Call := .setReceiveBuffer (min config.receiveBuffer.toNat maxReceiveBuffer)
  -- the calls leave only their traces, so they do not change how later ones end
  have bufferFault : (host.logAll [bind]).receiveBufferFault = host.receiveBufferFault := rfl
  have timeoutFault : ((host.logAll [bind]).logAll [sized]).receiveTimeoutFault =
      host.receiveTimeoutFault := rfl
  rw [setUp, Host.bind, perform_bind, Host.setUpFaults]
  cases host.bindFault with
  | some errno => rfl
  | none =>
    dsimp only
    rw [Host.setReceiveBuffer, perform_bind, bufferFault]
    cases host.receiveBufferFault with
    | some errno =>
      rw [Host.logAll_logAll]
      rfl
    | none =>
      dsimp only
      rw [Host.setReceiveTimeout, Session.adapt_apply, Host.perform, timeoutFault,
        Host.log_eq_logAll, Host.logAll_logAll, Host.logAll_logAll]
      cases host.receiveTimeoutFault <;> rfl

/-- A session on a socket runs only if the opening is complete, between it and
the close. -/
theorem withOpen_apply {ε α : Type} (config : Config) (lift : SocketError → ε)
    (use : Session ε α) (host : Host) :
    withOpen config lift use host = match firstFault? host.openingFaults with
      | some error => (.error (lift error), host.logAll (host.opening config ++ host.closing))
      | none => ((use (host.logAll (host.opening config))).1,
          (use (host.logAll (host.opening config))).2.logAll host.closing) := by
  let socket : Call := .socket Host.netlinkDomain Host.rawType Host.netfilterProtocol
  have faults : (host.logAll [socket]).setUpFaults = host.setUpFaults := rfl
  simp only [withOpen, Host.socket, Host.perform, Host.log_eq_logAll, Host.opening, Host.closing,
    Host.openingFaults]
  cases host.socketFault with
  | some errno => rfl
  | none =>
    dsimp only
    rw [Session.bind_apply, Session.adapt_apply, setUp_apply, faults, Host.logAll_logAll]
    change _ = match firstFault? host.setUpFaults with | some error => _ | none => _
    cases firstFault? host.setUpFaults with
    | some error => exact congrArg (Prod.mk (Except.error (lift error))) (Host.logAll_logAll _ _ _)
    | none => rfl

/-- A session on a socket that can be set up runs behind the calls of the set-up
and is followed by one call, which closes the socket. -/
theorem withOpen_of_opens {ε α : Type} (config : Config) (lift : SocketError → ε)
    (use : Session ε α) {host : Host} (opens : host.Opens) :
    withOpen config lift use host =
      ((use (host.logAll config.openingCalls)).1,
        (use (host.logAll config.openingCalls)).2.logAll [.close]) := by
  rw [withOpen_apply, opens.firstFault?, opens.opening, opens.closing]

end Socket

end Conntrack
