import Conntrack.Proofs.MonitorRun

/-!
# Interrupts of a monitor

An interrupt that comes during a receive is always the end of the monitor: what
was received is printed and nothing more is received. Whether the program also
ends without an error is decided by the receive that the interrupt came into,
because the monitor looks for a failure before it looks for the interrupt. A
timeout, an overrun and a usable datagram end it well; a receive that fails
because of the interrupt itself does not (`ends_cleanly_iff`).
-/

namespace Conntrack

/-- What a receive fails with when a signal comes while it waits. -/
def Errno.interrupted : Errno := 4

/-- Replies that a monitor goes on after. -/
inductive ReceiveReply.Ordinary (capacity : Nat) : ReceiveReply → Prop
  | timeout {errno : Errno} (expired : errno = Errno.wouldBlock ∨ errno = Errno.timedOut) :
      Ordinary capacity (.failed errno)
  | overrun : Ordinary capacity (.failed Errno.noBufferSpace)
  | usable {bytes : Wire.Bytes} {entries : List Datagram.Entry}
      (accepted : Datagram.entries (bytes.take capacity) = .ok entries) :
      Ordinary capacity (.datagram bytes)

theorem ReceiveReply.ordinary_iff_batch {capacity : Nat} {reply : ReceiveReply} :
    reply.Ordinary capacity ↔ ∃ batch, reply.batch capacity = .ok batch := by
  constructor
  · intro ordinary
    cases ordinary with
    | timeout expired =>
      rcases expired with rfl | rfl
      · exact ⟨[], rfl⟩
      · exact ⟨[], rfl⟩
    | overrun => exact ⟨[], rfl⟩
    | usable accepted => exact ⟨_, by rw [batch, accepted]⟩
  · rintro ⟨told, given⟩
    cases reply with
    | datagram bytes =>
      rw [batch] at given
      split at given
      · next entries accepted => exact .usable accepted
      · cases given
    | failed errno =>
      rw [batch] at given
      split at given
      · next harmless =>
        rcases harmless with expired | expired | full
        · exact .timeout (.inl expired)
        · exact .timeout (.inr expired)
        · exact full ▸ .overrun
      · cases given

/-- How a monitor ends whose last receive brings a reply. -/
def ReceiveReply.ending (capacity : Nat) (reply : ReceiveReply) : Except Command.Error Unit :=
  match reply.batch capacity with
  | .ok _ => .ok ()
  | .error failure => .error (.exchange failure)

theorem ReceiveReply.ending_eq_ok_iff {capacity : Nat} {reply : ReceiveReply} :
    reply.ending capacity = .ok () ↔ reply.Ordinary capacity := by
  rw [ordinary_iff_batch, ending]
  cases reply.batch capacity with
  | ok batch => exact ⟨fun _ => ⟨batch, rfl⟩, fun _ => rfl⟩
  | error failure => exact ⟨nofun, fun ⟨_, given⟩ => nomatch given⟩

theorem Host.StopsAt.eq_ending {host : Host} {capacity index : Nat}
    {result : Except Command.Error Unit} (stops : host.StopsAt capacity index result) :
    result = (host.arrivalAt index).reply.ending capacity := by
  rw [ReceiveReply.ending]
  rcases batch_of_stopsAt stops with ⟨failure, failed, rfl⟩ | ⟨batch, received, rfl, -⟩
  · rw [failed]
  · rw [received]

/-- An interrupt stops the monitor in its round, whatever the receive brings. -/
theorem Host.exists_stopsAt_of_interrupt {host : Host} (capacity : Nat) {index : Nat}
    (noted : (host.arrivalAt index).interrupt = true) :
    ∃ result, host.StopsAt capacity index result := by
  cases received : (host.arrivalAt index).reply.batch capacity with
  | ok batch => exact ⟨_, .interrupted received noted⟩
  | error failure => exact ⟨_, stopsAt_of_error received⟩

namespace Command

/-- The arguments ask for a monitor, whose configuration is there and which can start. -/
structure Starts (arguments : List String) (host : Host) (config : Config) : Prop where
  asked : ∃ path, ofArguments arguments = .ok (.monitor path) ∧
    monitorConfig host.files path = .ok config
  ready : host.Ready config

variable {arguments : List String} {host : Host} {config : Config} {last : Nat}

/-- The round of the first interrupt is the last, and its receive settles how the program ends. -/
theorem runArguments_of_interrupt (starts : Starts arguments host config)
    (goesOn : host.GoesOnTo (monitorCapacity config) last)
    (noted : (host.arrivalAt last).interrupt = true) :
    runArguments arguments host = ((host.arrivalAt last).reply.ending (monitorCapacity config),
      ((host.started config).through (monitorCapacity config) (last + 1)).logAll [.close]) := by
  obtain ⟨path, asked, loaded⟩ := starts.asked
  obtain ⟨_, stops⟩ := Host.exists_stopsAt_of_interrupt (monitorCapacity config) noted
  obtain ⟨other, result, goesOn', stops', ran⟩ := runMonitor_eq config starts.ready
  obtain rfl := Host.first_stop_unique goesOn stops goesOn' stops'
  rw [runArguments_of_asked asked, run_monitor_of_loaded loaded, ← stops'.eq_ending, ← ran]

/-- A receive that the interrupt itself made fail ends the program with an error. -/
theorem ofResult_ending_interrupted (capacity : Nat) :
    Exit.ofResult ((ReceiveReply.failed Errno.interrupted).ending capacity) =
      ⟨1, none, ["Socket error: recv() failed: Interrupted system call (os error 4)"]⟩ := by
  change Exit.ofResult (.error (.exchange (.socket (.failed .receive Errno.interrupted)))) = _
  decide +kernel

/-- Only a run that ends without an error has the exit code zero. -/
theorem code_ofResult_eq_zero_iff {result : Except Error Unit} :
    (Exit.ofResult result).code = 0 ↔ result = .ok () := by
  unfold Exit.ofResult
  split
  · exact ⟨fun _ => rfl, fun _ => rfl⟩
  · exact ⟨nofun, nofun⟩
  · exact ⟨nofun, nofun⟩
  · exact ⟨nofun, nofun⟩

/-- The monitor during whose receive the first interrupt comes receives nothing
more and has printed all that it was given, as far as standard output takes it.
It ends well exactly if that receive did not fail, or only by a timeout or an
overrun; if the interrupt itself made it fail, the program ends with an error. -/
theorem ends_cleanly_iff (starts : Starts arguments host config)
    (goesOn : host.GoesOnTo (monitorCapacity config) last)
    (noted : (host.arrivalAt last).interrupt = true) :
    (main arguments host).2.output =
        String.join (host.taken (host.told (monitorCapacity config) (last + 1))) ∧
      (main arguments host).2.calls.toList = host.calls.toList ++ (config.openingCalls ++
        List.replicate (last + 1) (.receive (monitorCapacity config)) ++ [.close]) ∧
      ((runArguments arguments host).1 = .ok () ↔
        (host.arrivalAt last).reply.Ordinary (monitorCapacity config)) ∧
      ((main arguments host).1.code = 0 ↔
        (host.arrivalAt last).reply.Ordinary (monitorCapacity config)) ∧
      ((host.arrivalAt last).reply = .failed Errno.interrupted →
        (main arguments host).1 = ⟨1, none,
          ["Socket error: recv() failed: Interrupted system call (os error 4)"]⟩) := by
  have ran := runArguments_of_interrupt starts goesOn noted
  refine ⟨?_, ?_, ?_, ?_, ?_⟩
  · rw [main, ran]
    rfl
  · rw [main, ran]
    simp [Host.through, Host.started]
  · rw [ran]
    exact ReceiveReply.ending_eq_ok_iff
  · rw [main, ran]
    exact code_ofResult_eq_zero_iff.trans ReceiveReply.ending_eq_ok_iff
  · intro signalled
    rw [main, ran, signalled]
    exact ofResult_ending_interrupted (monitorCapacity config)

/-! An empty round, a receive that the interrupt makes fail, and a datagram that
is never seen. -/

def signalledHost : Host where
  arrivals := [⟨.failed Errno.timedOut, false⟩, ⟨.failed Errno.interrupted, true⟩,
    ⟨.datagram Datagram.bareFollowed, false⟩]

theorem starts_signalled : Starts ["monitor"] signalledHost .events where
  asked := ⟨none, rfl, rfl⟩
  ready := ⟨⟨rfl, rfl, rfl, rfl⟩, by decide, rfl, rfl, rfl⟩

theorem goesOnTo_signalled : signalledHost.GoesOnTo (monitorCapacity .events) 1 :=
  Host.goesOnTo_one_of_empty rfl rfl

theorem ends_cleanly_iff_signalled :
    Starts ["monitor"] signalledHost .events ∧
      signalledHost.GoesOnTo (monitorCapacity .events) 1 ∧
      (signalledHost.arrivalAt 1).interrupt = true ∧
      (main ["monitor"] signalledHost).2.calls.toList = [
        .socket 16 524291 12, .bind ⟨16, 0, 7⟩, .setReceiveBuffer 32768, .setReceiveTimeout 1 0,
        .receive 32768, .receive 32768, .close] ∧
      (main ["monitor"] signalledHost).1 = ⟨1, none,
        ["Socket error: recv() failed: Interrupted system call (os error 4)"]⟩ := by
  obtain ⟨-, called, -, -, ended⟩ := ends_cleanly_iff starts_signalled goesOnTo_signalled rfl
  exact ⟨starts_signalled, goesOnTo_signalled, rfl, called.trans (by decide), ended rfl⟩

/-- It is not so that a monitor ends well whenever the receive that the interrupt
came into was ordinary or failed because of it. -/
theorem signalled_receive_ends_with_error :
    ¬ ∀ (arguments : List String) (host : Host) (config : Config) (last : Nat),
      Starts arguments host config → host.GoesOnTo (monitorCapacity config) last →
      (host.arrivalAt last).interrupt = true →
      ((host.arrivalAt last).reply = .failed Errno.interrupted ∨
        (host.arrivalAt last).reply.Ordinary (monitorCapacity config)) →
      (runArguments arguments host).1 = .ok () ∧
        (main arguments host).2.output =
          String.join (host.taken (host.told (monitorCapacity config) (last + 1))) ∧
        (main arguments host).2.calls.toList = host.calls.toList ++ (config.openingCalls ++
          List.replicate (last + 1) (.receive (monitorCapacity config)) ++ [.close]) ∧
        (main arguments host).1.code = 0 := by
  intro claim
  obtain ⟨ended, -⟩ := claim _ _ _ _ starts_signalled goesOnTo_signalled rfl (.inl rfl)
  rw [runArguments_of_interrupt starts_signalled goesOnTo_signalled rfl] at ended
  cases ended

end Command

end Conntrack
