import Conntrack.Proofs.BatchHistory
import Conntrack.Proofs.SilentMessages
import Conntrack.Proofs.TimeoutRequest

/-!
# How an update of a timeout ends

An update sends one request and receives one reply, and the first of its steps
that goes wrong decides how it ends (`Host.UpdateEnds`). It has succeeded only if
the whole request was taken, a datagram came back, the walk accepts it, and the
first outcome in it has the code zero (`update_ends`). Messages in the reply that
hold no outcome are never the reason.
-/

namespace Conntrack

open Wire Connection

/-- The first outcome among the entries has the code; an entry holds a code negated. -/
def FirstCode (entries : List Datagram.Entry) (code : Int32) : Prop :=
  ∃ front behind, entries = front ++ .outcome (-code) :: behind ∧ ∀ other, .outcome other ∉ front

theorem findSome?_outcome_eq_none_iff {entries : List Datagram.Entry} :
    entries.findSome? outcome? = none ↔ ∀ code, .outcome code ∉ entries := by
  rw [List.findSome?_eq_none_iff]
  constructor
  · intro silent code member
    cases silent _ member
  · intro silent entry member
    cases entry with
    | tracked event record => rfl
    | done => rfl
    | outcome code => exact absurd member (silent code)

theorem findSome?_outcome_eq_some_iff {entries : List Datagram.Entry} {code : Int32} :
    entries.findSome? outcome? = some (-code) ↔ FirstCode entries code := by
  rw [List.findSome?_eq_some_iff]
  constructor
  · rintro ⟨front, entry, behind, split, found, silent⟩
    have clean := findSome?_outcome_eq_none_iff.mp (List.findSome?_eq_none_iff.mpr silent)
    cases entry with
    | tracked event record => cases found
    | done => cases found
    | outcome negated =>
      obtain rfl := Option.some.inj found
      exact ⟨front, behind, split, clean⟩
  · rintro ⟨front, behind, split, clean⟩
    exact ⟨front, _, behind, split, rfl,
      List.findSome?_eq_none_iff.mp (findSome?_outcome_eq_none_iff.mpr clean)⟩

/-! ## Sending -/

/-- Why a send of so many bytes has failed, if it has. -/
def SendReply.fault? (size : Nat) : SendReply → Option SocketError
  | .complete => none
  | .partially count => if count = size then none else some (.shortSend count size)
  | .failed errno => some (.failed .send errno)

namespace Host

/-- How the next call to send ends. -/
def sendReply (host : Host) : SendReply := host.sends.headD .complete

/-- The next call to send takes all of so many bytes. -/
def SendsAll (host : Host) (size : Nat) : Prop :=
  host.sendReply = .complete ∨ host.sendReply = .partially size

instance (host : Host) (size : Nat) : Decidable (host.SendsAll size) :=
  inferInstanceAs (Decidable (_ ∨ _))

/-- The host after one send. -/
def sent (host : Host) (bytes : Bytes) : Host :=
  { host.logAll [.sendTo bytes kernelAddress] with sends := host.sends.tail }

theorem fault?_eq_none_iff {host : Host} {size : Nat} :
    host.sendReply.fault? size = none ↔ host.SendsAll size := by
  rw [SendsAll]
  cases host.sendReply with
  | complete => simp [SendReply.fault?]
  | partially count => simp [SendReply.fault?]
  | failed errno => simp [SendReply.fault?]

end Host

namespace Host

theorem send_eq (bytes : Bytes) (host : Host) :
    send bytes host = (match host.sendReply with
      | .complete => .ok bytes.length
      | .partially count => .ok count
      | .failed errno => .error errno, host.sent bytes) := by
  simp only [send, sendReply, sent, log_eq_logAll]
  cases script : host.sends with
  | nil => simp [logAll, script]
  | cons reply sends => cases reply <;> rfl

end Host

theorem Socket.send_apply (bytes : Bytes) (host : Host) :
    Socket.send bytes host = match host.sendReply.fault? bytes.length with
      | some error => (.error error, host.sent bytes)
      | none => (.ok (), host.sent bytes) := by
  rw [Socket.send, Session.bind_apply, Session.adapt_apply, Host.send_eq]
  cases host.sendReply with
  | complete =>
    change (if bytes.length = bytes.length then pure () else _ : Session SocketError Unit) _ = _
    rw [if_pos rfl]
    rfl
  | partially count =>
    change (if count = bytes.length then pure () else _ : Session SocketError Unit) _ = _
    rw [SendReply.fault?]
    by_cases whole : count = bytes.length
    · rw [if_pos whole, if_pos whole]
      rfl
    · rw [if_neg whole, if_neg whole]
      rfl
  | failed errno => rfl

/-! ## The exchange -/

/-- What a reply to the request says about it. -/
def ReceiveReply.answer (reply : ReceiveReply) : Except Failure Unit :=
  match reply.delivered replyCapacity with
  | .error errno => .error (.socket (Socket.receiveError errno))
  | .ok bytes => acknowledged bytes

theorem Socket.receive_apply (capacity : Nat) (host : Host) :
    Socket.receive capacity host =
      (((host.arrivalAt 0).reply.delivered capacity).mapError receiveError,
        host.received capacity) := by
  rw [Socket.receive, Receiving.within, Socket.receiveBytes_apply]
  rfl

/-- An update in one piece: the request, and the reply if the request was taken. -/
theorem updateTimeout_apply (update : TimeoutUpdate) (host : Host) :
    updateTimeout update host = match host.sendReply.fault? 80 with
      | some error => (.error (.socket error), host.sent update.encode)
      | none => ((host.arrivalAt 0).reply.answer,
          (host.sent update.encode).received replyCapacity) := by
  have same : (host.sent update.encode).arrivalAt 0 = host.arrivalAt 0 := rfl
  rw [updateTimeout, Session.bind_apply, Session.adapt_apply, Socket.send_apply,
    update.length_encode]
  cases host.sendReply.fault? 80 with
  | some error => rfl
  | none =>
    change (ExceptT.adapt Failure.socket (Socket.receive replyCapacity) >>= _ :
      Session Failure Unit) _ = _
    rw [Session.bind_apply, Session.adapt_apply, Socket.receive_apply, same, ReceiveReply.answer]
    cases (host.arrivalAt 0).reply.delivered replyCapacity <;> rfl

/-! ## The ten ways in which it ends -/

namespace Host

/-- The whole request is taken, and a datagram with these entries comes back. -/
def Hears (host : Host) (entries : List Datagram.Entry) : Prop :=
  host.SendsAll 80 ∧ ∃ bytes, (host.arrivalAt 0).reply = .datagram bytes ∧
    Datagram.entries (bytes.take 4096) = .ok entries

/-- How an update ends, by the first of its steps that decides it. -/
inductive UpdateEnds (host : Host) : Except Failure Unit → Prop
  | unsent {errno : Errno} (replied : host.sendReply = .failed errno) :
      UpdateEnds host (.error (.socket (.failed .send errno)))
  | sentShort {count : Nat} (replied : host.sendReply = .partially count) (short : count ≠ 80) :
      UpdateEnds host (.error (.socket (.shortSend count 80)))
  | expired {errno : Errno} (sent : host.SendsAll 80)
      (replied : (host.arrivalAt 0).reply = .failed errno)
      (timeout : errno = Errno.wouldBlock ∨ errno = Errno.timedOut) :
      UpdateEnds host (.error (.socket .timedOut))
  | unreceived {errno : Errno} (sent : host.SendsAll 80)
      (replied : (host.arrivalAt 0).reply = .failed errno)
      (serious : errno ≠ Errno.wouldBlock ∧ errno ≠ Errno.timedOut) :
      UpdateEnds host (.error (.socket (.failed .receive errno)))
  | rejected {bytes : Bytes} {fault : Datagram.Fault} (sent : host.SendsAll 80)
      (replied : (host.arrivalAt 0).reply = .datagram bytes)
      (refused : Datagram.entries (bytes.take 4096) = .error fault) :
      UpdateEnds host (.error (.datagram fault))
  | unanswered {entries : List Datagram.Entry} (hears : host.Hears entries)
      (silent : ∀ code, .outcome code ∉ entries) : UpdateEnds host (.error .noAcknowledgement)
  | acknowledged {entries : List Datagram.Entry} (hears : host.Hears entries)
      (first : FirstCode entries 0) : UpdateEnds host (.ok ())
  | notFound {entries : List Datagram.Entry} (hears : host.Hears entries)
      (first : FirstCode entries (-2)) : UpdateEnds host (.error .notFound)
  | denied {entries : List Datagram.Entry} {code : Int32} (hears : host.Hears entries)
      (first : FirstCode entries code) (denial : code = -1 ∨ code = -13) :
      UpdateEnds host (.error .permissionDenied)
  | refused {entries : List Datagram.Entry} {code : Int32} (hears : host.Hears entries)
      (first : FirstCode entries code)
      (other : code ≠ 0 ∧ code ≠ -2 ∧ code ≠ -1 ∧ code ≠ -13) :
      UpdateEnds host (.error (.kernel (-code)))

/-- The result of an update, computed. -/
def updateResult (host : Host) : Except Failure Unit :=
  match host.sendReply.fault? 80 with
  | some error => .error (.socket error)
  | none => (host.arrivalAt 0).reply.answer

variable {host : Host} {entries : List Datagram.Entry}

theorem updateResult_of_sends (sent : host.SendsAll 80) :
    host.updateResult = (host.arrivalAt 0).reply.answer := by
  rw [updateResult, fault?_eq_none_iff.mpr sent]

theorem updateResult_of_hears (hears : host.Hears entries) :
    host.updateResult = verdict (entries.findSome? outcome?) := by
  obtain ⟨sent, bytes, replied, accepted⟩ := hears
  rw [updateResult_of_sends sent, replied]
  exact acknowledged_of_entries accepted

theorem updateResult_of_first {code : Int32} (hears : host.Hears entries)
    (first : FirstCode entries code) :
    host.updateResult = if code = 0 then .ok () else .error (.ofCode (-code)) := by
  rw [updateResult_of_hears hears, findSome?_outcome_eq_some_iff.mpr first, verdict]
  simp only [Datagram.negated_eq_zero_iff]

end Host

theorem Failure.ofCode_neg {code : Int32} (other : code ≠ -2 ∧ code ≠ -1 ∧ code ≠ -13) :
    Failure.ofCode (-code) = .kernel (-code) := by
  have differs : ∀ number : Int32, code ≠ -number → -code ≠ number := by
    rintro number different rfl
    exact different (Int32.neg_neg).symm
  have missing : -code ≠ Int32.ofNat Errno.noEntry := differs _ other.1
  have denied : ¬ (-code = Int32.ofNat Errno.notPermitted ∨
      -code = Int32.ofNat Errno.accessDenied) := by
    rintro (same | same)
    · exact differs _ other.2.1 same
    · exact differs _ other.2.2 same
  rw [Failure.ofCode, if_neg missing, if_neg denied]

theorem Host.UpdateEnds.eq_updateResult {host : Host} {result : Except Failure Unit}
    (ends : host.UpdateEnds result) : host.updateResult = result := by
  cases ends with
  | unsent replied => simp only [Host.updateResult, replied, SendReply.fault?]
  | sentShort replied short =>
    simp only [Host.updateResult, replied, SendReply.fault?, if_neg short]
  | expired sent replied timeout =>
    rw [Host.updateResult_of_sends sent, replied, ← Socket.receiveError_of_timeout timeout]
    rfl
  | unreceived sent replied serious =>
    rw [Host.updateResult_of_sends sent, replied,
      ← Socket.receiveError_of_serious (not_or.mpr serious)]
    rfl
  | rejected sent replied refused =>
    rw [Host.updateResult_of_sends sent, replied]
    exact acknowledged_of_refused refused
  | unanswered hears silent =>
    rw [Host.updateResult_of_hears hears, findSome?_outcome_eq_none_iff.mpr silent]
    rfl
  | acknowledged hears first => exact Host.updateResult_of_first hears first
  | notFound hears first => exact Host.updateResult_of_first hears first
  | denied hears first denial =>
    rw [Host.updateResult_of_first hears first]
    rcases denial with rfl | rfl <;> rfl
  | refused hears first other =>
    rw [Host.updateResult_of_first hears first, if_neg other.1, Failure.ofCode_neg other.2]

/-- A reply whose first outcome has a code ends the update in one of four ways. -/
theorem Host.exists_updateEnds_of_first {host : Host} {entries : List Datagram.Entry} {code : Int32}
    (hears : host.Hears entries) (first : FirstCode entries code) :
    ∃ result, host.UpdateEnds result := by
  by_cases zero : code = 0
  · exact ⟨_, .acknowledged hears (zero ▸ first)⟩
  · by_cases missing : code = -2
    · exact ⟨_, .notFound hears (missing ▸ first)⟩
    · by_cases denial : code = -1 ∨ code = -13
      · exact ⟨_, .denied hears first denial⟩
      · rw [not_or] at denial
        exact ⟨_, .refused hears first ⟨zero, missing, denial⟩⟩

/-- An update always ends in one of the ways. -/
theorem Host.exists_updateEnds (host : Host) : ∃ result, host.UpdateEnds result := by
  by_cases sent : host.SendsAll 80
  · cases replied : (host.arrivalAt 0).reply with
    | failed errno =>
      by_cases timeout : errno = Errno.wouldBlock ∨ errno = Errno.timedOut
      · exact ⟨_, .expired sent replied timeout⟩
      · exact ⟨_, .unreceived sent replied (not_or.mp timeout)⟩
    | datagram bytes =>
      cases walked : Datagram.entries (bytes.take 4096) with
      | error fault => exact ⟨_, .rejected sent replied walked⟩
      | ok entries =>
        have hears : host.Hears entries := ⟨sent, bytes, replied, walked⟩
        cases found : entries.findSome? outcome? with
        | none => exact ⟨_, .unanswered hears (findSome?_outcome_eq_none_iff.mp found)⟩
        | some negated =>
          rw [← Int32.neg_neg (a := negated)] at found
          exact exists_updateEnds_of_first hears (findSome?_outcome_eq_some_iff.mp found)
  · rw [SendsAll, not_or] at sent
    cases replied : host.sendReply with
    | complete => exact absurd replied sent.1
    | partially count =>
      have short : count ≠ 80 := fun whole => sent.2 (whole ▸ replied)
      exact ⟨_, .sentShort replied short⟩
    | failed errno => exact ⟨_, .unsent replied⟩

theorem Host.updateResult_eq_iff {host : Host} {result : Except Failure Unit} :
    host.updateResult = result ↔ host.UpdateEnds result := by
  constructor
  · intro ended
    obtain ⟨other, ends⟩ := host.exists_updateEnds
    rwa [ends.eq_updateResult.symm.trans ended] at ends
  · exact UpdateEnds.eq_updateResult

open Datagram

/-- An update on a default socket that is opened for it. -/
def updateAlone (update : TimeoutUpdate) : Session Failure Unit :=
  Socket.withOpen {} .socket (updateTimeout update)

/-- The calls of an update, those for its socket included. -/
def Host.updateCalls (host : Host) (update : TimeoutUpdate) : List Call :=
  Config.openingCalls {} ++ .sendTo update.encode kernelAddress ::
    (if host.SendsAll 80 then [.receive 4096] else []) ++ [.close]

theorem updateAlone_apply (update : TimeoutUpdate) {host : Host} (opens : host.Opens) :
    (updateAlone update host).1 = host.updateResult ∧
      (updateAlone update host).2.calls.toList = host.calls.toList ++ host.updateCalls update := by
  have ran := updateTimeout_apply update (host.logAll (Config.openingCalls {}))
  have replies : (host.logAll (Config.openingCalls {})).sendReply = host.sendReply := rfl
  rw [replies] at ran
  rw [updateAlone, Socket.withOpen_of_opens {} _ _ opens, ran, Host.updateResult, Host.updateCalls]
  cases broken : host.sendReply.fault? 80 with
  | some error =>
    have unsent : ¬ host.SendsAll 80 := by
      intro sent
      cases broken.symm.trans (Host.fault?_eq_none_iff.mpr sent)
    refine ⟨rfl, ?_⟩
    simp [unsent, Host.sent]
  | none =>
    have sent := Host.fault?_eq_none_iff.mp broken
    refine ⟨rfl, ?_⟩
    simp [sent, Host.sent, Host.received, replyCapacity]

/-- The host with one datagram as the reply to the request. -/
def Host.answering (host : Host) (bytes : Bytes) : Host :=
  { host with arrivals := [⟨.datagram bytes, false⟩] }

theorem Host.Opens.answering {host : Host} (opens : host.Opens) (bytes : Bytes) :
    (host.answering bytes).Opens :=
  ⟨opens.socket, opens.bind, opens.receiveBuffer, opens.receiveTimeout⟩

/-- A datagram counts only if the whole request was taken. -/
theorem updateAlone_answering (update : TimeoutUpdate) {host : Host} (opens : host.Opens)
    (bytes : Bytes) : (updateAlone update (host.answering bytes)).1 =
      match host.sendReply.fault? 80 with
      | some error => .error (.socket error)
      | none => acknowledged (bytes.take 4096) :=
  (updateAlone_apply update (opens.answering bytes)).1

/-- An update sends its request once and receives one reply, if the request was
taken whole. It ends in the way that the first decisive step settles, and well
exactly if the first outcome in an accepted reply has the code zero. Taking away
all messages about connections and all that are skipped leaves the result as it
is but for the place that a bad length further behind is reported at; the last
of them may even lack its padding. -/
theorem update_ends (update : TimeoutUpdate) {host : Host} (opens : host.Opens) :
    (updateAlone update host).2.calls.toList = host.calls.toList ++ host.updateCalls update ∧
      (∀ result, (updateAlone update host).1 = result ↔ host.UpdateEnds result) ∧
      ((updateAlone update host).1 = .ok () ↔ ∃ said, host.Hears said ∧ FirstCode said 0) ∧
      (∀ (bytes tail : Bytes) (frames : List Frame), bytes.take 4096 = joined frames ++ tail →
        (updateAlone update (host.answering bytes)).1 =
          (updateAlone update (host.answering
            (joined (frames.filter fun frame => !frame.silent) ++ tail))).1.mapError
              (Failure.movedBy (joined (frames.filter Frame.silent)).length)) ∧
      ∀ (bytes : Bytes) (frames : List Frame) (last : Frame) (count : Nat), last.silent →
        last.header.length.toNat ≤ count →
        bytes.take 4096 = joined frames ++ last.bytes.take count →
        (updateAlone update (host.answering bytes)).1 =
          (updateAlone update (host.answering (joined frames))).1 := by
  obtain ⟨ended, called⟩ := updateAlone_apply update opens
  refine ⟨called, ?_, ?_, ?_, ?_⟩
  · intro result
    rw [ended]
    exact Host.updateResult_eq_iff
  · rw [ended, Host.updateResult_eq_iff]
    constructor
    · intro ends
      cases ends with
      | acknowledged hears first => exact ⟨_, hears, first⟩
    · rintro ⟨said, hears, first⟩
      exact .acknowledged hears first
  · intro bytes tail frames spelled
    have fits : (joined (frames.filter fun frame => !frame.silent) ++ tail).take 4096 =
        joined (frames.filter fun frame => !frame.silent) ++ tail := by
      apply List.take_of_length_le
      have most := congrArg List.length spelled
      have least := length_joined_filter frames
      rw [List.length_take, List.length_append] at most
      rw [List.length_append]
      omega
    rw [updateAlone_answering update opens, updateAlone_answering update opens, spelled, fits,
      acknowledged_loud]
    cases host.sendReply.fault? 80 <;> rfl
  · intro bytes frames last count silent covers spelled
    have fits : (joined frames).take 4096 = joined frames := by
      apply List.take_of_length_le
      have most := congrArg List.length spelled
      rw [List.length_take, List.length_append] at most
      omega
    rw [updateAlone_answering update opens, updateAlone_answering update opens, spelled, fits,
      acknowledged_last frames silent covers]

/-! A reply that acknowledges the request among other messages and then refuses
something else, and the same without its silent messages. -/

/-- A message that is sent, as a frame of a datagram. -/
def Datagram.Sent.frame (sent : Sent) : Frame where
  header := sent.header
  bytes := sent.encode
  front := List.append_nil sent.encode ▸ sent.take_encode_append []
  covers := sent.toNat_length ▸ Nat.le_add_right _ _
  whole := sent.length_encode

def plainUpdate : TimeoutUpdate := ⟨tcpProtocol, ⟨10, 0, 0, 1⟩, 1024, ⟨10, 0, 0, 2⟩, 80, 120⟩

def acknowledgingHost : Host :=
  Host.answering {} (encodeAll [.deleted, .answer 0, .idle, .answer (-2)])

theorem hears_acknowledging :
    acknowledgingHost.Hears (heard [.deleted, .answer 0, .idle, .answer (-2)]) := by
  refine ⟨.inl rfl, _, rfl, ?_⟩
  rw [List.take_of_length_le (by decide)]
  exact entries_of_sent _

theorem update_ends_acknowledged :
    acknowledgingHost.Opens ∧
      (updateAlone plainUpdate acknowledgingHost).1 = .ok () ∧
      (updateAlone plainUpdate acknowledgingHost).2.calls.toList = [
        .socket 16 524291 12, .bind ⟨16, 0, 0⟩, .setReceiveBuffer 32768, .setReceiveTimeout 1 0,
        .sendTo plainUpdate.encode ⟨16, 0, 0⟩, .receive 4096, .close] ∧
      (updateAlone plainUpdate (acknowledgingHost.answering
        (joined [(Sent.answer 0).frame, (Sent.answer (-2)).frame] ++ []))).1.mapError
          (Failure.movedBy (joined [Sent.deleted.frame, Sent.idle.frame]).length) = .ok () := by
  have opens : acknowledgingHost.Opens := ⟨rfl, rfl, rfl, rfl⟩
  obtain ⟨called, -, succeeded, silenced, -⟩ := update_ends plainUpdate opens
  have first : FirstCode (heard [.deleted, .answer 0, .idle, .answer (-2)]) 0 :=
    findSome?_outcome_eq_some_iff.mp rfl
  have updated := succeeded.mpr ⟨_, hears_acknowledging, first⟩
  refine ⟨opens, updated, called, ?_⟩
  have fewer := silenced (encodeAll [.deleted, .answer 0, .idle, .answer (-2)]) []
    [Sent.deleted.frame, (Sent.answer 0).frame, Sent.idle.frame, (Sent.answer (-2)).frame] rfl
  exact fewer.symm.trans updated

end Conntrack
