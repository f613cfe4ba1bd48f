import Conntrack.Command.Run
import Conntrack.Proofs.Interrupts
import Conntrack.Proofs.UpdateOutcome

/-!
# From the command line to the wire

The six values of an update, written as operands, come out of the arguments as
they went in (`ofArguments_arguments`), go into one request, and are told again
by that request to whoever reads it (`ofRequest?_encode`). The program ends well
exactly if the update does (`arguments_reach_the_wire`).
-/

namespace Conntrack

open Wire Message Connection Text

/-! ## Operands are read back -/

namespace Connection.TimeoutUpdate

/-- The arguments that ask for the update. -/
def arguments (update : TimeoutUpdate) : List String := [
  "update-timeout",
  String.ofList (Decimal.write update.protocol.toNat),
  String.ofList update.source.write,
  String.ofList (Decimal.write update.sourcePort.toNat),
  String.ofList update.destination.write,
  String.ofList (Decimal.write update.destinationPort.toNat),
  String.ofList (Decimal.write update.timeout.toNat)]

end Connection.TimeoutUpdate

namespace Command

theorem byte?_write (value : UInt8) : byte? (Decimal.write value.toNat) = some value := by
  rw [byte?, Decimal.readSignedBelow?_write value.toNat_lt, Option.map_some, UInt8.ofNat_toNat]

theorem word16?_write (value : UInt16) : word16? (Decimal.write value.toNat) = some value := by
  rw [word16?, Decimal.readSignedBelow?_write value.toNat_lt, Option.map_some, UInt16.ofNat_toNat]

theorem word32?_write (value : UInt32) : word32? (Decimal.write value.toNat) = some value := by
  rw [word32?, Decimal.readSignedBelow?_write value.toNat_lt, Option.map_some, UInt32.ofNat_toNat]

theorem operand_ofList {α : Type} {read? : List Char → Option α} {text : List Char} {value : α}
    (name : Operand) (reads : read? text = some value) :
    operand name read? (String.ofList text) = .ok value := by
  rw [operand, String.toList_ofList, reads]

theorem ofArguments_arguments (update : TimeoutUpdate) :
    ofArguments update.arguments = .ok (.updateTimeout update) := by
  have read : timeoutUpdate (String.ofList (Decimal.write update.protocol.toNat))
      (String.ofList update.source.write) (String.ofList (Decimal.write update.sourcePort.toNat))
      (String.ofList update.destination.write)
      (String.ofList (Decimal.write update.destinationPort.toNat))
      (String.ofList (Decimal.write update.timeout.toNat)) = .ok update := by
    rw [timeoutUpdate, operand_ofList _ (byte?_write _), operand_ofList _ (Address.read?_write _),
      operand_ofList _ (word16?_write _), operand_ofList _ (Address.read?_write _),
      operand_ofList _ (word16?_write _), operand_ofList _ (word32?_write _)]
    rfl
  rw [TimeoutUpdate.arguments, ofArguments, read]
  rfl

end Command

/-! ## The request is read back -/

theorem Wire.Attr.word16Value?_networkWord16 (type value : UInt16) :
    Attr.word16Value? ⟨type, networkWord16 value⟩ = some value := by
  have fits : value.toNat < capacity 2 := value.toNat_lt
  have width : (networkWord16 value).length = 2 := length_bigEndian 2 value.toNat
  rw [Attr.word16Value?, if_pos width, networkWord16, ofBigEndian_bigEndian 2 value.toNat fits,
    UInt16.ofNat_toNat]

namespace Connection.TimeoutUpdate

/-- The update that a request asks for, as its receiver reads it: the walk finds
the addresses and the timeout, a scan finds the protocol and the ports. -/
def ofRequest? (request : Bytes) : Option TimeoutUpdate :=
  match Datagram.entries request with
  | .ok [.tracked .new record] => do
    let ends ← record.forward
    let transport ← transportAttrs request
    let protocol ← transport.find? (·.type = Field.protocol.wireType)
    let sourcePort ← transport.find? (·.type = Field.sourcePort.wireType)
    let destinationPort ← transport.find? (·.type = Field.destinationPort.wireType)
    some {
      protocol := ← protocol.byteValue?
      source := ends.source
      sourcePort := ← sourcePort.word16Value?
      destination := ends.destination
      destinationPort := ← destinationPort.word16Value?
      timeout := record.timeout }
  | _ => none

theorem ofRequest?_encode (update : TimeoutUpdate) : ofRequest? update.encode = some update := by
  rw [ofRequest?, entries_encode, transportAttrs_encode]
  change (do
    let protocol ← Attr.byteValue? ⟨Field.protocol.wireType, [update.protocol]⟩
    let sourcePort ← Attr.word16Value? ⟨Field.sourcePort.wireType, networkWord16 update.sourcePort⟩
    let destinationPort ←
      Attr.word16Value? ⟨Field.destinationPort.wireType, networkWord16 update.destinationPort⟩
    some (TimeoutUpdate.mk protocol update.source sourcePort update.destination destinationPort
      update.timeout)) = some update
  rw [Attr.word16Value?_networkWord16, Attr.word16Value?_networkWord16]
  rfl

end Connection.TimeoutUpdate

/-! ## The whole program -/

/-- The bytes that a call sends. -/
def Call.sent? : Call → Option Bytes
  | .sendTo bytes _ => some bytes
  | _ => none

namespace Command

theorem withOpen_adapt {ε ε' α : Type} (config : Config) (lift : SocketError → ε) (wrap : ε → ε')
    (use : Session ε α) (host : Host) :
    Socket.withOpen config (fun error => wrap (lift error)) (ExceptT.adapt wrap use) host =
      ExceptT.adapt wrap (Socket.withOpen config lift use) host := by
  rw [Session.adapt_apply, Socket.withOpen_apply, Socket.withOpen_apply]
  cases firstFault? host.openingFaults <;> rfl

theorem mapError_eq_ok_iff {ε ε' : Type} {result : Except ε Unit} (wrap : ε → ε') :
    result.mapError wrap = .ok () ↔ result = .ok () := by
  cases result with
  | ok => exact ⟨fun _ => rfl, fun _ => rfl⟩
  | error error =>
    constructor
    · intro ended
      cases ended
    · intro ended
      cases ended

theorem runArguments_arguments (update : TimeoutUpdate) (host : Host) :
    runArguments update.arguments host = ((updateAlone update host).1.mapError .exchange,
      (updateAlone update host).2) := by
  rw [runArguments_of_asked (ofArguments_arguments update)]
  exact withOpen_adapt {} .socket Error.exchange (Conntrack.updateTimeout update) host

theorem sent_updateCalls (host : Host) (update : TimeoutUpdate) :
    (host.updateCalls update).filterMap Call.sent? = [update.encode] := by
  rw [Host.updateCalls]
  split <;> rfl

/-- An update ends well exactly if its socket is set up and the exchange on it ends well. -/
theorem updateAlone_eq_ok_iff (update : TimeoutUpdate) (host : Host) :
    (updateAlone update host).1 = .ok () ↔ host.Opens ∧
      (Conntrack.updateTimeout update (host.logAll (Config.openingCalls {}))).1 = .ok () := by
  by_cases opens : host.Opens
  · rw [updateAlone, Socket.withOpen_of_opens _ _ _ opens]
    exact (and_iff_right opens).symm
  · obtain ⟨error, fails⟩ :=
      Option.ne_none_iff_exists'.mp (mt Host.firstFault?_eq_none_iff.mp opens)
    rw [updateAlone, Socket.withOpen_apply, fails]
    constructor
    · intro ended
      cases ended
    · exact fun both => absurd both.1 opens

/-- Six values, written as operands, are the values of the update that the program
runs. On a socket that can be set up it sends once, and the bytes tell the same
six values to who reads them. It has the exit code zero exactly if the update was
made on such a socket and ended well. -/
theorem arguments_reach_the_wire (update : TimeoutUpdate) (host : Host) :
    ofArguments [
      "update-timeout",
      String.ofList (Decimal.write update.protocol.toNat),
      String.ofList update.source.write,
      String.ofList (Decimal.write update.sourcePort.toNat),
      String.ofList update.destination.write,
      String.ofList (Decimal.write update.destinationPort.toNat),
      String.ofList (Decimal.write update.timeout.toNat)] = .ok (.updateTimeout update) ∧
    (host.Opens → ∃ made request,
      (main update.arguments host).2.calls.toList = host.calls.toList ++ made ∧
      made.filterMap Call.sent? = [request] ∧ TimeoutUpdate.ofRequest? request = some update) ∧
    ((main update.arguments host).1.code = 0 ↔ host.Opens ∧
      (Conntrack.updateTimeout update (host.logAll (Config.openingCalls {}))).1 = .ok ()) := by
  have ran := runArguments_arguments update host
  refine ⟨ofArguments_arguments update, ?_, ?_⟩
  · intro opens
    refine ⟨host.updateCalls update, update.encode, ?_, sent_updateCalls host update,
      update.ofRequest?_encode⟩
    rw [main, ran]
    exact (updateAlone_apply update opens).2
  · rw [main, ran, ← updateAlone_eq_ok_iff]
    exact code_ofResult_eq_zero_iff.trans (mapError_eq_ok_iff _)

theorem arguments_reach_the_wire_plain :
    acknowledgingHost.Opens ∧
      plainUpdate.arguments =
        ["update-timeout", "6", "10.0.0.1", "1024", "10.0.0.2", "80", "120"] ∧
      ∃ made request, (main plainUpdate.arguments acknowledgingHost).2.calls.toList = made ∧
        made.filterMap Call.sent? = [request] ∧
        TimeoutUpdate.ofRequest? request = some plainUpdate := by
  have opens : acknowledgingHost.Opens := ⟨rfl, rfl, rfl, rfl⟩
  obtain ⟨-, sends, -⟩ := arguments_reach_the_wire plainUpdate acknowledgingHost
  exact ⟨opens, by decide, sends opens⟩

end Command

end Conntrack
