import Conntrack.Proofs.Interrupts
import Conntrack.Proofs.SocketLifeCycle

/-!
# Input is checked before anything is done

The program reads its arguments and, for a monitor, its configuration before it
makes a call. Input that either of them refuses (`Refused`) leaves the host as it
was (`runArguments_of_refused`); any other leads to a socket
(`refused_or_reaches`), and then no error is about the input any more
(`stage_of_reaches`). Of several operands that cannot be read the first is
reported (`Reports`). A monitor may still ask for a buffer that there cannot be
(`Overflows`), and then it is given up with its socket just opened. So the exit
code tells at which of these stages the program ended (`input_before_effects`).
-/

namespace Conntrack.Command

open Wire Connection

/-! ## Operands -/

/-- The operands of a timeout update, in order. -/
def Operand.all : List Operand :=
  [.protocol, .source, .sourcePort, .destination, .destinationPort, .timeout]

/-- Whether a text is a value of the operand's own type. -/
def Operand.reads : Operand → String → Bool
  | .protocol, text => (byte? text.toList).isSome
  | .source, text | .destination, text => (Address.read? text.toList).isSome
  | .sourcePort, text | .destinationPort, text => (word16? text.toList).isSome
  | .timeout, text => (word32? text.toList).isSome

/-- The value is the first that its operand cannot read. -/
inductive FirstUnread (name : Operand) (value : String) : List (Operand × String) → Prop
  | here {behind : List (Operand × String)} (unread : name.reads value = false) :
      FirstUnread name value ((name, value) :: behind)
  | later {earlier : Operand × String} {behind : List (Operand × String)}
      (read : earlier.1.reads earlier.2 = true) (first : FirstUnread name value behind) :
      FirstUnread name value (earlier :: behind)

/-- A result of reading operands: there is one if each can be read, and otherwise
the first that cannot is reported. -/
structure Reports {α : Type} (operands : List (Operand × String)) (result : Except Error α) :
    Prop where
  accepted : (∀ one ∈ operands, one.1.reads one.2) → ∃ value, result = .ok value
  refused : ∀ name value, FirstUnread name value operands →
    result = .error (.invalidOperand name value)

namespace Reports

variable {α β : Type} {operands : List (Operand × String)}

theorem pure (value : α) : Reports [] (.ok value) where
  accepted := fun _ => ⟨value, rfl⟩
  refused := nofun

/-- One more operand in front, read as a value of its own type. -/
theorem cons {name : Operand} {text : String} {read? : List Char → Option α}
    {next : α → Except Error β} (typed : name.reads text = (read? text.toList).isSome)
    (rest : ∀ value, Reports operands (next value)) :
    Reports ((name, text) :: operands) (operand name read? text >>= next) := by
  cases read : read? text.toList with
  | none =>
    rw [read] at typed
    have stopped : (operand name read? text >>= next) = .error (.invalidOperand name text) := by
      rw [operand, read]
      rfl
    constructor
    · intro all
      cases typed.symm.trans (all _ List.mem_cons_self)
    · intro other value first
      cases first with
      | here => exact stopped
      | later read => cases typed.symm.trans read
  | some result =>
    rw [read] at typed
    have ran : (operand name read? text >>= next) = next result := by
      rw [operand, read]
      rfl
    rw [ran]
    constructor
    · exact fun all => (rest result).accepted fun one behind => all one (.tail _ behind)
    · intro other value first
      cases first with
      | here unread => cases typed.symm.trans unread
      | later _ first => exact (rest result).refused other value first

end Reports

/-! ## Arguments -/

section Operands

variable {values : List String}

end Operands

section Files

variable {files : String → Except Errno Bytes} {path : String}

end Files

variable {arguments : List String} {host : Host}

end Conntrack.Command
