import Conntrack.Proofs.RecordAcceptance
import Conntrack.Proofs.Repacking

/-!
# Stacks of cursors

Reading goes down into bytes and comes back up: a window, a copy or the value of
an attribute is opened as a new cursor on top of the ones before, and left again.
The operations are those on the cursor on top (`perform`); between them the
stack keeps the cursors below and all attributes that were read (`run`).

No operation reaches outside the bytes its cursor was opened on: whatever it
gives or opens stands in them at the position or behind it, only `moveTo` moves
back, and what is refused at once leaves the cursor (`Confined`,
`confined_perform`). So after any run every cursor is somewhere in the bytes that
the first one was opened on (`Within.run`).
-/

namespace Conntrack.Wire

/-- A contiguous part of a byte string, `offset` bytes behind its front. -/
def PartAt (part whole : Bytes) (offset : Nat) : Prop :=
  ∃ front behind, whole = front ++ part ++ behind ∧ front.length = offset

namespace PartAt

variable {inner part whole : Bytes} {offset inside : Nat}

theorem refl (whole : Bytes) : PartAt whole whole 0 :=
  ⟨[], [], (List.append_nil _).symm, rfl⟩

theorem trans (outer : PartAt part whole offset) (deeper : PartAt inner part inside) :
    PartAt inner whole (offset + inside) := by
  obtain ⟨front, behind, rfl, rfl⟩ := outer
  obtain ⟨before, after, rfl, rfl⟩ := deeper
  refine ⟨front ++ before, after ++ behind, ?_, List.length_append⟩
  simp only [List.append_assoc]

theorem le_length (stands : PartAt part whole offset) : offset + part.length ≤ whole.length := by
  obtain ⟨front, behind, rfl, rfl⟩ := stands
  rw [List.length_append, List.length_append]
  exact Nat.le_add_right _ _

end PartAt

namespace Cursor

variable {cursor behind : Cursor}

/-- What stands in the remaining bytes stands in the data, at the position or behind it. -/
theorem partAt_of_rest (front : Bytes) {part after : Bytes}
    (split : cursor.rest = front ++ part ++ after) :
    PartAt part cursor.data (cursor.position + front.length) := by
  refine ⟨cursor.data.take cursor.position ++ front, after, ?_, ?_⟩
  · rw [List.append_assoc, List.append_assoc, ← List.append_assoc front, ← split]
    exact (List.take_append_drop _ _).symm
  · rw [List.length_append, List.length_take_of_le cursor.position_le]

theorem partAt_take (cursor : Cursor) (count : Nat) :
    PartAt (cursor.rest.take count) cursor.data cursor.position :=
  partAt_of_rest [] (List.take_append_drop count cursor.rest).symm

/-- The value of an attribute stands behind its four bytes of header. -/
theorem partAt_payload {attr : Attr} (read : cursor.read? Attr.read? = some (attr, behind)) :
    PartAt attr.payload cursor.data (cursor.position + Attr.headerLength) := by
  obtain ⟨span, rfl, split, -⟩ := exists_span_of_read read
  have width := AttrTree.length_header span.attr.length span.attr.type
  rw [Span.bytes, Span.body, List.append_assoc] at split
  rw [← width]
  exact partAt_of_rest _ split

theorem position_le_of_read {attr : Attr} (read : cursor.read? Attr.read? = some (attr, behind)) :
    cursor.position ≤ behind.position := by
  obtain ⟨span, -, split, -⟩ := exists_span_of_read read
  rw [position_of_read read split]
  exact Nat.le_add_right _ _

namespace Reads

variable {attrs : List Attr}

theorem same_data (reads : Reads cursor attrs behind) : behind.data = cursor.data := by
  induction reads with
  | refl cursor => rfl
  | next read more ih => exact ih.trans (data_of_read read)

theorem position_le (reads : Reads cursor attrs behind) : cursor.position ≤ behind.position := by
  induction reads with
  | refl cursor => exact Nat.le_refl _
  | next read more ih => exact Nat.le_trans (position_le_of_read read) ih

end Reads

end Cursor

end Conntrack.Wire

namespace Conntrack.Cursors

open Wire Message Connection

/-! ## Operations -/

inductive Operation where
  | moveTo (position : Nat)
  | take (count : Nat)
  | peek (count : Nat)
  | rest
  | window (count : Nat)
  | copy
  /-- Open the value of an attribute that was read, counted from the last one back. -/
  | enter (index : Nat)
  | attr
  | find (type : UInt16)
  | messageHeader
  | familyHeader
  /-- Decode what follows a message header, whichever header that was. -/
  | record (header : Header)
  deriving DecidableEq, Repr

/-- Reads one thing in front of the position, or refuses. -/
def Operation.atOnce : Operation → Bool
  | .take _ | .attr | .messageHeader | .familyHeader => true
  | _ => false

inductive Outcome where
  | done
  | refused
  | slice (bytes : Bytes)
  | attr (attr : Attr)
  | messageHeader (header : Header)
  | familyHeader (header : FamilyHeader)
  | record (record : Record)
  deriving DecidableEq, Repr

namespace Outcome

/-- The bytes of the data that are given out. -/
def slice? : Outcome → Option Bytes
  | .slice bytes => some bytes
  | .attr found => some found.payload
  | _ => none

def attr? : Outcome → Option Attr
  | .attr found => some found
  | _ => none

theorem slice?_of_attr? {outcome : Outcome} {found : Attr} (told : outcome.attr? = some found) :
    outcome.slice? = some found.payload := by
  cases outcome with
  | attr other =>
    cases told
    rfl
  | _ => cases told

end Outcome

section

variable {α Position Other : Type}

/-- What an operation gives, where it leaves the position, and what it opens. -/
structure Effect (Position : Type) where
  outcome : Outcome
  top : Position
  opened : Option Position
  deriving DecidableEq, Repr

namespace Effect

/-- Something was found or refused, and reading goes on at a position. -/
def told (outcome : α → Outcome) (answer : Option α × Position) : Effect Position where
  outcome := match answer.1 with
    | none => .refused
    | some value => outcome value
  top := answer.2
  opened := none

def map (change : Position → Other) (effect : Effect Position) : Effect Other :=
  ⟨effect.outcome, change effect.top, effect.opened.map change⟩

end Effect

/-- The positions that reading goes back to, the one it stands at on top, and the
attributes that were read, the last one first. -/
structure Stack (Position : Type) where
  top : Position
  below : List Position
  attrs : List Attr
  deriving DecidableEq, Repr

namespace Stack

def start (position : Position) : Stack Position := ⟨position, [], []⟩

def positions (stack : Stack Position) : List Position := stack.top :: stack.below

def after (stack : Stack Position) (effect : Effect Position) : Stack Position :=
  let attrs := effect.outcome.attr?.toList ++ stack.attrs
  match effect.opened with
  | none => ⟨effect.top, stack.below, attrs⟩
  | some opened => ⟨opened, effect.top :: stack.below, attrs⟩

/-- Go back to the position below, if there is one. -/
def leave (stack : Stack Position) : Stack Position :=
  match stack.below with
  | [] => stack
  | top :: below => ⟨top, below, stack.attrs⟩

def map (change : Position → Other) (stack : Stack Position) : Stack Other :=
  ⟨change stack.top, stack.below.map change, stack.attrs⟩

theorem map_after (change : Position → Other) (stack : Stack Position)
    (effect : Effect Position) :
    (stack.after effect).map change = (stack.map change).after (effect.map change) := by
  obtain ⟨outcome, top, opened⟩ := effect
  cases opened <;> rfl

theorem map_leave (change : Position → Other) (stack : Stack Position) :
    stack.leave.map change = (stack.map change).leave := by
  obtain ⟨top, below, attrs⟩ := stack
  cases below <;> rfl

end Stack

end

inductive Action where
  | perform (operation : Operation)
  | leave
  deriving DecidableEq, Repr

/-! ## Running them -/

/-- A read that is refused leaves the cursor. -/
def answerAt {α : Type} (cursor : Cursor) : Option (α × Cursor) → Option α × Cursor
  | none => (none, cursor)
  | some (value, behind) => (some value, behind)

def perform (attrs : List Attr) (cursor : Cursor) : Operation → Effect Cursor
  | .moveTo position => ⟨.done, cursor.moveTo position, none⟩
  | .take count => .told .slice (answerAt cursor (cursor.take? count))
  | .peek count => .told .slice (cursor.peek? count, cursor)
  | .rest => .told .slice (some cursor.rest, cursor)
  | .window count => ⟨.done, cursor, some (cursor.window count)⟩
  | .copy => ⟨.done, cursor, some cursor⟩
  | .enter index =>
    match attrs[index]? with
    | none => ⟨.refused, cursor, none⟩
    | some attr => ⟨.done, cursor, some (.start attr.payload)⟩
  | .attr => .told .attr (answerAt cursor (cursor.read? Attr.read?))
  | .find type => .told .attr (cursor.scan (Attr.find? type))
  | .messageHeader => .told .messageHeader (answerAt cursor (cursor.read? Header.read?))
  | .familyHeader => .told .familyHeader (answerAt cursor (cursor.read? FamilyHeader.read?))
  | .record header => .told .record (cursor.scan (Record.decode? header))

def step (stack : Stack Cursor) : Action → Stack Cursor
  | .perform operation => stack.after (perform stack.attrs stack.top operation)
  | .leave => stack.leave

def run (stack : Stack Cursor) (actions : List Action) : Stack Cursor := actions.foldl step stack

/-! ## What one operation can do -/

/-- The cursors that an operation can open on top of a cursor. -/
inductive Opens (attrs : List Attr) (cursor : Cursor) : Operation → Cursor → Prop
  | window {count : Nat} {inner : Cursor} (front : inner.position = 0)
      (part : PartAt inner.data cursor.data cursor.position)
      (width : inner.data.length = min count cursor.remaining) :
      Opens attrs cursor (.window count) inner
  | copy : Opens attrs cursor .copy cursor
  | enter {index : Nat} {attr : Attr} (read : attr ∈ attrs) :
      Opens attrs cursor (.enter index) (.start attr.payload)

/-- An operation keeps to the bytes of its cursor, from the position on. -/
structure Confined (attrs : List Attr) (cursor : Cursor) (operation : Operation)
    (effect : Effect Cursor) : Prop where
  same_data : effect.top.data = cursor.data
  /-- Only `moveTo` moves back. -/
  forward : (∀ position, operation ≠ .moveTo position) → cursor.position ≤ effect.top.position
  slice : ∀ bytes, effect.outcome.slice? = some bytes →
    ∃ offset, cursor.position ≤ offset ∧ PartAt bytes cursor.data offset
  opens : ∀ inner, effect.opened = some inner → Opens attrs cursor operation inner
  /-- What is refused at once leaves the cursor. -/
  refused : operation.atOnce → effect.outcome = .refused → effect.top = cursor

section

variable {α : Type} {attrs : List Attr} {cursor : Cursor} {operation : Operation}

/-- An operation that gives no bytes and opens nothing. -/
theorem confined_of_stays {effect : Effect Cursor} (same : effect.top = cursor)
    (silent : effect.outcome.slice? = none) (shut : effect.opened = none) :
    Confined attrs cursor operation effect where
  same_data := by rw [same]
  forward := fun _ => by rw [same]
  slice := by
    intro bytes given
    rw [silent] at given
    cases given
  opens := by
    intro inner opened
    rw [shut] at opened
    cases opened
  refused := fun _ _ => same

/-- An operation that only moves on, and is not over at once. -/
theorem confined_of_moves {outcome : Outcome} {behind : Cursor}
    (silent : outcome.slice? = none) (late : operation.atOnce = false)
    (same : behind.data = cursor.data)
    (forward : (∀ position, operation ≠ .moveTo position) → cursor.position ≤ behind.position) :
    Confined attrs cursor operation ⟨outcome, behind, none⟩ where
  same_data := same
  forward := forward
  slice := by
    intro bytes given
    rw [silent] at given
    cases given
  opens := fun _ opened => nomatch opened
  refused := by
    intro atOnce
    rw [late] at atOnce
    cases atOnce

/-- An operation that leaves the cursor and opens another. -/
theorem confined_of_opens {inner : Cursor} (opens : Opens attrs cursor operation inner) :
    Confined attrs cursor operation ⟨.done, cursor, some inner⟩ where
  same_data := rfl
  forward := fun _ => Nat.le_refl _
  slice := fun _ given => nomatch given
  opens := by
    intro other opened
    cases opened
    exact opens
  refused := fun _ refused => nomatch refused

/-- An operation that gives something and moves on in the same data. -/
theorem confined_of_some {outcome : α → Outcome} {value : α} {behind : Cursor}
    (given : outcome value ≠ .refused)
    (same : behind.data = cursor.data) (forward : cursor.position ≤ behind.position)
    (slice : ∀ bytes, (outcome value).slice? = some bytes →
      ∃ offset, cursor.position ≤ offset ∧ PartAt bytes cursor.data offset) :
    Confined attrs cursor operation (.told outcome (some value, behind)) where
  same_data := same
  forward := fun _ => forward
  slice := slice
  opens := fun _ opened => nomatch opened
  refused := fun _ refused => absurd refused given

/-- A read of something that holds no bytes of the data. -/
theorem confined_of_header {outcome : α → Outcome} {encode : α → Bytes} {reader : Reader α}
    (given : ∀ value, outcome value ≠ .refused) (silent : ∀ value, (outcome value).slice? = none)
    (split : ∀ {bytes rest value}, reader bytes = some (value, rest) →
      bytes = encode value ++ rest) :
    Confined attrs cursor operation (.told outcome (answerAt cursor (cursor.read? reader))) := by
  cases read : reader cursor.rest with
  | none =>
    rw [Cursor.read?_of_none read]
    exact confined_of_stays rfl rfl rfl
  | some answer =>
    obtain ⟨value, rest⟩ := answer
    rw [Cursor.read?_of_some read]
    refine confined_of_some (given value) rfl ?_ ?_
    · rw [cursor.position_stopAt (split read)]
      exact Nat.le_add_right _ _
    · intro bytes slice
      rw [silent] at slice
      cases slice

theorem confined_take (count : Nat) :
    Confined attrs cursor operation (.told .slice (answerAt cursor (cursor.take? count))) := by
  cases taken : Wire.take? count cursor.rest with
  | none =>
    rw [Cursor.take?, Cursor.read?_of_none taken]
    exact confined_of_stays rfl rfl rfl
  | some answer =>
    obtain ⟨front, rest⟩ := answer
    have split := (take?_eq_some taken).1
    rw [Cursor.take?, Cursor.read?_of_some taken]
    refine confined_of_some Outcome.noConfusion rfl ?_ ?_
    · rw [cursor.position_stopAt split]
      exact Nat.le_add_right _ _
    · rintro _ ⟨⟩
      exact ⟨_, Nat.le_refl _, Cursor.partAt_of_rest [] split⟩

theorem confined_peek (count : Nat) :
    Confined attrs cursor operation (.told .slice (cursor.peek? count, cursor)) := by
  rw [Cursor.peek?]
  cases taken : Wire.take? count cursor.rest with
  | none => exact confined_of_stays rfl rfl rfl
  | some answer =>
    obtain ⟨front, rest⟩ := answer
    have split := (take?_eq_some taken).1
    refine confined_of_some Outcome.noConfusion rfl (Nat.le_refl _) ?_
    rintro _ ⟨⟩
    exact ⟨_, Nat.le_refl _, Cursor.partAt_of_rest [] split⟩

theorem confined_rest :
    Confined attrs cursor operation (.told .slice (some cursor.rest, cursor)) := by
  refine confined_of_some Outcome.noConfusion rfl (Nat.le_refl _) ?_
  rintro _ ⟨⟩
  exact ⟨_, Nat.le_refl _,
    Cursor.partAt_of_rest [] (List.append_nil cursor.rest).symm⟩

theorem confined_attribute :
    Confined attrs cursor operation (.told .attr (answerAt cursor (cursor.read? Attr.read?))) := by
  cases read : cursor.read? Attr.read? with
  | none => exact confined_of_stays rfl rfl rfl
  | some answer =>
    obtain ⟨attr, behind⟩ := answer
    refine confined_of_some Outcome.noConfusion (Cursor.data_of_read read)
      (Cursor.position_le_of_read read) ?_
    rintro _ ⟨⟩
    exact ⟨_, Nat.le_add_right _ _, Cursor.partAt_payload read⟩

/-- A search goes where reading attribute after attribute goes. -/
theorem confined_find (type : UInt16) :
    Confined attrs cursor (.find type) (.told .attr (cursor.scan (Attr.find? type))) := by
  obtain ⟨passed, here, reads, -, ending⟩ := cursor.exists_reads_of_scan type
  rcases ending with ⟨-, scanned⟩ | ⟨attr, behind, read, -, scanned⟩
  · rw [scanned]
    exact confined_of_moves rfl rfl reads.same_data fun _ => reads.position_le
  · rw [scanned]
    refine confined_of_some Outcome.noConfusion ((Cursor.data_of_read read).trans reads.same_data)
      (Nat.le_trans reads.position_le (Cursor.position_le_of_read read)) ?_
    rintro _ ⟨⟩
    have part := Cursor.partAt_payload read
    rw [reads.same_data] at part
    exact ⟨_, Nat.le_trans reads.position_le (Nat.le_add_right _ _), part⟩

theorem confined_record (header : Header) :
    Confined attrs cursor (.record header)
      (.told .record (cursor.scan (Record.decode? header))) := by
  by_cases present : Record.windowLength header ≤ cursor.remaining
  · obtain ⟨record, decoded, -⟩ := Record.scan_of_whole present
    rw [decoded]
    refine confined_of_some Outcome.noConfusion rfl ?_ fun _ given => nomatch given
    rw [Record.position_moveTo present]
    exact Nat.le_add_right _ _
  · rw [Record.scan_of_cut (Nat.not_le.mp present)]
    refine confined_of_moves rfl rfl rfl fun _ => ?_
    rw [Record.position_moveTo (Record.refusedAt_le _)]
    exact Nat.le_add_right _ _

theorem confined_perform (attrs : List Attr) (cursor : Cursor) (operation : Operation) :
    Confined attrs cursor operation (perform attrs cursor operation) := by
  cases operation with
  | moveTo position =>
    exact confined_of_moves rfl rfl rfl fun other => absurd rfl (other position)
  | take count => exact confined_take count
  | peek count => exact confined_peek count
  | rest => exact confined_rest
  | window count =>
    refine confined_of_opens (.window rfl (cursor.partAt_take count) ?_)
    rw [← cursor.length_rest]
    exact List.length_take
  | copy => exact confined_of_opens .copy
  | enter index =>
    rw [perform]
    cases found : attrs[index]? with
    | none => exact confined_of_stays rfl rfl rfl
    | some attr => exact confined_of_opens (.enter (List.mem_of_getElem? found))
  | attr => exact confined_attribute
  | find type => exact confined_find type
  | messageHeader =>
    exact confined_of_header (fun _ => Outcome.noConfusion) (fun _ => rfl) Header.encode_of_read?
  | familyHeader =>
    exact confined_of_header (fun _ => Outcome.noConfusion) (fun _ => rfl)
      FamilyHeader.encode_of_read?
  | record header => exact confined_record header

end

/-! ## What a run can do -/

/-- All cursors of a stack, and the values of all attributes that were read, stand
in the given bytes. -/
structure Within (data : Bytes) (stack : Stack Cursor) : Prop where
  cursors : ∀ cursor ∈ stack.positions, ∃ offset, PartAt cursor.data data offset
  values : ∀ attr ∈ stack.attrs, ∃ offset, PartAt attr.payload data offset

section

variable {data : Bytes} {stack : Stack Cursor}

theorem within_start (cursor : Cursor) : Within cursor.data (.start cursor) where
  cursors := by
    intro other member
    obtain rfl := List.mem_singleton.mp member
    exact ⟨0, .refl _⟩
  values := List.forall_mem_nil _

theorem Within.leave (within : Within data stack) : Within data stack.leave := by
  obtain ⟨top, below, attrs⟩ := stack
  cases below with
  | nil => exact within
  | cons next below =>
    have kept := fun cursor member => within.cursors cursor (List.mem_cons_of_mem _ member)
    exact ⟨kept, within.values⟩

/-- A cursor that an operation opens stands in the same bytes. -/
theorem Within.opened (within : Within data stack) {operation : Operation} {inner : Cursor}
    (opens : Opens stack.attrs stack.top operation inner) :
    ∃ offset, PartAt inner.data data offset := by
  have top := within.cursors stack.top List.mem_cons_self
  cases opens with
  | window front part width =>
    obtain ⟨offset, outer⟩ := top
    exact ⟨_, outer.trans part⟩
  | copy => exact top
  | enter read => exact within.values _ read

theorem Within.after (within : Within data stack) {operation : Operation} {effect : Effect Cursor}
    (confined : Confined stack.attrs stack.top operation effect) :
    Within data (stack.after effect) := by
  obtain ⟨offset, outer⟩ := within.cursors stack.top List.mem_cons_self
  have top : PartAt effect.top.data data offset := by
    rw [confined.same_data]
    exact outer
  have below : ∀ cursor ∈ effect.top :: stack.below, ∃ offset, PartAt cursor.data data offset := by
    refine List.forall_mem_cons.mpr ⟨⟨offset, top⟩, fun cursor member => ?_⟩
    exact within.cursors cursor (List.mem_cons_of_mem _ member)
  have values : ∀ attr ∈ effect.outcome.attr?.toList ++ stack.attrs,
      ∃ offset, PartAt attr.payload data offset := by
    refine List.forall_mem_append.mpr ⟨fun attr member => ?_, within.values⟩
    have given := Outcome.slice?_of_attr? (Option.mem_toList.mp member)
    obtain ⟨inside, -, part⟩ := confined.slice _ given
    exact ⟨_, outer.trans part⟩
  rw [Stack.after]
  cases opened : effect.opened with
  | none => exact ⟨below, values⟩
  | some inner =>
    have opens := within.opened (confined.opens inner opened)
    exact ⟨List.forall_mem_cons.mpr ⟨opens, below⟩, values⟩

theorem Within.step (within : Within data stack) (action : Action) :
    Within data (step stack action) := by
  cases action with
  | perform operation => exact within.after (confined_perform _ _ operation)
  | leave => exact within.leave

/-- However long the run, no cursor leaves the bytes that the first was opened on. -/
theorem Within.run (within : Within data stack) (actions : List Action) :
    Within data (run stack actions) := by
  induction actions generalizing stack with
  | nil => exact within
  | cons action actions ih => exact ih (within.step action)

end

end Conntrack.Cursors
