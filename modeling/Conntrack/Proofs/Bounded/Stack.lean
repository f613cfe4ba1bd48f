import Conntrack.Proofs.Bounded.Walk
import Conntrack.Proofs.CursorStacks

/-!
# Stacks of positions with checked steps

The positions of a stack are plain numbers here, and every step says whether the
machine could take it: a position behind the end would show as soon as anything
asks what remains, and a range that leaves the bytes when it is cut out. A run
from the front of bytes that stand in memory meets neither. It goes as on
cursors, so the positions stay inside the bytes of their own, and no operation
reaches out of them (`runs_confined`).
-/

namespace Conntrack.Bounded

open Wire Message Connection Cursors

/-- A quarter of the bytes and one round more are enough for any search. -/
def roundsOf (data : Bytes) : Nat := data.length / 4 + 1

def perform (attrs : List Attr) (place : Place) : Operation → Run (Effect Place)
  | .moveTo position => .ok ⟨.done, place.moveTo position, none⟩
  | .take count => do .ok (.told .slice (← place.take? count))
  | .peek count => .ok (.told .slice (place.peek? count, place))
  | .rest => do
    let bytes ← slice place.data place.position place.data.length
    .ok (.told .slice (some bytes, place))
  | .window count => do .ok ⟨.done, place, some (← place.window count)⟩
  | .copy => .ok ⟨.done, place, some place⟩
  | .enter index =>
    match attrs[index]? with
    | none => .ok ⟨.refused, place, none⟩
    | some attr => .ok ⟨.done, place, some (.start attr.payload)⟩
  | .attr => do .ok (.told .attr (← read place))
  | .find type => do .ok (.told .attr (← find type (roundsOf place.data) place))
  | .messageHeader => do .ok (.told .messageHeader (← messageHeader place))
  | .familyHeader => do .ok (.told .familyHeader (← familyHeader place))
  | .record header => do .ok (.told .record (← decode (roundsOf place.data) header place))

def stackStep (stack : Stack Place) : Action → Run (Stack Place)
  | .perform operation => do .ok (stack.after (← perform stack.attrs stack.top operation))
  | .leave => .ok stack.leave

def stackRun (stack : Stack Place) (actions : List Action) : Run (Stack Place) :=
  actions.foldlM stackStep stack

section

variable {cursor : Cursor}

theorem enough_rounds (cursor : Cursor) : cursor.remaining < 4 * roundsOf cursor.data := by
  unfold Cursor.remaining roundsOf
  omega

theorem slice_rest (cursor : Cursor) :
    slice cursor.data cursor.position cursor.data.length = .ok cursor.rest := by
  rw [slice_of_le cursor.position_le (Nat.le_refl _), ← List.length_drop, List.take_length]
  rfl

/-- What is told of a read at a place is what is told of it at the cursor. -/
theorem told_ofRead {α : Type} (outcome : α → Outcome) (answer : Option (α × Cursor)) :
    Effect.told outcome (Place.ofRead cursor answer) =
      (Effect.told outcome (answerAt cursor answer)).map .of := by
  cases answer <;> rfl

/-- No step of an operation fails at the place of a cursor, and it does there what
it does to the cursor. -/
theorem perform_of (short : cursor.data.length ≤ longest) (attrs : List Attr)
    (operation : Operation) :
    perform attrs (.of cursor) operation =
      .ok ((Cursors.perform attrs cursor operation).map .of) := by
  have enough := enough_rounds cursor
  cases operation with
  | moveTo position => rfl
  | take count =>
    rw [perform, Place.take?_of short, ok_bind, told_ofRead]
    rfl
  | peek count =>
    rw [perform, Place.peek?_of short]
    rfl
  | rest =>
    rw [perform, Place.of, slice_rest]
    rfl
  | window count =>
    rw [perform, Place.window_of cursor short]
    rfl
  | copy => rfl
  | enter index =>
    rw [perform, Cursors.perform]
    cases attrs[index]? <;> rfl
  | attr =>
    rw [perform, read_of short, ok_bind, told_ofRead]
    rfl
  | find type =>
    change (find type (roundsOf cursor.data) (.of cursor) >>= _) = _
    rw [find_of type short enough]
    rfl
  | messageHeader =>
    rw [perform, messageHeader_of short, ok_bind, told_ofRead]
    rfl
  | familyHeader =>
    rw [perform, familyHeader_of short, ok_bind, told_ofRead]
    rfl
  | record header =>
    change (decode (roundsOf cursor.data) header (.of cursor) >>= _) = _
    rw [decode_of header short enough]
    rfl

end

section

variable {data : Bytes} {stack : Stack Cursor}

theorem short_of_within (within : Within data stack) (short : data.length ≤ longest) :
    stack.top.data.length ≤ longest := by
  obtain ⟨offset, part⟩ := within.cursors stack.top List.mem_cons_self
  have inside := part.le_length
  omega

theorem stackStep_of (within : Within data stack) (short : data.length ≤ longest)
    (action : Action) :
    stackStep (stack.map .of) action = .ok ((Cursors.step stack action).map .of) := by
  cases action with
  | perform operation =>
    have performed := perform_of (short_of_within within short) stack.attrs operation
    change (perform stack.attrs (.of stack.top) operation >>= _) = _
    rw [performed, ok_bind, Cursors.step, Stack.map_after]
  | leave =>
    rw [stackStep, Cursors.step, Stack.map_leave]

/-- A run from places of cursors in the same bytes goes through, as on the cursors. -/
theorem stackRun_of (within : Within data stack) (short : data.length ≤ longest)
    (actions : List Action) :
    stackRun (stack.map .of) actions = .ok ((Cursors.run stack actions).map .of) := by
  induction actions generalizing stack with
  | nil => rfl
  | cons action actions ih =>
    rw [stackRun, List.foldlM_cons, stackStep_of within short action, ok_bind]
    exact ih (within.step action)

/-- After any run from the front of some bytes all positions stand in bytes of
their own, and those, like the values of all attributes that were read, are part
of the bytes at the start. Whatever the next operation is, it keeps to the bytes
of its cursor from the position on. With bare positions and checked steps the same
run goes through, on any bytes that stand in memory, so asking what remains never
goes below zero. -/
theorem runs_confined (data : Bytes) (actions : List Action) :
    let stack := Cursors.run (.start (.start data)) actions
    Within data stack ∧
      (∀ cursor ∈ stack.positions, cursor.position ≤ cursor.data.length ∧
        cursor.position + cursor.remaining = cursor.data.length) ∧
      (∀ operation, Confined stack.attrs stack.top operation
        (Cursors.perform stack.attrs stack.top operation)) ∧
      (data.length ≤ longest → ∃ places : Stack Place,
        stackRun (.start (.start data)) actions = .ok places ∧ places = stack.map .of ∧
        (∀ place ∈ places.positions, place.position ≤ place.data.length ∧
          place.remaining = .ok (place.data.length - place.position)) ∧
        ∀ operation, perform places.attrs places.top operation =
          .ok ((Cursors.perform stack.attrs stack.top operation).map .of)) := by
  intro stack
  have front : Within data (.start (.start data)) := within_start (Cursor.start data)
  have within : Within data stack := front.run actions
  refine ⟨within, fun cursor _ => ⟨cursor.position_le, cursor.position_add_remaining⟩,
    confined_perform stack.attrs stack.top, fun short => ?_⟩
  refine ⟨stack.map .of, stackRun_of front short actions, rfl, ?_, ?_⟩
  · intro place member
    have member : place ∈ stack.positions.map .of := member
    obtain ⟨cursor, -, rfl⟩ := List.mem_map.mp member
    exact ⟨cursor.position_le, Place.remaining_of cursor⟩
  · exact perform_of (short_of_within within short) stack.attrs

end

/-! Into the value of an attribute, a window on its end, and back. -/

def nested : Bytes := [7, 0, 1, 128, 5, 6, 7, 0]

def descent : List Action :=
  [.perform .attr, .perform (.enter 0), .perform (.take 1), .perform (.window 9),
    .perform (.take 3), .perform .rest, .leave]

theorem run_descent : Cursors.run (.start (.start nested)) descent =
    ⟨(Cursor.start [5, 6, 7]).moveTo 1, [(Cursor.start nested).moveTo 8],
      [⟨0x8001, [5, 6, 7]⟩]⟩ := by
  rfl

theorem runs_confined_descent :
    nested.length ≤ longest ∧ stackRun (.start (.start nested)) descent =
      .ok ⟨⟨[5, 6, 7], 1⟩, [⟨nested, 8⟩], [⟨0x8001, [5, 6, 7]⟩]⟩ := by
  have short : nested.length ≤ longest := by decide
  obtain ⟨-, -, -, places⟩ := runs_confined nested descent
  obtain ⟨places, runs, rfl, -⟩ := places short
  rw [run_descent] at runs
  exact ⟨short, runs⟩

end Conntrack.Bounded
