import Conntrack.Wire.Bytes

/-!
# Line-buffered output

Standard output holds back what is written to it until a line is complete or
its buffer is full, and hands it on in one call to the file behind it. A call
that has to hand something on fails if the file is closed by then.

A short line that is written piece by piece therefore reaches the file at its
newline and not before, and as a whole (`atomic_of_short`): if the file is
closed, no piece in front of the newline finds out.
-/

namespace Conntrack

open Wire

structure LineBuffer where
  /-- What was written and not handed on. -/
  held : Bytes
  /-- What was handed on, one entry for each call. -/
  passed : List Bytes
  deriving DecidableEq, Repr

namespace LineBuffer

def capacity : Nat := 1024

def newline : UInt8 := 10

/-- One call to write: its bytes, and whether the file is closed by then. -/
structure Attempt where
  piece : Bytes
  closed : Bool
  deriving DecidableEq, Repr

/-- Hand bytes on, ahead of nothing that is held. -/
def pass? (out : LineBuffer) (closed : Bool) (bytes : Bytes) : Option LineBuffer :=
  if closed then none else some { out with passed := out.passed ++ [bytes] }

/-- Hand on what is held, if anything is. -/
def flush? (out : LineBuffer) (closed : Bool) : Option LineBuffer :=
  if out.held = [] then some out else pass? { out with held := [] } closed out.held

/-- Hold a piece back. One that does not fit behind what is held comes after it,
and one as large as the buffer is handed on at once. -/
def hold? (out : LineBuffer) (closed : Bool) (piece : Bytes) : Option LineBuffer := do
  let out ← if capacity < out.held.length + piece.length then out.flush? closed else some out
  if capacity ≤ piece.length then out.pass? closed piece
  else some { out with held := out.held ++ piece }

/-- The part of a piece up to its last newline. -/
def lines (piece : Bytes) : Bytes := (piece.reverse.dropWhile (· ≠ newline)).reverse

/-- The part of a piece behind its last newline. -/
def unfinished (piece : Bytes) : Bytes := (piece.reverse.takeWhile (· ≠ newline)).reverse

/-- Write a piece. Complete lines are handed on, with what is held in front of
them; a piece of a line waits behind what is held, unless that is complete. -/
def put? (out : LineBuffer) (attempt : Attempt) : Option LineBuffer :=
  let piece := attempt.piece
  let closed := attempt.closed
  if newline ∈ piece then do
    let out ← if out.held = [] then out.pass? closed (lines piece)
      else (out.hold? closed (lines piece)).bind (·.flush? closed)
    out.hold? closed (unfinished piece)
  else do
    let out ← if out.held.getLast? = some newline then out.flush? closed else some out
    out.hold? closed piece

/-- All that a sequence of calls writes. -/
def written (attempts : List Attempt) : Bytes := attempts.flatMap Attempt.piece

/-- A line, without its newline, that reaches the file as a whole or not at all. -/
structure Atomic (line : Bytes) : Prop where
  /-- However the line is cut and whenever the file is closed, no piece reaches
  the file, and none fails. -/
  held : ∀ (passed : List Bytes) (attempts : List Attempt), written attempts <+: line →
    attempts.foldlM put? ⟨[], passed⟩ = some ⟨written attempts, passed⟩
  /-- The newline hands everything on in one call, if the file is open. -/
  ended : ∀ (passed : List Bytes) (closed : Bool), put? ⟨line, passed⟩ ⟨[newline], closed⟩ =
    if closed then none else some ⟨[], passed ++ [line ++ [newline]]⟩

theorem hold?_of_fits {out : LineBuffer} {piece : Bytes} (closed : Bool)
    (fits : out.held.length + piece.length ≤ capacity) (small : piece.length < capacity) :
    out.hold? closed piece = some ⟨out.held ++ piece, out.passed⟩ := by
  rw [hold?, if_neg (Nat.not_lt.mpr fits)]
  exact if_neg (Nat.not_le.mpr small)

/-- A piece of a line that still fits is held back. -/
theorem put?_of_fits {out : LineBuffer} {attempt : Attempt} (begun : newline ∉ out.held)
    (plain : newline ∉ attempt.piece)
    (fits : out.held.length + attempt.piece.length < capacity) :
    out.put? attempt = some ⟨out.held ++ attempt.piece, out.passed⟩ := by
  have incomplete : ¬ out.held.getLast? = some newline :=
    fun last => begun (List.mem_of_getLast? last)
  rw [put?, if_neg plain, if_neg incomplete]
  exact hold?_of_fits _ (by omega) (by omega)

/-- The pieces of a short line are held back. -/
theorem foldlM_put? {out : LineBuffer} {attempts : List Attempt} (begun : newline ∉ out.held)
    (plain : newline ∉ written attempts)
    (fits : out.held.length + (written attempts).length < capacity) :
    attempts.foldlM put? out = some ⟨out.held ++ written attempts, out.passed⟩ := by
  induction attempts generalizing out with
  | nil =>
    rw [written, List.flatMap_nil, List.append_nil]
    rfl
  | cons attempt attempts ih =>
    have split : written (attempt :: attempts) = attempt.piece ++ written attempts :=
      List.flatMap_cons
    rw [split, List.mem_append, not_or] at plain
    rw [split, List.length_append] at fits
    rw [List.foldlM_cons, put?_of_fits begun plain.1 (by omega), Option.bind_eq_bind,
      Option.bind_some, ih, split, List.append_assoc]
    · rw [List.mem_append, not_or]
      exact ⟨begun, plain.1⟩
    · exact plain.2
    · rw [List.length_append]
      omega

/-- A newline behind a short line hands both on, in one call. -/
theorem put?_newline {line : Bytes} (passed : List Bytes) (closed : Bool)
    (short : line.length < capacity) : put? ⟨line, passed⟩ ⟨[newline], closed⟩ =
      if closed then none else some ⟨[], passed ++ [line ++ [newline]]⟩ := by
  -- whatever is handed on in front, nothing is behind the newline
  have behind : ∀ bytes, (pass? ⟨[], passed⟩ closed bytes).bind
      (fun out => out.hold? closed (unfinished [newline])) =
        if closed then none else some ⟨[], passed ++ [bytes]⟩ := by
    intro bytes
    cases closed <;> rfl
  have whole : lines [newline] = [newline] := rfl
  rw [put?, if_pos List.mem_cons_self, whole, Option.bind_eq_bind]
  by_cases empty : line = []
  · rw [if_pos empty, empty]
    exact behind [newline]
  · have fits : (⟨line, passed⟩ : LineBuffer).held.length + [newline].length ≤ capacity := short
    have small : [newline].length < capacity := by decide
    have filled : line ++ [newline] ≠ [] := List.append_ne_nil_of_left_ne_nil empty _
    rw [if_neg empty, hold?_of_fits closed fits small, Option.bind_some,
      flush?, if_neg filled]
    exact behind (line ++ [newline])

/-- A line that fits into the buffer with its newline is atomic. -/
theorem atomic_of_short {line : Bytes} (plain : newline ∉ line) (short : line.length < capacity) :
    Atomic line where
  held := by
    intro passed attempts front
    have inside : newline ∉ written attempts := fun member => plain (front.subset member)
    have fits : (written attempts).length < capacity := Nat.lt_of_le_of_lt front.length_le short
    have nothing : newline ∉ ([] : Bytes) := List.not_mem_nil
    exact foldlM_put? nothing inside (by rw [List.length_nil, Nat.zero_add]; exact fits)
  ended := fun passed closed => put?_newline passed closed short

end LineBuffer

end Conntrack
