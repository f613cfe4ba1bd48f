import Conntrack.Wire.Attr

/-!
# Outlines

An outline lists the attributes of a byte string in reading order, those inside
a nested attribute right behind it.
-/

namespace Conntrack.Wire

/-- One attribute of an outline. -/
structure OutlineEntry where
  depth : Nat
  type : UInt16
  length : Nat
  /-- Where reading stands behind the attribute, from the front of the value it lies in. -/
  position : Nat
  deriving DecidableEq, Repr

/-- The outline of the attributes from a position on. -/
def outline (depth position : Nat) (bytes : Bytes) : List OutlineEntry :=
  match read : Attr.read? bytes with
  | none => []
  | some (attr, rest) =>
    have := Attr.read?_shrinks read
    have := Attr.payload_shrinks read
    let behind := position + (bytes.take attr.paddedLength).length
    let inner := if attr.isNested then outline (depth + 1) 0 attr.payload else []
    ⟨depth, attr.type, attr.length, behind⟩ :: (inner ++ outline depth behind rest)
termination_by bytes.length

end Conntrack.Wire
