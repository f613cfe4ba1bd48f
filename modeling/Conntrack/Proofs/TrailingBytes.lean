import Conntrack.Proofs.OnePass
import Conntrack.Proofs.RecordFields

/-!
# Bytes behind written attributes

Attributes that were written as their lengths say are found whatever stands
behind them. A scan goes over them one by one (`find?_encode`): it ends at the
first of its type, or goes on behind the last as if it began there
(`find?_encodeAll`). So a body that begins well and ends in any bytes at all is
decoded, and each part whose type occurs in the good beginning is told by that
beginning alone; the other parts are told by the end alone (`tail_hides_nothing`).
-/

namespace Conntrack.Wire

/-- A scan leaves a tail of the bytes it was given. -/
theorem Attr.exists_skipped (type : UInt16) (bytes : Bytes) :
    ∃ skipped, bytes = skipped ++ (Attr.find? type bytes).2 := by
  fun_induction Attr.find? type bytes with
  | case1 bytes refused => exact ⟨[], rfl⟩
  | case2 bytes length refused header => exact ⟨[], rfl⟩
  | case3 bytes length attr rest read header => exact Attr.append_of_read? read
  | case4 bytes length found header other short => exact ⟨[], rfl⟩
  | case5 bytes length found header other skipped rest taken shorter ih =>
    obtain ⟨passed, split⟩ := ih
    refine ⟨skipped ++ passed, ?_⟩
    rw [List.append_assoc, ← split]
    exact (take?_eq_some taken).1

namespace AttrTree

variable {trees : List AttrTree} {tree : AttrTree} {cursor : Cursor} {type : UInt16} {rest : Bytes}

theorem encodeAll_append (front back : List AttrTree) :
    encodeAll (front ++ back) = encodeAll front ++ encodeAll back := by
  induction front with
  | nil => rfl
  | cons tree front ih => rw [List.cons_append, encodeAll, encodeAll, ih, List.append_assoc]

theorem header?_encode (rest : Bytes) (fits : tree.Fits) :
    Attr.header? (tree.encode ++ rest) = some (tree.length, tree.wireType) := by
  have header := Attr.length_of_read? (tree.read?_encode rest fits)
  have length : tree.attr.length = tree.length := congrArg (Attr.headerLength + ·) tree.length_value
  rw [length] at header
  exact header

/-- One round of a scan at a written tree. -/
theorem find?_encode (type : UInt16) (rest : Bytes) (fits : tree.Fits) :
    Attr.find? type (tree.encode ++ rest) =
      if tree.wireType = type then (some tree.attr, rest) else Attr.find? type rest := by
  have behind : (tree.encode ++ rest).drop (roundUp4 tree.length) = rest := by
    rw [← paddedLength, ← length_encode, List.drop_left]
  have padded : ¬ (tree.encode ++ rest).length < roundUp4 tree.length := by
    rw [List.length_append, length_encode, paddedLength]
    omega
  rw [Attr.find?_of_header? (header?_encode rest fits), tree.read?_encode rest fits,
    if_neg padded, behind]

/-- A scan passes written trees of other types. -/
theorem find?_encodeAll (rest : Bytes) (fit : ∀ tree ∈ trees, tree.Fits)
    (others : ∀ tree ∈ trees, tree.wireType ≠ type) :
    Attr.find? type (encodeAll trees ++ rest) = Attr.find? type rest := by
  induction trees with
  | nil => rfl
  | cons tree trees ih =>
    rw [List.forall_mem_cons] at fit others
    rw [encodeAll, List.append_assoc, find?_encode type _ fit.1, if_neg others.1,
      ih fit.2 others.2]

/-- A scan over written trees ends behind the first of its type. -/
theorem scan_of_first {before later : List AttrTree} (here : cursor.rest = encodeAll trees ++ rest)
    (fit : ∀ tree ∈ trees, tree.Fits) (split : trees = before ++ tree :: later)
    (typed : tree.wireType = type) (others : ∀ other ∈ before, other.wireType ≠ type) :
    ∃ behind, cursor.scan (Attr.find? type) = (some tree.attr, behind) ∧
      behind.data = cursor.data ∧
      behind.position = cursor.position + paddedLengths (before ++ [tree]) := by
  subst split
  have passed : ∀ other ∈ before, other.Fits := fun other member => fit other (by simp [member])
  have parts : cursor.rest = encodeAll (before ++ [tree]) ++ (encodeAll later ++ rest) := by
    rw [here, ← List.append_assoc, ← encodeAll_append, List.append_assoc, List.singleton_append]
  have found : Attr.find? type cursor.rest = (some tree.attr, encodeAll later ++ rest) := by
    rw [parts, encodeAll_append, encodeAll, encodeAll, List.append_nil, List.append_assoc,
      find?_encodeAll _ passed others, find?_encode type _ (fit tree (by simp)), if_pos typed]
  refine ⟨cursor.stopAt (encodeAll later ++ rest), ?_, rfl, ?_⟩
  · rw [Cursor.scan, found]
  · rw [cursor.position_stopAt parts, length_encodeAll]

/-- Without a tree of its type a scan goes on behind the trees as if it began there. -/
theorem scan_of_absent {found : Option Attr} {last : Cursor}
    (here : cursor.rest = encodeAll trees ++ rest) (fit : ∀ tree ∈ trees, tree.Fits)
    (others : ∀ tree ∈ trees, tree.wireType ≠ type)
    (alone : (Cursor.start rest).scan (Attr.find? type) = (found, last)) :
    ∃ behind, cursor.scan (Attr.find? type) = (found, behind) ∧ behind.data = cursor.data ∧
      behind.position = cursor.position + (encodeAll trees).length + last.position := by
  obtain ⟨skipped, split⟩ := Attr.exists_skipped type rest
  have same : Attr.find? type cursor.rest = Attr.find? type rest := by
    rw [here, find?_encodeAll rest fit others]
  have parts : cursor.rest = (encodeAll trees ++ skipped) ++ (Attr.find? type rest).2 := by
    rw [here, List.append_assoc, ← split]
  cases alone
  refine ⟨cursor.stopAt (Attr.find? type rest).2, ?_, rfl, ?_⟩
  · rw [Cursor.scan, same]
    rfl
  · have stopped := (Cursor.start rest).position_stopAt split
    have front : (Cursor.start rest).position = 0 := rfl
    rw [Cursor.rest_start, cursor.position_stopAt parts, stopped, List.length_append]
    omega

end AttrTree

end Conntrack.Wire

namespace Conntrack.Connection

open Wire Message

theorem firstOf_append_or (type : UInt16) (front back : List Attr) :
    firstOf type (front ++ back) = (firstOf type front).or (firstOf type back) :=
  List.find?_append

theorem firstOf_map_attr_eq_none {type : UInt16} {trees : List AttrTree}
    (others : ∀ tree ∈ trees, tree.wireType ≠ type) :
    firstOf type (trees.map AttrTree.attr) = none := by
  apply List.find?_eq_none.mpr
  intro attr listed
  obtain ⟨tree, member, rfl⟩ := List.mem_map.mp listed
  rw [decide_eq_true_eq]
  exact others tree member

namespace Record

variable {trees : List AttrTree} {header : Header} {family : FamilyHeader}

/-- A part whose type occurs among the trees in front is told by them alone. -/
theorem told_of_occurs (rest : Bytes) (fit : ∀ tree ∈ trees, tree.Fits) {part : Part}
    (occurs : ∃ tree ∈ trees, tree.wireType = part.type) :
    part.told (ofBody header family (AttrTree.encodeAll trees ++ rest)) =
      part.told (ofBody header family (AttrTree.encodeAll trees)) := by
  have alone := AttrTree.list_encodeAll trees [] fit
  rw [Attr.list_nil, List.append_nil, List.append_nil] at alone
  obtain ⟨tree, member, typed⟩ := occurs
  have found : (firstOf part.type (trees.map AttrTree.attr)).isSome := by
    apply List.find?_isSome.mpr
    exact ⟨tree.attr, List.mem_map_of_mem member, decide_eq_true typed⟩
  rw [ofBody_eq_ofListed, ofBody_eq_ofListed, Part.told_ofListed, Part.told_ofListed,
    AttrTree.list_encodeAll trees rest fit, alone, firstOf_append_or, Option.or_of_isSome found]

/-- Any other part is told by what stands behind the trees. -/
theorem told_of_absent (rest : Bytes) (fit : ∀ tree ∈ trees, tree.Fits) {part : Part}
    (absent : ∀ tree ∈ trees, tree.wireType ≠ part.type) :
    part.told (ofBody header family (AttrTree.encodeAll trees ++ rest)) =
      part.told (ofBody header family rest) := by
  rw [ofBody_eq_ofListed, ofBody_eq_ofListed, Part.told_ofListed, Part.told_ofListed,
    AttrTree.list_encodeAll trees rest fit, firstOf_append_or, firstOf_map_attr_eq_none absent,
    Option.none_or]

/-- A body that declares the trees and more behind them is decoded if its bytes are there. -/
theorem scan_of_front {cursor : Cursor} {tail : Bytes}
    (here : cursor.rest = family.encode ++ (AttrTree.encodeAll trees ++ tail))
    (covers : (AttrTree.encodeAll trees).length ≤ bodyLength header)
    (present : roundUp4 (bodyLength header) ≤ (AttrTree.encodeAll trees).length + tail.length) :
    ∃ behind, cursor.scan (decode? header) = (some (ofBody header family
      (AttrTree.encodeAll trees ++ tail.take (bodyLength header - (AttrTree.encodeAll trees).length))),
      behind) := by
  let body := AttrTree.encodeAll trees ++ tail
  have size : (body.take (roundUp4 (bodyLength header))).length = roundUp4 (bodyLength header) := by
    rw [List.length_take, List.length_append]
    exact Nat.min_eq_left present
  have declared : (body.take (roundUp4 (bodyLength header))).take (bodyLength header) =
      AttrTree.encodeAll trees ++
        tail.take (bodyLength header - (AttrTree.encodeAll trees).length) := by
    rw [List.take_take, Nat.min_eq_left (le_roundUp4 _), List.take_append,
      List.take_of_length_le covers]
  have decoded := decode?_encode_append family _ (body.drop (roundUp4 (bodyLength header))) size
  rw [List.take_append_drop, declared, ← here] at decoded
  exact ⟨_, by rw [Cursor.scan, decoded]⟩

end Record

/-- Scanning written trees with anything behind them gives the first tree of the
type and stops behind its padding; without one it is a scan of what stands
behind, moved by the length of the trees. A body that begins with the trees is
decoded whatever it ends in: a part whose type occurs among the trees is what
they tell alone, any other is what the end tells alone. -/
theorem tail_hides_nothing (trees : List AttrTree) (tail : Bytes)
    (fit : ∀ tree ∈ trees, tree.Fits) :
    (∀ (cursor : Cursor) (type : UInt16),
      cursor.rest = (AttrTree.packAll trees #[]).toList ++ tail →
      (∀ before tree later, trees = before ++ tree :: later → tree.wireType = type →
        (∀ other ∈ before, other.wireType ≠ type) →
          ∃ behind, cursor.scan (Attr.find? type) = (some tree.attr, behind) ∧
            behind.data = cursor.data ∧
            behind.position = cursor.position + AttrTree.paddedLengths (before ++ [tree])) ∧
      ((∀ tree ∈ trees, tree.wireType ≠ type) →
        ∀ found last, (Cursor.start tail).scan (Attr.find? type) = (found, last) →
          ∃ behind, cursor.scan (Attr.find? type) = (found, behind) ∧ behind.data = cursor.data ∧
            behind.position =
              cursor.position + (AttrTree.packAll trees #[]).size + last.position)) ∧
    ∀ (cursor : Cursor) (header : Header) (family : FamilyHeader),
      cursor.rest = family.encode ++ ((AttrTree.packAll trees #[]).toList ++ tail) →
      (AttrTree.packAll trees #[]).size ≤ header.length.toNat - 20 →
      roundUp4 (header.length.toNat - 20) ≤ (AttrTree.packAll trees #[]).size + tail.length →
      ∃ record behind, cursor.scan (Record.decode? header) = (some record, behind) ∧
        ∀ part : Part,
          ((∃ tree ∈ trees, tree.wireType = part.type) → part.told record =
            part.told (Record.ofBody header family (AttrTree.packAll trees #[]).toList)) ∧
          ((∀ tree ∈ trees, tree.wireType ≠ part.type) → part.told record =
            part.told (Record.ofBody header family
              (tail.take (header.length.toNat - 20 - (AttrTree.packAll trees #[]).size)))) := by
  have packed : (AttrTree.packAll trees #[]).toList = AttrTree.encodeAll trees :=
    AttrTree.toList_packAll trees #[]
  have size : (AttrTree.packAll trees #[]).size = (AttrTree.encodeAll trees).length :=
    congrArg List.length packed
  rw [packed, size]
  constructor
  · intro cursor type here
    constructor
    · intro before tree later split typed others
      exact AttrTree.scan_of_first here fit split typed others
    · intro others found last alone
      exact AttrTree.scan_of_absent here fit others alone
  · intro cursor header family here covers present
    obtain ⟨behind, decoded⟩ := Record.scan_of_front here covers present
    refine ⟨_, behind, decoded, fun part => ⟨?_, ?_⟩⟩
    · exact fun occurs => Record.told_of_occurs _ fit occurs
    · exact fun absent => Record.told_of_absent _ fit absent

/-! Two statuses and a direction, and behind them a timeout that declares more
bytes than there are. -/

def spoiledTrees : List AttrTree := [.word32 3 5, .nested 2 [.leaf 1 [9]], .word32 3 6]

def spoiledTail : Bytes := [255, 255, 7, 0, 0, 0, 0, 1]

def spoiledHeader : Header := ⟨53, conntrackType 0, 0, 0, 0⟩

def spoiledFamily : FamilyHeader := ⟨inetFamily, familyVersion, 0⟩

/-- The message from its family header on. -/
def spoiled : Cursor := Cursor.start
  (spoiledFamily.encode ++ ((AttrTree.packAll spoiledTrees #[]).toList ++ spoiledTail))

theorem tail_hides_nothing_spoiled :
    (∀ tree ∈ spoiledTrees, tree.Fits) ∧
    (∃ behind, (spoiled.moveTo 4).scan (Attr.find? 3) = (some ⟨3, [0, 0, 0, 5]⟩, behind) ∧
      behind.data = spoiled.data ∧ behind.position = 12) ∧
    (∃ behind, (spoiled.moveTo 4).scan (Attr.find? 7) = (none, behind) ∧
      behind.data = spoiled.data ∧ behind.position = 32) ∧
    ∃ record behind, spoiled.scan (Record.decode? spoiledHeader) = (some record, behind) ∧
      Part.status.told record = .word 5 ∧ Part.timeout.told record = .word 0 := by
  have fit : ∀ tree ∈ spoiledTrees, tree.Fits := by decide
  obtain ⟨scans, decodes⟩ := tail_hides_nothing spoiledTrees spoiledTail fit
  obtain ⟨record, behind, decoded, told⟩ :=
    decodes spoiled spoiledHeader spoiledFamily rfl (by decide) (by decide)
  refine ⟨fit, ?_, ?_, record, behind, decoded, ?_, ?_⟩
  · exact (scans (spoiled.moveTo 4) 3 rfl).1 [] _ _ rfl rfl (List.forall_mem_nil _)
  · exact (scans (spoiled.moveTo 4) 7 rfl).2 (by decide) none (Cursor.start spoiledTail) (by cbv)
  · rw [(told .status).1 (by decide)]
    cbv
  · rw [(told .timeout).2 (by decide)]
    cbv

end Conntrack.Connection
