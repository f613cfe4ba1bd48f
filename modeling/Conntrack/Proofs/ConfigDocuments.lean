import Conntrack.Config.Document
import Conntrack.Proofs.JsonSpelling

/-!
# Configurations survive their documents

A document that tells some of the fields (`Told`) is read as the configuration
with these fields and the defaults of the others, however it is spelled, in
whatever order the fields stand and whatever other members stand between them. A
field that is told twice or with a value that does not suit it (`Suits`) spoils
the document, and so does anything but space behind it (`survives_json`).
-/

namespace Conntrack.Config

open Text

/-- The keys of the fields, in the order in which they are written. -/
def keys : List String := [receiveBufferKey, receiveTimeoutKey, groupsKey]

def groupsJson (groups : List UInt32) : Json :=
  .array (groups.map fun group => .natural group.toNat)

/-- Some of the fields, each with its value. -/
structure Told where
  receiveBuffer : Option UInt64
  receiveTimeout : Option UInt64
  groups : Option (List UInt32)
  deriving DecidableEq, Repr

namespace Told

/-- The configuration with the fields that are told, and the defaults of the others. -/
def config (told : Told) : Config where
  receiveBuffer := told.receiveBuffer.getD defaultReceiveBuffer
  receiveTimeout := told.receiveTimeout.getD defaultReceiveTimeout
  groups := told.groups.getD []

/-- The members that tell them. -/
def members (told : Told) : List (String × Json) :=
  (told.receiveBuffer.map fun size => (receiveBufferKey, .natural size.toNat)).toList ++
    (told.receiveTimeout.map fun seconds => (receiveTimeoutKey, .natural seconds.toNat)).toList ++
    (told.groups.map fun groups => (groupsKey, groupsJson groups)).toList

/-- All fields of a configuration. -/
def all (config : Config) : Told :=
  ⟨some config.receiveBuffer, some config.receiveTimeout, some config.groups⟩

end Told

/-- The values that a field can take. -/
inductive Suits : String → Json → Prop
  | receiveBuffer (size : UInt64) : Suits receiveBufferKey (.natural size.toNat)
  | receiveTimeout (seconds : UInt64) : Suits receiveTimeoutKey (.natural seconds.toNat)
  | groups (groups : List UInt32) : Suits groupsKey (groupsJson groups)

/-! ## Values of fields -/

theorem word64?_natural (word : UInt64) : word64? (.natural word.toNat) = some word := by
  rw [Json.natural, word64?, Decimal.readBelow?_write word.toNat_lt, Option.map_some,
    UInt64.ofNat_toNat]

theorem word32?_natural (word : UInt32) : word32? (.natural word.toNat) = some word := by
  rw [Json.natural, word32?, Decimal.readBelow?_write word.toNat_lt, Option.map_some,
    UInt32.ofNat_toNat]

theorem groups?_groupsJson (groups : List UInt32) : groups? (groupsJson groups) = some groups := by
  rw [groupsJson, groups?, List.mapM_map]
  induction groups with
  | nil => rfl
  | cons group groups ih =>
    rw [List.mapM_cons, Function.comp_apply, word32?_natural, ih]
    rfl

/-- A literal below a bound is a plain number. -/
theorem eq_natural_of_readBelow? {literal text : List Char} {bound value : Nat}
    (spelling : Json.Spelling (.number literal) text)
    (read : Decimal.readBelow? bound literal = some value) :
    value < bound ∧ Json.number literal = .natural value := by
  cases spelling with
  | number grammatical =>
    obtain ⟨small, rfl⟩ := grammatical.eq_write read
    exact ⟨small, rfl⟩

theorem eq_natural_of_word64? {value : Json} {text : List Char} {word : UInt64}
    (spelling : Json.Spelling value text) (read : word64? value = some word) :
    value = .natural word.toNat := by
  cases value with
  | number literal =>
    obtain ⟨number, below, rfl⟩ := Option.map_eq_some_iff.mp read
    obtain ⟨small, same⟩ := eq_natural_of_readBelow? spelling below
    rw [same, UInt64.toNat_ofNat_of_lt' small]
  | _ => cases read

theorem eq_natural_of_word32? {value : Json} {text : List Char} {word : UInt32}
    (spelling : Json.Spelling value text) (read : word32? value = some word) :
    value = .natural word.toNat := by
  cases value with
  | number literal =>
    obtain ⟨number, below, rfl⟩ := Option.map_eq_some_iff.mp read
    obtain ⟨small, same⟩ := eq_natural_of_readBelow? spelling below
    rw [same, UInt32.toNat_ofNat_of_lt' small]
  | _ => cases read

theorem eq_map_of_mapM {items : List Json} {groups : List UInt32}
    (spelled : ∀ item ∈ items, ∃ text, Json.Spelling item text)
    (read : items.mapM word32? = some groups) :
    items = groups.map fun group => .natural group.toNat := by
  induction items generalizing groups with
  | nil =>
    cases read
    rfl
  | cons item items ih =>
    obtain ⟨⟨text, spelling⟩, spelled⟩ := List.forall_mem_cons.mp spelled
    rw [List.mapM_cons] at read
    obtain ⟨group, first, read⟩ := Option.bind_eq_some_iff.mp read
    obtain ⟨more, others, read⟩ := Option.bind_eq_some_iff.mp read
    cases read
    rw [List.map_cons, eq_natural_of_word32? spelling first, ih spelled others]

theorem eq_groupsJson_of_groups? {value : Json} {text : List Char} {groups : List UInt32}
    (spelling : Json.Spelling value text) (read : groups? value = some groups) :
    value = groupsJson groups := by
  cases value with
  | array items => exact congrArg Json.array (eq_map_of_mapM spelling.of_item read)
  | _ => cases read

/-! ## Objects -/

section

variable {members told : List (String × Json)} {key : String}

/-- The members of an object under one of the keys are those among the known ones. -/
theorem perm_filter_of_perm (kept : (members.filter fun member => member.1 ∈ keys).Perm told)
    (known : key ∈ keys) :
    ((members.map fun (key, value) => (some key, value)).filter (·.1 == some key)).Perm
      ((told.filter (·.1 == key)).map fun (key, value) => (some key, value)) := by
  have same : members.filter (·.1 == key) =
      (members.filter fun member => member.1 ∈ keys).filter (·.1 == key) := by
    rw [List.filter_filter]
    refine List.filter_congr fun member _ => ?_
    by_cases named : member.1 = key
    · simp [named, known]
    · simp [named]
  have renamed : ((fun member : Option String × Json => member.1 == some key) ∘
      fun (key, value) => (some key, value)) = fun member : String × Json => member.1 == key :=
    funext fun _ => rfl
  rw [List.filter_map, renamed, same]
  exact (kept.filter _).map _

/-- A field that is told once or not at all, in any place among other members. -/
theorem field?_of_told {α : Type} {read? : Json → Option α} {value : Option α} {json : α → Json}
    (default : α) (reads : ∀ value, read? (json value) = some value)
    (kept : (members.filter fun member => member.1 ∈ keys).Perm told) (known : key ∈ keys)
    (own : told.filter (·.1 == key) = (value.map fun value => (key, json value)).toList) :
    field? (members.map fun (key, value) => (some key, value)) key read? default =
      some (value.getD default) := by
  have alone := perm_filter_of_perm kept known
  rw [own] at alone
  cases value with
  | none =>
    rw [field?, List.perm_nil.mp alone]
    rfl
  | some value =>
    rw [field?, List.perm_singleton.mp alone]
    exact reads value

end

/-- Each field has a key of its own. -/
theorem Told.filter_members (told : Told) :
    told.members.filter (·.1 == receiveBufferKey) =
        (told.receiveBuffer.map fun size => (receiveBufferKey, .natural size.toNat)).toList ∧
      told.members.filter (·.1 == receiveTimeoutKey) =
        (told.receiveTimeout.map
          fun seconds => (receiveTimeoutKey, .natural seconds.toNat)).toList ∧
      told.members.filter (·.1 == groupsKey) =
        (told.groups.map fun groups => (groupsKey, groupsJson groups)).toList := by
  obtain ⟨buffer, timeout, groups⟩ := told
  cases buffer <;> cases timeout <;> cases groups <;> exact ⟨rfl, rfl, rfl⟩

/-- An object with some of the fields is the configuration that tells them. -/
theorem ofMembers?_of_told {told : Told} {members : List (String × Json)}
    (kept : (members.filter fun member => member.1 ∈ keys).Perm told.members) :
    ofMembers? (members.map fun (key, value) => (some key, value)) = some told.config := by
  have proper : (members.map fun (key, value) => (some key, value)).all (·.1.isSome) := by
    rw [List.all_map, List.all_eq_true]
    exact fun _ _ => rfl
  obtain ⟨buffer, timeout, groups⟩ := told.filter_members
  have bufferRead := field?_of_told defaultReceiveBuffer word64?_natural kept (by decide) buffer
  have timeoutRead := field?_of_told defaultReceiveTimeout word64?_natural kept (by decide) timeout
  have groupsRead := field?_of_told [] groups?_groupsJson kept (by decide) groups
  rw [ofMembers?, if_pos proper, bufferRead, timeoutRead, groupsRead]
  rfl

/-- An object is read only if each of its fields is. -/
theorem fields_of_ofMembers? {members : List (Option String × Json)} {config : Config}
    (read : ofMembers? members = some config) :
    field? members receiveBufferKey word64? defaultReceiveBuffer = some config.receiveBuffer ∧
      field? members receiveTimeoutKey word64? defaultReceiveTimeout =
        some config.receiveTimeout ∧
      field? members groupsKey groups? [] = some config.groups := by
  obtain ⟨-, read⟩ := Option.ite_none_right_eq_some.mp read
  obtain ⟨buffer, bufferRead, read⟩ := Option.bind_eq_some_iff.mp read
  obtain ⟨timeout, timeoutRead, read⟩ := Option.bind_eq_some_iff.mp read
  obtain ⟨groups, groupsRead, read⟩ := Option.bind_eq_some_iff.mp read
  cases read
  exact ⟨bufferRead, timeoutRead, groupsRead⟩

/-- A field that is read stands there once at most, with a value that suits it. -/
theorem once_of_field? {α : Type} {members : List (Option String × Json)} {key : String}
    {read? : Json → Option α} {default result : α}
    (spelled : ∀ member ∈ members, ∃ text, Json.Spelling member.2 text)
    (sound : ∀ {value text held}, Json.Spelling value text → read? value = some held →
      Suits key value)
    (read : field? members key read? default = some result) :
    members.countP (·.1 == some key) ≤ 1 ∧
      ∀ value, (some key, value) ∈ members → Suits key value := by
  have found : ∀ value, (some key, value) ∈ members →
      (some key, value) ∈ members.filter (·.1 == some key) :=
    fun value member => List.mem_filter.mpr ⟨member, beq_self_eq_true _⟩
  rw [List.countP_eq_length_filter]
  unfold field? at read
  split at read
  · next none =>
    rw [none] at found ⊢
    exact ⟨Nat.zero_le 1, fun value member => absurd (found value member) List.not_mem_nil⟩
  · next other once =>
    rw [once] at found ⊢
    refine ⟨Nat.le_refl 1, fun value member => ?_⟩
    obtain ⟨-, rfl⟩ := Prod.mk.inj (List.mem_singleton.mp (found value member))
    obtain ⟨text, spelling⟩ := spelled _ member
    exact sound spelling read
  · cases read

/-- An object is read only if each field stands there once at most and suits. -/
theorem once_of_ofMembers? {members : List (Option String × Json)} {config : Config}
    (spelled : ∀ member ∈ members, ∃ text, Json.Spelling member.2 text)
    (read : ofMembers? members = some config) :
    ∀ key ∈ keys, members.countP (·.1 == some key) ≤ 1 ∧
      ∀ value, (some key, value) ∈ members → Suits key value := by
  obtain ⟨buffer, timeout, groups⟩ := fields_of_ofMembers? read
  have first := once_of_field? spelled (fun spelling held =>
    eq_natural_of_word64? spelling held ▸ Suits.receiveBuffer _) buffer
  have second := once_of_field? spelled (fun spelling held =>
    eq_natural_of_word64? spelling held ▸ Suits.receiveTimeout _) timeout
  have third := once_of_field? spelled (fun spelling held =>
    eq_groupsJson_of_groups? spelling held ▸ Suits.groups _) groups
  exact List.forall_mem_cons.mpr ⟨first, List.forall_mem_cons.mpr ⟨second,
    List.forall_mem_singleton.mpr third⟩⟩

/-! ## Documents -/

theorem read?_of_spaced {json : Json} {text : String} (spaced : Json.Spaced json text.toList) :
    read? text = ofJson? json := by
  rw [read?, spaced.read?_eq]
  rfl

theorem proper_natural (value : Nat) : ∀ token ∈ (Json.natural value).tokens, token.Proper :=
  List.forall_mem_singleton.mpr (Json.isNumberLiteral_write value)

theorem proper_itemTokens (groups : List UInt32) :
    ∀ token ∈ Json.itemTokens (groups.map fun group => .natural group.toNat), token.Proper := by
  induction groups with
  | nil => exact List.forall_mem_singleton.mpr trivial
  | cons group groups ih =>
    simp only [List.map_cons, Json.itemTokens, List.forall_mem_cons, List.forall_mem_append]
    exact ⟨trivial, proper_natural _, ih⟩

theorem proper_groupsJson (groups : List UInt32) :
    ∀ token ∈ (groupsJson groups).tokens, token.Proper := by
  have items := proper_itemTokens groups
  cases groups with
  | nil => exact List.forall_mem_cons.mpr ⟨trivial, items⟩
  | cons group groups =>
    -- the first item has a bracket where the others have a comma
    exact List.forall_mem_cons.mpr ⟨trivial, (List.forall_mem_cons.mp items).2⟩

theorem proper_toJson (config : Config) : ∀ token ∈ config.toJson.tokens, token.Proper := by
  have groups : ∀ token ∈ (Json.array
      (config.groups.map fun group => .natural group.toNat)).tokens, token.Proper :=
    proper_groupsJson config.groups
  simp only [toJson, Json.record, List.map_cons, List.map_nil, Json.tokens, Json.memberTokens,
    List.forall_mem_cons, List.forall_mem_append]
  exact ⟨trivial, trivial, trivial, proper_natural _, trivial, trivial, trivial, proper_natural _,
    trivial, trivial, trivial, groups, trivial, List.forall_mem_nil _⟩

/-- What is written tells all fields. -/
theorem read?_write (config : Config) : read? config.write = some config := by
  have written : Json.read? (config.toJson.write ++ []) = some config.toJson :=
    config.toJson.read?_write config.proper_toJson (List.forall_mem_nil _)
  have kept : ((Told.all config).members.filter fun member => member.1 ∈ keys).Perm
      (Told.all config).members := .refl _
  rw [List.append_nil] at written
  rw [read?, write, String.toList_ofList, written]
  exact ofMembers?_of_told kept

/-- A configuration is read back from what is written for it. Any document that
tells some of the fields, in any order and among any other members, is read as the
configuration that it tells, however it is spelled. It is refused if it tells a
field twice, if a field has a value that does not suit it, and if anything but
space follows. -/
theorem survives_json :
    (∀ config : Config, read? config.write = some config) ∧
      (∀ (told : Told) (members : List (String × Json)) (text : String),
        (members.filter fun member => member.1 ∈ keys).Perm told.members →
          Json.Spaced (.record members) text.toList → read? text = some told.config) ∧
      (∀ (members : List (Option String × Json)) (text : String),
        Json.Spaced (.object members) text.toList →
          (∀ key ∈ keys, 2 ≤ members.countP (·.1 == some key) → read? text = none) ∧
          ∀ key ∈ keys, ∀ value, (some key, value) ∈ members → ¬ Suits key value →
            read? text = none) ∧
      ∀ (members : List (Option String × Json)) (before body junk : List Char),
        Json.Blank before → Json.Spelling (.object members) body →
          (∃ character ∈ junk, Json.Scan.isSpace character = false) →
            read? (String.ofList (before ++ (body ++ junk))) = none := by
  refine ⟨read?_write, ?_, ?_, ?_⟩
  · intro told members text kept spaced
    rw [read?_of_spaced spaced]
    exact ofMembers?_of_told kept
  · intro members text spaced
    obtain ⟨body, spelling⟩ := spaced.exists_spelling
    rw [read?_of_spaced spaced]
    have accepted := fun (config : Config) (read : ofMembers? members = some config) =>
      once_of_ofMembers? spelling.of_member read
    constructor
    · intro key known twice
      rw [Option.eq_none_iff_forall_ne_some]
      intro config read
      have once := (accepted config read key known).1
      omega
    · intro key known value member unsuited
      rw [Option.eq_none_iff_forall_ne_some]
      intro config read
      exact unsuited ((accepted config read key known).2 value member)
  · intro members before body junk early spelling foreign
    rw [read?, String.toList_ofList, Json.read?_eq_none_of_junk early spelling foreign]
    rfl

/-! Members of documents: one with another key, and two about groups, with the key in
another spelling and a number within and beyond the range. -/

def groupsPieces : List Json.Piece :=
  [.unit ⟨'0', 0, rfl⟩ ⟨'0', 0, rfl⟩ ⟨'6', 6, rfl⟩ ⟨'7', 7, rfl⟩, .plain 'r' (by decide),
    .plain 'o' (by decide), .plain 'u' (by decide), .plain 'p' (by decide), .plain 's' (by decide)]

def otherMember : List Char :=
  Json.Piece.quoted [.plain 'x' (by decide)] ++ [':', '[', '1', 'e', '9', ']']

def groupsMember (number : List Char) : List Char :=
  Json.Piece.quoted groupsPieces ++ ':' :: '[' :: (number ++ [']'])

def beyondRange : List Char := ['4', '2', '9', '4', '9', '6', '7', '2', '9', '6']

theorem spelled_digits {text : List Char} (filled : text ≠ []) (digits : text.all Char.isDigit)
    (leads : text.head? ≠ some '0') : Json.NumberSpelling text := by
  have integer : Json.IntegerPart text := .digits ⟨filled, List.all_eq_true.mp digits⟩ leads
  have parts := Json.NumberSpelling.parts (.inl rfl) integer .none .none
  rwa [List.nil_append, List.append_nil, List.append_nil] at parts

/-- A member without space whose value is an array of one number. -/
theorem spelled_member (pieces : List Json.Piece) {number : List Char}
    (grammatical : Json.NumberSpelling number) :
    Json.Member (Json.Piece.content pieces, .array [.number number])
      (Json.Piece.quoted pieces ++ ':' :: '[' :: (number ++ [']'])) := by
  have blank : Json.Blank [] := List.forall_mem_nil _
  have item := Json.Spaced.around blank (.number grammatical) blank
  rw [List.append_nil] at item
  have value := Json.Spaced.around blank (.array (.last item)) blank
  rw [List.append_nil] at value
  exact .pair blank pieces blank value

theorem not_suits_beyondRange : ¬ Suits groupsKey (.array [.number beyondRange]) := by
  have refused : groups? (.array [.number beyondRange]) = none := rfl
  generalize named : groupsKey = key
  generalize held : Json.array [.number beyondRange] = value at refused
  intro suits
  cases suits with
  | receiveBuffer size => cases held
  | receiveTimeout seconds => cases held
  | groups groups =>
    rw [groups?_groupsJson] at refused
    cases refused

theorem survives_json_groups :
    read? (String.ofList ('\x7b' :: (otherMember ++ ',' :: (groupsMember ['3'] ++ ['\x7d'])))) =
        some ⟨32768, 1, [3]⟩ ∧
      read? (String.ofList
        ('\x7b' :: (groupsMember ['3'] ++ ',' :: (groupsMember ['3'] ++ ['\x7d'])))) = none ∧
      read? (String.ofList ('\x7b' :: (groupsMember beyondRange ++ ['\x7d']))) = none ∧
      read? (String.ofList
        (' ' :: '\x7b' :: (groupsMember ['3'] ++ ['\x7d'] ++ [' ', '!']))) = none := by
  have blank : Json.Blank [] := List.forall_mem_nil _
  have nine : Json.Digits ['9'] := ⟨List.cons_ne_nil _ _, List.forall_mem_singleton.mpr rfl⟩
  have one : Json.IntegerPart ['1'] :=
    .digits ⟨List.cons_ne_nil _ _, List.forall_mem_singleton.mpr rfl⟩ (by decide)
  have scaled : Json.ExponentPart ['e', '9'] := .digits (.inl rfl) (.inl rfl) nine
  have exponent : Json.NumberSpelling ['1', 'e', '9'] := .parts (.inl rfl) one .none scaled
  have three : Json.NumberSpelling ['3'] := spelled_digits nofun rfl (by decide)
  have other := spelled_member [.plain 'x' (by decide)] exponent
  have groups := spelled_member groupsPieces three
  have beyond := spelled_member groupsPieces
    (spelled_digits (List.cons_ne_nil _ _) rfl (by decide) : Json.NumberSpelling beyondRange)
  obtain ⟨-, told, refused, junk⟩ := survives_json
  refine ⟨?_, ?_, ?_, ?_⟩
  · have spaced := Json.Spaced.around blank (.object (.next other (.last groups))) blank
    rw [List.append_nil, List.nil_append] at spaced
    refine told ⟨none, none, some [3]⟩
      [("x", .array [.number ['1', 'e', '9']]), ("groups", .array [.number ['3']])] _ (.refl _) ?_
    rw [String.toList_ofList]
    exact spaced
  · have spaced := Json.Spaced.around blank (.object (.next groups (.last groups))) blank
    rw [List.append_nil, List.nil_append, ← String.toList_ofList (l := _ :: _)] at spaced
    exact (refused _ _ spaced).1 groupsKey (by decide) (by decide)
  · have spaced := Json.Spaced.around blank (.object (.last beyond)) blank
    rw [List.append_nil, List.nil_append, ← String.toList_ofList (l := _ :: _)] at spaced
    exact (refused _ _ spaced).2 groupsKey (by decide) _ List.mem_cons_self not_suits_beyondRange
  · have early : Json.Blank [' '] := List.forall_mem_singleton.mpr rfl
    have body := Json.Spelling.object (.last groups)
    have spoiled := junk _ [' '] _ [' ', '!'] early body ⟨'!', by decide⟩
    exact spoiled

end Conntrack.Config
