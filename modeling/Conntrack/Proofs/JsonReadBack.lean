import Conntrack.Json.Value
import Conntrack.Proofs.JsonLexing

/-!
# Written values are read back

A value is written as a sequence of tokens without space between them
(`spells_write`), and reading this sequence leads from a place where a value
must begin to the place behind it, whatever containers are open there
(`through?_tokens`). So a value whose numbers are literals is read back from its
text (`read?_write`), and two such values with the same text are the same.
-/

namespace Conntrack.Json

mutual

/-- The tokens that a value is written as. -/
def tokens : Json → List Token
  | .null => [.null]
  | .boolean value => [.boolean value]
  | .number literal => [.number literal]
  | .text content => [.text content]
  | .array [] => [.openArray, .closeArray]
  | .array (item :: items) => .openArray :: (tokens item ++ itemTokens items)
  | .object [] => [.openObject, .closeObject]
  | .object ((key, value) :: members) =>
    .openObject :: .text key :: .colon :: (tokens value ++ memberTokens members)

def itemTokens : List Json → List Token
  | [] => [.closeArray]
  | item :: items => .comma :: (tokens item ++ itemTokens items)

def memberTokens : List (Option String × Json) → List Token
  | [] => [.closeObject]
  | (key, value) :: members =>
    .comma :: .text key :: .colon :: (tokens value ++ memberTokens members)

end

/-! ## Writing spells the tokens -/

theorem stops_of_punctuation {character : Char} (text : List Char)
    (other : isNumberCharacter character = false ∧ character.isAlpha = false) :
    Stops (character :: text) := by
  intro first same
  cases same
  exact other

/-- A token that is no run can stand in front of anything. -/
theorem Spells.behind {text : List Char} {more : List Token} (token : Token)
    (single : token.isRun = false) (spells : Spells text more) :
    Spells (token.write ++ text) (token :: more) := by
  have proper : token.Proper := by
    cases token with
    | number literal => cases single
    | _ => trivial
  refine .token proper (fun run => ?_) spells
  rw [single] at run
  cases run

theorem stops_writeItems (items : List Json) (text : List Char) :
    Stops (writeItems items ++ text) := by
  cases items with
  | nil => exact stops_of_punctuation _ (by decide)
  | cons item items => exact stops_of_punctuation _ (by decide)

theorem stops_writeMembers (members : List (Option String × Json)) (text : List Char) :
    Stops (writeMembers members ++ text) := by
  cases members with
  | nil => exact stops_of_punctuation _ (by decide)
  | cons member members => exact stops_of_punctuation _ (by decide)

mutual

/-- A written value spells its tokens in front of what stops it. -/
theorem spells_write (json : Json) {text : List Char} {more : List Token}
    (proper : ∀ token ∈ json.tokens, token.Proper) (stops : Stops text) (spells : Spells text more) :
    Spells (json.write ++ text) (json.tokens ++ more) := by
  match json with
  | .null => exact .token (proper .null List.mem_cons_self) (fun _ => stops) spells
  | .boolean true => exact .token (proper (.boolean true) List.mem_cons_self) (fun _ => stops) spells
  | .boolean false => exact .token (proper (.boolean false) List.mem_cons_self) (fun _ => stops) spells
  | .number literal => exact .token (proper (.number literal) List.mem_cons_self) (fun _ => stops) spells
  | .text content => exact .behind (.text content) rfl spells
  | .array [] => exact .behind .openArray rfl (.behind .closeArray rfl spells)
  | .array (item :: items) =>
    simp only [tokens, List.forall_mem_cons, List.forall_mem_append] at proper
    have rest := spells_writeItems items proper.2.2 spells
    have first := spells_write item proper.2.1 (stops_writeItems items text) rest
    simp only [write, tokens, List.cons_append, List.append_assoc]
    exact .behind .openArray rfl first
  | .object [] => exact .behind .openObject rfl (.behind .closeObject rfl spells)
  | .object ((key, value) :: members) =>
    simp only [tokens, List.forall_mem_cons, List.forall_mem_append] at proper
    have rest := spells_writeMembers members proper.2.2.2.2 spells
    have first := spells_write value proper.2.2.2.1 (stops_writeMembers members text) rest
    simp only [write, tokens, List.cons_append, List.append_assoc]
    exact .behind .openObject rfl (.behind (.text key) rfl (.behind .colon rfl first))

theorem spells_writeItems (items : List Json) {text : List Char} {more : List Token}
    (proper : ∀ token ∈ itemTokens items, token.Proper) (spells : Spells text more) :
    Spells (writeItems items ++ text) (itemTokens items ++ more) := by
  match items with
  | [] => exact .behind .closeArray rfl spells
  | item :: items =>
    simp only [itemTokens, List.forall_mem_cons, List.forall_mem_append] at proper
    have rest := spells_writeItems items proper.2.2 spells
    have first := spells_write item proper.2.1 (stops_writeItems items text) rest
    simp only [writeItems, itemTokens, List.cons_append, List.append_assoc]
    exact .behind .comma rfl first

theorem spells_writeMembers (members : List (Option String × Json)) {text : List Char}
    {more : List Token} (proper : ∀ token ∈ memberTokens members, token.Proper)
    (spells : Spells text more) :
    Spells (writeMembers members ++ text) (memberTokens members ++ more) := by
  match members with
  | [] => exact .behind .closeObject rfl spells
  | (key, value) :: members =>
    simp only [memberTokens, List.forall_mem_cons, List.forall_mem_append] at proper
    have rest := spells_writeMembers members proper.2.2.2.2 spells
    have first := spells_write value proper.2.2.2.1 (stops_writeMembers members text) rest
    simp only [writeMembers, memberTokens, List.cons_append, List.append_assoc]
    exact .behind .comma rfl (.behind (.text key) rfl (.behind .colon rfl first))

end

/-! ## Reading the tokens -/

/-- The state when reading goes on through more tokens. -/
def Reading.through? (reading : Reading) (tokens : List Token) : Option Reading :=
  tokens.foldlM step? reading

theorem Reading.through?_cons (reading : Reading) (token : Token) (tokens : List Token) :
    reading.through? (token :: tokens) = (reading.step? token).bind (·.through? tokens) := rfl

/-- No value begins with the end of an array. -/
theorem tokens_eq_cons (json : Json) :
    ∃ token more, json.tokens = token :: more ∧ token ≠ .closeArray := by
  match json with
  | .null => exact ⟨_, _, rfl, nofun⟩
  | .boolean value => exact ⟨_, _, rfl, nofun⟩
  | .number literal => exact ⟨_, _, rfl, nofun⟩
  | .text content => exact ⟨_, _, rfl, nofun⟩
  | .array [] => exact ⟨_, _, rfl, nofun⟩
  | .array (item :: items) => exact ⟨_, _, rfl, nofun⟩
  | .object [] => exact ⟨_, _, rfl, nofun⟩
  | .object ((key, value) :: members) => exact ⟨_, _, rfl, nofun⟩

/-- A value is read where the first item of an array may begin as anywhere else. -/
theorem through?_firstItem (json : Json) (containers : List Container) (more : List Token) :
    (⟨.firstItem, containers⟩ : Reading).through? (json.tokens ++ more) =
      (⟨.value, containers⟩ : Reading).through? (json.tokens ++ more) := by
  obtain ⟨token, rest, begins, other⟩ := json.tokens_eq_cons
  have step : Reading.step? ⟨.firstItem, containers⟩ token =
      Reading.step? ⟨.value, containers⟩ token := by
    cases token with
    | closeArray => exact absurd rfl other
    | _ => rfl
  rw [begins, List.cons_append, Reading.through?_cons, Reading.through?_cons, step]

mutual

/-- Reading the tokens of a value leads behind the value, in any containers. -/
theorem through?_tokens (json : Json) (containers : List Container) (more : List Token) :
    (⟨.value, containers⟩ : Reading).through? (json.tokens ++ more) =
      (Reading.complete json containers).through? more := by
  match json with
  | .null => rfl
  | .boolean value => rfl
  | .number literal => rfl
  | .text content => rfl
  | .array [] => rfl
  | .array (item :: items) =>
    have opened : (⟨.value, containers⟩ : Reading).through? ((array (item :: items)).tokens ++ more) =
        (⟨.firstItem, .array [] :: containers⟩ : Reading).through?
          (item.tokens ++ (itemTokens items ++ more)) := by
      rw [tokens, List.cons_append, List.append_assoc]
      rfl
    rw [opened, through?_firstItem, through?_tokens item]
    exact through?_itemTokens items [item] containers more
  | .object [] => rfl
  | .object ((key, value) :: members) =>
    have opened :
        (⟨.value, containers⟩ : Reading).through? ((object ((key, value) :: members)).tokens ++ more) =
          (⟨.value, .object [] key :: containers⟩ : Reading).through?
            (value.tokens ++ (memberTokens members ++ more)) := by
      rw [tokens, List.cons_append, List.cons_append, List.cons_append, List.append_assoc]
      rfl
    rw [opened, through?_tokens value]
    exact through?_memberTokens members [(key, value)] key containers more

theorem through?_itemTokens (items before : List Json) (outer : List Container)
    (more : List Token) :
    (⟨.separator, .array before :: outer⟩ : Reading).through? (itemTokens items ++ more) =
      (Reading.complete (.array (before.reverse ++ items)) outer).through? more := by
  match items with
  | [] =>
    rw [List.append_nil]
    rfl
  | item :: items =>
    have opened :
        (⟨.separator, .array before :: outer⟩ : Reading).through? (itemTokens (item :: items) ++ more) =
          (⟨.value, .array before :: outer⟩ : Reading).through?
            (item.tokens ++ (itemTokens items ++ more)) := by
      rw [itemTokens, List.cons_append, List.append_assoc]
      rfl
    have rest := through?_itemTokens items (item :: before) outer more
    rw [List.reverse_cons, List.append_assoc] at rest
    rw [opened, through?_tokens item]
    exact rest

theorem through?_memberTokens (members before : List (Option String × Json)) (last : Option String)
    (outer : List Container) (more : List Token) :
    (⟨.separator, .object before last :: outer⟩ : Reading).through? (memberTokens members ++ more) =
      (Reading.complete (.object (before.reverse ++ members)) outer).through? more := by
  match members with
  | [] =>
    rw [List.append_nil]
    rfl
  | (key, value) :: members =>
    have opened : (⟨.separator, .object before last :: outer⟩ : Reading).through?
          (memberTokens ((key, value) :: members) ++ more) =
        (⟨.value, .object before key :: outer⟩ : Reading).through?
          (value.tokens ++ (memberTokens members ++ more)) := by
      rw [memberTokens, List.cons_append, List.cons_append, List.cons_append, List.append_assoc]
      rfl
    have rest := through?_memberTokens members ((key, value) :: before) key outer more
    rw [List.reverse_cons, List.append_assoc] at rest
    rw [opened, through?_tokens value]
    exact rest

end

/-- The tokens of a value spell that value. -/
theorem ofTokens?_tokens (json : Json) : ofTokens? json.tokens = some json := by
  have read : Reading.start.through? json.tokens = some (Reading.complete json []) := by
    have all := json.through?_tokens [] []
    rw [List.append_nil] at all
    exact all
  unfold Reading.through? at read
  rw [ofTokens?, read]
  rfl

theorem spells_space {space : List Char} (blank : ∀ character ∈ space, Scan.isSpace character) :
    Spells space [] := by
  induction space with
  | nil => exact .done
  | cons character space ih =>
    rw [List.forall_mem_cons] at blank
    exact .space blank.1 (ih blank.2)

theorem stops_space {space : List Char} (blank : ∀ character ∈ space, Scan.isSpace character) :
    Stops space := by
  intro character first
  have member : Scan.isSpace character := blank character (List.mem_of_mem_head? first)
  simp only [Scan.isSpace, Bool.or_eq_true, beq_iff_eq] at member
  rcases member with ((rfl | rfl) | rfl) | rfl <;> decide

/-- A value whose numbers are literals is read back from its text, with any
space behind it. -/
theorem read?_write (json : Json) (proper : ∀ token ∈ json.tokens, token.Proper)
    {space : List Char} (blank : ∀ character ∈ space, Scan.isSpace character) :
    read? (json.write ++ space) = some json := by
  have spells := json.spells_write proper (stops_space blank) (spells_space blank)
  rw [List.append_nil] at spells
  rw [read?, tokens?_of_spells spells, Option.bind_some, ofTokens?_tokens]

end Conntrack.Json
