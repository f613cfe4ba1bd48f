import Conntrack.Proofs.JsonGrammar

/-!
# How values may be spelled

A value may be spelled with any space between its tokens, and with any spelling
of its numbers and texts (`Spelling`, `Spaced`). However it is spelled, its tokens
are found, and nothing of them depends on what follows, a number or a word at the
end apart (`Spelling.lexes`); so the value is read back (`Spaced.read?_eq`). An
object is complete with its brace: anything but space behind it leaves more tokens
than the object has, or none at all, and nothing is read
(`read?_eq_none_of_junk`).
-/

namespace Conntrack.Json

/-- Space between tokens. -/
def Blank (space : List Char) : Prop := ∀ character ∈ space, Scan.isSpace character

mutual

/-- A text spells a value, without space around it. -/
inductive Spelling : Json → List Char → Prop
  | null : Spelling .null ['n', 'u', 'l', 'l']
  | yes : Spelling (.boolean true) ['t', 'r', 'u', 'e']
  | no : Spelling (.boolean false) ['f', 'a', 'l', 's', 'e']
  | number {literal : List Char} (grammatical : NumberSpelling literal) :
    Spelling (.number literal) literal
  | text (pieces : List Piece) : Spelling (.text (Piece.content pieces)) (Piece.quoted pieces)
  | emptyArray {space : List Char} (blank : Blank space) :
    Spelling (.array []) ('[' :: (space ++ [']']))
  | array {item : Json} {items : List Json} {text : List Char} (inside : Items item items text) :
    Spelling (.array (item :: items)) ('[' :: text)
  | emptyObject {space : List Char} (blank : Blank space) :
    Spelling (.object []) ('\x7b' :: (space ++ ['\x7d']))
  | object {member : Option String × Json} {members : List (Option String × Json)}
    {text : List Char} (inside : Members member members text) :
    Spelling (.object (member :: members)) ('\x7b' :: text)

/-- A text spells a value, with any space around it. -/
inductive Spaced : Json → List Char → Prop
  | around {json : Json} {before text behind : List Char} (early : Blank before)
    (spelling : Spelling json text) (late : Blank behind) :
    Spaced json (before ++ (text ++ behind))

/-- A text spells the items of an array and its closing bracket. -/
inductive Items : Json → List Json → List Char → Prop
  | last {item : Json} {text : List Char} (spaced : Spaced item text) :
    Items item [] (text ++ [']'])
  | next {item other : Json} {items : List Json} {text rest : List Char}
    (spaced : Spaced item text) (more : Items other items rest) :
    Items item (other :: items) (text ++ ',' :: rest)

/-- A text spells a key and its value, with any space around them. -/
inductive Member : Option String × Json → List Char → Prop
  | pair {value : Json} {before between text : List Char} (early : Blank before)
    (pieces : List Piece) (late : Blank between) (spaced : Spaced value text) :
    Member (Piece.content pieces, value)
      (before ++ (Piece.quoted pieces ++ (between ++ ':' :: text)))

/-- A text spells the members of an object and its closing brace. -/
inductive Members : Option String × Json → List (Option String × Json) → List Char → Prop
  | last {member : Option String × Json} {text : List Char} (first : Member member text) :
    Members member [] (text ++ ['\x7d'])
  | next {member other : Option String × Json} {members : List (Option String × Json)}
    {text rest : List Char} (first : Member member text) (more : Members other members rest) :
    Members member (other :: members) (text ++ ',' :: rest)

end

/-! ## Lexing a spelling -/

/-- A value whose text is a single run. -/
def isRun : Json → Bool
  | .null | .boolean _ | .number _ => true
  | _ => false

/-- The tokens of a text are found wherever a token may begin, if it ends with a run
in front of what no run can go on with. -/
def Lexes (run : Bool) (text : List Char) (tokens : List Token) : Prop :=
  ∀ finished rest, (run → Stops rest) → Scan.finish? ⟨finished, .nothing⟩ (text ++ rest) =
    Scan.finish? ⟨tokens.reverse ++ finished, .nothing⟩ rest

section

variable {run : Bool} {text other space : List Char} {tokens more : List Token}

theorem lexes_blank (blank : Blank space) : Lexes false space [] := by
  induction space with
  | nil => exact fun _ _ _ => rfl
  | cons character space ih =>
    obtain ⟨first, others⟩ := List.forall_mem_cons.mp blank
    intro finished rest stops
    rw [List.cons_append, Scan.finish?_space first]
    exact ih others finished rest stops

theorem lexes_token (token : Token) (proper : token.Proper) :
    Lexes token.isRun token.write [token] :=
  fun _ _ stops => Scan.finish?_token proper stops

theorem lexes_quoted (pieces : List Piece) :
    Lexes false (Piece.quoted pieces) [.text (Piece.content pieces)] :=
  fun _ _ _ => Scan.finish?_quoted pieces

theorem Blank.stops (blank : Blank space) (stops : Stops other) : Stops (space ++ other) := by
  cases space with
  | nil => exact stops
  | cons character space => exact stops_of_punctuation _ (stops_space blank character rfl)

namespace Lexes

theorem apart (lexes : Lexes run text tokens) : Lexes true text tokens :=
  fun finished rest stops => lexes finished rest fun _ => stops rfl

theorem append (lexes : Lexes false text tokens) (lexes' : Lexes run other more) :
    Lexes run (text ++ other) (tokens ++ more) := by
  intro finished rest stops
  rw [List.append_assoc, lexes _ _ nofun, lexes' _ _ stops, List.reverse_append, List.append_assoc]

/-- Punctuation ends a run. -/
theorem followed (lexes : Lexes true text tokens) (lexes' : Lexes false other more)
    (stops : ∀ rest, Stops (other ++ rest)) : Lexes false (text ++ other) (tokens ++ more) := by
  intro finished rest _
  rw [List.append_assoc, lexes _ _ fun _ => stops rest, lexes' _ _ nofun, List.reverse_append,
    List.append_assoc]

theorem blank (lexes : Lexes true text tokens) (blank : Blank space) :
    Lexes true (text ++ space) tokens := by
  intro finished rest stops
  rw [List.append_assoc, lexes _ _ fun _ => blank.stops (stops rfl), lexes_blank blank _ _ nofun]
  rfl

end Lexes

end

theorem lexes_spaced {json : Json} {text : List Char}
    (inner : ∀ {text}, Spelling json text → Lexes json.isRun text json.tokens)
    (spaced : Spaced json text) : Lexes true text json.tokens := by
  cases spaced with
  | around early spelling late =>
    exact (lexes_blank early).append ((inner spelling).apart.blank late)

theorem lexes_member {key : Option String} {value : Json} {text : List Char}
    (inner : ∀ {text}, Spelling value text → Lexes value.isRun text value.tokens)
    (member : Member (key, value) text) :
    Lexes true text (.text key :: .colon :: value.tokens) := by
  cases member with
  | pair early pieces late spaced =>
    have lexed := (lexes_token .colon trivial).append (lexes_spaced inner spaced)
    exact (lexes_blank early).append
      ((lexes_quoted pieces).append ((lexes_blank late).append lexed))

mutual

/-- However a value is spelled, its tokens are found. -/
theorem Spelling.lexes (json : Json) {text : List Char} (spelling : Spelling json text) :
    Lexes json.isRun text json.tokens := by
  match json, text, spelling with
  | _, _, .null => exact lexes_token .null trivial
  | _, _, .yes => exact lexes_token (.boolean true) trivial
  | _, _, .no => exact lexes_token (.boolean false) trivial
  | _, _, .number grammatical => exact lexes_token (.number _) grammatical.isNumberLiteral
  | _, _, .text pieces => exact lexes_quoted pieces
  | _, _, .emptyArray blank =>
    have closed := (lexes_blank blank).append (lexes_token .closeArray trivial)
    exact (lexes_token .openArray trivial).append closed
  | .array (item :: items), _, .array inside =>
    exact (lexes_token .openArray trivial).append (Items.lexes item items inside)
  | _, _, .emptyObject blank =>
    have closed := (lexes_blank blank).append (lexes_token .closeObject trivial)
    exact (lexes_token .openObject trivial).append closed
  | .object ((key, value) :: members), _, .object inside =>
    exact (lexes_token .openObject trivial).append (Members.lexes key value members inside)
termination_by sizeOf json

theorem Items.lexes (item : Json) (items : List Json) {text : List Char}
    (inside : Items item items text) : Lexes false text (item.tokens ++ itemTokens items) := by
  match items, text, inside with
  | _, _, .last spaced =>
    have first := lexes_spaced (Spelling.lexes item) spaced
    have closed := lexes_token .closeArray trivial
    exact first.followed closed fun rest => stops_of_punctuation rest (by decide)
  | other :: items, _, .next spaced more =>
    have first := lexes_spaced (Spelling.lexes item) spaced
    have others := (lexes_token .comma trivial).append (Items.lexes other items more)
    exact first.followed others fun rest => stops_of_punctuation _ (by decide)
termination_by sizeOf (item :: items)

theorem Members.lexes (key : Option String) (value : Json) (members : List (Option String × Json))
    {text : List Char} (inside : Members (key, value) members text) :
    Lexes false text (.text key :: .colon :: (value.tokens ++ memberTokens members)) := by
  match members, text, inside with
  | _, _, .last member =>
    have first := lexes_member (Spelling.lexes value) member
    have closed := lexes_token .closeObject trivial
    exact first.followed closed fun rest => stops_of_punctuation rest (by decide)
  | (other, value') :: members, _, .next member more =>
    have first := lexes_member (Spelling.lexes value) member
    have others := (lexes_token .comma trivial).append (Members.lexes other value' members more)
    exact first.followed others fun rest => stops_of_punctuation _ (by decide)
termination_by sizeOf ((key, value) :: members)

end

/-! ## What is spelled inside -/

theorem Spaced.exists_spelling {json : Json} {text : List Char} (spaced : Spaced json text) :
    ∃ text, Spelling json text := by
  cases spaced with
  | around early spelling late => exact ⟨_, spelling⟩

theorem Items.exists_spelling {item : Json} (items : List Json) {text : List Char}
    (inside : Items item items text) : ∀ other ∈ item :: items, ∃ text, Spelling other text := by
  match items, text, inside with
  | _, _, .last spaced => exact List.forall_mem_singleton.mpr spaced.exists_spelling
  | _ :: items, _, .next spaced more =>
    exact List.forall_mem_cons.mpr ⟨spaced.exists_spelling, Items.exists_spelling items more⟩

theorem Member.exists_spelling {member : Option String × Json} {text : List Char}
    (spelled : Member member text) : ∃ text, Spelling member.2 text := by
  cases spelled with
  | pair early pieces late spaced => exact spaced.exists_spelling

theorem Members.exists_spelling {member : Option String × Json}
    (members : List (Option String × Json)) {text : List Char}
    (inside : Members member members text) :
    ∀ other ∈ member :: members, ∃ text, Spelling other.2 text := by
  match members, text, inside with
  | _, _, .last first => exact List.forall_mem_singleton.mpr first.exists_spelling
  | _ :: members, _, .next first more =>
    exact List.forall_mem_cons.mpr ⟨first.exists_spelling, Members.exists_spelling members more⟩

/-- Whatever stands in an array that is spelled is spelled itself. -/
theorem Spelling.of_item {items : List Json} {text : List Char}
    (spelling : Spelling (.array items) text) : ∀ item ∈ items, ∃ text, Spelling item text := by
  cases spelling with
  | emptyArray blank => exact List.forall_mem_nil _
  | array inside => exact inside.exists_spelling

theorem Spelling.of_member {members : List (Option String × Json)} {text : List Char}
    (spelling : Spelling (.object members) text) :
    ∀ member ∈ members, ∃ text, Spelling member.2 text := by
  cases spelling with
  | emptyObject blank => exact List.forall_mem_nil _
  | object inside => exact inside.exists_spelling

/-! ## Reading a spelling -/

/-- A value is read back from any of its spellings. -/
theorem Spaced.read?_eq {json : Json} {text : List Char} (spaced : Spaced json text) :
    read? text = some json := by
  have found := lexes_spaced (Spelling.lexes json) spaced [] [] nofun
  rw [List.append_nil, List.append_nil] at found
  have lexed : tokens? text = some json.tokens := by
    change (Scan.finish? ⟨[], .nothing⟩ text).map List.reverse = _
    rw [found]
    exact congrArg some (List.reverse_reverse _)
  rw [read?, lexed, Option.bind_some, ofTokens?_tokens]

/-! ## What follows an object -/

namespace Scan

/-- A scan holds something more than the given tokens, finished or not. -/
def Beyond (before : List Token) (scan : Scan) : Prop :=
  ∃ more, scan.finished = more ++ before ∧ (more = [] → scan.pending ≠ .nothing)

variable {before tokens more : List Token} {scan next : Scan} {character : Char}

theorem beyond_of_pending (kept : scan.finished = more ++ before)
    (unfinished : scan.pending ≠ .nothing) : scan.Beyond before :=
  ⟨more, kept, fun _ => unfinished⟩

theorem begin?_extends (begun : begin? before character = some scan) :
    ∃ more, scan.finished = more ++ before ∧
      (isSpace character = false → more = [] → scan.pending ≠ .nothing) := by
  unfold begin? at begun
  split at begun
  · next blank =>
    cases begun
    exact ⟨[], rfl, fun other => absurd blank (by simp [other])⟩
  split at begun
  · cases begun
    exact ⟨[], rfl, fun _ _ => nofun⟩
  split at begun
  · cases begun
    exact ⟨[], rfl, fun _ _ => nofun⟩
  split at begun
  · cases begun
    exact ⟨[], rfl, fun _ _ => nofun⟩
  · obtain ⟨token, -, rfl⟩ := Option.map_eq_some_iff.mp begun
    exact ⟨[token], rfl, nofun⟩

theorem Beyond.flush? (beyond : scan.Beyond before) (flushed : scan.flush? = some tokens) :
    ∃ more, tokens = more ++ before ∧ more ≠ [] := by
  obtain ⟨finished, pending⟩ := scan
  obtain ⟨more, rfl, unfinished⟩ := beyond
  cases pending with
  | nothing =>
    cases flushed
    exact ⟨more, rfl, fun none => unfinished none rfl⟩
  | number reversed =>
    obtain ⟨-, same⟩ := Option.ite_none_right_eq_some.mp flushed
    cases same
    exact ⟨_ :: more, rfl, nofun⟩
  | word reversed =>
    obtain ⟨token, -, rfl⟩ := Option.map_eq_some_iff.mp flushed
    exact ⟨_ :: more, rfl, nofun⟩
  | text soFar escape => cases flushed

/-- A token that ends and one that may begin behind it. -/
theorem Beyond.flush?_begin? (beyond : scan.Beyond before)
    (stepped : scan.flush?.bind (begin? · character) = some next) : next.Beyond before := by
  obtain ⟨tokens, flushed, begun⟩ := Option.bind_eq_some_iff.mp stepped
  obtain ⟨more, rfl, filled⟩ := beyond.flush? flushed
  obtain ⟨later, finished, -⟩ := begin?_extends begun
  refine ⟨later ++ more, by rw [finished, List.append_assoc], fun none => ?_⟩
  exact absurd (List.append_eq_nil_iff.mp none).2 filled

/-- A token that goes on, or ends and lets another begin. -/
theorem Beyond.grow_or_begin? {grows : Prop} [Decidable grows] {pending : Pending}
    (beyond : scan.Beyond before) (unfinished : pending ≠ .nothing)
    (stepped : (if grows then some ⟨scan.finished, pending⟩
      else scan.flush?.bind (begin? · character)) = some next) : next.Beyond before := by
  split at stepped
  · cases stepped
    obtain ⟨more, kept, -⟩ := beyond
    exact beyond_of_pending kept unfinished
  · exact beyond.flush?_begin? stepped

theorem beyond_of_inText? {finished : List Token} {soFar : TextSoFar} {escape : Escape}
    (kept : finished = more ++ before)
    (stepped : inText? finished soFar character escape = some next) : next.Beyond before := by
  cases escape with
  | outside =>
    simp only [inText?] at stepped
    split at stepped
    · cases stepped
      exact ⟨_ :: more, congrArg (List.cons _) kept, fun none => absurd none (List.cons_ne_nil _ _)⟩
    split at stepped
    · cases stepped
      exact beyond_of_pending kept Pending.noConfusion
    split at stepped
    · cases stepped
    · cases stepped
      exact beyond_of_pending kept Pending.noConfusion
  | backslash =>
    simp only [inText?] at stepped
    split at stepped
    · cases stepped
      exact beyond_of_pending kept Pending.noConfusion
    · obtain ⟨meant, -, rfl⟩ := Option.map_eq_some_iff.mp stepped
      exact beyond_of_pending kept Pending.noConfusion
  | unit missing value =>
    obtain ⟨digit, -, rfl⟩ := Option.map_eq_some_iff.mp stepped
    split
    · exact beyond_of_pending kept Pending.noConfusion
    · exact beyond_of_pending kept Pending.noConfusion

theorem Beyond.step? (beyond : scan.Beyond before) (stepped : scan.step? character = some next) :
    next.Beyond before := by
  obtain ⟨finished, pending⟩ := scan
  cases pending with
  | nothing => exact beyond.flush?_begin? stepped
  | number reversed => exact beyond.grow_or_begin? Pending.noConfusion stepped
  | word reversed => exact beyond.grow_or_begin? Pending.noConfusion stepped
  | text soFar escape =>
    obtain ⟨more, kept, -⟩ := beyond
    exact beyond_of_inText? kept stepped

theorem Beyond.finish? {text : List Char} (beyond : scan.Beyond before)
    (finishes : scan.finish? text = some tokens) : ∃ more, tokens = more ++ before ∧ more ≠ [] := by
  induction text generalizing scan with
  | nil => exact beyond.flush? finishes
  | cons character text ih =>
    rw [finish?_cons] at finishes
    obtain ⟨next, stepped, finishes⟩ := Option.bind_eq_some_iff.mp finishes
    exact ih (beyond.step? stepped) finishes

/-- Anything but space is a token or a part of one. -/
theorem finish?_junk {junk : List Char} (foreign : ∃ character ∈ junk, isSpace character = false)
    (finishes : finish? ⟨before, .nothing⟩ junk = some tokens) :
    ∃ more, tokens = more ++ before ∧ more ≠ [] := by
  induction junk with
  | nil => simp at foreign
  | cons character junk ih =>
    cases blank : isSpace character with
    | true =>
      rw [finish?_space blank] at finishes
      obtain ⟨other, member, foreign⟩ := foreign
      rcases List.mem_cons.mp member with rfl | member
      · cases blank.symm.trans foreign
      · exact ih ⟨other, member, foreign⟩ finishes
    | false =>
      rw [finish?_cons] at finishes
      obtain ⟨next, begun, finishes⟩ := Option.bind_eq_some_iff.mp finishes
      obtain ⟨more, finished, filled⟩ := begin?_extends begun
      exact Beyond.finish? ⟨more, finished, filled blank⟩ finishes

end Scan

/-- Nothing goes on behind a complete value. -/
theorem ofTokens?_append {json : Json} {more : List Token} (filled : more ≠ []) :
    ofTokens? (json.tokens ++ more) = none := by
  obtain ⟨token, more, rfl⟩ := List.exists_cons_of_ne_nil filled
  have read : Reading.start.through? (json.tokens ++ token :: more) = none :=
    json.through?_tokens [] (token :: more)
  unfold Reading.through? at read
  rw [ofTokens?, read]

/-- An object is complete with its brace, and only space may follow. -/
theorem read?_eq_none_of_junk {members : List (Option String × Json)} {before text junk : List Char}
    (early : Blank before) (spelling : Spelling (.object members) text)
    (foreign : ∃ character ∈ junk, Scan.isSpace character = false) :
    read? (before ++ (text ++ junk)) = none := by
  have lexed := (lexes_blank early).append (spelling.lexes) [] junk nofun
  rw [List.append_assoc] at lexed
  have split : tokens? (before ++ (text ++ junk)) = (Scan.finish?
      ⟨(object members).tokens.reverse ++ [], .nothing⟩ junk).map List.reverse := by
    exact congrArg (Option.map List.reverse) lexed
  rw [read?, split]
  cases finishes : Scan.finish? ⟨(object members).tokens.reverse ++ [], .nothing⟩ junk with
  | none => rfl
  | some tokens =>
    obtain ⟨more, rfl, filled⟩ := Scan.finish?_junk foreign finishes
    rw [Option.map_some, Option.bind_some, List.append_nil, List.reverse_append,
      List.reverse_reverse]
    exact ofTokens?_append (mt List.reverse_eq_nil_iff.mp filled)

end Conntrack.Json
