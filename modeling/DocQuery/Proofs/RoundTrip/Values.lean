import DocQuery.Json.Reader
import DocQuery.Proofs.RoundTrip.Tokens
import DocQuery.Proofs.ValueEquality

/-!
# Values read back

Reading the compact text of a value gives the value, as long as it is not nested too deeply
and no object has a key twice.  Of a key that comes twice the first place and the last value
are read, at any depth.
-/

namespace DocQuery

namespace Json

/-! ## Tokens of a written value -/

namespace Raw

mutual

/-- The tokens of a written value. -/
def tokens : Raw → List Token
  | null => [.null]
  | bool value => [.bool value]
  | number literal => [.number literal]
  | string pieces => [.string pieces]
  | array items => .openArray :: (itemTokens items ++ [.closeArray])
  | object members => .openObject :: (memberTokens members ++ [.closeObject])

/-- The tokens of written items with commas between them. -/
def itemTokens : List Raw → List Token
  | [] => []
  | item :: rest =>
      match rest with
      | [] => tokens item
      | _ :: _ => tokens item ++ .comma :: itemTokens rest

/-- The tokens of written members with commas between them. -/
def memberTokens : List (List Piece × Raw) → List Token
  | [] => []
  | (key, value) :: rest =>
      match rest with
      | [] => .string key :: .colon :: tokens value
      | _ :: _ => .string key :: .colon :: (tokens value ++ .comma :: memberTokens rest)

end

/-- No value starts with the end of an array. -/
theorem foldlM_tokens_first (value : Raw) (frames : List Frame) (rest : List Token) :
    (value.tokens ++ rest).foldlM step (.valueOrClose frames) =
      (value.tokens ++ rest).foldlM step (.value (.array [] :: frames)) := by
  cases value <;> simp only [tokens, List.cons_append] <;> rfl

mutual

/-- The tokens of a written value are read as the value. -/
theorem foldlM_tokens : ∀ (value : Raw) (frames : List Frame) (rest : List Token),
    (value.tokens ++ rest).foldlM step (.value frames) =
      rest.foldlM step (complete value frames)
  | null, _, _ => rfl
  | bool _, _, _ => rfl
  | number _, _, _ => rfl
  | string _, _, _ => rfl
  | array [], _, _ => rfl
  | array (item :: items), frames, rest => by
      have hopen : (tokens (.array (item :: items)) ++ rest).foldlM step (.value frames) =
          (itemTokens (item :: items) ++ .closeArray :: rest).foldlM step
            (.valueOrClose frames) := by
        rw [tokens]
        simp only [List.cons_append, List.append_assoc, List.nil_append]
        rfl
      have hfirst : (itemTokens (item :: items) ++ .closeArray :: rest).foldlM step
          (.valueOrClose frames) = (itemTokens (item :: items) ++ .closeArray :: rest).foldlM step
            (.value (.array [] :: frames)) := by
        cases items with
        | nil =>
            exact foldlM_tokens_first item frames _
        | cons =>
            rw [itemTokens, List.append_assoc]
            exact foldlM_tokens_first item frames _
      rw [hopen, hfirst, foldlM_itemTokens (item :: items) (List.cons_ne_nil _ _)]
      rfl
  | object [], _, _ => rfl
  | object (member :: members), frames, rest => by
      have hopen : (tokens (.object (member :: members)) ++ rest).foldlM step (.value frames) =
          (memberTokens (member :: members) ++ .closeObject :: rest).foldlM step
            (.keyOrClose frames) := by
        rw [tokens]
        simp only [List.cons_append, List.append_assoc, List.nil_append]
        rfl
      have hfirst : (memberTokens (member :: members) ++ .closeObject :: rest).foldlM step
          (.keyOrClose frames) = (memberTokens (member :: members) ++ .closeObject :: rest).foldlM
            step (.key [] frames) := by
        cases members <;> rfl
      rw [hopen, hfirst, foldlM_memberTokens (member :: members) (List.cons_ne_nil _ _)]
      rfl

theorem foldlM_itemTokens : ∀ (items : List Raw), items ≠ [] →
    ∀ (done : List Raw) (frames : List Frame) (rest : List Token),
      (itemTokens items ++ .closeArray :: rest).foldlM step (.value (.array done :: frames)) =
        rest.foldlM step (complete (.array (done.reverse ++ items)) frames)
  | [], hne, _, _, _ => absurd rfl hne
  | [item], _, done, frames, rest => by
      rw [itemTokens, foldlM_tokens item]
      change rest.foldlM step (complete (.array (item :: done).reverse) frames) = _
      rw [List.reverse_cons]
  | item :: next :: items, _, done, frames, rest => by
      rw [itemTokens, List.append_assoc, foldlM_tokens item]
      change (itemTokens (next :: items) ++ .closeArray :: rest).foldlM step
        (.value (.array (item :: done) :: frames)) = _
      rw [foldlM_itemTokens (next :: items) (List.cons_ne_nil _ _), List.reverse_cons,
        List.append_assoc, List.singleton_append]

theorem foldlM_memberTokens : ∀ (members : List (List Piece × Raw)), members ≠ [] →
    ∀ (done : List (List Piece × Raw)) (frames : List Frame) (rest : List Token),
      (memberTokens members ++ .closeObject :: rest).foldlM step (.key done frames) =
        rest.foldlM step (complete (.object (done.reverse ++ members)) frames)
  | [], hne, _, _, _ => absurd rfl hne
  | [(key, value)], _, done, frames, rest => by
      rw [memberTokens]
      change (value.tokens ++ .closeObject :: rest).foldlM step
        (.value (.member done key :: frames)) = _
      rw [foldlM_tokens value]
      change rest.foldlM step (complete (.object ((key, value) :: done).reverse) frames) = _
      rw [List.reverse_cons]
  | (key, value) :: next :: members, _, done, frames, rest => by
      rw [memberTokens]
      simp only [List.cons_append, List.append_assoc]
      change (value.tokens ++ .comma :: (memberTokens (next :: members) ++
        .closeObject :: rest)).foldlM step (.value (.member done key :: frames)) = _
      rw [foldlM_tokens value]
      change (memberTokens (next :: members) ++ .closeObject :: rest).foldlM step
        (.key ((key, value) :: done) frames) = _
      rw [foldlM_memberTokens (next :: members) (List.cons_ne_nil _ _), List.reverse_cons,
        List.append_assoc, List.singleton_append]

end

theorem ofChars?_of_lexes {cs : List Char} {value : Raw} (h : Lexes cs value.tokens) :
    ofChars? cs = some value := by
  have hfold := foldlM_tokens value [] []
  rw [List.append_nil] at hfold
  rw [ofChars?, h.tokens?]
  change (value.tokens.foldlM step (.value [])).bind _ = _
  rw [hfold]
  rfl

end Raw

/-! ## Values as they are written -/

mutual

/-- A value as its compact text writes it. -/
def written : Json → Raw
  | null => .null
  | bool value => .bool value
  | number value => .number value.literal
  | string text => .string (piecesOf text)
  | array items => .array (writtenItems items)
  | object members => .object (writtenMembers members)

def writtenItems : List Json → List Raw
  | [] => []
  | item :: rest => written item :: writtenItems rest

def writtenMembers : List (String × Json) → List (List Piece × Raw)
  | [] => []
  | (key, value) :: rest => (piecesOf key, written value) :: writtenMembers rest

end

mutual

theorem lexes_chars : ∀ value : Json, Lexes value.chars value.written.tokens
  | null => fun _ => ⟨_, rfl, rfl⟩
  | bool true => fun _ => ⟨_, rfl, rfl⟩
  | bool false => fun _ => ⟨_, rfl, rfl⟩
  | number value => by
      rw [chars, value.toList_text]
      exact lexes_literal value.wellFormed_literal
  | string text => lexes_quotedChars text
  | array items => by
      rw [chars, written, Raw.tokens]
      exact Lexes.nil.mark rfl ((lexes_itemChars items).mark rfl .nil)
  | object members => by
      rw [chars, written, Raw.tokens]
      exact Lexes.nil.mark rfl ((lexes_memberChars members).mark rfl .nil)

theorem lexes_itemChars : ∀ items : List Json,
    Lexes (itemChars items) (Raw.itemTokens (writtenItems items))
  | [] => .nil
  | [item] => lexes_chars item
  | item :: next :: rest => (lexes_chars item).mark rfl (lexes_itemChars (next :: rest))

theorem lexes_memberChars : ∀ members : List (String × Json),
    Lexes (memberChars members) (Raw.memberTokens (writtenMembers members))
  | [] => .nil
  | [(key, value)] => (lexes_quotedChars key).mark rfl (lexes_chars value)
  | (key, value) :: next :: rest =>
      (lexes_quotedChars key).mark rfl
        ((lexes_chars value).mark rfl (lexes_memberChars (next :: rest)))

end

/-! ## Depth -/

mutual

/-- How deeply arrays and objects are nested in a value. -/
def nesting : Json → Nat
  | null | bool _ | number _ | string _ => 0
  | array items => itemsNesting items + 1
  | object members => membersNesting members + 1

def itemsNesting : List Json → Nat
  | [] => 0
  | item :: rest => max item.nesting (itemsNesting rest)

def membersNesting : List (String × Json) → Nat
  | [] => 0
  | (_, value) :: rest => max value.nesting (membersNesting rest)

end

theorem itemsNesting_le {items : List Json} {depth : Nat}
    (h : ∀ item ∈ items, item.nesting ≤ depth) : itemsNesting items ≤ depth := by
  induction items with
  | nil =>
      exact Nat.zero_le depth
  | cons item rest ih =>
      have hitem := h item List.mem_cons_self
      have hrest := ih fun other hother => h other (List.mem_cons_of_mem item hother)
      rw [itemsNesting]
      omega

theorem membersNesting_le {members : List (String × Json)} {depth : Nat}
    (h : ∀ pair ∈ members, pair.2.nesting ≤ depth) : membersNesting members ≤ depth := by
  induction members with
  | nil =>
      exact Nat.zero_le depth
  | cons pair rest ih =>
      have hpair := h pair List.mem_cons_self
      have hrest := ih fun other hother => h other (List.mem_cons_of_mem pair hother)
      rw [membersNesting]
      omega

/-! ## Reading back -/

mutual

/-- A value with each key of an object once: at its first place, with its last value. -/
def collapsed : Json → Json
  | array items => array (collapsedItems items)
  | object members => object (Entries.ofPairs (collapsedMembers members))
  | value => value

def collapsedItems : List Json → List Json
  | [] => []
  | item :: rest => collapsed item :: collapsedItems rest

def collapsedMembers : List (String × Json) → List (String × Json)
  | [] => []
  | (key, value) :: rest => (key, collapsed value) :: collapsedMembers rest

end

mutual

theorem toJson?_written : ∀ (value : Json) (depth : Nat), value.nesting ≤ depth →
    Raw.toJson? depth value.written = some value.collapsed
  | null, _, _ => rfl
  | bool _, _, _ => rfl
  | number value, _, _ => by
      rw [written, Raw.toJson?, value.toNumber?_literal]
      rfl
  | string text, _, _ => by
      rw [written, Raw.toJson?, text?_piecesOf]
      rfl
  | array items, 0, h => by
      rw [nesting] at h
      omega
  | array items, depth + 1, h => by
      rw [nesting] at h
      rw [written, Raw.toJson?, itemsToJson?_written items depth (by omega)]
      rfl
  | object members, 0, h => by
      rw [nesting] at h
      omega
  | object members, depth + 1, h => by
      rw [nesting] at h
      rw [written, Raw.toJson?, membersToJson?_written members depth (by omega)]
      rfl

theorem itemsToJson?_written : ∀ (items : List Json) (depth : Nat), itemsNesting items ≤ depth →
    Raw.itemsToJson? depth (writtenItems items) = some (collapsedItems items)
  | [], _, _ => rfl
  | item :: rest, depth, h => by
      rw [itemsNesting] at h
      rw [writtenItems, Raw.itemsToJson?, toJson?_written item depth (by omega),
        itemsToJson?_written rest depth (by omega)]
      rfl

theorem membersToJson?_written : ∀ (members : List (String × Json)) (depth : Nat),
    membersNesting members ≤ depth →
    Raw.membersToJson? depth (writtenMembers members) = some (collapsedMembers members)
  | [], _, _ => rfl
  | (key, value) :: rest, depth, h => by
      rw [membersNesting] at h
      rw [writtenMembers, Raw.membersToJson?, text?_piecesOf,
        toJson?_written value depth (by omega), membersToJson?_written rest depth (by omega)]
      rfl

end

theorem ofTextWithin?_text {value : Json} {depth : Nat} (h : value.nesting ≤ depth) :
    ofTextWithin? depth value.text = some value.collapsed := by
  rw [ofTextWithin?, text, String.toList_ofList, Raw.ofChars?_of_lexes (lexes_chars value)]
  exact toJson?_written value depth h

mutual

/-- A value that is nested too deeply is refused. -/
theorem toJson?_written_of_lt : ∀ (value : Json) (depth : Nat), depth < value.nesting →
    Raw.toJson? depth value.written = none
  | null, _, h | bool _, _, h | number _, _, h | string _, _, h => absurd h (Nat.not_lt_zero _)
  | array _, 0, _ => rfl
  | array items, depth + 1, h => by
      rw [nesting] at h
      rw [written, Raw.toJson?, itemsToJson?_written_of_lt items depth (by omega)]
      rfl
  | object _, 0, _ => rfl
  | object members, depth + 1, h => by
      rw [nesting] at h
      rw [written, Raw.toJson?, membersToJson?_written_of_lt members depth (by omega)]
      rfl

theorem itemsToJson?_written_of_lt : ∀ (items : List Json) (depth : Nat),
    depth < itemsNesting items → Raw.itemsToJson? depth (writtenItems items) = none
  | [], _, h => absurd h (Nat.not_lt_zero _)
  | item :: rest, depth, h => by
      rw [itemsNesting] at h
      rw [writtenItems, Raw.itemsToJson?]
      by_cases hitem : depth < item.nesting
      · rw [toJson?_written_of_lt item depth hitem]
        rfl
      · rw [toJson?_written item depth (by omega),
          itemsToJson?_written_of_lt rest depth (by omega)]
        rfl

theorem membersToJson?_written_of_lt : ∀ (members : List (String × Json)) (depth : Nat),
    depth < membersNesting members → Raw.membersToJson? depth (writtenMembers members) = none
  | [], _, h => absurd h (Nat.not_lt_zero _)
  | (key, value) :: rest, depth, h => by
      rw [membersNesting] at h
      rw [writtenMembers, Raw.membersToJson?, text?_piecesOf]
      by_cases hvalue : depth < value.nesting
      · rw [toJson?_written_of_lt value depth hvalue]
        rfl
      · rw [toJson?_written value depth (by omega),
          membersToJson?_written_of_lt rest depth (by omega)]
        rfl

end

theorem ofTextWithin?_text_eq_some_iff {value other : Json} {depth : Nat} :
    ofTextWithin? depth value.text = some other ↔
      value.nesting ≤ depth ∧ other = value.collapsed := by
  by_cases h : value.nesting ≤ depth
  · rw [ofTextWithin?_text h, Option.some.injEq, and_iff_right h, eq_comm]
  · have hnone : ofTextWithin? depth value.text = none := by
      rw [ofTextWithin?, text, String.toList_ofList, Raw.ofChars?_of_lexes (lexes_chars value)]
      exact toJson?_written_of_lt value depth (by omega)
    rw [hnone]
    exact iff_of_false nofun fun hand => h hand.1

theorem collapsedItems_eq_map (items : List Json) : collapsedItems items = items.map collapsed := by
  induction items with
  | nil =>
      rw [collapsedItems, List.map_nil]
  | cons item rest ih =>
      rw [collapsedItems, List.map_cons, ih]

theorem collapsedMembers_eq_map (members : List (String × Json)) :
    collapsedMembers members = members.map fun pair => (pair.1, pair.2.collapsed) := by
  induction members with
  | nil =>
      rw [collapsedMembers, List.map_nil]
  | cons pair rest ih =>
      rw [collapsedMembers, List.map_cons, ih]

/-- Nothing is lost of a value without repeated keys. -/
theorem Proper.collapsed_eq {value : Json} (h : value.Proper) : value.collapsed = value := by
  induction h with
  | null | bool | number | string =>
      rw [collapsed]
      all_goals nofun
  | @array items proper ih =>
      have hitems : items.map collapsed = items.map id := List.map_congr_left ih
      rw [collapsed, collapsedItems_eq_map, hitems, List.map_id]
  | @object members distinct proper ih =>
      have hmembers : members.map (fun pair => (pair.1, pair.2.collapsed)) = members.map id :=
        List.map_congr_left fun pair hpair => Prod.ext rfl (ih pair hpair)
      rw [collapsed, collapsedMembers_eq_map, hmembers, List.map_id,
        Entries.ofPairs_of_distinct distinct]

theorem Proper.ofText?_text {value : Json} (h : value.Proper)
    (hdepth : value.nesting ≤ depthLimit) : ofText? value.text = some value := by
  rw [ofText?, ofTextWithin?_text hdepth, h.collapsed_eq]

end Json

end DocQuery
