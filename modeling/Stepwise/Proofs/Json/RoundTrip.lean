import Stepwise.Json.Reader
import Stepwise.Document.Mismatch
import Stepwise.Proofs.Json.Layout

/-!
# Values are read back from their texts

A value without real numbers is read back from its text in any layout. The text is cut into the words of the
value; the words leave the containers that were open before them as they were and hand the value to the
innermost one.
-/

set_option autoImplicit false

namespace Stepwise

open Json

namespace Value

mutual

/-- A value whose numbers are whole and have 64 bits. -/
def isExact : Value → Bool
  | .number (.whole n) => Number.leastWhole ≤ n && n ≤ Number.greatestWhole
  | .number (.real _) => false
  | .list items => areExact items
  | .record fields => areExactFields fields
  | .null | .flag _ | .text _ => true

/-- No item holds a binary64 number. -/
def areExact : List Value → Bool
  | [] => true
  | item :: rest => item.isExact && areExact rest

/-- No field holds a binary64 number. -/
def areExactFields : List (String × Value) → Bool
  | [] => true
  | (_, value) :: rest => value.isExact && areExactFields rest

end

mutual

/-- How many containers nest in a value. -/
def depth : Value → Nat
  | .list items => depthOfItems items + 1
  | .record fields => depthOfFields fields + 1
  | .null | .flag _ | .number _ | .text _ => 0

/-- The depth of the deepest item. -/
def depthOfItems : List Value → Nat
  | [] => 0
  | item :: rest => max item.depth (depthOfItems rest)

/-- The depth of the deepest field. -/
def depthOfFields : List (String × Value) → Nat
  | [] => 0
  | (_, value) :: rest => max value.depth (depthOfFields rest)

end

mutual

/-- The words of a value. -/
def tokens : Value → List Token
  | .list items => .openList :: (tokensOfItems items ++ [.closeList])
  | .record fields => .openRecord :: (tokensOfFields fields ++ [.closeRecord])
  | .null => [.scalar (some .null)]
  | .flag b => [.scalar (some (.flag b))]
  | .number n => [.scalar (some (.number n))]
  | .text s => [.scalar (some (.text s))]

/-- The words of a list's items, with separators between them. -/
def tokensOfItems : List Value → List Token
  | [] => []
  | [item] => item.tokens
  | item :: rest => item.tokens ++ .comma :: tokensOfItems rest

/-- The words of a record's fields, with separators between them. -/
def tokensOfFields : List (String × Value) → List Token
  | [] => []
  | [(name, value)] => .scalar (some (.text name)) :: .colon :: value.tokens
  | (name, value) :: rest =>
    .scalar (some (.text name)) :: .colon :: (value.tokens ++ .comma :: tokensOfFields rest)

end

mutual

/-- A value whose records list their names in order. -/
def isOrdered : Value → Bool
  | .list items => areOrdered items
  | .record fields => (Table.names fields).Pairwise (· < ·) && areOrderedFields fields
  | .null | .flag _ | .number _ | .text _ => true

/-- Every record within the items has its names in order. -/
def areOrdered : List Value → Bool
  | [] => true
  | item :: rest => item.isOrdered && areOrdered rest

/-- Every record within the fields has its names in order. -/
def areOrderedFields : List (String × Value) → Bool
  | [] => true
  | (_, value) :: rest => value.isOrdered && areOrderedFields rest

end

/-- A value as a document can carry it without loss. -/
def isPlain (value : Value) : Bool := value.isExact && value.isOrdered

end Value

/-! ## The words of a laid out value -/

namespace Json.Layout

mutual

/-- The words of a laid out value are the value's words: by induction on the value, whatever the
layout. -/
theorem reads_write (layout : Layout) (level : Nat) {text : List Char} {tokens : List Token}
    (apart : IsApart text) (reads : Reads text tokens) :
    ∀ value : Value, value.isExact = true → Reads (layout.write level value ++ text) (value.tokens ++ tokens)
  | .list [], _ => (reads.sign (by decide) rfl).sign (by decide) rfl
  | .list (item :: rest), exact => by
    have closed : Reads (']' :: text) (.closeList :: tokens) := reads.sign (by decide) rfl
    have ended := reads_writeItems layout (level + 1) (.blanks (layout.isSpace_newLine level) (.cons _ (by decide)))
      (closed.blanks (layout.isSpace_newLine level)) (item :: rest) exact
    simpa [write, Value.tokens] using ended.sign (c := '[') (by decide) rfl
  | .record [], _ => (reads.sign (by decide) rfl).sign (by decide) rfl
  | .record (field :: rest), exact => by
    have closed : Reads ('}' :: text) (.closeRecord :: tokens) := reads.sign (by decide) rfl
    have ended := reads_writeFields layout (level + 1) (.blanks (layout.isSpace_newLine level) (.cons _ (by decide)))
      (closed.blanks (layout.isSpace_newLine level)) (field :: rest) exact
    simpa [write, Value.tokens] using ended.sign (c := '{') (by decide) rfl
  | .null, _ => reads.word ['u', 'l', 'l'] (by decide) rfl
  | .flag true, _ => reads.word ['r', 'u', 'e'] (by decide) rfl
  | .flag false, _ => reads.word ['a', 'l', 's', 'e'] (by decide) rfl
  | .number (.whole n), exact => by
    simp only [Value.isExact, Bool.and_eq_true, decide_eq_true_eq] at exact
    exact reads.whole exact.1 exact.2 apart
  | .text s, _ => reads.quoted s

/-- The same of the items of a list. -/
theorem reads_writeItems (layout : Layout) (level : Nat) {text : List Char} {tokens : List Token}
    (apart : IsApart text) (reads : Reads text tokens) :
    ∀ items : List Value, Value.areExact items = true →
      Reads (layout.writeItems level items ++ text) (Value.tokensOfItems items ++ tokens)
  | [], _ => reads
  | [item], exact => by
    have read := reads_write layout level apart reads item (Bool.and_eq_true_iff.mp exact).1
    simpa [writeItems, Value.tokensOfItems] using read.blanks (layout.isSpace_newLine level)
  | item :: next :: rest, exact => by
    have later := reads_writeItems layout level apart reads (next :: rest) (Bool.and_eq_true_iff.mp exact).2
    have read := reads_write layout level (.cons _ (by decide)) (later.sign (c := ',') (by decide) rfl) item
      (Bool.and_eq_true_iff.mp exact).1
    simpa [writeItems, Value.tokensOfItems] using read.blanks (layout.isSpace_newLine level)

/-- The same of the fields of a record. -/
theorem reads_writeFields (layout : Layout) (level : Nat) {text : List Char} {tokens : List Token}
    (apart : IsApart text) (reads : Reads text tokens) :
    ∀ fields : List (String × Value), Value.areExactFields fields = true →
      Reads (layout.writeFields level fields ++ text) (Value.tokensOfFields fields ++ tokens)
  | [], _ => reads
  | [(name, value)], exact => by
    have read := reads_write layout level apart reads value (Bool.and_eq_true_iff.mp exact).1
    have named := ((read.blanks layout.isSpace_gap).sign (c := ':') (by decide) rfl).quoted name
    simpa [writeFields, Value.tokensOfFields] using named.blanks (layout.isSpace_newLine level)
  | (name, value) :: next :: rest, exact => by
    have later := reads_writeFields layout level apart reads (next :: rest) (Bool.and_eq_true_iff.mp exact).2
    have read := reads_write layout level (.cons _ (by decide)) (later.sign (c := ',') (by decide) rfl) value
      (Bool.and_eq_true_iff.mp exact).1
    have named := ((read.blanks layout.isSpace_gap).sign (c := ':') (by decide) rfl).quoted name
    simpa [writeFields, Value.tokensOfFields] using named.blanks (layout.isSpace_newLine level)

end

end Json.Layout

/-! ## The tree of the words -/

namespace Json

variable {limit : Nat} {stack : List Frame} {expect : Expect} {result : Option Node}

/-- A scalar is taken wherever a value is awaited. -/
theorem State.step_scalar {state : State} (awaited : state.expect.isValue = true) (value : Option Value) :
    state.step limit (.scalar value) = some (state.supply (scalarNode value)) := by
  simp [State.step, awaited]

/-- A text is taken as a name where a key is awaited. -/
theorem State.step_name (awaited : expect = .key ∨ expect = .keyOrClose) (entries : List (Node × Node))
    (name : String) :
    State.step limit ⟨.record entries none :: stack, expect, result⟩ (.scalar (some (.text name))) =
      some ⟨.record entries (some (Node.ofScalar (.text name))) :: stack, .colon, result⟩ := by
  rcases awaited with rfl | rfl <;> rfl

/-- A list is opened wherever a value is awaited. -/
theorem State.step_openList (awaited : expect.isValue = true) :
    State.step limit ⟨stack, expect, result⟩ .openList =
      some ⟨.list [] :: stack, .valueOrClose, result⟩ := by
  simp [State.step, awaited]

/-- A record is opened wherever a value is awaited. -/
theorem State.step_openRecord (awaited : expect.isValue = true) :
    State.step limit ⟨stack, expect, result⟩ .openRecord =
      some ⟨.record [] none :: stack, .keyOrClose, result⟩ := by
  simp [State.step, awaited]

/-- A list that is within the limit of nesting is closed into the value it holds. -/
theorem State.step_closeList (awaited : expect = .separator ∨ expect = .valueOrClose)
    (shallow : stack.length < limit) (items : List Node) (before : Expect) :
    State.step limit ⟨.list items :: stack, expect, result⟩ .closeList =
      some (State.supply ⟨stack, before, result⟩ (.list style items.reverse)) := by
  have deep : ¬ limit ≤ stack.length := by omega
  simp only [State.step, if_pos awaited, State.close, if_neg deep]
  rcases stack with _ | ⟨_ | ⟨_, _ | _⟩, _⟩ <;> rfl

/-- A record that is within the limit of nesting is closed into the value it holds. -/
theorem State.step_closeRecord (awaited : expect = .separator ∨ expect = .keyOrClose)
    (shallow : stack.length < limit) (entries : List (Node × Node)) (before : Expect) :
    State.step limit ⟨.record entries none :: stack, expect, result⟩ .closeRecord =
      some (State.supply ⟨stack, before, result⟩ (.mapping style entries.reverse)) := by
  have deep : ¬ limit ≤ stack.length := by omega
  simp only [State.step, if_pos awaited, State.close, if_neg deep]
  rcases stack with _ | ⟨_ | ⟨_, _ | _⟩, _⟩ <;> rfl

mutual

/-- The words of a value hand its tree to the innermost open container. -/
theorem foldlM_tokens (later : List Token) : ∀ (value : Value) (state : State), state.expect.isValue = true →
    state.stack.length + value.depth ≤ limit →
      (value.tokens ++ later).foldlM (State.step limit) state =
        later.foldlM (State.step limit) (state.supply (Node.ofValue value))
  | .list [], ⟨stack, expect, result⟩, awaited, shallow => by
    have closed : State.step limit ⟨.list [] :: stack, .valueOrClose, result⟩ .closeList = _ :=
      State.step_closeList (.inr rfl) (Nat.lt_of_succ_le shallow) [] expect
    simp only [Value.tokens, Value.tokensOfItems, List.nil_append, List.cons_append, List.foldlM_cons,
      State.step_openList awaited, Option.bind_eq_bind, Option.bind_some, closed]
    rfl
  | .list (item :: rest), ⟨stack, expect, result⟩, awaited, shallow => by
    simp only [Value.depth] at shallow
    have closed : State.step limit ⟨.list (Node.ofItems (item :: rest)).reverse :: stack, .separator, result⟩
        .closeList = _ :=
      State.step_closeList (.inl rfl) (by omega) _ expect
    rw [Value.tokens, List.cons_append, List.append_assoc, List.foldlM_cons, State.step_openList awaited,
      Option.bind_eq_bind, Option.bind_some,
      foldlM_tokensOfItems _ stack result (item :: rest) [] .valueOrClose (by simp) rfl (by omega), List.append_nil,
      List.singleton_append, List.foldlM_cons, closed, List.reverse_reverse]
    rfl
  | .record [], ⟨stack, expect, result⟩, awaited, shallow => by
    have closed : State.step limit ⟨.record [] none :: stack, .keyOrClose, result⟩ .closeRecord = _ :=
      State.step_closeRecord (.inr rfl) (Nat.lt_of_succ_le shallow) [] expect
    simp only [Value.tokens, Value.tokensOfFields, List.nil_append, List.cons_append, List.foldlM_cons,
      State.step_openRecord awaited, Option.bind_eq_bind, Option.bind_some, closed]
    rfl
  | .record (field :: rest), ⟨stack, expect, result⟩, awaited, shallow => by
    simp only [Value.depth] at shallow
    have closed : State.step limit
        ⟨.record (Node.ofFields (field :: rest)).reverse none :: stack, .separator, result⟩ .closeRecord = _ :=
      State.step_closeRecord (.inl rfl) (by omega) _ expect
    rw [Value.tokens, List.cons_append, List.append_assoc, List.foldlM_cons, State.step_openRecord awaited,
      Option.bind_eq_bind, Option.bind_some,
      foldlM_tokensOfFields _ stack result (field :: rest) [] .keyOrClose (by simp) (.inr rfl) (by omega),
      List.append_nil,
      List.singleton_append, List.foldlM_cons, closed, List.reverse_reverse]
    rfl
  | .null, state, awaited, _ | .flag _, state, awaited, _ | .number _, state, awaited, _
  | .text _, state, awaited, _ => by
    simp only [Value.tokens, List.singleton_append, List.foldlM_cons, State.step_scalar awaited]
    rfl

/-- The words of some items put those items on the list that is open. -/
theorem foldlM_tokensOfItems (later : List Token) (stack : List Frame) (result : Option Node) :
    ∀ (items : List Value) (read : List Node) (expect : Expect), items ≠ [] → expect.isValue = true →
      stack.length + 1 + Value.depthOfItems items ≤ limit →
        (Value.tokensOfItems items ++ later).foldlM (State.step limit)
            ⟨.list read :: stack, expect, result⟩ =
          later.foldlM (State.step limit)
            ⟨.list ((Node.ofItems items).reverse ++ read) :: stack, .separator, result⟩
  | [], _, _, nonempty, _, _ => absurd rfl nonempty
  | [item], read, expect, _, awaited, shallow => by
    simp only [Value.depthOfItems] at shallow
    exact foldlM_tokens later item ⟨.list read :: stack, expect, result⟩ awaited
      (by rw [List.length_cons]; omega)
  | item :: next :: rest, read, expect, _, awaited, shallow => by
    rw [Value.depthOfItems] at shallow
    have first := foldlM_tokens (.comma :: (Value.tokensOfItems (next :: rest) ++ later)) item
      ⟨.list read :: stack, expect, result⟩ awaited (by rw [List.length_cons]; omega)
    have others := foldlM_tokensOfItems later stack result (next :: rest) (Node.ofValue item :: read) .value
      (by simp) rfl (by omega)
    rw [Value.tokensOfItems, List.append_assoc, List.cons_append, first, Node.ofItems, List.reverse_cons,
      List.append_assoc]
    · exact others
    · simp

/-- The words of some fields put those fields in the record that is open. -/
theorem foldlM_tokensOfFields (later : List Token) (stack : List Frame) (result : Option Node) :
    ∀ (fields : List (String × Value)) (read : List (Node × Node)) (expect : Expect), fields ≠ [] →
      expect = .key ∨ expect = .keyOrClose → stack.length + 1 + Value.depthOfFields fields ≤ limit →
        (Value.tokensOfFields fields ++ later).foldlM (State.step limit)
            ⟨.record read none :: stack, expect, result⟩ =
          later.foldlM (State.step limit)
            ⟨.record ((Node.ofFields fields).reverse ++ read) none :: stack, .separator, result⟩
  | [], _, _, nonempty, _, _ => absurd rfl nonempty
  | [(name, value)], read, expect, _, awaited, shallow => by
    simp only [Value.depthOfFields] at shallow
    have first := foldlM_tokens later value
      ⟨.record read (some (Node.ofScalar (.text name))) :: stack, .value, result⟩ rfl
      (by rw [List.length_cons]; omega)
    rw [Value.tokensOfFields, List.cons_append, List.foldlM_cons, State.step_name awaited]
    exact first
  | (name, value) :: next :: rest, read, expect, _, awaited, shallow => by
    rw [Value.depthOfFields] at shallow
    have first := foldlM_tokens (.comma :: (Value.tokensOfFields (next :: rest) ++ later)) value
      ⟨.record read (some (Node.ofScalar (.text name))) :: stack, .value, result⟩ rfl
      (by rw [List.length_cons]; omega)
    have others := foldlM_tokensOfFields later stack result (next :: rest)
      ((Node.ofScalar (.text name), Node.ofValue value) :: read) .key (by simp) (.inl rfl) (by omega)
    rw [Value.tokensOfFields, List.cons_append, List.foldlM_cons, State.step_name awaited, Node.ofFields,
      List.reverse_cons, List.append_assoc]
    · rw [List.cons_append, List.append_assoc, List.cons_append]
      exact first.trans others
    · simp

end

end Json

/-! ## The value of the tree -/

namespace Table

variable {α : Type}

/-- A name behind all others is put at the end. -/
theorem put_append {table : Table α} {name : String} (behind : ∀ other ∈ names table, other < name)
    (value : α) : put table name value = table ++ [(name, value)] := by
  induction table with
  | nil => rfl
  | cons entry rest ih =>
    obtain ⟨key, old⟩ := entry
    have before : key < name := behind key (by simp [names])
    have distinct : name ≠ key := fun same => Std.lt_irrefl (same ▸ before)
    have notBefore : ¬ name < key := fun before' => Std.lt_irrefl (Std.lt_trans before before')
    rw [put, if_neg distinct, if_neg notBefore,
      ih fun other member => behind other (List.mem_cons_of_mem _ member)]
    rfl

/-- A table made of entries in order is those entries. -/
theorem ofList_eq_self {entries : List (String × α)} (sorted : Sorted entries) : ofList entries = entries := by
  have folded : ∀ (entries table : List (String × α)), Sorted (table ++ entries) →
      entries.foldl (fun table entry => put table entry.1 entry.2) table = table ++ entries := by
    intro entries
    induction entries with
    | nil => simp
    | cons entry rest ih =>
      intro table sorted
      have behind : ∀ other ∈ names table, other < entry.1 := by
        rw [Sorted, names, List.map_append, List.pairwise_append] at sorted
        exact fun other member => sorted.2.2 other member entry.1 (by simp)
      rw [List.foldl_cons, put_append behind, ih, List.append_assoc, List.singleton_append]
      rwa [List.append_assoc]
  exact folded entries [] sorted

end Table

namespace Node

mutual

/-- The tree of a value stands for the value. -/
theorem value?_ofValue : ∀ value : Value, value.isOrdered = true → (ofValue value).value? = some value
  | .list items, ordered => by
    rw [ofValue, value?, values?_ofItems items ordered]
    rfl
  | .record fields, ordered => by
    have both := Bool.and_eq_true_iff.mp ordered
    have sorted : (Table.names fields).Pairwise (· < ·) := of_decide_eq_true both.1
    rw [ofValue, value?, entryValues?_ofFields fields both.2]
    simp only [plainStyle, Bool.false_eq_true, if_false, Option.map_some, Table.ofList_eq_self sorted]
  | .null, _ | .flag _, _ | .number _, _ | .text _, _ => rfl

/-- The items of a list are read back from their nodes. -/
theorem values?_ofItems : ∀ items : List Value, Value.areOrdered items = true →
    values? (ofItems items) = some items
  | [], _ => rfl
  | item :: rest, ordered => by
    have both := Bool.and_eq_true_iff.mp ordered
    rw [ofItems, values?, value?_ofValue item both.1, values?_ofItems rest both.2]

/-- The fields of a record are read back from their nodes. -/
theorem entryValues?_ofFields : ∀ fields : List (String × Value), Value.areOrderedFields fields = true →
    entryValues? (ofFields fields) = some fields
  | [], _ => rfl
  | (name, value) :: rest, ordered => by
    have both := Bool.and_eq_true_iff.mp ordered
    simp only [ofFields, ofScalar, entryValues?, value?_ofValue value both.1,
      entryValues?_ofFields rest both.2]
    rfl

end

end Node

/-! ## Reading back -/

namespace Json

/-- A value without real numbers that does not nest too deep is read from its text in any layout. -/
theorem read?_write {limit : Nat} (layout : Layout) {value : Value} (exact : value.isExact = true)
    (shallow : value.depth ≤ limit) :
    read? limit (String.ofList (layout.write 0 value)) = some (Node.ofValue value) := by
  have reads := layout.reads_write 0 .nil .nil value exact
  have folded := @foldlM_tokens limit [] value ⟨[], .value, none⟩ rfl
    (by rw [List.length_nil]; omega)
  rw [List.append_nil] at reads
  rw [read?, String.toList_ofList, reads.tokens?_eq, Option.bind_eq_bind, Option.bind_some, folded]
  rfl

end Json

end Stepwise
