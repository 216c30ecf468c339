import Mathlib.Data.List.Forall2
import Stepwise.Proofs.Json.RoundTrip
import Stepwise.Proofs.Value.Words

/-!
# Canonical texts

The canonical text of a value is the compact text of the value with its fields in order. It tells values
apart: two values have one canonical text exactly if they are the same value, in whatever order their fields
were given.

For one direction no text can be mistaken for another, even with more text behind it: what is left behind a
value never goes on with a numeral, quotes say where they end, and every kind of value has its own first
characters (`compactChars_isReadable`). For the other, fields that are in order stand in the same places
(`IsSame.compactChars_eq`).
-/

set_option autoImplicit false

namespace Stepwise

namespace Value

mutual

/-- The value with the fields of its records in order. A field that is given twice is found, and kept, where
it stands first. -/
def sorted : Value → Value
  | .list items => .list (sortedItems items)
  | .record fields => .record (sortedFields fields)
  | .null => .null
  | .flag b => .flag b
  | .number n => .number n
  | .text s => .text s

/-- The items of a list, each with its records in order. -/
def sortedItems : List Value → List Value
  | [] => []
  | item :: rest => item.sorted :: sortedItems rest

/-- The fields of a record in order, each with the records in it in order. -/
def sortedFields : List (String × Value) → List (String × Value)
  | [] => []
  | (name, value) :: rest => Table.put (sortedFields rest) name value.sorted

end

/-- The text of a value that does not depend on the order of its fields. -/
def canonical (value : Value) : String := value.sorted.compact

/-- Two values are the same if they are of one kind, with equal flags, whole numbers and texts, real numbers
of one printed form, lists the same item by item, and records with the same names and the same value under
each of them. -/
inductive IsSame : Value → Value → Prop
  | null : IsSame .null .null
  | flag (b : Bool) : IsSame (.flag b) (.flag b)
  | whole (n : Int) : IsSame (.number (.whole n)) (.number (.whole n))
  | real {x y : Binary64} (printed : x.text = y.text) : IsSame (.number (.real x)) (.number (.real y))
  | text (s : String) : IsSame (.text s) (.text s)
  | list {xs ys : List Value} (sizes : xs.length = ys.length)
      (items : ∀ (i : Nat) (x y : Value), xs[i]? = some x → ys[i]? = some y → IsSame x y) :
      IsSame (.list xs) (.list ys)
  | record {xs ys : List (String × Value)}
      (names : ∀ name, name ∈ Table.names xs ↔ name ∈ Table.names ys)
      (values : ∀ (name : String) (x y : Value), Table.get? xs name = some x → Table.get? ys name = some y →
        IsSame x y) :
      IsSame (.record xs) (.record ys)

/-- Values by induction on what is in their lists and records. -/
theorem induction {motive : Value → Prop} (null : motive .null) (flag : ∀ b, motive (.flag b))
    (number : ∀ n, motive (.number n)) (text : ∀ s, motive (.text s))
    (list : ∀ items, (∀ item ∈ items, motive item) → motive (.list items))
    (record : ∀ fields, (∀ field ∈ fields, motive field.2) → motive (.record fields)) (value : Value) :
    motive value := by
  refine @Value.rec motive (fun items => ∀ item ∈ items, motive item)
    (fun fields => ∀ field ∈ fields, motive field.2) (fun field => motive field.2) null flag number text list
    record ?_ ?_ ?_ ?_ ?_ value
  · simp
  · intro item rest first others
    exact List.forall_mem_cons.mpr ⟨first, others⟩
  · simp
  · intro field rest first others
    exact List.forall_mem_cons.mpr ⟨first, others⟩
  · intro name value ih
    exact ih

end Value

/-! ## Texts that end by themselves -/

/-- A text that does not go on with a numeral. -/
def EndsWord (rest : List Char) : Prop := ∀ c ∈ rest.head?, isNumeral c = false

/-- The end of the text ends a numeral. -/
theorem EndsWord.nil : EndsWord [] := by simp [EndsWord]

/-- So does every character that no numeral has. -/
theorem EndsWord.cons {c : Char} (rest : List Char) (other : isNumeral c = false) : EndsWord (c :: rest) := by
  simpa [EndsWord] using other

/-- What `x` is written as is the beginning of no text but those of its likes, and ends where theirs end. -/
def IsReadable {α : Type} (write : α → List Char) (same : α → α → Prop) (x : α) : Prop :=
  ∀ (y : α) (s t : List Char), EndsWord s → EndsWord t → write x ++ s = write y ++ t → same x y ∧ s = t

/-- A quoted text is told from every other text's, as it ends at its closing quote. -/
theorem quoted_isReadable (s : String) : IsReadable quoted (· = ·) s := by
  intro t rest rest' _ _ equal
  have read := Json.next?_quoted s rest
  rw [equal, Json.next?_quoted] at read
  simp only [Option.some.injEq, Prod.mk.injEq, Json.Token.scalar.injEq, Value.text.injEq] at read
  exact ⟨read.1.symm, read.2.symm⟩

/-- The characters of a numeral are cut off again where the word ends. -/
theorem takeWhile_isNumeral {word rest : List Char} (numeral : ∀ c ∈ word, isNumeral c = true)
    (ends : EndsWord rest) : (word ++ rest).takeWhile isNumeral = word := by
  have stops : rest.takeWhile isNumeral = [] := by
    cases rest with
    | nil => rfl
    | cons c rest =>
      have other := ends c rfl
      simp [other]
  rw [List.takeWhile_append_of_pos numeral, stops, List.append_nil]

/-- A number's characters are told from every other number's, as long as the word ends. -/
theorem Number.chars_isReadable (m : Number) : IsReadable chars (fun m n => m.chars = n.chars) m := by
  intro n s t endsLeft endsRight equal
  have same : m.chars = n.chars := by
    rw [← takeWhile_isNumeral m.isNumeral_of_mem_chars endsLeft, equal,
      takeWhile_isNumeral n.isNumeral_of_mem_chars endsRight]
  rw [same] at equal
  exact ⟨same, List.append_cancel_left equal⟩

/-! ## Texts with commas between them -/

/-- The texts, each with a comma before it. -/
def followed (texts : List (List Char)) : List Char := texts.flatMap (',' :: ·)

/-- The texts with commas between them. -/
def separated : List (List Char) → List Char
  | [] => []
  | first :: rest => first ++ followed rest

/-- A comma ends a word, and so does the closing sign. -/
theorem endsWord_followed (texts : List (List Char)) {close : Char} (ends : isNumeral close = false)
    (rest : List Char) : EndsWord (followed texts ++ close :: rest) := by
  cases texts with
  | nil => exact .cons rest ends
  | cons text texts => exact .cons _ (by decide)

section Cancel

variable {α : Type} {write : α → List Char} {same : α → α → Prop} {close : Char} {s t : List Char}

/-- Texts with commas before them that are told from each other are told from each other as a whole.
-/
theorem followed_cancel (ends : isNumeral close = false) (noComma : close ≠ ',') {xs ys : List α}
    (readable : ∀ x ∈ xs, IsReadable write same x)
    (equal : followed (xs.map write) ++ close :: s = followed (ys.map write) ++ close :: t) :
    List.Forall₂ same xs ys ∧ s = t := by
  induction xs generalizing ys with
  | nil =>
    cases ys with
    | nil => exact ⟨.nil, (List.cons.inj equal).2⟩
    | cons y ys => exact absurd (List.cons.inj equal).1 noComma
  | cons x xs ih =>
    cases ys with
    | nil => exact absurd (List.cons.inj equal).1.symm noComma
    | cons y ys =>
      simp only [followed, List.map_cons, List.flatMap_cons, List.cons_append, List.append_assoc,
        List.cons.injEq, true_and] at equal
      obtain ⟨first, behind⟩ := readable x List.mem_cons_self y _ _ (endsWord_followed _ ends s)
        (endsWord_followed _ ends t) equal
      obtain ⟨others, last⟩ := ih (fun x member => readable x (List.mem_cons_of_mem _ member)) behind
      exact ⟨.cons first others, last⟩

/-- Texts with commas between them are told apart as each of them is, up to a closing character that begins
none of them. -/
theorem separated_cancel (ends : isNumeral close = false) (noComma : close ≠ ',')
    (foreign : ∀ x, (write x).head?.any (· ≠ close) = true) {xs ys : List α}
    (readable : ∀ x ∈ xs, IsReadable write same x)
    (equal : separated (xs.map write) ++ close :: s = separated (ys.map write) ++ close :: t) :
    List.Forall₂ same xs ys ∧ s = t := by
  have opens : ∀ x rest rest', close :: rest ≠ write x ++ rest' := by
    intro x rest rest' equal
    have first := foreign x
    cases written : write x with
    | nil => simp [written] at first
    | cons c text =>
      rw [written] at equal first
      obtain ⟨rfl, -⟩ := List.cons.inj equal
      simp at first
  cases xs with
  | nil =>
    cases ys with
    | nil => exact ⟨.nil, (List.cons.inj equal).2⟩
    | cons y ys => exact absurd (equal.trans (List.append_assoc _ _ _)) (opens y _ _)
  | cons x xs =>
    cases ys with
    | nil => exact absurd (equal.symm.trans (List.append_assoc _ _ _)) (opens x _ _)
    | cons y ys =>
      simp only [separated, List.map_cons, List.append_assoc] at equal
      obtain ⟨first, behind⟩ := readable x List.mem_cons_self y _ _ (endsWord_followed _ ends s)
        (endsWord_followed _ ends t) equal
      obtain ⟨others, last⟩ :=
        followed_cancel ends noComma (fun x member => readable x (List.mem_cons_of_mem _ member)) behind
      exact ⟨.cons first others, last⟩

end Cancel

/-! ## Numbers -/

/-- A real number is written with a point or with a power. -/
theorem Binary64.mark_mem_text (x : Binary64) : '.' ∈ x.text.toList ∨ 'e' ∈ x.text.toList := by
  unfold text
  simp only
  split
  · left
    simp
  · split
    · split
      · left
        simp
      · left
        simp
    · right
      simp only [String.toList_append, List.mem_append]
      refine .inl (.inr ?_)
      split <;> decide

/-- No number is written as nothing. -/
theorem Number.chars_ne_nil (n : Number) : n.chars ≠ [] := by
  cases n with
  | whole n => exact Text.toString_ne_nil n
  | real x => exact x.mark_mem_text.elim List.ne_nil_of_mem List.ne_nil_of_mem

/-- No whole number is written as a real one is. -/
theorem Number.chars_whole_ne_real (n : Int) (x : Binary64) : (whole n).chars ≠ (real x).chars := by
  intro same
  have plain : '.' ∉ (whole n).chars ∧ 'e' ∉ (whole n).chars := by
    constructor <;>
    · intro member
      exact absurd (Text.isDigit_of_mem_toString member) (by decide)
  rw [same] at plain
  exact x.mark_mem_text.elim plain.1 plain.2

/-- Numbers that are written alike are the same value. -/
theorem Number.isSame_of_chars_eq {m n : Number} (same : m.chars = n.chars) :
    Value.IsSame (.number m) (.number n) := by
  cases m with
  | whole m =>
    cases n with
    | whole n => exact Text.toString_inj same ▸ .whole m
    | real y => exact absurd same (chars_whole_ne_real m y)
  | real x =>
    cases n with
    | whole n => exact absurd same.symm (chars_whole_ne_real n x)
    | real y => exact .real (String.toList_inj.mp same)

namespace Value

/-! ## The kind of a value -/

/-- The kinds of values, as the first character of the text tells them. -/
inductive Kind where
  | null | flag | number | text | list | record
deriving DecidableEq

/-- The kind of a value. -/
def kind : Value → Kind
  | .null => .null
  | .flag _ => .flag
  | .number _ => .number
  | .text _ => .text
  | .list _ => .list
  | .record _ => .record

/-- The kind of the values that begin with a character. -/
def Kind.ofChar? (c : Char) : Option Kind :=
  if c = 'n' then some .null
  else if c = 't' ∨ c = 'f' then some .flag
  else if c = '"' then some .text
  else if c = '[' then some .list
  else if c = '{' then some .record
  else if isNumeral c then some .number
  else none

/-- A character of a numeral tells the kind of numbers. -/
theorem Kind.ofChar?_numeral {c : Char} (numeral : isNumeral c = true) : Kind.ofChar? c = some .number := by
  have other : ∀ d, isNumeral d = false → c ≠ d := by
    rintro d plain rfl
    exact absurd numeral (by simp [plain])
  simp [ofChar?, numeral, other 'n' (by decide), other 't' (by decide), other 'f' (by decide),
    other '"' (by decide), other '[' (by decide), other '{' (by decide)]

/-- The first character of a value tells its kind. -/
theorem head?_compactChars (value : Value) :
    value.compactChars.head?.bind Kind.ofChar? = some value.kind := by
  cases value with
  | null => rfl
  | flag b => cases b <;> rfl
  | number n =>
    obtain ⟨c, rest, written⟩ := List.exists_cons_of_ne_nil n.chars_ne_nil
    have numeral : isNumeral c = true := n.isNumeral_of_mem_chars c (by simp [written])
    rw [compactChars, written]
    exact Kind.ofChar?_numeral numeral
  | text s => rfl
  | list items => rfl
  | record fields => rfl

/-- No value begins with a sign that belongs to no kind. -/
theorem head?_compactChars_any {close : Char} (foreign : Kind.ofChar? close = none) (value : Value) :
    value.compactChars.head?.any (· ≠ close) = true := by
  obtain ⟨c, first, ofFirst⟩ := Option.bind_eq_some_iff.mp value.head?_compactChars
  have other : c ≠ close := by
    rintro rfl
    exact absurd (foreign.symm.trans ofFirst) (by simp)
  simpa [first] using other

/-- Values that begin one text are of one kind. -/
theorem kind_eq_of_append_eq {a b : Value} {s t : List Char}
    (equal : a.compactChars ++ s = b.compactChars ++ t) : a.kind = b.kind := by
  obtain ⟨c, first, ofFirst⟩ := Option.bind_eq_some_iff.mp a.head?_compactChars
  obtain ⟨d, first', ofFirst'⟩ := Option.bind_eq_some_iff.mp b.head?_compactChars
  have heads := congrArg List.head? equal
  rw [List.head?_append, List.head?_append, first, first'] at heads
  obtain rfl : c = d := Option.some.inj heads
  exact Option.some.inj (ofFirst.symm.trans ofFirst')

/-! ## Different values have different texts -/

/-- A field as it is written. -/
def fieldChars (field : String × Value) : List Char := quoted field.1 ++ ':' :: field.2.compactChars

/-- The items of a list are written with commas between them. -/
theorem compactItems_eq (items : List Value) : compactItems items = separated (items.map compactChars) := by
  cases items with
  | nil => rfl
  | cons item rest =>
    induction rest generalizing item with
    | nil => simp [compactItems, separated, followed]
    | cons next rest ih => simp [compactItems, ih next, separated, followed]

/-- The fields of a record are written with commas between them. -/
theorem compactFields_eq (fields : List (String × Value)) :
    compactFields fields = separated (fields.map fieldChars) := by
  cases fields with
  | nil => rfl
  | cons field rest =>
    induction rest generalizing field with
    | nil => simp [compactFields, separated, followed, fieldChars]
    | cons next rest ih => simp [compactFields, ih next, separated, followed, fieldChars]

/-- Lists are the same when they are item by item. -/
theorem isSame_of_forall₂ {xs ys : List Value} (alike : List.Forall₂ IsSame xs ys) :
    IsSame (.list xs) (.list ys) := by
  refine .list alike.length_eq ?_
  induction alike with
  | nil => simp
  | cons first _ ih =>
    intro i x y left right
    cases i with
    | zero =>
      cases left
      cases right
      exact first
    | succ i => exact ih i x y left right

/-- Fields of one name and of the same value. -/
def IsSameField (left right : String × Value) : Prop := left.1 = right.1 ∧ left.2.IsSame right.2

/-- Records are the same when they are field by field in one order. -/
theorem isSame_of_forall₂_field {xs ys : List (String × Value)} (alike : List.Forall₂ IsSameField xs ys) :
    IsSame (.record xs) (.record ys) := by
  have names : Table.names xs = Table.names ys := by
    induction alike with
    | nil => rfl
    | cons first _ ih => exact congrArg₂ List.cons first.1 ih
  refine .record (fun name => by rw [names]) ?_
  clear names
  induction alike with
  | nil => simp
  | @cons left right _ _ first _ ih =>
    intro name x y found found'
    rw [Table.get?_cons] at found found'
    by_cases here : left.1 = name
    · rw [if_pos here] at found
      rw [if_pos (first.1 ▸ here)] at found'
      cases found
      cases found'
      exact first.2
    · rw [if_neg here] at found
      rw [if_neg (first.1 ▸ here)] at found'
      exact ih name x y found found'

/-- A field is told from every other when its value is. -/
theorem fieldChars_isReadable {field : String × Value} (readable : IsReadable compactChars IsSame field.2) :
    IsReadable fieldChars IsSameField field := by
  intro other s t endsLeft endsRight equal
  simp only [fieldChars, List.append_assoc, List.cons_append] at equal
  obtain ⟨name, behind⟩ :=
    quoted_isReadable field.1 other.1 _ _ (.cons _ (by decide)) (.cons _ (by decide)) equal
  obtain ⟨value, last⟩ := readable other.2 s t endsLeft endsRight (List.cons.inj behind).2
  exact ⟨⟨name, value⟩, last⟩

/-- A list is told from every other when its items are. -/
theorem list_isReadable {items : List Value} (readable : ∀ x ∈ items, IsReadable compactChars IsSame x) :
    IsReadable compactChars IsSame (.list items) := by
  intro other s t _ _ equal
  have same := kind_eq_of_append_eq equal
  cases other with
  | list others =>
    simp only [compactChars, compactItems_eq, List.cons_append, List.append_assoc, List.nil_append,
      List.cons.injEq, true_and] at equal
    obtain ⟨alike, last⟩ :=
      separated_cancel (by decide) (by decide) (head?_compactChars_any (by decide)) readable equal
    exact ⟨isSame_of_forall₂ alike, last⟩
  | _ => cases same

/-- A record is told from every other when its fields are. -/
theorem record_isReadable {fields : List (String × Value)}
    (readable : ∀ field ∈ fields, IsReadable compactChars IsSame field.2) :
    IsReadable compactChars IsSame (.record fields) := by
  intro other s t _ _ equal
  have same := kind_eq_of_append_eq equal
  cases other with
  | record others =>
    simp only [compactChars, compactFields_eq, List.cons_append, List.append_assoc, List.nil_append,
      List.cons.injEq, true_and] at equal
    obtain ⟨alike, last⟩ := separated_cancel (by decide) (by decide) (fun _ => rfl)
      (fun field member => fieldChars_isReadable (readable field member)) equal
    exact ⟨isSame_of_forall₂_field alike, last⟩
  | _ => cases same

/-- Whatever stands behind two values, their texts are told apart. -/
theorem compactChars_isReadable (value : Value) : IsReadable compactChars IsSame value := by
  induction value using Value.induction with
  | list items ih => exact list_isReadable ih
  | record fields ih => exact record_isReadable ih
  | null =>
    intro other s t _ _ equal
    have same := kind_eq_of_append_eq equal
    cases other with
    | null => exact ⟨.null, List.append_cancel_left equal⟩
    | _ => cases same
  | flag b =>
    intro other s t _ _ equal
    have same := kind_eq_of_append_eq equal
    cases other with
    | flag c =>
      have heads := congrArg List.head? equal
      obtain rfl : b = c := by
        cases b <;> cases c <;> first | rfl | cases heads
      exact ⟨.flag b, List.append_cancel_left equal⟩
    | _ => cases same
  | number m =>
    intro other s t endsLeft endsRight equal
    have same := kind_eq_of_append_eq equal
    cases other with
    | number n =>
      obtain ⟨chars, last⟩ := m.chars_isReadable n s t endsLeft endsRight equal
      exact ⟨Number.isSame_of_chars_eq chars, last⟩
    | _ => cases same
  | text s =>
    intro other rest rest' endsLeft endsRight equal
    have same := kind_eq_of_append_eq equal
    cases other with
    | text t =>
      obtain ⟨rfl, last⟩ := quoted_isReadable s t rest rest' endsLeft endsRight equal
      exact ⟨.text s, last⟩
    | _ => cases same

/-- Values of one compact text are the same. -/
theorem isSame_of_compact_eq {a b : Value} (equal : a.compact = b.compact) : a.IsSame b := by
  have chars : a.compactChars ++ [] = b.compactChars ++ [] := by
    rw [String.ofList_inj.mp equal]
  exact (compactChars_isReadable a b [] [] .nil .nil chars).1

end Value

/-! ## Tables -/

namespace Table

variable {α : Type}

/-- A table in order has no name twice. -/
theorem Sorted.nodup {table : Table α} (sorted : Sorted table) : (names table).Nodup := by
  refine List.Pairwise.imp ?_ sorted
  intro a b before same
  exact Std.lt_irrefl (same ▸ before)

/-- What an ordered table lists is found in it. -/
theorem Sorted.get?_of_mem {table : Table α} (sorted : Sorted table) {entry : String × α} (member : entry ∈ table) :
    get? table entry.1 = some entry.2 := by
  have found := get?_ofList sorted.nodup member
  rwa [ofList_eq_self sorted] at found

/-- Ordered tables that list the same names list them alike. -/
theorem Sorted.names_eq {α β : Type} {table : Table α} {other : Table β} (sorted : Sorted table)
    (sorted' : Sorted other) (same : ∀ name, name ∈ names table ↔ name ∈ names other) :
    names table = names other := by
  have perm := (List.perm_ext_iff_of_nodup sorted.nodup sorted'.nodup).mpr same
  refine perm.eq_of_pairwise ?_ sorted sorted'
  intro a b _ _ before after
  exact absurd (Std.lt_trans before after) Std.lt_irrefl

/-- A name before all others is put at the front. -/
theorem put_eq_cons {table : Table α} {name : String} (least : ∀ other ∈ names table, name < other) (value : α) :
    put table name value = (name, value) :: table := by
  cases table with
  | nil => rfl
  | cons entry rest =>
    have before : name < entry.1 := least entry.1 List.mem_cons_self
    have distinct : name ≠ entry.1 := fun same => Std.lt_irrefl (same ▸ before)
    rw [put, if_neg distinct, if_pos before]

/-- What is found under a name is among the entries. -/
theorem mem_of_get? {table : Table α} {name : String} {value : α} (found : get? table name = some value) :
    (name, value) ∈ table := by
  induction table with
  | nil => cases found
  | cons entry rest ih =>
    rw [get?_cons] at found
    split at found
    · rename_i here
      cases found
      subst here
      exact List.mem_cons_self
    · exact List.mem_cons_of_mem _ (ih found)

/-- An entry of the table is the one that was set or was there before. -/
theorem mem_put {table : Table α} {name : String} {value : α} {entry : String × α}
    (member : entry ∈ put table name value) : entry = (name, value) ∨ entry ∈ table := by
  induction table with
  | nil => exact .inl (List.mem_singleton.mp member)
  | cons first rest ih =>
    obtain ⟨key, old⟩ := first
    unfold put at member
    split at member
    · exact (List.mem_cons.mp member).imp_right (List.mem_cons_of_mem _)
    · split at member
      · exact List.mem_cons.mp member
      · rcases List.mem_cons.mp member with rfl | later
        · exact .inr List.mem_cons_self
        · exact (ih later).imp_right (List.mem_cons_of_mem _)

end Table

/-! ## Equal values have equal texts -/

namespace Value

/-- Items are in order when each of them is. -/
theorem areOrdered_iff {items : List Value} :
    areOrdered items = true ↔ ∀ item ∈ items, item.isOrdered = true := by
  induction items with
  | nil => simp [areOrdered]
  | cons item rest ih => simp [areOrdered, ih]

/-- Fields are in order when each of their values is. -/
theorem areOrderedFields_iff {fields : List (String × Value)} :
    areOrderedFields fields = true ↔ ∀ field ∈ fields, field.2.isOrdered = true := by
  induction fields with
  | nil => simp [areOrderedFields]
  | cons field rest ih => simp [areOrderedFields, ih]

/-- A record is in order when its names are and each of its values is. -/
theorem isOrdered_record_iff {fields : List (String × Value)} :
    (Value.record fields).isOrdered = true ↔
      Table.Sorted fields ∧ ∀ field ∈ fields, field.2.isOrdered = true := by
  rw [isOrdered, Bool.and_eq_true, areOrderedFields_iff, decide_eq_true_eq, Table.Sorted]

/-- The same value is written alike if its fields are in order. -/
theorem IsSame.compactChars_eq {a b : Value} (same : a.IsSame b) (orderedLeft : a.isOrdered = true)
    (orderedRight : b.isOrdered = true) : a.compactChars = b.compactChars := by
  induction same with
  | null => rfl
  | flag b => rfl
  | whole n => rfl
  | real printed => exact congrArg String.toList printed
  | text s => rfl
  | @list xs ys sizes _ ih =>
    rw [isOrdered, areOrdered_iff] at orderedLeft orderedRight
    have texts : xs.map compactChars = ys.map compactChars := by
      refine List.ext_getElem (by simpa using sizes) ?_
      intro i left right
      rw [List.length_map] at left right
      rw [List.getElem_map, List.getElem_map]
      exact ih i xs[i] ys[i] (List.getElem?_eq_getElem left) (List.getElem?_eq_getElem right)
        (orderedLeft _ (List.getElem_mem left)) (orderedRight _ (List.getElem_mem right))
    rw [compactChars, compactChars, compactItems_eq, compactItems_eq, texts]
  | @record xs ys names _ ih =>
    obtain ⟨sortedLeft, orderedLeft⟩ := isOrdered_record_iff.mp orderedLeft
    obtain ⟨sortedRight, orderedRight⟩ := isOrdered_record_iff.mp orderedRight
    have sameNames : Table.names xs = Table.names ys := sortedLeft.names_eq sortedRight names
    have texts : xs.map fieldChars = ys.map fieldChars := by
      refine List.ext_getElem (by simpa [Table.names] using congrArg List.length sameNames) ?_
      intro i left right
      rw [List.length_map] at left right
      rw [List.getElem_map, List.getElem_map]
      have sameName : xs[i].1 = ys[i].1 := by
        have here := congrArg (·[i]?) sameNames
        simpa [Table.names, left, right] using here
      have found := sortedLeft.get?_of_mem (List.getElem_mem left)
      have found' := sortedRight.get?_of_mem (List.getElem_mem right)
      rw [← sameName] at found'
      have written := ih _ _ _ found found' (orderedLeft _ (List.getElem_mem left))
        (orderedRight _ (List.getElem_mem right))
      rw [fieldChars, fieldChars, sameName, written]
    rw [compactChars, compactChars, compactFields_eq, compactFields_eq, texts]

/-- On values whose fields are in order, the compact text tells exactly which are the same. -/
theorem compact_eq_iff_isSame {a b : Value} (orderedLeft : a.isOrdered = true) (orderedRight : b.isOrdered = true) :
    a.compact = b.compact ↔ a.IsSame b := by
  constructor
  · exact isSame_of_compact_eq
  · intro same
    rw [compact, compact, same.compactChars_eq orderedLeft orderedRight]

/-! ## The same value -/

/-- Values are the same in either direction. -/
theorem IsSame.symm {a b : Value} (same : a.IsSame b) : b.IsSame a := by
  induction same with
  | null => exact .null
  | flag b => exact .flag b
  | whole n => exact .whole n
  | real printed => exact .real printed.symm
  | text s => exact .text s
  | list sizes _ ih => exact .list sizes.symm fun i x y left right => ih i y x right left
  | record names _ ih =>
    exact .record (fun name => (names name).symm) fun name x y left right => ih name y x right left

/-- Values that are the same as a third one are the same. -/
theorem IsSame.trans {a b c : Value} (first : a.IsSame b) (second : b.IsSame c) : a.IsSame c := by
  induction first generalizing c with
  | null => exact second
  | flag b => exact second
  | whole n => exact second
  | real printed =>
    cases second with
    | real printed' => exact .real (printed.trans printed')
  | text s => exact second
  | @list xs ys sizes _ ih =>
    cases second with
    | list sizes' items' =>
      refine .list (sizes.trans sizes') ?_
      intro i x z left right
      obtain ⟨inside, -⟩ := List.getElem?_eq_some_iff.mp left
      have middle : ys[i]? = some ys[i] := List.getElem?_eq_getElem (sizes ▸ inside)
      exact ih i x _ left middle (items' i _ z middle right)
  | @record xs ys names _ ih =>
    cases second with
    | record names' values' =>
      refine .record (fun name => (names name).trans (names' name)) ?_
      intro name x z left right
      have listed : name ∈ Table.names ys := (names name).mp (Table.mem_names_iff.mpr (by simp [left]))
      obtain ⟨y, middle⟩ := Option.isSome_iff_exists.mp (Table.mem_names_iff.mp listed)
      exact ih name x y left middle (values' name y z middle right)

/-! ## Fields in order -/

/-- Items are put in order one by one. -/
theorem sortedItems_eq_map (items : List Value) : sortedItems items = items.map sorted := by
  induction items with
  | nil => rfl
  | cons item rest ih => rw [sortedItems, ih, List.map_cons]

/-- Fields that were put in order are in the order of their names. -/
theorem sorted_sortedFields (fields : List (String × Value)) : Table.Sorted (sortedFields fields) := by
  induction fields with
  | nil => exact .nil
  | cons field rest ih => exact Table.sorted_put ih field.1 field.2.sorted

/-- Under each name they have the same value, put in order. -/
theorem get?_sortedFields (fields : List (String × Value)) (name : String) :
    Table.get? (sortedFields fields) name = (Table.get? fields name).map sorted := by
  induction fields with
  | nil => rfl
  | cons field rest ih =>
    rw [sortedFields, Table.get?_cons]
    by_cases here : field.1 = name
    · rw [if_pos here, ← here, Table.get?_put_self]
      rfl
    · rw [if_neg here, Table.get?_put_of_ne _ _ (Ne.symm here), ih]

/-- A value that was put in order is in order. -/
theorem isOrdered_sorted (value : Value) : value.sorted.isOrdered = true := by
  induction value using Value.induction with
  | list items ih =>
    rw [sorted, isOrdered, sortedItems_eq_map, areOrdered_iff]
    exact List.forall_mem_map.mpr ih
  | record fields ih =>
    refine isOrdered_record_iff.mpr ⟨sorted_sortedFields fields, ?_⟩
    induction fields with
    | nil => simp [sortedFields]
    | cons field rest later =>
      obtain ⟨first, others⟩ := List.forall_mem_cons.mp ih
      intro other member
      rcases Table.mem_put member with rfl | behind
      · exact first
      · exact later others other behind
  | _ => rfl

/-- Putting fields in order makes no other value of a value. -/
theorem isSame_sorted (value : Value) : value.IsSame value.sorted := by
  induction value using Value.induction with
  | null => exact .null
  | flag b => exact .flag b
  | number n =>
    cases n with
    | whole n => exact .whole n
    | real x => exact .real rfl
  | text s => exact .text s
  | list items ih =>
    rw [sorted, sortedItems_eq_map]
    refine .list (by simp) ?_
    intro i x y left right
    rw [List.getElem?_map, left] at right
    cases right
    exact ih x (List.mem_of_getElem? left)
  | record fields ih =>
    refine .record ?_ ?_
    · intro name
      rw [Table.mem_names_iff, Table.mem_names_iff, get?_sortedFields, Option.isSome_map]
    · intro name x y left right
      rw [get?_sortedFields, left] at right
      cases right
      exact ih (name, x) (Table.mem_of_get? left)

/-- A value whose fields are in order is left as it is. -/
theorem sorted_eq_self (value : Value) (ordered : value.isOrdered = true) : value.sorted = value := by
  induction value using Value.induction with
  | list items ih =>
    rw [isOrdered, areOrdered_iff] at ordered
    rw [sorted, sortedItems_eq_map, List.map_congr_left fun item member => ih item member (ordered item member),
      List.map_id']
  | record fields ih =>
    obtain ⟨inOrder, inside⟩ := isOrdered_record_iff.mp ordered
    have same : sortedFields fields = fields := by
      clear ordered
      induction fields with
      | nil => rfl
      | cons field rest later =>
        obtain ⟨least, inOrderRest⟩ := List.pairwise_cons.mp inOrder
        obtain ⟨here, others⟩ := List.forall_mem_cons.mp inside
        obtain ⟨first, ihRest⟩ := List.forall_mem_cons.mp ih
        rw [sortedFields, first here, later ihRest inOrderRest others, Table.put_eq_cons least]
    rw [sorted, same]
  | _ => rfl

/-- Values have one canonical text exactly if they are the same, in whatever order their fields were given.
Of a value whose fields are in order, as those of a table are, it is the compact text. -/
theorem canonical_eq_iff_isSame (a b : Value) :
    (a.canonical = b.canonical ↔ a.IsSame b) ∧ (a.isOrdered = true → a.canonical = a.compact) := by
  constructor
  · have toLeft := a.isSame_sorted
    have toRight := b.isSame_sorted
    rw [canonical, canonical, compact_eq_iff_isSame a.isOrdered_sorted b.isOrdered_sorted]
    constructor
    · intro same
      exact (toLeft.trans same).trans toRight.symm
    · intro same
      exact (toLeft.symm.trans same).trans toRight
  · intro ordered
    rw [canonical, a.sorted_eq_self ordered]

/-- A record in the order of its names, and the same record as it may be given. The second name has a quote, a
colon and a comma in it. -/
def orderedTrial : Value :=
  .record [("a", .record [("c", .list [count 3]), ("d", .text "2")]), ("b\":1,\"c", count 1)]

/-- The record as it may be given. -/
def shuffledTrial : Value :=
  .record [("b\":1,\"c", count 1), ("a", .record [("d", .text "2"), ("c", .list [count 3])])]

/-- The two are the same value, and neither is the record with a number in place of a text. -/
theorem canonical_eq_iff_isSame_trial :
    shuffledTrial.IsSame orderedTrial ∧ orderedTrial.canonical = orderedTrial.compact ∧
      ¬ (Value.record [("a", count 2)]).IsSame (.record [("a", .text "2")]) :=
  ⟨(canonical_eq_iff_isSame shuffledTrial orderedTrial).1.mp (by decide +kernel),
    (canonical_eq_iff_isSame orderedTrial shuffledTrial).2 (by decide +kernel),
    mt (canonical_eq_iff_isSame _ _).1.mpr (by decide +kernel)⟩

end Value

end Stepwise
