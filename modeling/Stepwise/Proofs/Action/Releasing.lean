import Stepwise.Action.Stored
import Stepwise.Proofs.Template.Grammar

/-!
# What a deduplication releases

A deduplication that is asked to release its source drops the collection that the records came from. It reads
the text of its source twice: as a path, to find the records, and by cutting `collections.` off its front, to
find the name of what it drops. Where the two readings name the same collection no record is lost that was not
read. They part where the name behind `collections.` has a blank or an opening bracket: then a collection is
dropped that was not read; and where the path is spelled in another way, with blanks around it or with
brackets: then the collection that was read stays.
-/

set_option autoImplicit false

namespace Stepwise

open Stepwise.Text

/-- The path to a collection as a whole. -/
def Path.toCollection (name : String) : Path := ⟨.collections, [name], List.cons_ne_nil _ _⟩

/-- The context at the start of a run that holds one collection, with one record in it. -/
def Context.holding (outside : Outside) (name : String) : Context :=
  { Context.start [] [] outside with collections := [(name, [.null])] }

/-- The context that holds one collection finds it under its name. -/
theorem Context.get?_holding (outside : Outside) (name : String) :
    Table.get? (holding outside name).collections name = some [.null] := by
  simp [holding, Table.get?_cons]

/-- The context that holds one collection does hold it. -/
theorem Context.isSome_holding (outside : Outside) (name : String) :
    (Table.get? (holding outside name).collections name).isSome := by
  rw [get?_holding]
  rfl

namespace Action

/-! ## The two readings of a source -/

/-- A source names a collection as a whole: it is the text of the path to it. -/
def NamesWhole (source : Value) (name : String) : Prop :=
  ∃ text, source = .text text ∧ Path.parse text.toList = .ok (.toCollection name)

/-- What stands behind `collections.` in a source is a name, without points. -/
def CutsOut (source : Value) (name : String) : Prop :=
  source = .text ("collections." ++ name) ∧ name ≠ "" ∧ '.' ∉ name.toList

/-- The name that a release cuts from its source is the text after the prefix, just as `CutsOut`
says. -/
theorem collectionName?_eq_some_iff {source : Value} {name : String} :
    collectionName? source = some name ↔ CutsOut source name := by
  cases source with
  | text reference =>
    simp only [collectionName?, CutsOut, Value.text.injEq, Option.map_eq_some_iff, Option.filter_eq_some_iff,
      Bool.and_eq_true, Bool.not_eq_true', List.isEmpty_eq_false_iff, List.contains_eq_mem,
      decide_eq_false_iff_not]
    constructor
    · rintro ⟨cut, ⟨found, nonempty, unpointed⟩, rfl⟩
      refine ⟨?_, by simpa using nonempty, by simpa using unpointed⟩
      rw [← String.toList_inj, after?_eq_some found]
      simp
    · rintro ⟨rfl, nonempty, unpointed⟩
      refine ⟨name.toList, ⟨?_, by simpa using nonempty, unpointed⟩, String.ofList_toList⟩
      rw [String.toList_append, after?_append]
  | _ => simp [collectionName?, CutsOut]

/-- The ways to name a collection as a whole: its name behind a point, or in brackets, with blanks around. -/
theorem namesWhole_iff {text name : String} : NamesWhole (.text text) name ↔
    (trim text.toList = "collections.".toList ++ name.toList ∧ Path.IsName name.toList) ∨
      ∃ inside, trim text.toList = "collections[".toList ++ inside ++ [']'] ∧ '.' ∉ inside ∧
        Path.IsIndex inside ∧ Path.index inside = name := by
  simp only [NamesWhole, Value.text.injEq, exists_eq_left', Path.toCollection, Path.parse_eq_single_iff]
  have pointed : Namespace.collections.text.toList ++ '.' :: name.toList =
      "collections.".toList ++ name.toList := rfl
  have bracketed : ∀ inside, Namespace.collections.text.toList ++ Path.bracketed inside =
      "collections[".toList ++ inside ++ [']'] := fun _ => rfl
  simp only [pointed, bracketed]

/-- What is cut out of a source is what the source names as a whole, if it may be the name of a part. -/
theorem CutsOut.namesWhole_iff {source : Value} {name : String} (cutsOut : CutsOut source name) :
    NamesWhole source name ↔ '[' ∉ name.toList ∧ ∀ c ∈ name.toList, isBlank c = false := by
  obtain ⟨rfl, nonempty, unpointed⟩ := cutsOut
  rw [Action.namesWhole_iff]
  constructor
  · rintro (⟨-, isName⟩ | ⟨inside, spelled, -⟩)
    · exact ⟨isName.unopened, isName.solid⟩
    · -- only blanks are cut off its end, so the text would begin in both ways
      exfalso
      have notBlank : trimStart ("collections." ++ name).toList = ("collections." ++ name).toList := by
        rw [String.toList_append]
        rfl
      obtain ⟨blanks, -, whole⟩ := exists_trimEnd ("collections." ++ name).toList
      rw [trim, notBlank] at spelled
      rw [spelled, String.toList_append] at whole
      simp at whole
  · rintro ⟨unopened, solid⟩
    refine .inl ⟨?_, by simpa using nonempty, solid, unopened, unpointed⟩
    rw [← String.toList_append]
    apply trim_eq_self
    · intro c begins
      rw [String.toList_append] at begins
      cases begins
      decide
    · intro c ends
      have named : name.toList ≠ [] := by simpa using nonempty
      rw [String.toList_append, List.getLast?_append_of_ne_nil _ named] at ends
      exact solid c (List.mem_of_mem_getLast? ends)

/-! ## What is read and what is dropped -/

section

variable (fields : Fields)

/-- The parameters of a deduplication. -/
def dedupParams : Params := ⟨"dedup_collection", fields⟩

/-- Its source; null if none is given. -/
def dedupSource : Value := ((dedupParams fields).get? "source").getD .null

/-- It is asked to release its source. -/
def Releases : Prop := (dedupParams fields).flagOr "release" false = true

/-- It drops a collection. -/
def Drops (ctx : Context) (name : String) : Prop :=
  (Table.get? ctx.collections name).isSome ∧
    Table.get? (dedupCollection fields ctx).2.collections name = none

/-- A deduplication loses no record that it did not read. -/
structure SparesUnread (ctx : Context) : Prop where
  /-- What it drops is what it read: it answers with the records of the collection, deduplicated. -/
  read : ∀ name records, Table.get? ctx.collections name = some records → Drops fields ctx name →
    (dedupCollection fields ctx).1 = .ok (.list (dedup ((dedupParams fields).text? "key") records))
  /-- The collection that its source names as a whole is dropped. -/
  released : ∀ name, (Table.get? ctx.collections name).isSome → NamesWhole (dedupSource fields) name →
    Drops fields ctx name
  /-- No other collection is dropped. -/
  alone : ∀ name other, Drops fields ctx name → Drops fields ctx other → other = name

variable {fields}

/-- A source that is a text is what the action finds under `source`. -/
theorem get?_of_dedupSource {text : String} (source_eq : dedupSource fields = .text text) :
    (dedupParams fields).get? "source" = some (.text text) := by
  rw [dedupSource] at source_eq
  cases given : (dedupParams fields).get? "source" with
  | none =>
    rw [given] at source_eq
    cases source_eq
  | some source =>
    rw [given, Option.getD_some] at source_eq
    rw [source_eq]

/-- Without a source the action fails and leaves the run as it was. -/
theorem dedupCollection_of_missing (missing : (dedupParams fields).get? "source" = none) (ctx : Context) :
    dedupCollection fields ctx = (.error (.missingParam "dedup_collection" "source"), ctx) := by
  unfold dedupParams at missing
  simp only [dedupCollection, checked, Params.required, missing]

/-- A deduplication that is asked to release its source answers with what the source leads to, and drops what
is cut out of it. -/
theorem dedupCollection_of_given (asked : Releases fields) {source : Value}
    (given : (dedupParams fields).get? "source" = some source) (ctx : Context) :
    dedupCollection fields ctx =
      (.ok (.list (dedup ((dedupParams fields).text? "key") ((sourceOf ctx source).asList?.getD []))),
        { ctx with collections :=
            ((collectionName? source).map (Table.erase ctx.collections)).getD ctx.collections }) := by
  unfold Releases at asked
  unfold dedupParams at given asked
  simp only [dedupCollection, checked, Params.required, given, asked, dedupParams]
  cases collectionName? source with
  | none => rfl
  | some name => rfl

/-- What is dropped is what is cut out of the source. -/
theorem drops_iff (asked : Releases fields) {ctx : Context} {name : String} :
    Drops fields ctx name ↔
      (Table.get? ctx.collections name).isSome ∧ CutsOut (dedupSource fields) name := by
  refine and_congr_right fun stored => ?_
  have kept : Table.get? ctx.collections name ≠ none := Option.isSome_iff_ne_none.mp stored
  rw [← collectionName?_eq_some_iff, dedupSource]
  cases given : (dedupParams fields).get? "source" with
  | none => simp [dedupCollection_of_missing given, collectionName?, kept]
  | some source =>
    rw [dedupCollection_of_given asked given, Option.getD_some]
    cases cut : collectionName? source with
    | none => simpa using kept
    | some other =>
      simp only [Option.map_some, Option.getD_some, Option.some.injEq]
      constructor
      · intro gone
        by_contra distinct
        rw [Table.get?_erase_of_ne _ (Ne.symm distinct)] at gone
        exact kept gone
      · rintro rfl
        exact Table.get?_erase_self _ _

/-- A source that names a stored collection is read, and answered without its duplicates. -/
theorem answer_of_namesWhole (asked : Releases fields) {ctx : Context} {name : String} {records : List Value}
    (stored : Table.get? ctx.collections name = some records) (named : NamesWhole (dedupSource fields) name) :
    (dedupCollection fields ctx).1 = .ok (.list (dedup ((dedupParams fields).text? "key") records)) := by
  obtain ⟨text, source_eq, read⟩ := named
  have found : ctx.reference? text = some (.list records) := by
    simp [Context.reference?, read, Context.lookup, Path.toCollection, Collections.follow?, stored]
  rw [dedupCollection_of_given asked (get?_of_dedupSource source_eq), sourceOf, found]
  rfl

/-- Where one collection is stored, with one record in it, no other path than the one to that collection leads
to a list. -/
theorem asList?_lookup_holding {outside : Outside} {name : String} {path : Path}
    (other : path ≠ .toCollection name) :
    ((Context.holding outside name).lookup path).bind Value.asList? = none := by
  obtain ⟨root, segments, nonempty⟩ := path
  obtain ⟨first, rest, rfl⟩ := List.exists_cons_of_ne_nil nonempty
  cases root with
  | env =>
    cases rest with
    | nil => rfl
    | cons _ _ => rfl
  | config => rfl
  | vars => rfl
  | item => rfl
  | collections =>
    simp only [Context.lookup, Context.holding, Collections.follow?, Table.get?_cons, Table.get?_nil]
    split
    · rename_i same
      subst same
      cases rest with
      | nil => exact absurd rfl other
      | cons segment below =>
        -- what is below the collection is its length, or the record, which is null and has nothing below
        rw [Option.bind_some]
        dsimp only
        split
        · rfl
        · cases Text.count? segment.toList with
          | none => rfl
          | some position =>
            cases position with
            | zero => cases below <;> rfl
            | succ _ => rfl
    · rfl

/-- So a source that does not name that collection as a whole leaves nothing to deduplicate. -/
theorem answer_of_not_namesWhole (asked : Releases fields) {outside : Outside} {name text : String}
    (source_eq : dedupSource fields = .text text) (unnamed : ¬ NamesWhole (dedupSource fields) name) :
    (dedupCollection fields (Context.holding outside name)).1 = .ok (.list []) := by
  have nothing : (sourceOf (Context.holding outside name) (.text text)).asList? = none := by
    rw [sourceOf, Context.reference?]
    cases read : Path.parse text.toList with
    | error _ => rfl
    | ok path =>
      have other : path ≠ .toCollection name := by
        rintro rfl
        exact unnamed ⟨text, source_eq, read⟩
      have unlisted : ((Context.holding outside name).lookup path).bind Value.asList? = none :=
        asList?_lookup_holding other
      dsimp only
      cases found : (Context.holding outside name).lookup path with
      | none => rfl
      | some value =>
        rw [found] at unlisted
        exact unlisted
  rw [dedupCollection_of_given asked (get?_of_dedupSource source_eq), nothing]
  rfl

/-- Where the two readings of its source agree on the collections that are stored, a deduplication loses no
record that it did not read. Where they disagree on a name, it drops what it did not read, or leaves what it
read, as soon as there is a collection of that name. They agree on what is cut out of the source exactly if
that has neither a blank nor an opening bracket. -/
theorem dedupCollection_sparesUnread (asked : Releases fields) :
    (∀ ctx : Context, (∀ name ∈ Table.names ctx.collections,
      (CutsOut (dedupSource fields) name ↔ NamesWhole (dedupSource fields) name)) → SparesUnread fields ctx) ∧
    (∀ outside name, SparesUnread fields (Context.holding outside name) →
      (CutsOut (dedupSource fields) name ↔ NamesWhole (dedupSource fields) name)) ∧
    (∀ name, CutsOut (dedupSource fields) name →
      (NamesWhole (dedupSource fields) name ↔ '[' ∉ name.toList ∧ ∀ c ∈ name.toList, isBlank c = false)) := by
  refine ⟨fun ctx agree => ⟨fun name records stored drops => ?_, fun name stored named => ?_,
    fun name other drops dropsOther => ?_⟩, fun outside name spares => ⟨fun cutsOut => ?_, fun named => ?_⟩,
    fun name cutsOut => cutsOut.namesWhole_iff⟩
  · have among := Table.mem_names_iff.mpr drops.1
    exact answer_of_namesWhole asked stored ((agree name among).mp ((drops_iff asked).mp drops).2)
  · have among := Table.mem_names_iff.mpr stored
    exact (drops_iff asked).mpr ⟨stored, (agree name among).mpr named⟩
  · have first := collectionName?_eq_some_iff.mpr ((drops_iff asked).mp drops).2
    have second := collectionName?_eq_some_iff.mpr ((drops_iff asked).mp dropsOther).2
    rw [first] at second
    exact (Option.some.inj second).symm
  · -- the one record is dropped, and the answer is without it
    by_contra unnamed
    have drops := (drops_iff asked).mpr ⟨Context.isSome_holding outside name, cutsOut⟩
    have answered := spares.read name [.null] (Context.get?_holding outside name) drops
    rw [answer_of_not_namesWhole asked cutsOut.1 unnamed] at answered
    cases answered
  · have drops := spares.released name (Context.isSome_holding outside name) named
    exact ((drops_iff asked).mp drops).2

end

/-! ## Sources that are misread -/

/-- The parameters that release the collection that a text refers to. -/
def releasing (text : String) : Fields := [("release", .flag true), ("source", .text text)]

/-- Those parameters do ask for the release. -/
theorem releases_releasing (text : String) : Releases (releasing text) := rfl

/-- Nothing but a clock that stands still lies outside. -/
def stillOutside : Outside := ⟨0, none, fun _ => .null, fun _ => .error "", (0, 0), [], []⟩

/-- A collection with a blank in its name is dropped, although nothing of it was read. One whose name stands in
brackets is read and stays. -/
theorem release_misreads_source :
    (Releases (releasing "collections.my list") ∧
      Drops (releasing "collections.my list") (Context.holding stillOutside "my list") "my list" ∧
      (dedupCollection (releasing "collections.my list") (Context.holding stillOutside "my list")).1 =
        .ok (.list []) ∧
      dedup none [.null] = [.null]) ∧
    (NamesWhole (dedupSource (releasing "collections[leads]")) "leads" ∧
      ¬ Drops (releasing "collections[leads]") (Context.holding stillOutside "leads") "leads") := by
  have cutsOut : CutsOut (dedupSource (releasing "collections.my list")) "my list" :=
    ⟨rfl, by decide, by decide⟩
  have unnamed : ¬ NamesWhole (dedupSource (releasing "collections.my list")) "my list" := by
    rw [cutsOut.namesWhole_iff]
    exact fun plain => absurd (plain.2 ' ' (by decide)) (by decide)
  refine ⟨⟨releases_releasing _, ?_, answer_of_not_namesWhole (releases_releasing _) rfl unnamed, rfl⟩, ?_, ?_⟩
  · exact (drops_iff (releases_releasing _)).mpr ⟨Context.isSome_holding _ _, cutsOut⟩
  · exact ⟨"collections[leads]", rfl, by decide +kernel⟩
  · rw [drops_iff (releases_releasing _), ← collectionName?_eq_some_iff]
    rintro ⟨-, cut⟩
    cases cut

/-- A name that is one segment is read and released; a name with a blank is released unread. -/
theorem dedupCollection_sparesUnread_trial :
    Releases (releasing "collections.leads") ∧
      SparesUnread (releasing "collections.leads") (Context.holding stillOutside "leads") ∧
      NamesWhole (dedupSource (releasing "collections.leads")) "leads" ∧
      ¬ SparesUnread (releasing "collections.my list") (Context.holding stillOutside "my list") := by
  have cutsOut : CutsOut (dedupSource (releasing "collections.leads")) "leads" := ⟨rfl, by decide, by decide⟩
  have named : NamesWhole (dedupSource (releasing "collections.leads")) "leads" :=
    ((dedupCollection_sparesUnread (releases_releasing _)).2.2 "leads" cutsOut).mpr
      ⟨by decide, Path.not_blank_of_all (by decide)⟩
  refine ⟨releases_releasing _, ?_, named, fun spares => ?_⟩
  · refine (dedupCollection_sparesUnread (releases_releasing _)).1 _ fun name member => ?_
    rw [List.mem_singleton.mp member]
    exact iff_of_true cutsOut named
  · have agree := (dedupCollection_sparesUnread (releases_releasing _)).2.1 _ _ spares
    have cutsOutBlank : CutsOut (dedupSource (releasing "collections.my list")) "my list" :=
      ⟨rfl, by decide, by decide⟩
    have unblank :=
      ((dedupCollection_sparesUnread (releases_releasing _)).2.2 _ cutsOutBlank).mp (agree.mp cutsOutBlank)
    exact absurd (unblank.2 ' ' (by decide)) (by decide)

end Action

end Stepwise
