import ColumnStore.Engine.StoredStatement
import ColumnStore.Proofs.Column.Materialize
import ColumnStore.Proofs.Engine.Table
import ColumnStore.Proofs.Lists

/-!
# Databases of two layouts

Two layouts number the same types differently, and one of them may not have 128-bit integers.
Every other type is `Portable`: both layouts have a tag for it. Two databases that differ in
their layout alone, and whose tables have portable columns only, run every portable statement to
the same effect: what they lay out differs in its tags, but the tags name the same types.

Main results: `Database.Agrees.execute` and `Database.Agrees.prepare`.
-/

set_option autoImplicit false

namespace ColumnStore

/-! ## Portable types -/

/-- A type that every layout has a tag for. -/
def ColumnType.Portable (type : ColumnType) : Prop :=
  type ≠ .integer .int128

instance (type : ColumnType) : Decidable type.Portable :=
  inferInstanceAs (Decidable (_ ≠ _))

/-- A declared type that is stored in a portable type. -/
def DeclaredType.Portable (type : DeclaredType) : Prop :=
  type.storage.Portable

instance (type : DeclaredType) : Decidable type.Portable :=
  inferInstanceAs (Decidable (ColumnType.Portable _))

/-- The table has portable columns only. -/
def Table.Portable (table : Table) : Prop :=
  ∀ column ∈ table.columns, column.type.Portable

/-- The statement makes no column that is not portable. -/
def Statement.Portable : Statement → Prop
  | .createTable _ columns => ∀ column ∈ columns, column.type.Portable
  | _ => True

instance : (statement : Statement) → Decidable statement.Portable
  | .createTable _ columns => inferInstanceAs (Decidable (∀ column ∈ columns, column.type.Portable))
  | .dropTable .. | .insert .. | .select .. | .update .. | .delete .. => isTrue trivial

theorem TagLayout.exists_encode {type : ColumnType} (portable : type.Portable)
    (layout : TagLayout) : ∃ tag, layout.encode type = .ok tag := by
  obtain ⟨wide⟩ := layout
  rcases type with (_ | kind | _ | _) | kind | _
  case fixed.integer =>
    cases kind <;> first
      | exact absurd rfl portable
      | cases wide <;> exact ⟨_, rfl⟩
  case boxed => cases wide <;> cases kind <;> exact ⟨_, rfl⟩
  all_goals cases wide <;> exact ⟨_, rfl⟩

theorem DeclaredType.checkLayout_of_portable {type : DeclaredType} (portable : type.Portable)
    (layout : TagLayout) : type.checkLayout layout = .ok () :=
  if_neg fun both => portable both.1

/-- Tags of two layouts that name one portable type. -/
def SameTag (left right : TagLayout) (tag other : Int32) : Prop :=
  ∃ type : ColumnType, type.Portable ∧ left.decode? tag = .ok (some type) ∧
    right.decode? other = .ok (some type)

section Layouts

variable {left right : TagLayout}

theorem OutputColumn.agree_tag {type : DeclaredType} (portable : type.Portable) :
    Except.Agree (fun tag other =>
        left.decode? tag = .ok (some type.storage) ∧ right.decode? other = .ok (some type.storage))
      (tag left type) (tag right type) := by
  obtain ⟨first, one⟩ := TagLayout.exists_encode portable left
  obtain ⟨second, two⟩ := TagLayout.exists_encode portable right
  rw [tag, tag, one, two]
  exact .ok ⟨TagLayout.decode?_encode one, TagLayout.decode?_encode two⟩

/-! ## Results -/

/-- Descriptors that differ in their tag alone. Both tags name the type of the cells. -/
structure Descriptor.Agrees (left right : TagLayout) (descriptor other : Descriptor) : Prop where
  first : left.decode? descriptor.tag = .ok (some descriptor.cells.type)
  second : right.decode? other.tag = .ok (some descriptor.cells.type)
  moved : other = { descriptor with tag := other.tag }

/-- Results with descriptors that agree. -/
structure NativeResult.Agrees (left right : TagLayout) (result other : NativeResult) : Prop where
  header : result.header = other.header
  columns : List.Forall₂ (Descriptor.Agrees left right) result.columns other.columns

theorem OutputColumn.cells_type {column : OutputColumn} {values : List Value} {cells : ColumnCells}
    (laid : column.cells values = .ok cells) : cells.type = column.type.storage := by
  cases storage : column.type.storage with
  | fixed kind => rw [cells_fixed storage laid, ColumnCells.type]
  | boxed kind =>
      obtain ⟨list, _, whole⟩ := cells_boxed storage laid
      rw [whole, ColumnCells.type]
  | unknown => exact absurd storage (storage_ne_unknown _)

theorem OutputColumn.agree_descriptor {column : OutputColumn} (portable : column.type.Portable)
    (values : List Value) :
    Except.Agree (Descriptor.Agrees left right) (column.descriptor left values)
      (column.descriptor right values) := by
  rw [descriptor, descriptor, DeclaredType.checkLayout_of_portable portable,
    DeclaredType.checkLayout_of_portable portable]
  refine (agree_tag portable).bind ?_
  rintro tag other ⟨known, same⟩
  refine Except.Agree.bind_self fun name _ => ?_
  refine Except.Agree.bind_self fun cells laid => ?_
  exact .ok ⟨by rw [known, cells_type laid], by rw [same, cells_type laid], rfl⟩

/-- Cells are materialized for their own type whatever the error would be, and keep it. -/
theorem ColumnCells.materialize_type (cells : ColumnCells) (digits scale : Nat)
    (error other : Error) :
    cells.materialize cells.type digits scale error =
        cells.materialize cells.type digits scale other ∧
      (cells.materialize cells.type digits scale error).2.type = cells.type := by
  unfold materialize
  rw [if_pos rfl, if_pos rfl]
  cases cells <;> exact ⟨rfl, rfl⟩

/-- A pass over a descriptor whose tag names the type of its cells. -/
theorem Descriptor.materialize_type {descriptor : Descriptor} {layout : TagLayout}
    (named : layout.decode? descriptor.tag = .ok (some descriptor.cells.type)) (index : Nat) :
    descriptor.materialize layout index =
      let made := descriptor.cells.materialize descriptor.cells.type descriptor.digits
        descriptor.scale (.unsupportedType index descriptor.tag)
      (Column.mk descriptor.label <$> made.1, { descriptor with cells := made.2 }) := by
  unfold materialize
  rw [named]

/-- A pass makes the same column of descriptors that agree, and leaves the same cells. -/
theorem Descriptor.Agrees.materialize {descriptor other : Descriptor}
    (agree : descriptor.Agrees left right other) (index : Nat) :
    (descriptor.materialize left index).1 = (other.materialize right index).1 ∧
      (descriptor.materialize left index).2.cells = (other.materialize right index).2.cells ∧
      (descriptor.materialize left index).2.cells.type = descriptor.cells.type := by
  obtain ⟨first, second, moved⟩ := agree
  have cells : other.cells = descriptor.cells := by rw [moved]
  obtain ⟨same, type⟩ := descriptor.cells.materialize_type descriptor.digits descriptor.scale
    (.unsupportedType index descriptor.tag) (.unsupportedType index other.tag)
  rw [Descriptor.materialize_type first, Descriptor.materialize_type (cells ▸ second)]
  rw [moved] at same ⊢
  exact ⟨by rw [← same]; rfl, by rw [← same], type⟩

/-- Cells of the same type are written. -/
theorem Descriptor.Agrees.write {descriptor other : Descriptor}
    (agree : descriptor.Agrees left right other) {cells : ColumnCells}
    (kept : cells.type = descriptor.cells.type) :
    Descriptor.Agrees left right { descriptor with cells } { other with cells } := by
  obtain ⟨first, second, moved⟩ := agree
  exact ⟨by rw [kept, first], by rw [kept, second], by rw [moved]⟩

theorem NativeResult.agree_ofRows {columns : List OutputColumn}
    (portable : ∀ column ∈ columns, column.type.Portable) (name : String) (rows : List Row) :
    Except.Agree (Agrees left right) (ofRows left name columns rows)
      (ofRows right name columns rows) := by
  refine Except.Agree.bind_self fun label _ => ?_
  have known : ∀ entry ∈ columns.zipIdx, entry.1.type.Portable := fun entry member =>
    portable _ (List.fst_mem_of_mem_zipIdx member)
  have each (entry other : OutputColumn × Nat) : entry = other ∧ entry.1.type.Portable →
      Except.Agree (Descriptor.Agrees left right)
        (entry.1.descriptor left (rows.map fun row => Table.cell row entry.2))
        (other.1.descriptor right (rows.map fun row => Table.cell row other.2)) := by
    rintro ⟨rfl, known⟩
    exact OutputColumn.agree_descriptor known _
  refine (Except.Agree.mapM (List.forall₂_self _ known) each).bind ?_
  intro descriptors others agree
  exact .ok ⟨by rw [agree.length_eq], agree⟩

/-! ## Statements -/

/-- What statements do besides changing tables, with results that agree. -/
inductive Effect.Agrees (left right : TagLayout) : Effect → Effect → Prop
  | rows {result other : NativeResult} (agree : result.Agrees left right other) :
      Agrees left right (.rows result) (.rows other)
  | schema : Agrees left right .schema .schema
  | affected (count : Nat) : Agrees left right (.affected count) (.affected count)

/-- Databases that differ in their layout alone, and have portable tables only. -/
structure Database.Agrees (left right : TagLayout) (database other : Database) : Prop where
  layout : database.layout = left
  moved : other = { database with layout := right }
  portable : ∀ table ∈ database.catalog.tables, table.Portable

namespace Database

variable {database other : Database}

theorem agrees_new (left right : TagLayout) : Agrees left right (new left) (new right) :=
  ⟨rfl, rfl, fun _ member => nomatch member⟩

/-- Recording a failure. -/
theorem Agrees.fail (agree : Agrees left right database other) (failure : Failure) :
    (database.fail failure).1 = (other.fail failure).1 ∧
      Agrees left right (database.fail failure).2 (other.fail failure).2 := by
  obtain ⟨layout, rfl, portable⟩ := agree
  exact ⟨rfl, layout, rfl, portable⟩

theorem Agrees.put (agree : Agrees left right database other) {table : Table}
    (portable : table.Portable) : Agrees left right (database.put table) (other.put table) := by
  obtain ⟨layout, rfl, known⟩ := agree
  refine ⟨layout, rfl, fun found member => ?_⟩
  rcases List.mem_cons.1 member with rfl | member
  · exact portable
  · exact known found (List.mem_of_mem_filter member)

theorem Agrees.table (agree : Agrees left right database other) {name : String} {table : Table}
    (found : database.catalog.table name = .ok table) : table.Portable :=
  agree.portable table (Catalog.mem_of_table found)

theorem portable_of_targets {table : Table} (portable : table.Portable)
    {names : Option (List String)} {targets : List Table.Target}
    (found : table.targets names = .ok targets) :
    ∀ target ∈ targets, target.column.type.Portable :=
  fun target member => portable _ (List.mem_of_getElem? (Table.targets_of found target member))

theorem checkAll_portable {columns : List ColumnDeclaration}
    (portable : ∀ column ∈ columns, column.type.Portable) (earlier : List String) :
    ColumnDeclaration.checkAll left earlier columns =
      ColumnDeclaration.checkAll right earlier columns := by
  induction columns generalizing earlier with
  | nil => rfl
  | cons column columns ih =>
      rw [ColumnDeclaration.checkAll, ColumnDeclaration.checkAll,
        DeclaredType.checkLayout_of_portable (portable column List.mem_cons_self),
        DeclaredType.checkLayout_of_portable (portable column List.mem_cons_self),
        ih fun other member => portable other (List.mem_cons_of_mem _ member)]

/-- **A portable statement has the same effect under both layouts.** -/
theorem Agrees.execute (agree : Agrees left right database other) {statement : Statement}
    (portable : statement.Portable) (parameters : List Value) :
    Except.Agree (fun answer result =>
        Agrees left right answer.1 result.1 ∧ Effect.Agrees left right answer.2 result.2)
      (database.execute statement parameters) (other.execute statement parameters) := by
  have whole := agree
  obtain ⟨rfl, rfl, known⟩ := agree
  have put {name : String} (table : Table) (rows : List Row) (count : Nat)
      (found : database.catalog.table name = .ok table) :
      Agrees database.layout right (database.put { table with rows })
          (Database.put { database with layout := right } { table with rows }) ∧
        Effect.Agrees database.layout right (.affected count) (.affected count) := by
    have portable := whole.table found
    exact ⟨whole.put portable, .affected count⟩
  cases statement with
  | createTable name columns =>
      simp only [Database.execute]
      split
      · exact .error _
      · rw [checkAll_portable portable []]
        refine Except.Agree.bind_self fun _ _ => .ok ⟨whole.put ?_, .schema⟩
        exact portable
  | dropTable name =>
      simp only [Database.execute]
      split
      · exact .error _
      · refine .ok ⟨⟨rfl, rfl, fun table member => ?_⟩, .schema⟩
        exact known table (List.mem_of_mem_filter member)
  | insert name columns rows =>
      exact agree_change rfl (fun _ _ => Table.insert_withRows) put
  | select name projection filter =>
      refine Except.Agree.bind_self fun table found => ?_
      refine Except.Agree.bind_self fun answer selected => ?_
      obtain ⟨targets, aimed, selected⟩ := Except.bind_eq_ok.1 selected
      obtain ⟨test, _, made⟩ := Except.bind_eq_ok.1 selected
      cases made
      refine (NativeResult.agree_ofRows ?_ name _).bind fun result _ agree =>
        .ok ⟨whole, .rows agree⟩
      intro column member
      obtain ⟨target, inside, rfl⟩ := List.mem_map.1 member
      exact portable_of_targets (whole.table found) aimed target inside
  | update name assignments filter =>
      exact agree_change rfl (fun _ _ => Table.update_withRows) put
  | delete name filter =>
      exact agree_change rfl (fun _ _ => Table.delete_withRows) put

end Database

/-! ## Parameters -/

namespace PlaceholderTypes

/-- The placeholders have portable types only. -/
def Portable (types : PlaceholderTypes) : Prop :=
  ∀ entry ∈ types, entry.2.Portable

variable {types noted : PlaceholderTypes} {table : Table}

theorem Portable.note (portable : types.Portable) {type : DeclaredType} (new : type.Portable)
    (index : Nat) : (types.note index type).Portable := by
  induction types with
  | nil =>
      intro entry member
      rw [List.mem_singleton.1 member]
      exact new
  | cons known rest ih =>
      obtain ⟨head, tail⟩ := List.forall_mem_cons.1 portable
      unfold PlaceholderTypes.note
      split_ifs
      · exact List.forall_mem_cons.2 ⟨new, portable⟩
      · exact List.forall_mem_cons.2 ⟨new, tail⟩
      · exact List.forall_mem_cons.2 ⟨head, ih tail⟩

theorem Portable.noteExpression (portable : types.Portable) {column : ColumnDeclaration}
    (new : column.type.Portable) (expression : Expression) :
    (types.noteExpression column expression).Portable := by
  cases expression with
  | literal value => exact portable
  | placeholder index => exact portable.note new index

theorem Portable.noteRow (portable : types.Portable) {targets : List Table.Target}
    (aimed : ∀ target ∈ targets, target.column.type.Portable) (expressions : List Expression) :
    (types.noteRow targets expressions).Portable := by
  have each : ∀ pair ∈ targets.zip expressions, pair.1.column.type.Portable := fun pair member =>
    aimed _ (List.of_mem_zip member).1
  unfold PlaceholderTypes.noteRow
  generalize targets.zip expressions = pairs at each ⊢
  induction pairs generalizing types with
  | nil => exact portable
  | cons pair rest ih =>
      obtain ⟨head, tail⟩ := List.forall_mem_cons.1 each
      exact ih (portable.noteExpression head _) tail

theorem Portable.noteRows (portable : types.Portable) {targets : List Table.Target}
    (aimed : ∀ target ∈ targets, target.column.type.Portable) (rows : List (List Expression)) :
    Portable (rows.foldl (fun types row => types.noteRow targets row) types) := by
  induction rows generalizing types with
  | nil => exact portable
  | cons row rows ih => exact ih (portable.noteRow aimed row)

theorem portable_of_target (columns : table.Portable) {name : String} {target : Table.Target}
    (found : table.target name = .ok target) : target.column.type.Portable :=
  columns _ (List.mem_of_getElem? (Table.target_of found).1)

theorem Portable.noteFilter (portable : types.Portable) (columns : table.Portable)
    {filter : Option Filter} (made : types.noteFilter table filter = .ok noted) :
    noted.Portable := by
  cases filter with
  | none =>
      cases made
      exact portable
  | some filter =>
      obtain ⟨target, found, whole⟩ := Except.bind_eq_ok.1 made
      cases whole
      exact portable.noteExpression (portable_of_target columns found) _

theorem Portable.noteAssignments (portable : types.Portable) (columns : table.Portable)
    {assignments : List Assignment} (made : types.noteAssignments table assignments = .ok noted) :
    noted.Portable := by
  induction assignments generalizing types with
  | nil =>
      cases made
      exact portable
  | cons assignment rest ih =>
      obtain ⟨target, found, made⟩ := Except.bind_eq_ok.1 made
      exact ih (portable.noteExpression (portable_of_target columns found) _) made

end PlaceholderTypes

namespace Database

variable {database other : Database} {statement : Statement}

theorem Agrees.placeholderTypes (agree : Agrees left right database other)
    {types : PlaceholderTypes} (found : database.placeholderTypes statement = .ok types) :
    types.Portable := by
  have none : PlaceholderTypes.Portable [] := fun entry member => nomatch member
  cases statement with
  | createTable =>
      cases found
      exact none
  | dropTable =>
      cases found
      exact none
  | insert name columns rows =>
      obtain ⟨table, known, found⟩ := Except.bind_eq_ok.1 found
      obtain ⟨targets, aimed, whole⟩ := Except.bind_eq_ok.1 found
      cases whole
      exact none.noteRows (portable_of_targets (agree.table known) aimed) rows
  | select name projection filter =>
      obtain ⟨table, known, found⟩ := Except.bind_eq_ok.1 found
      exact none.noteFilter (agree.table known) found
  | update name assignments filter =>
      obtain ⟨table, known, found⟩ := Except.bind_eq_ok.1 found
      obtain ⟨types, assigned, found⟩ := Except.bind_eq_ok.1 found
      exact (none.noteAssignments (agree.table known) assigned).noteFilter (agree.table known) found
  | delete name filter =>
      obtain ⟨table, known, found⟩ := Except.bind_eq_ok.1 found
      exact none.noteFilter (agree.table known) found

theorem checkLayouts {types : List DeclaredType} (portable : ∀ type ∈ types, type.Portable)
    (layout : TagLayout) : types.forM (fun type => type.checkLayout layout) = .ok () :=
  Except.forM_eq_ok fun type member =>
    DeclaredType.checkLayout_of_portable (portable type member) layout

theorem Agrees.parameterTypes (agree : Agrees left right database other) (statement : Statement) :
    Except.Agree (fun types others => types = others ∧ ∀ type ∈ types, type.Portable)
      (database.parameterTypes statement) (other.parameterTypes statement) := by
  have whole := agree
  obtain ⟨rfl, rfl, known⟩ := agree
  refine Except.Agree.bind_self fun types found => ?_
  have portable : ∀ type ∈ types.map (·.2), type.Portable := by
    intro type member
    obtain ⟨entry, inside, rfl⟩ := List.mem_map.1 member
    exact whole.placeholderTypes found entry inside
  dsimp only
  rw [checkLayouts portable, checkLayouts portable]
  exact .ok ⟨rfl, portable⟩

end Database

/-- What preparing one portable statement makes under the two layouts. -/
structure Preparation.Agrees (left right : TagLayout) (preparation other : Preparation) : Prop where
  stored : preparation.stored = other.stored
  portable : preparation.stored.statement.Portable
  tags : List.Forall₂ (SameTag left right) preparation.tags other.tags
  description : preparation.description.Agrees left right other.description

/-- **A portable statement is prepared in the same way under both layouts.** -/
theorem Database.Agrees.prepare {database other : Database}
    (agree : Agrees left right database other) (handle : Handle .database) {statement : Statement}
    (portable : statement.Portable) :
    Except.Agree (Preparation.Agrees left right) (database.prepare handle statement)
      (other.prepare handle statement) := by
  refine (agree.parameterTypes statement).bind ?_
  rintro parameters _ ⟨rfl, types⟩
  obtain ⟨rfl, rfl, known⟩ := agree
  refine Except.Agree.bind_self fun answer _ => ?_
  refine (NativeResult.agree_ofRows (by decide) _ _).bind ?_
  intro description _ described
  have tagged (type other : DeclaredType) : type = other ∧ type.Portable →
      Except.Agree (SameTag database.layout right) (OutputColumn.tag database.layout type)
        (OutputColumn.tag right other) := by
    rintro ⟨rfl, known⟩
    exact (OutputColumn.agree_tag known).mono fun _ _ both => ⟨_, known, both⟩
  refine (Except.Agree.mapM (List.forall₂_self _ types) tagged).bind ?_
  intro tags _ same
  exact .ok ⟨rfl, portable, same, described⟩

end Layouts

end ColumnStore
