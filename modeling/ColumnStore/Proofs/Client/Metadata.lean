import ColumnStore.Proofs.Client.Description
import ColumnStore.Proofs.Engine.Refusal
import ColumnStore.Sql.TypeName

/-!
# What a description says is what was declared

A statement is described by a result with a row for each column that it returns and one for each
of its parameters. Whatever the columns are called and whatever the types are, that result can be
laid out and materialized, and reading it gives back both lists, each in its order
(`Description.told_of_materialize`). An empty name is a name: only the rows of parameters have
NULL in its place.

There is one gap. Digits go through a cell of 32 bits with a sign, and a text may be declared with
a limit of 2147483648 characters and more. Such a limit is told as zero, which means that there is
none (`Description.exists_limit_lost`).
-/

set_option autoImplicit false

namespace ColumnStore

/-! ## Materializing every descriptor -/

namespace DescriptorShelf

variable {layout : TagLayout} {descriptors : List Descriptor}

/-- The descriptors from an index on are the original ones. -/
def Untouched (descriptors : List Descriptor) (index : Nat) (shelf : DescriptorShelf) : Prop :=
  ∀ other, index ≤ other → shelf.descriptors[other]? = descriptors[other]?

/-- All columns are there if every descriptor can be materialized. -/
theorem materialize_ok {holds : Nat → Column → Prop} (rowCount : Nat)
    (each : ∀ index descriptor, descriptors[index]? = some descriptor →
      ∃ column passed, descriptor.materialize layout index = (.ok column, passed) ∧
        holds index column) :
    ∃ columns shelf,
      materialize layout (fun _ => none) rowCount descriptors = (.ok ⟨columns, rowCount⟩, shelf) ∧
      columns.length = descriptors.length ∧
      ∀ index column, columns[index]? = some column → holds index column := by
  have step (index : Nat) (inside : index < descriptors.length) (shelf : DescriptorShelf)
      (before : Untouched descriptors index shelf) :
      ∃ fetched next, column layout (fun _ => none) index shelf = (.ok fetched, next) ∧
        holds index fetched ∧ Untouched descriptors (index + 1) next := by
    have there := List.getElem?_eq_getElem inside
    obtain ⟨fetched, passed, done, known⟩ := each index _ there
    have current : shelf.descriptors[index]? = some descriptors[index] :=
      (before index (Nat.le_refl index)).trans there
    refine ⟨fetched, ⟨shelf.descriptors.set index passed, index :: shelf.asked⟩, ?_, known, ?_⟩
    · simp only [column, current, done]
    · intro other later
      rw [List.getElem?_set_ne (by omega)]
      exact before other (by omega)
  have start : Untouched descriptors 0 ⟨descriptors, []⟩ := fun _ _ => rfl
  obtain ⟨columns, shelf, gathered, length, known, _⟩ :=
    Columns.gather_ok (Untouched descriptors) holds rowCount step start
  exact ⟨columns, shelf, gathered, length, known⟩

end DescriptorShelf

/-! ## Reading a description -/

namespace Description

variable {table : String} {outputs : List OutputColumn}

/-- The description of a statement that returns columns with these names can be laid out. The
name of the table only matters if there are any. -/
theorem exists_laidOut (layout : TagLayout) (named : outputs ≠ [] → NulFree table.toList)
    (each : ∀ output ∈ outputs, NulFree output.name.toList) (parameters : List DeclaredType) :
    ∃ native, description layout table outputs parameters = .ok native := by
  cases outputs with
  | nil =>
      have empty : NulFree "".toList := by simp [NulFree]
      exact exists_description layout empty each parameters
  | cons first rest =>
      have some_ := List.cons_ne_nil first rest
      exact exists_description layout (named some_) each parameters

/-- A description is materialized and read. -/
theorem exists_told (layout : TagLayout) (named : outputs ≠ [] → NulFree table.toList)
    (each : ∀ output ∈ outputs, NulFree output.name.toList) (parameters : List DeclaredType) :
    ∃ native columns shelf, description layout table outputs parameters = .ok native ∧
      DescriptorShelf.materialize layout (fun _ => none) native.header.rowCount.toNat
        native.columns = (.ok columns, shelf) ∧
      Metadata.ofColumns columns = .ok (Metadata.declared outputs parameters).told := by
  obtain ⟨native, laid⟩ := exists_laidOut layout named each parameters
  have rows := laid
  unfold description at rows
  rw [rows_eq] at rows
  obtain ⟨_, rowCount, _⟩ := NativeResult.ofRows_eq_ok rows
  obtain ⟨list, shelf, fetched, width, known⟩ :=
    DescriptorShelf.materialize_ok native.header.rowCount.toNat fun index original there => by
      obtain ⟨fetched, pass, shows⟩ := materialize_shown rows there (.inl rfl)
      exact ⟨fetched, _, pass, shows⟩
  have cells : Cells (entries table outputs parameters) ⟨list, native.header.rowCount.toNat⟩ :=
    cells_of_shows (width.trans (NativeResult.columns_length rows)) known
  have height : native.header.rowCount.toNat = (entries table outputs parameters).length := by
    rw [rowCount, Int.toNat_natCast, List.length_map]
  exact ⟨native, _, shelf, laid, fetched, ofColumns_of_cells height cells⟩

/-- Of all types only texts can have so many digits. -/
theorem digits_lt_iff {type : DeclaredType} : type.digits < 2147483648 ↔
    ∀ limit, type = .varchar limit → limit < 2147483648 := by
  cases type with
  | varchar limit => simp [DeclaredType.digits]
  | integer kind => cases kind <;> simp [DeclaredType.digits, IntegerKind.width]
  | decimal digits scale valid =>
      have small := valid.2.2
      simp only [DeclaredType.digits, reduceCtorEq, false_implies, implies_true, iff_true]
      omega
  | _ => simp [DeclaredType.digits]

/-- What is told is what was declared, unless the limit of a text is too wide. -/
theorem told_declared_iff {parameters : List DeclaredType} :
    (Metadata.declared outputs parameters).told = Metadata.declared outputs parameters ↔
      ∀ limit, DeclaredType.varchar limit ∈ outputs.map (·.type) ++ parameters →
        limit < 2147483648 := by
  have parameter (type : DeclaredType) : (ParameterInfo.ofType type).told = .ofType type ↔
      type.digits < 2147483648 := by
    simp [ParameterInfo.told, ParameterInfo.ofType, told_eq_self_iff]
  have output (column : OutputColumn) : (OutputInfo.ofColumn column).told = .ofColumn column ↔
      column.type.digits < 2147483648 := by
    simp [OutputInfo.told, OutputInfo.ofColumn, told_eq_self_iff]
  have whole : (Metadata.declared outputs parameters).told =
      Metadata.declared outputs parameters ↔
        ∀ type ∈ outputs.map (·.type) ++ parameters, type.digits < 2147483648 := by
    simp only [Metadata.told, Metadata.declared, Metadata.mk.injEq, List.map_map,
      List.map_inj_left, Function.comp_apply, parameter, output, List.mem_append, List.mem_map]
    constructor
    · rintro ⟨second, first⟩ type (⟨column, member, rfl⟩ | member)
      · exact first column member
      · exact second type member
    · intro all
      exact ⟨fun type member => all type (.inr member),
        fun column member => all column.type (.inl ⟨column, member, rfl⟩)⟩
  rw [whole]
  constructor
  · exact fun all limit member => digits_lt_iff.1 (all _ member) limit rfl
  · intro all type member
    exact digits_lt_iff.2 fun limit same => all limit (same ▸ member)

/-- **A description is read as what was declared**: all columns and all parameters, each in their
order, with their names and types, and their digits up to 31 bits. -/
theorem told_of_materialize (layout : TagLayout) (named : outputs ≠ [] → NulFree table.toList)
    (each : ∀ output ∈ outputs, NulFree output.name.toList) (parameters : List DeclaredType) :
    ∃ native columns shelf, description layout table outputs parameters = .ok native ∧
      DescriptorShelf.materialize layout (fun _ => none) native.header.rowCount.toNat
        native.columns = (.ok columns, shelf) ∧
      Metadata.ofColumns columns = .ok (Metadata.declared outputs parameters).told ∧
      (Metadata.ofColumns columns = .ok (Metadata.declared outputs parameters) ↔
        ∀ limit, DeclaredType.varchar limit ∈ outputs.map (·.type) ++ parameters →
          limit < 2147483648) := by
  obtain ⟨native, columns, shelf, laid, fetched, read⟩ := exists_told layout named each parameters
  refine ⟨native, columns, shelf, laid, fetched, read, ?_⟩
  rw [read, Except.ok.injEq]
  exact told_declared_iff

/-- Two columns, of which one has the empty name. -/
def unnamedFirst : List OutputColumn :=
  [⟨"", .varchar 10⟩, ⟨"b", .decimal 9 2 (by decide)⟩]

/-- A column with the empty name stays a column. -/
theorem told_of_materialize_unnamed : ∃ native columns shelf,
    description .default "t" unnamedFirst [.date, .integer .int128] = .ok native ∧
    DescriptorShelf.materialize .default (fun _ => none) native.header.rowCount.toNat
      native.columns = (.ok columns, shelf) ∧
    Metadata.ofColumns columns = .ok
      ⟨[⟨.date, "date", 0, 0⟩, ⟨.integer .int128, "hugeint", 128, 0⟩],
        [⟨"", .str, "varchar", 10, 0⟩, ⟨"b", .integer .int32, "decimal", 9, 2⟩]⟩ := by
  have table : NulFree "t".toList := by simp [NulFree]
  have each : ∀ output ∈ unnamedFirst, NulFree output.name.toList := by
    simp [unnamedFirst, NulFree]
  obtain ⟨native, columns, shelf, laid, fetched, read, _⟩ :=
    told_of_materialize .default (fun _ => table) each [.date, .integer .int128]
  exact ⟨native, columns, shelf, laid, fetched, read⟩

/-- A column whose texts may have three billion characters. -/
def longTexts : OutputColumn :=
  ⟨"a", .varchar 3000000000⟩

/-- The limit of a text can be lost: for a column and for a parameter it is told as none. -/
theorem exists_limit_lost : longTexts.type.Declarable ∧ ∃ native columns shelf,
    description .default "t" [longTexts] [longTexts.type] = .ok native ∧
    DescriptorShelf.materialize .default (fun _ => none) native.header.rowCount.toNat
      native.columns = (.ok columns, shelf) ∧
    Metadata.ofColumns columns =
      .ok ⟨[⟨.str, "varchar", 0, 0⟩], [⟨"a", .str, "varchar", 0, 0⟩]⟩ ∧
    Metadata.ofColumns columns ≠ .ok (Metadata.declared [longTexts] [longTexts.type]) := by
  have table : NulFree "t".toList := by simp [NulFree]
  have each : ∀ output ∈ [longTexts], NulFree output.name.toList := by
    simp [longTexts, NulFree]
  obtain ⟨native, columns, shelf, laid, fetched, read⟩ :=
    exists_told .default (fun _ => table) each [longTexts.type]
  refine ⟨⟨"varchar", [3000000000], by simp, rfl⟩, native, columns, shelf, laid, fetched, read, ?_⟩
  intro kept
  have same := Except.ok.inj (read.symm.trans kept)
  have narrow := told_declared_iff.1 same 3000000000 List.mem_cons_self
  omega

end Description

end ColumnStore
