import ColumnStore.Client.Statement
import ColumnStore.Engine.Description
import ColumnStore.Proofs.Client.FetchAll

/-!
# Reading the description of a statement

The client learns the scales of a statement's parameters from a result that describes the
statement: it fetches the result, reads it row by row, and releases it. A row that names no
column is for a parameter. As long as the database is open this succeeds, and the client then
knows for each parameter the scale of its declared type, and the databases and statements of the
engine are what they were.

Main result: `PreparedStatement.exists_describe`.
-/

set_option autoImplicit false

namespace ColumnStore

/-! ## What a description tells -/

/-- The number that is read from a cell of 32 bits for a number that was put there: one of more
than 31 bits comes out negative and is lost. -/
def Description.told (n : Nat) : Nat :=
  if n % 4294967296 < 2147483648 then n % 4294967296 else 0

theorem Description.told_eq_self_iff {n : Nat} : told n = n ↔ n < 2147483648 := by
  unfold told
  split <;> omega

/-- What is declared of a parameter. -/
def ParameterInfo.ofType (type : DeclaredType) : ParameterInfo :=
  ⟨type.storage, type.name, type.digits, type.scale⟩

/-- What is read of a parameter. -/
def ParameterInfo.told (info : ParameterInfo) : ParameterInfo :=
  { info with digits := Description.told info.digits }

/-- What is declared of a column that a statement returns. -/
def OutputInfo.ofColumn (output : OutputColumn) : OutputInfo :=
  ⟨output.name, output.type.storage, output.type.name, output.type.digits, output.type.scale⟩

/-- What is read of a column that a statement returns. -/
def OutputInfo.told (info : OutputInfo) : OutputInfo :=
  { info with digits := Description.told info.digits }

namespace Metadata

/-- What is declared of a statement. -/
def declared (outputs : List OutputColumn) (parameters : List DeclaredType) : Metadata :=
  ⟨parameters.map .ofType, outputs.map .ofColumn⟩

/-- What is read of a statement. -/
def told (metadata : Metadata) : Metadata :=
  ⟨metadata.parameters.map .told, metadata.columns.map .told⟩

/-- The scales of the parameters. -/
def scales (metadata : Metadata) : List Nat :=
  metadata.parameters.map (·.scale)

theorem scales_told_declared (outputs : List OutputColumn) (parameters : List DeclaredType) :
    (declared outputs parameters).told.scales = parameters.map DeclaredType.scale := by
  simp only [scales, told, declared, List.map_map]
  rfl

/-! ## Rows that are read -/

variable {columns : Columns} {metadata : Metadata} {row : Nat} {type : DeclaredType}
  {name : Option String}

/-- A row tells the type of the column that it names, or of a parameter if it names none. -/
structure Tells (columns : Columns) (row : Nat) (type : DeclaredType) (name : Option String) :
    Prop where
  sqlType : text columns row 0 = .ok (some type.name)
  digits : number columns row 1 = .ok (Description.told type.digits)
  scale : number columns row 2 = .ok type.scale
  name : text columns row 5 = .ok name
  type : typeCell columns row 6 = .ok type.storage

/-- The parameter that a row is for. -/
def parameter? (type : DeclaredType) : Option String → Option ParameterInfo
  | none => some (ParameterInfo.ofType type).told
  | some _ => none

/-- The column that a row is for. -/
def output? (type : DeclaredType) (name : Option String) : Option OutputInfo :=
  name.map fun name => (OutputInfo.ofColumn ⟨name, type⟩).told

theorem addRow_of_tells (tells : Tells columns row type name) (metadata : Metadata) :
    addRow columns metadata row = .ok ⟨metadata.parameters ++ (parameter? type name).toList,
      metadata.columns ++ (output? type name).toList⟩ := by
  simp only [addRow, tells.sqlType, tells.digits, tells.scale, tells.name, tells.type, bind,
    Except.bind, pure, Except.pure]
  cases name <;> simp [parameter?, output?, ParameterInfo.told, ParameterInfo.ofType,
    OutputInfo.told, OutputInfo.ofColumn]

/-- Rows that are read one after the other. -/
theorem foldlM_addRow {entries : List (DeclaredType × Option String)} {start : Nat}
    (each : ∀ index entry, entries[index]? = some entry →
      Tells columns (start + index) entry.1 entry.2) :
    (List.range' start entries.length).foldlM (addRow columns) metadata =
      .ok ⟨metadata.parameters ++ entries.filterMap fun entry => parameter? entry.1 entry.2,
        metadata.columns ++ entries.filterMap fun entry => output? entry.1 entry.2⟩ := by
  induction entries generalizing start metadata with
  | nil => simp [pure, Except.pure]
  | cons entry rest ih =>
      have others (index : Nat) (other : DeclaredType × Option String)
          (found : rest[index]? = some other) :
          Tells columns (start + 1 + index) other.1 other.2 := by
        rw [Nat.add_assoc, Nat.add_comm 1]
        exact each (index + 1) other found
      have first := addRow_of_tells (each 0 entry rfl) metadata
      rw [Nat.add_zero] at first
      rw [List.length_cons, List.range'_succ, List.foldlM_cons, first]
      refine (ih others).trans ?_
      rw [List.append_assoc, List.append_assoc]
      rw [List.filterMap_cons, List.filterMap_cons]
      cases parameter? entry.1 entry.2 <;> cases output? entry.1 entry.2 <;> rfl

end Metadata

/-! ## The result that describes a statement -/

theorem DeclaredType.scale_le (type : DeclaredType) : type.scale ≤ 38 := by
  cases type with
  | decimal digits scale valid => exact valid.2.1.trans valid.2.2
  | _ => exact Nat.zero_le _

namespace Description

/-- What the rows of a description are about: a type, and the column it is the type of. -/
def entries (table : String) (outputs : List OutputColumn) (parameters : List DeclaredType) :
    List (DeclaredType × Option (String × String)) :=
  (outputs.map fun output => (output.type, some (table, output.name))) ++
    parameters.map fun type => (type, none)

theorem rows_eq (table : String) (outputs : List OutputColumn) (parameters : List DeclaredType) :
    rows table outputs parameters =
      (entries table outputs parameters).map fun entry => row entry.1 entry.2 := by
  simp [rows, entries, List.map_map, Function.comp_def]

/-- A column of a description has numbers of 32 bits, or texts. -/
theorem cell_row {index : Nat} {output : OutputColumn} (named : columns[index]? = some output) :
    (output.type = .integer .int32 ∧ ∀ type owner, ∃ number,
      Table.cell (row type owner) index = .integer .int32 number) ∨
    (output.type = .varchar 0 ∧ ∀ type owner,
      Table.cell (row type owner) index = .null ∨
        ∃ text, Table.cell (row type owner) index = .str text) := by
  rcases index with _ | _ | _ | _ | _ | _ | _ | index <;> cases named
  case _ => exact .inr ⟨rfl, fun type owner => .inr ⟨_, rfl⟩⟩
  case _ => exact .inl ⟨rfl, fun type owner => ⟨_, rfl⟩⟩
  case _ => exact .inl ⟨rfl, fun type owner => ⟨_, rfl⟩⟩
  all_goals
    refine .inr ⟨rfl, fun type owner => ?_⟩
    cases owner with
    | none => first | exact .inl rfl | exact .inr ⟨_, rfl⟩
    | some owner => exact .inr ⟨_, rfl⟩

/-- The cells of a column are what the column stores, since it could be laid out. -/
theorem stores_cell {layout : TagLayout} {index : Nat} {output : OutputColumn}
    {descriptor : Descriptor} {list : List (DeclaredType × Option (String × String))}
    (named : columns[index]? = some output)
    (laid : output.descriptor layout
      (list.map fun entry => Table.cell (row entry.1 entry.2) index) = .ok descriptor) :
    ∀ value ∈ list.map fun entry => Table.cell (row entry.1 entry.2) index,
      output.type.Stores value := by
  intro value member
  obtain ⟨entry, _, same⟩ := List.mem_map.1 member
  rcases cell_row named with ⟨declared, numbers⟩ | ⟨declared, texts⟩
  · obtain ⟨number, cell⟩ := numbers entry.1 entry.2
    rw [declared, ← same, cell]
    exact rfl
  · rw [declared]
    rcases texts entry.1 entry.2 with cell | ⟨text, cell⟩
    · rw [← same, cell]
      trivial
    · have storage : output.type.storage = .boxed .str := by
        rw [declared]
        rfl
      obtain ⟨_, _, _, filled⟩ := OutputColumn.laidOut laid
      obtain ⟨cells, each, _⟩ := OutputColumn.cells_boxed storage filled
      rw [← same, cell] at member ⊢
      obtain ⟨position, inside, there⟩ := List.getElem_of_mem member
      have one := each.get inside (each.length_eq ▸ inside)
      rw [List.get_eq_getElem, there] at one
      obtain ⟨native, terminated, _⟩ := Except.map_eq_ok.1 one
      have free := native.nulFree_toString
      rwa [OutputColumn.toString_of_terminated terminated] at free

/-- What the cells of a column of a description are read back as. -/
def shown (list : List (DeclaredType × Option (String × String))) (index : Nat)
    (output : OutputColumn) : List Value :=
  (list.map fun entry => Table.cell (row entry.1 entry.2) index).map output.type.readBack

theorem length_shown (list : List (DeclaredType × Option (String × String))) (index : Nat)
    (output : OutputColumn) : (shown list index output).length = list.length := by
  rw [shown, List.length_map, List.length_map]

theorem getElem?_shown {list : List (DeclaredType × Option (String × String))} {position : Nat}
    {entry : DeclaredType × Option (String × String)} (found : list[position]? = some entry)
    (index : Nat) (output : OutputColumn) : (shown list index output)[position]? =
      some (output.type.readBack (Table.cell (row entry.1 entry.2) index)) := by
  rw [shown, List.getElem?_map, List.getElem?_map, found, Option.map_some, Option.map_some]

/-- A column of a description is read back, no matter how often it was fetched. -/
theorem materialize_shown {layout : TagLayout} {name : String} {native : NativeResult}
    {list : List (DeclaredType × Option (String × String))}
    (laid : NativeResult.ofRows layout name columns (list.map fun entry => row entry.1 entry.2) =
      .ok native)
    {index : Nat} {original current : Descriptor} (there : native.columns[index]? = some original)
    (seen : current = original ∨ current = original.passed layout) :
    ∃ fetched, current.materialize layout index = (.ok fetched, original.passed layout) ∧
      ∀ output, columns[index]? = some output → fetched.Shows (shown list index output) := by
  obtain ⟨inside, _⟩ := List.getElem?_eq_some_iff.1 there
  rw [NativeResult.columns_length laid] at inside
  have named := List.getElem?_eq_getElem inside
  have own := NativeResult.descriptor_of_ofRows laid named there
  rw [List.map_map] at own
  have stores := stores_cell named own
  have plain : columns[index].type.isDecimal = false := by
    rcases cell_row named with ⟨declared, _⟩ | ⟨declared, _⟩ <;> rw [declared] <;> rfl
  obtain ⟨fetched, pass, shows⟩ := OutputColumn.materialize_plain own plain stores seen index
  refine ⟨fetched, pass, fun output same => ?_⟩
  rw [named] at same
  cases same
  exact shows

/-! ## Cells that are read -/

/-- The cells of a description as they are read back. -/
def Cells (list : List (DeclaredType × Option (String × String))) (fetched : Columns) : Prop :=
  ∀ (row : Nat) (entry : DeclaredType × Option (String × String)), list[row]? = some entry →
    ∀ (index : Nat) (output : OutputColumn), columns[index]? = some output →
      fetched.value row index =
        .ok (output.type.readBack (Table.cell (Description.row entry.1 entry.2) index))

theorem cells_of_shows {list : List (DeclaredType × Option (String × String))}
    {fetched : Columns} (width : fetched.length = columns.length)
    (shows : ∀ index column, fetched.get? index = some column →
      ∀ output, columns[index]? = some output → column.Shows (shown list index output)) :
    Cells list fetched := by
  intro row entry found index output named
  have inside : index < fetched.columns.length := by
    obtain ⟨bound, _⟩ := List.getElem?_eq_some_iff.1 named
    rwa [← width] at bound
  have there : fetched.get? index = some fetched.columns[index] := List.getElem?_eq_getElem inside
  have cell := (shows index _ there output named).value_eq row _ (getElem?_shown found index output)
  simp only [Columns.value, there, cell]

/-- A number is read as far as its cell holds it. -/
theorem number_of_word {fetched : Columns} {row index n : Nat}
    (found : fetched.value row index = .ok ((DeclaredType.integer .int32).readBack (word n))) :
    Metadata.number fetched row index = .ok (told n) := by
  have wrapped : (IntegerKind.int32.wrap n).val =
      ((n : Int) + 2147483648) % 4294967296 - 2147483648 := rfl
  rw [word, DeclaredType.readBack] at found
  by_cases least : IntegerKind.int32.wrap n = IntegerKind.int32.sentinel
  · -- such a number is read as NULL, which is shown as zero
    have value : (IntegerKind.int32.wrap n).val = -2147483648 := congrArg Subtype.val least
    have lost : told n = 0 := by
      unfold told
      split <;> omega
    rw [if_pos least] at found
    rw [Metadata.number, found, lost]
    rfl
  · have value : (IntegerKind.int32.wrap n).val ≠ -2147483648 := fun same =>
      least (Subtype.ext same)
    have kept : (if 0 ≤ (IntegerKind.int32.wrap n).val ∧
        (IntegerKind.int32.wrap n).val < 4294967296 then
          (IntegerKind.int32.wrap n).val.toNat else 0) = told n := by
      unfold told
      split <;> split <;> omega
    rw [if_neg least] at found
    rw [Metadata.number, found, ← kept]
    rfl

theorem text_of_value {fetched : Columns} {row index : Nat} {value : Value}
    (found : fetched.value row index = .ok value) :
    Metadata.text fetched row index = .ok value.toText? := by
  rw [Metadata.text, found]
  rfl

/-- The rows of a description tell what they are for. -/
theorem tells_of_cells {list : List (DeclaredType × Option (String × String))}
    {fetched : Columns} (cells : Cells list fetched) {row : Nat}
    {entry : DeclaredType × Option (String × String)} (found : list[row]? = some entry) :
    Metadata.Tells fetched row entry.1 (entry.2.map Prod.snd) where
  sqlType := text_of_value (cells row entry found 0 _ rfl)
  digits := number_of_word (cells row entry found 1 _ rfl)
  scale := by
    have small := entry.1.scale_le
    rw [number_of_word (cells row entry found 2 _ rfl), told_eq_self_iff.2 (by omega)]
  name := by
    rw [text_of_value (cells row entry found 5 _ rfl)]
    cases entry.2 <;> rfl
  type := by
    rw [Metadata.typeCell, text_of_value (cells row entry found 6 _ rfl)]
    show Except.ok ((ColumnType.ofKernelName? entry.1.storage.kernelName).getD .unknown) = _
    rw [ColumnType.ofKernelName?_kernelName, Option.getD_some]

/-- What is read of a description whose cells are read back. -/
theorem ofColumns_of_cells {table : String} {outputs : List OutputColumn}
    {parameters : List DeclaredType} {fetched : Columns}
    (count : fetched.rowCount = (entries table outputs parameters).length)
    (cells : Cells (entries table outputs parameters) fetched) :
    Metadata.ofColumns fetched = .ok (Metadata.declared outputs parameters).told := by
  let named := (entries table outputs parameters).map fun entry => (entry.1, entry.2.map Prod.snd)
  have each (index : Nat) (entry : DeclaredType × Option String)
      (found : named[index]? = some entry) :
      Metadata.Tells fetched (0 + index) entry.1 entry.2 := by
    obtain ⟨original, there, rfl⟩ :=
      Option.map_eq_some_iff.1 ((List.getElem?_map ..).symm.trans found)
    rw [Nat.zero_add]
    exact tells_of_cells cells there
  rw [Metadata.ofColumns, count, List.range_eq_range', ← List.length_map,
    Metadata.foldlM_addRow each]
  simp [named, entries, Metadata.empty, Metadata.declared, Metadata.told, Metadata.parameter?,
    Metadata.output?, List.filterMap_map, Function.comp_def]

section Fetched

variable {connection : Connection Engine} {engine : Engine} {live : LiveResult}
  {native : NativeResult} {table : String} {outputs : List OutputColumn}
  {parameters : List DeclaredType}

/-- A description is fetched as it was laid out. -/
theorem columns_of_description (inProcess : connection.InProcess)
    (laid : description connection.api.layout table outputs parameters = .ok native)
    (kept : engine.result? (some live.handle) = some native)
    (header : live.header = native.header) :
    ∃ fetched final, connection.api.columns live engine = (.ok fetched, final) ∧
      fetched.rowCount = (entries table outputs parameters).length ∧
      Cells (entries table outputs parameters) fetched := by
  let result : ResultSet Engine := ⟨connection, live, 0, false⟩
  unfold description at laid
  rw [rows_eq] at laid
  obtain ⟨columnCount, rowCount, _⟩ := NativeResult.ofRows_eq_ok laid
  have length := NativeResult.columns_length laid
  have count : result.columnCount = native.columns.length := by
    rw [ResultSet.columnCount, header, columnCount, length]
  have each (index : Nat) (original : Descriptor) (there : native.columns[index]? = some original)
      (current : Descriptor) (seen : current = original ∨
        index < 0 ∧ current = original.passed connection.api.layout) :=
    materialize_shown laid there (seen.imp_right And.right)
  have inProcess : result.connection.InProcess := inProcess
  obtain ⟨limited, final, whole, width, known, _⟩ := ResultSet.fetchAll_of_holds inProcess
    (Engine.holds_of_result? kept) count _ each
  obtain ⟨fetched, middle, gathered, rest⟩ := Call.bind_eq_ok.1 whole
  cases rest
  obtain ⟨list, state, _, rest⟩ := Call.bind_eq_ok.1 gathered
  cases rest
  have height : live.header.rowCount.toNat = (entries table outputs parameters).length := by
    rw [header, rowCount, Int.toNat_natCast, List.length_map]
  refine ⟨_, final, gathered, height, cells_of_shows (Eq.trans width length) ?_⟩
  intro index column there output named
  obtain ⟨content, shows, cut⟩ := known index column there
  rcases cut with rfl | ⟨rfl, _⟩
  · have all := (shows output named).truncate result.rowCount
    have rows : (shown (entries table outputs parameters) index output).length =
        result.rowCount :=
      (length_shown _ _ _).trans height.symm
    rwa [List.take_of_length_le (Nat.le_of_eq rows)] at all
  · exact shows output named

/-- **A description is read**: the columns and the parameters are told apart, and told as they
were declared, up to numbers that are too wide. -/
theorem exists_metadata (inProcess : connection.InProcess)
    (laid : description connection.api.layout table outputs parameters = .ok native)
    (kept : engine.result? (some live.handle) = some native)
    (header : live.header = native.header) :
    ∃ final, connection.api.metadata live engine =
      (.ok (Metadata.declared outputs parameters).told, final) := by
  obtain ⟨fetched, final, gathered, count, cells⟩ :=
    columns_of_description inProcess laid kept header
  refine ⟨final, ?_⟩
  rw [Api.metadata, Call.bind_of_ok gathered, ofColumns_of_cells count cells]
  rfl

end Fetched

end Description

/-! ## Fetching and releasing the description -/

/-- Of two engines, the later one has the same databases and statements. -/
structure Engine.SameButResults (before after : Engine) : Prop where
  databases_eq : after.databases = before.databases
  statements_eq : after.statements = before.statements

namespace Connection

variable {connection : Connection Engine}

theorem keeps_materialize (inProcess : connection.InProcess) (before : Engine)
    (handle : Handle .result) (index : Nat) :
    Call.Keeps before.SameButResults (connection.api.materialize handle index) := by
  have fetch : Call.Keeps before.SameButResults (connection.api.resultFetch handle index) := by
    refine (Api.keeps_check fun state same => ?_).bind fun column => ?_
    · rw [inProcess]
      show before.SameButResults (Engine.resultFetch (some handle) true index state).2
      unfold Engine.resultFetch
      split
      · dsimp only
        split
        · exact same
        · split
          · exact ⟨same.databases_eq, same.statements_eq⟩
          · exact same
      · exact same
    · cases column <;> exact fun _ same => same
  refine fetch.bind fun live state same => ?_
  rw [inProcess]
  exact ⟨same.databases_eq, same.statements_eq⟩

/-- Reading a description leaves the databases and statements alone. -/
theorem keeps_metadata (inProcess : connection.InProcess) (before : Engine) (live : LiveResult) :
    Call.Keeps before.SameButResults (connection.api.metadata live) := by
  have columns : Call.Keeps before.SameButResults (connection.api.columns live) :=
    (Call.Keeps.mapM (keeps_materialize inProcess before live.handle) _).bind
      fun _ => Call.keeps_pure _
  exact columns.bind fun _ _ same => same

end Connection

namespace PreparedStatement

/-- **A description is read and released**, as long as the database is open: what is declared of
the statement is told, and the databases and statements are what they were. -/
theorem exists_describe {connection : Connection Engine} {engine : Engine} {database : Database}
    {live : LiveResult} {native : NativeResult} {table : String} {outputs : List OutputColumn}
    {parameters : List DeclaredType} (inProcess : connection.InProcess)
    (opened : engine.database? (some connection.handle) = some database)
    (laid : ColumnStore.description connection.api.layout table outputs parameters = .ok native)
    (kept : engine.result? (some live.handle) = some native)
    (header : live.header = native.header) :
    ∃ final, describe connection live engine =
        (.ok (Metadata.declared outputs parameters).told, final) ∧
      engine.SameButResults final := by
  obtain ⟨middle, reading⟩ := Description.exists_metadata inProcess laid kept header
  have same : engine.SameButResults middle := by
    have after := Connection.keeps_metadata inProcess engine live engine ⟨rfl, rfl⟩
    rwa [reading] at after
  have still : middle.database? (some connection.handle) = some database := by
    rw [← opened, Engine.database?, same.databases_eq]
    rfl
  have released : connection.api.cleanupResult connection.handle live.handle middle =
      (.ok (), middle.removeResult live.handle) := by
    refine Api.check_of_ok ?_
    rw [inProcess]
    show Engine.cleanupResult (some connection.handle) (some live.handle) middle = _
    simp only [Engine.cleanupResult, Engine.onDatabase, still]
  have runs : Except.ok (Metadata.declared outputs parameters).told ≠
      Except.error Error.overflow := by
    intro stopped
    cases stopped
  refine ⟨middle.removeResult live.handle, ?_, ⟨same.databases_eq, same.statements_eq⟩⟩
  rw [describe_of_read reading runs, released]
  rfl

end PreparedStatement

end ColumnStore
