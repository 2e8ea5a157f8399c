import ColumnStore.Client.Options
import ColumnStore.Engine.EntryPoints
import ColumnStore.Proofs.Except
import ColumnStore.Proofs.Text.Utf8

/-!
# Limits on their way to the engine

Four of the settings are limits, and to the engine zero means that there is none. The library counts
each limit in a unit of its own: megabytes and threads as they are configured, but the query timeout
in seconds and the session timeout in milliseconds, while both are configured to the nanosecond. A
limit is handed over in whole units (`Options.toNative_eq_ok`). So it keeps its place in the order,
and it is lost exactly if less than one unit is configured: a query timeout of half a second is none
to the engine.

Main result: `Options.limits_in_whole_units`.
-/

set_option autoImplicit false

namespace ColumnStore

/-- The limits among the settings. -/
inductive Limit
  | memory | query | session | threads
  deriving DecidableEq, Repr

namespace Limit

/-- What is configured as a limit, a timeout in nanoseconds. -/
def configured (options : Options) : Limit → Nat
  | memory => options.memoryLimit
  | query => options.queryDuration
  | session => options.sessionDuration
  | threads => options.threads

/-- How much of what is configured the library counts as one. -/
def unit : Limit → Nat
  | memory => 1
  | query => 1000000000
  | session => 1000000
  | threads => 1

/-- What is configured as a limit, in whole units. -/
def converted (options : Options) (limit : Limit) : Nat :=
  limit.configured options / limit.unit

/-- What the engine is told. -/
def native (options : NativeOptions) : Limit → IntegerKind.int32.Number
  | memory => options.memoryLimit
  | query => options.queryTimeout
  | session => options.sessionTimeout
  | threads => options.threads

theorem unit_pos (limit : Limit) : 0 < limit.unit := by
  cases limit <;> decide

theorem forall_iff {property : Limit → Prop} : (∀ limit, property limit) ↔
    property .memory ∧ property .query ∧ property .session ∧ property .threads := by
  constructor
  · intro each
    exact ⟨each _, each _, each _, each _⟩
  · rintro ⟨memory, query, session, threads⟩ limit
    cases limit <;> assumption

end Limit

namespace Options

variable {options : Options} {native : NativeOptions}

/-! ## The native form -/

theorem limit_eq_ok {name : String} {value : Nat} {number : IntegerKind.int32.Number} :
    limit name value = .ok number ↔ number.val = value := by
  rw [← IntegerKind.ofInt?_eq_some]
  unfold limit
  split
  · next found => simp [found]
  · next missing => simp [missing]

/-- What is too large for the library does not fit 32 bits with a sign. -/
theorem exists_number_iff {value : Nat} :
    (∃ number : IntegerKind.int32.Number, number.val = value) ↔ value < 2 ^ 31 := by
  have greatest : IntegerKind.int32.maximum = 2 ^ 31 - 1 := by decide
  have least := IntegerKind.minimum_le_zero .int32
  constructor
  · rintro ⟨number, same⟩
    have fits := number.property.2
    omega
  · intro fits
    exact ⟨⟨value, by omega, by omega⟩, rfl⟩

theorem exists_nativeTraceFile_eq_ok {path : Option Bytes} :
    (∃ text, nativeTraceFile path = .ok text) ↔ ∀ octets ∈ path, 0 ∉ octets := by
  cases path with
  | none => exact ⟨fun _ _ => nofun, fun _ => ⟨none, rfl⟩⟩
  | some octets =>
      simp only [Option.mem_def, Option.some.injEq, forall_eq', nativeTraceFile,
        NativeText.ofBytes?]
      by_cases free : 0 ∉ octets
      · rw [dif_pos free]
        exact iff_of_true ⟨_, rfl⟩ free
      · rw [dif_neg free]
        refine iff_of_false ?_ free
        rintro ⟨_, made⟩
        cases made

/-- **Each limit is handed over in whole units**, and nothing remote is asked for. -/
theorem toNative_eq_ok : options.toNative = .ok native ↔
    nativeTraceFile options.traceFile = .ok native.traceFile ∧
      (∀ limit : Limit, ((limit.native native).val : Int) = limit.converted options) ∧
        native.remote = false ∧ native.listener = false := by
  obtain ⟨memory, query, session, threads, remote, listener, path⟩ := native
  simp only [toNative, Except.bind_eq_ok, limit_eq_ok, Limit.forall_iff, Limit.converted,
    Limit.configured, Limit.unit, Limit.native, Nat.div_one]
  constructor
  · rintro ⟨_, traced, _, first, _, second, _, third, _, fourth, whole⟩
    cases whole
    exact ⟨traced, ⟨first, second, third, fourth⟩, rfl, rfl⟩
  · rintro ⟨traced, ⟨first, second, third, fourth⟩, rfl, rfl⟩
    exact ⟨_, traced, _, first, _, second, _, third, _, fourth, rfl⟩

example : (({ default with queryTimeout := 2500, sessionTimeout := 2500 } : Options).toNative.map
    fun native => (native.queryTimeout.val, native.sessionTimeout.val)) = .ok (2, 2500) := by
  decide

theorem exists_toNative_eq_ok : (∃ native, options.toNative = .ok native) ↔
    (∀ limit : Limit, limit.converted options < 2 ^ 31) ∧
      ∀ octets ∈ options.traceFile, 0 ∉ octets := by
  constructor
  · rintro ⟨native, converted⟩
    obtain ⟨traced, told, -⟩ := toNative_eq_ok.1 converted
    exact ⟨fun limit => exists_number_iff.1 ⟨_, told limit⟩,
      exists_nativeTraceFile_eq_ok.1 ⟨_, traced⟩⟩
  · rintro ⟨fits, free⟩
    choose number told using fun limit => exists_number_iff.2 (fits limit)
    obtain ⟨path, traced⟩ := exists_nativeTraceFile_eq_ok.2 free
    exact ⟨⟨number .memory, number .query, number .session, number .threads, false, false, path⟩,
      toNative_eq_ok.2 ⟨traced, Limit.forall_iff.2 ⟨told _, told _, told _, told _⟩, rfl, rfl⟩⟩

/-! ## What the engine makes of it -/

theorem native_eq_zero_iff (converted : options.toNative = .ok native) (limit : Limit) :
    (limit.native native).val = 0 ↔ limit.configured options < limit.unit := by
  rw [(toNative_eq_ok.1 converted).2.1 limit, Int.natCast_eq_zero, Limit.converted,
    Nat.div_eq_zero_iff_lt limit.unit_pos]

theorem native_le_native {larger : Options} {other : NativeOptions} {limit : Limit}
    (converted : options.toNative = .ok native) (another : larger.toNative = .ok other)
    (more : limit.configured options ≤ limit.configured larger) :
    (limit.native native).val ≤ (limit.native other).val := by
  rw [(toNative_eq_ok.1 converted).2.1 limit, (toNative_eq_ok.1 another).2.1 limit]
  exact Int.ofNat_le.2 (Nat.div_le_div_right more)

/-- Converted settings are never a reason to refuse a database. -/
theorem refusal?_of_toNative (converted : options.toNative = .ok native)
    {url : Option NativeText}
    (near : ¬ ((url.map NativeText.toString).getD "").startsWith "mapi:") :
    Engine.refusal? url (some native) = none := by
  obtain ⟨-, told, remote, listener⟩ := toNative_eq_ok.1 converted
  have natural (limit : Limit) : ¬ (limit.native native).val < 0 := by
    rw [told limit]
    omega
  obtain ⟨memory, query, session, threads⟩ := Limit.forall_iff.1 natural
  simp only [Limit.native] at memory query session threads
  simp [Engine.refusal?, near, memory, query, session, threads, remote, listener]

/-- **Limits reach the engine in whole units.** A limit is zero to the engine exactly if less than
one unit of it is configured, and a larger one is not smaller to the engine. The settings cannot be
converted exactly if a limit, in whole units, does not fit 32 bits or the name of the trace file has
a NUL; once they are converted, only the address can be refused. -/
theorem limits_in_whole_units (options : Options) :
    (∀ native, options.toNative = .ok native →
      (∀ limit : Limit,
        (limit.native native).val = 0 ↔ limit.configured options < limit.unit) ∧
      (∀ (larger : Options) (other : NativeOptions) (limit : Limit),
        larger.toNative = .ok other → limit.configured options ≤ limit.configured larger →
          (limit.native native).val ≤ (limit.native other).val) ∧
      ∀ url : Option NativeText,
        ¬ ((url.map NativeText.toString).getD "").startsWith "mapi:" →
          Engine.refusal? url (some native) = none) ∧
    ((∃ error, options.toNative = .error error) ↔
      (∃ limit : Limit, 2 ^ 31 ≤ limit.converted options) ∨
        ∃ octets ∈ options.traceFile, 0 ∈ octets) := by
  refine ⟨fun native converted => ⟨native_eq_zero_iff converted,
    fun larger other limit => native_le_native converted,
    fun url => refusal?_of_toNative converted⟩, ?_⟩
  have refused : (∃ error, options.toNative = .error error) ↔
      ¬ ∃ native, options.toNative = .ok native := by
    cases options.toNative <;> simp
  rw [refused, exists_toNative_eq_ok, not_and_or]
  push Not
  rfl

/-- A timeout of half a second is less than one second, and less than one of three seconds. -/
theorem limits_in_whole_units_half_second :
    ∃ native other, toNative { default with queryTimeout := 500 } = .ok native ∧
      toNative { default with queryTimeout := 3000 } = .ok other ∧
      (native.queryTimeout.val = 0 ↔ 500000000 < 1000000000) ∧
      native.queryTimeout.val ≤ other.queryTimeout.val ∧
      Engine.refusal? (NativeText.ofString? "demo") (some native) = none := by
  refine ⟨_, _, rfl, rfl, ?_⟩
  obtain ⟨lost, order, accepted⟩ :=
    (limits_in_whole_units { default with queryTimeout := 500 }).1 _ rfl
  exact ⟨lost .query, order { default with queryTimeout := 3000 } _ .query rfl (by decide),
    accepted _ (by decide)⟩

/-- A query timeout of half a second is none to the engine. -/
theorem exists_timeout_lost :
    ∃ options native, options.toNative = .ok native ∧
      ¬ ((Limit.query.native native).val = 0 ↔ Limit.query.configured options = 0) :=
  ⟨{ default with queryTimeout := 500 }, _, rfl, by decide⟩

end Options

end ColumnStore
