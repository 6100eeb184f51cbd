import NamedSql.Proofs.Coverage
import NamedSql.Query

/-! # Reading a statement back

Each part of an encoding is read off the front of a string of bytes, and what is left is handed on.
A reader takes neither less nor more than what was written for it, whatever follows
(`Wire.number?_append`, `Wire.length?_append`, `Wire.counted?_append`, `Wire.value?_append`), so the
values of a statement are read one after the other from its bytes, which have nothing between them
(`Wire.values?_flatMap`). The type tells how to read a value, and the null flag tells NULL from a
text, which has the same type.

A list cannot be told from NULL. But no argument of a binding is a list (`Plan.of_bind`), and so a
statement tells all values that it was made of (`values?_sent`). -/

namespace NamedSql

/-- The number of bytes of a text or a string of bytes. -/
def Value.byteCount : Value → Nat
  | text t => (Wire.utf8 t).length
  | bytes b => b.length
  | _ => 0

/-! ### Readers -/

namespace Wire

/-- The number with the given bytes, the least significant first. -/
def ofLittleEndian : List UInt8 → Nat
  | [] => 0
  | byte :: bytes => byte.toNat + 256 * ofLittleEndian bytes

/-- The given number of bytes, and the rest. -/
def take? (count : Nat) (bytes : List UInt8) : Option (List UInt8 × List UInt8) :=
  if count ≤ bytes.length then some (bytes.take count, bytes.drop count) else none

/-- A number of the given width, and the rest. -/
def number? (width : Nat) (bytes : List UInt8) : Option (Nat × List UInt8) := do
  let (digits, rest) ← take? width bytes
  return (ofLittleEndian digits, rest)

/-- A length, and the rest. -/
def length? : List UInt8 → Option (Nat × List UInt8)
  | [] => none
  | first :: bytes =>
    if first.toNat < 251 then some (first.toNat, bytes)
    else if first = 0xFC then number? 2 bytes
    else if first = 0xFD then number? 3 bytes
    else if first = 0xFE then number? 8 bytes
    else none

/-- A string of bytes after its length, and the rest. -/
def counted? (bytes : List UInt8) : Option (List UInt8 × List UInt8) := do
  let (count, rest) ← length? bytes
  take? count rest

/-- The text with the given bytes. -/
def text? (bytes : List UInt8) : Option Text := bytes.toByteArray.utf8Decode?.map Array.toList

/-- A value of the given type and null flag, and the rest. -/
def value? : ColumnType × Bool → List UInt8 → Option (Value × List UInt8)
  | (_, true), bytes => some (.null, bytes)
  | (.tinyUnsigned, false), bytes => do
    let (n, rest) ← number? 1 bytes
    return (.bool (n != 0), rest)
  | (.longLong, false), bytes => do
    let (n, rest) ← number? 8 bytes
    return (.int (UInt64.ofNat n).toInt64, rest)
  | (.longLongUnsigned, false), bytes => do
    let (n, rest) ← number? 8 bytes
    return (.uint (UInt64.ofNat n), rest)
  | (.double, false), bytes => do
    let (n, rest) ← number? 8 bytes
    return (.float ⟨UInt64.ofNat n⟩, rest)
  | (.varString, false), bytes => do
    let (encoded, rest) ← counted? bytes
    let t ← text? encoded
    return (.text t, rest)
  | (.blob, false), bytes => do
    let (b, rest) ← counted? bytes
    return (.bytes b, rest)

/-- The values of the given types and null flags, which make up all bytes. -/
def values? : List (ColumnType × Bool) → List UInt8 → Option (List Value)
  | [], [] => some []
  | [], _ :: _ => none
  | column :: columns, bytes => do
    let (value, rest) ← value? column bytes
    let values ← values? columns rest
    return value :: values

/-! ### What was written is read -/

@[simp] theorem length_littleEndian (width n : Nat) : (littleEndian width n).length = width := by
  induction width generalizing n with
  | zero => rfl
  | succ width ih => rw [littleEndian, List.length_cons, ih]

theorem ofLittleEndian_littleEndian {width n : Nat} (h : n < 256 ^ width) :
    ofLittleEndian (littleEndian width n) = n := by
  induction width generalizing n with
  | zero =>
    rw [Nat.pow_zero, Nat.lt_one_iff] at h
    exact h.symm
  | succ width ih =>
    have hdiv : n / 256 < 256 ^ width := by
      rw [Nat.pow_succ, Nat.mul_comm] at h
      exact Nat.div_lt_of_lt_mul h
    have hdigit : (UInt8.ofNat n).toNat = n % 256 := UInt8.toNat_ofNat'
    rw [littleEndian, ofLittleEndian, ih hdiv, hdigit]
    exact Nat.mod_add_div n 256

theorem take?_append (bytes rest : List UInt8) :
    take? bytes.length (bytes ++ rest) = some (bytes, rest) := by
  rw [take?, if_pos (by simp), List.take_left, List.drop_left]

theorem number?_append {width n : Nat} (h : n < 256 ^ width) (rest : List UInt8) :
    number? width (littleEndian width n ++ rest) = some (n, rest) := by
  have htake := take?_append (littleEndian width n) rest
  rw [length_littleEndian] at htake
  rw [number?, htake]
  dsimp only [bind, Option.bind]
  rw [ofLittleEndian_littleEndian h]
  rfl

/-- A length that is not a marker is one byte; the markers tell how many bytes follow. -/
theorem length?_append {n : Nat} (h : n < 2 ^ 64) (rest : List UInt8) :
    length? (length n ++ rest) = some (n, rest) := by
  unfold length
  split_ifs with h1 h2 h3
  · have hdigit : (UInt8.ofNat n).toNat = n := by
      rw [UInt8.toNat_ofNat']
      exact Nat.mod_eq_of_lt (by omega)
    rw [List.singleton_append, length?, hdigit, if_pos h1]
  · rw [List.cons_append, length?, if_neg (by decide), if_pos rfl, number?_append (by omega)]
  · rw [List.cons_append, length?, if_neg (by decide), if_neg (by decide), if_pos rfl,
      number?_append (by omega)]
  · rw [List.cons_append, length?, if_neg (by decide), if_neg (by decide), if_neg (by decide),
      if_pos rfl, number?_append (by omega)]

theorem counted?_append {bytes : List UInt8} (h : bytes.length < 2 ^ 64) (rest : List UInt8) :
    counted? (counted bytes ++ rest) = some (bytes, rest) := by
  rw [counted?, counted, List.append_assoc, length?_append h]
  exact take?_append bytes rest

theorem text?_utf8 (t : Text) : text? (utf8 t) = some t := by
  have hdecode : (utf8 t).toByteArray.utf8Decode? = some t.toArray := List.utf8Decode?_utf8Encode
  rw [text?, hdecode]
  rfl

/-- A word of eight bytes is read back. -/
theorem number?_word (n : UInt64) (rest : List UInt8) :
    number? 8 (littleEndian 8 n.toNat ++ rest) = some (n.toNat, rest) :=
  number?_append n.toNat_lt rest

/-- **One value** is read back from its cell. -/
theorem value?_append {value : Value} (hlist : value.isList = false)
    (hsize : value.byteCount < 2 ^ 64) (rest : List UInt8) :
    value? ((Cell.ofValue value).type, (Cell.ofValue value).isNull)
      ((Cell.ofValue value).bytes ++ rest) = some (value, rest) := by
  cases value with
  | null => rfl
  | bool b => cases b <;> rfl
  | int n =>
    simp only [Cell.ofValue, value?, number?_word, Option.bind_eq_bind, Option.bind_some,
      UInt64.ofNat_toNat]
    rfl
  | uint n => simp [Cell.ofValue, value?, number?_word]
  | float x => simp [Cell.ofValue, value?, number?_word]
  | text t => simp [Cell.ofValue, value?, counted?_append hsize, text?_utf8]
  | bytes b => simp [Cell.ofValue, value?, counted?_append hsize]
  | list items => cases hlist

/-- **All values** are read back from their cells. -/
theorem values?_flatMap {values : List Value} (hlist : ∀ value ∈ values, value.isList = false)
    (hsize : ∀ value ∈ values, value.byteCount < 2 ^ 64) :
    values? ((values.map Cell.ofValue).map fun cell => (cell.type, cell.isNull))
      ((values.map Cell.ofValue).flatMap (·.bytes)) = some values := by
  induction values with
  | nil => rfl
  | cons value values ih =>
    obtain ⟨hvalue, hlist⟩ := List.forall_mem_cons.mp hlist
    obtain ⟨hbytes, hsize⟩ := List.forall_mem_cons.mp hsize
    rw [List.map_cons, List.map_cons, List.flatMap_cons, values?, value?_append hvalue hbytes]
    dsimp only [bind, Option.bind]
    rw [ih hlist hsize]
    rfl

end Wire

/-! ### What is sent -/

section

variable {q : Type} [TakesArguments q]

/-- A query for rows hands all arguments on. -/
theorem inner_bindArguments (query : QueryAs) (arguments : Arguments) :
    (bindArguments query arguments).inner = bindArguments query.inner arguments := by
  obtain ⟨values⟩ := arguments
  unfold bindArguments
  dsimp only
  induction values generalizing query with
  | nil => rfl
  | cons value values ih => exact ih (bindValue query value)

/-- A query takes the cells of its arguments in order. -/
theorem bindArguments_query (query : Query) (arguments : Arguments) :
    bindArguments query arguments =
      ⟨query.sql,
        query.packet.columns ++
          (arguments.values.map Cell.ofValue).map fun cell => (cell.type, cell.isNull),
        query.packet.bytes ++ (arguments.values.map Cell.ofValue).flatMap (·.bytes)⟩ := by
  obtain ⟨values⟩ := arguments
  unfold bindArguments
  dsimp only
  induction values generalizing query with
  | nil => simp
  | cons value values ih =>
    rw [List.foldl_cons, ih]
    simp [bindValue, TakesArguments.bindOne, Packet.add]

end

/-- **What is sent** is the statement, whichever way the plan is run. -/
theorem Prepared.sent_eq (prepared : Prepared) (mode : Mode) :
    prepared.sent mode = .ofStatement prepared.statement := by
  have hquery : prepared.query = .ofStatement prepared.statement := by
    rw [query, bindArguments_query]
    rfl
  have hqueryAs : prepared.queryAs.inner = .ofStatement prepared.statement := by
    rw [queryAs, inner_bindArguments]
    exact hquery
  cases mode with
  | execute => exact hquery
  | _ => exact hqueryAs

/-! ### The arguments of a binding -/

/-- Nothing that is written for a parameter is a list. -/
theorem Param.Source.isList_eq_false {bindings : Bindings} {param : Param} {key : Text}
    {value : Value} (h : param.Source bindings key value) (haccepts : param.Accepts bindings) :
    value.isList = false := by
  obtain ⟨bound, hbound, htakes⟩ := haccepts
  unfold Takes at htakes
  cases h with
  | value hkind hvalue =>
    rw [hkind] at htakes
    obtain rfl := Option.some.inj (hbound.symm.trans hvalue)
    exact htakes
  | element hkind hvalue hi hitem =>
    rw [hkind] at htakes
    obtain ⟨items, rfl, hitems, -⟩ := htakes
    cases hbound.symm.trans hvalue
    exact hitems _ (List.mem_of_getElem? hitem)
  | @padding capacity i items hkind hvalue hi hlength =>
    rw [hkind] at htakes
    obtain ⟨items', rfl, hitems, -⟩ := htakes
    cases hbound.symm.trans hvalue
    unfold Param.padding
    cases hlast : items.getLast? with
    | none => simp [Value.isList]
    | some item =>
      have hitem := hitems item (List.mem_of_getLast? hlast)
      split_ifs
      · exact hitem
      · rfl

section

variable {dialect : Dialect} {capacities : Dict Nat}

/-- A binding has an argument for each placeholder, and none of them is a list. -/
theorem Plan.of_bind {text : Text} {plan : Plan} (h : dialect.compile text capacities = .ok plan)
    {bindings : Bindings} {arguments : Arguments} (hb : plan.bind bindings = .ok arguments) :
    arguments.size = plan.placeholders ∧ ∀ value ∈ arguments.values, value.isList = false := by
  obtain ⟨-, splices, rest, hmade⟩ := exists_madeOf_of_compile h
  obtain ⟨-, hbound, hvalues⟩ := (bind_eq_ok_iff hmade.layout hmade.uniform).mp hb
  constructor
  · rw [Arguments.size, hvalues, List.length_map, Plan.placeholders, hmade.layout]
    rfl
  · rw [hvalues]
    refine List.forall_mem_map.mpr fun key hkey => ?_
    obtain ⟨param, hparam, value, hsource, hwritten⟩ :=
      exists_source_of_mem hmade.layout hmade.uniform hbound hkey
    rw [hwritten]
    exact hsource.isList_eq_false (Param.isBound_iff_accepts.mp (hbound param hparam))

/-- **A statement tells the values that it was made of.** No argument of a binding is a list, and
there is one for each placeholder. Whichever way the plan is run, its SQL is sent with the types,
the null flags and the bytes of the arguments, and these values and no others are read back from
them. -/
theorem values?_sent {text : Text} {plan : Plan}
    (h : dialect.compile text capacities = .ok plan) {bindings : Bindings} {prepared : Prepared}
    (hb : Prepared.ofPlan plan bindings = .ok prepared)
    (hsize : ∀ value ∈ prepared.arguments.values, value.byteCount < 2 ^ 64) :
    (∀ value ∈ prepared.arguments.values, value.isList = false) ∧
      prepared.arguments.size = plan.placeholders ∧
      ∀ mode, prepared.sent mode = .ofStatement prepared.statement ∧
        (prepared.sent mode).sql = plan.sql ∧
        Wire.values? (prepared.sent mode).packet.columns (prepared.sent mode).packet.bytes =
          some prepared.arguments.values := by
  obtain ⟨arguments, harguments, rfl⟩ : ∃ arguments, plan.bind bindings = .ok arguments ∧
      prepared = ⟨plan, arguments⟩ := by
    unfold Prepared.ofPlan at hb
    cases harguments : plan.bind bindings with
    | error e => rw [harguments] at hb; cases hb
    | ok arguments =>
      rw [harguments] at hb
      exact ⟨arguments, rfl, (Except.ok.inj hb).symm⟩
  obtain ⟨hcount, hlist⟩ := Plan.of_bind h harguments
  refine ⟨hlist, hcount, fun mode => ?_⟩
  have hsent := Prepared.sent_eq ⟨plan, arguments⟩ mode
  refine ⟨hsent, by rw [hsent]; rfl, ?_⟩
  rw [hsent]
  exact Wire.values?_flatMap hlist hsize

/-- An empty text and NULL, which have the same type, a negative number, and bytes of which the
length takes three bytes. -/
theorem values?_sent_null_and_text :
    let text := "x = :a AND y IN :b".toList
    let long : List UInt8 := List.replicate 251 7
    let plan : Plan := ⟨text, "x = ? AND y IN (?, ?, ?)".toList,
      ⟨4, [⟨['a'], .scalar, false⟩, ⟨['b'], .list 3, false⟩],
        [(['a'], [1]), ("b__0".toList, [2]), ("b__1".toList, [3]), ("b__2".toList, [4])]⟩⟩
    let bindings := Dict.ofList [(['a'], .text []), (['b'], .list [.null, .int (-1), .bytes long])]
    let prepared : Prepared := ⟨plan, ⟨[.text [], .null, .int (-1), .bytes long]⟩⟩
    Dialect.standard.compile text (Dict.empty.insert ['b'] 3) = .ok plan ∧
      Prepared.ofPlan plan bindings = .ok prepared ∧
      (∀ value ∈ prepared.arguments.values, value.byteCount < 2 ^ 64) ∧
      ∀ mode, (prepared.sent mode).packet = ⟨[(.varString, false), (.varString, true),
          (.longLong, false), (.blob, false)],
          0 :: List.replicate 8 255 ++ [0xFC, 251, 0] ++ long⟩ ∧
        Wire.values? (prepared.sent mode).packet.columns (prepared.sent mode).packet.bytes =
          some [.text [], .null, .int (-1), .bytes long] := by
  intro text long plan bindings prepared
  have h : Dialect.standard.compile text (Dict.empty.insert ['b'] 3) = .ok plan := by
    decide +kernel
  have hb : Prepared.ofPlan plan bindings = .ok prepared := rfl
  have hsize : ∀ value ∈ prepared.arguments.values, value.byteCount < 2 ^ 64 := by decide +kernel
  obtain ⟨-, -, hsent⟩ := values?_sent h hb hsize
  refine ⟨h, hb, hsize, fun mode => ⟨?_, (hsent mode).2.2⟩⟩
  rw [(hsent mode).1]
  decide +kernel

end

end NamedSql
