import Mathlib.Data.List.Forall2

/-! JSON values, and how a derived deserializer reads a record from one. A record is an
object with members of known names, each at most once, or an array of its fields in the
order of their declaration; a member of another name is passed over. -/
namespace Json

inductive Value where
  | null
  | bool (value : Bool)
  /-- A number, as it is written. -/
  | number (digits : String)
  | string (text : String)
  | array (items : List Value)
  /-- The members in the order of the text; a name may come more than once. -/
  | object (members : List (String × Value))

variable {α : Type u} {members : List (String × Value)} {names : List String}

/-- What is given for a field: nothing, or its value. There is no reading of a field that
is given twice. -/
def Value.field (value : Value) (index : ℕ) (names : List String) : Option (Option Value) :=
  match value with
  | .object members =>
    match members.filter fun member => names.contains member.1 with
    | [] => some none
    | [member] => some (some member.2)
    | _ => none
  | .array items => some items[index]?
  | _ => none

/-- A field with the value it has when it is missing, where it may be. -/
def Value.readField (value : Value) (index : ℕ) (names : List String) (missing : Option α)
    (read : Value → Option α) : Option α :=
  match value.field index names with
  | none => none
  | some none => missing
  | some (some given) => read given

/-- A value that can be a record of `count` fields. -/
def Value.isRecord (count : ℕ) : Value → Bool
  | .object _ => true
  | .array items => items.length ≤ count
  | _ => false

def Value.readString : Value → Option String
  | .string text => some text
  | _ => none

def Value.readBool : Value → Option Bool
  | .bool value => some value
  | _ => none

/-- An unsigned integer below a limit. -/
def Value.readUnsigned (limit : ℕ) : Value → Option ℕ
  | .number digits =>
    if digits.toList.all Char.isDigit then digits.toNat?.filter (· < limit) else none
  | _ => none

def Value.readList (read : Value → Option α) : Value → Option (List α)
  | .array items => items.mapM read
  | _ => none

/-! ## Values without repetition -/

mutual

/-- What is kept of a text read as a value: of the members of one name the last. -/
def Value.unique : Value → Value
  | .array items => .array (uniqueItems items)
  | .object members => .object (uniqueMembers members)
  | other => other

def uniqueItems : List Value → List Value
  | [] => []
  | item :: rest => item.unique :: uniqueItems rest

def uniqueMembers : List (String × Value) → List (String × Value)
  | [] => []
  | (name, value) :: rest =>
    if rest.any fun member => member.1 == name then uniqueMembers rest
    else (name, value.unique) :: uniqueMembers rest

end

/-! ## Fields -/

/-- A field that is not missing has been given and read. -/
theorem readField_eq_some_iff {value : Value} {index : ℕ} {missing : Option α}
    {read : Value → Option α} {result : α} (differs : missing ≠ some result) :
    value.readField index names missing read = some result ↔
      ∃ given, value.field index names = some (some given) ∧ read given = some result := by
  unfold Value.readField
  cases value.field index names with
  | none => simp
  | some found =>
    cases found with
    | none => simpa using differs
    | some given => simp

/-- What a record says of a field: the value of its one member, or of its item, or that it is
missing. -/
inductive HasField (holds : Value → Prop) (absent : Prop) (index : ℕ) (name : String) : Value → Prop where
  | member {members : List (String × Value)} {value : Value}
      (only : (members.filter fun member => member.1 == name) = [(name, value)]) (said : holds value) :
      HasField holds absent index name (.object members)
  | noMember {members : List (String × Value)}
      (none : (members.filter fun member => member.1 == name) = []) (missing : absent) :
      HasField holds absent index name (.object members)
  | item {items : List Value} {value : Value} (here : items[index]? = some value) (said : holds value) :
      HasField holds absent index name (.array items)
  | noItem {items : List Value} (beyond : items[index]? = none) (missing : absent) :
      HasField holds absent index name (.array items)

theorem HasField.congr {holds others : Value → Prop} {absent missing : Prop} {index : ℕ} {name : String}
    {value : Value} (same : ∀ given, holds given ↔ others given) (equal : absent ↔ missing) :
    HasField holds absent index name value ↔ HasField others missing index name value := by
  rw [funext fun given => propext (same given), propext equal]

/-- A field is read exactly as the record says it. -/
theorem readField_eq_iff {value : Value} {index : ℕ} {name : String} {missing : Option α}
    {read : Value → Option α} {result : α} :
    value.readField index [name] missing read = some result ↔
      HasField (fun given => read given = some result) (missing = some result) index name value := by
  have named (members : List (String × Value)) :
      (members.filter fun member => [name].contains member.1) =
        members.filter fun member => member.1 == name :=
    List.filter_congr fun member _ => by rw [Bool.eq_iff_iff]; simp
  constructor
  · intro came
    cases value with
    | object members =>
      rw [Value.readField, Value.field, named] at came
      rcases found : members.filter fun member => member.1 == name with _ | ⟨⟨other, given⟩, _ | ⟨next, rest⟩⟩
      · rw [found] at came
        exact .noMember found came
      · rw [found] at came
        obtain rfl : other = name := by
          have listed : (other, given) ∈ members.filter fun member => member.1 == name := by
            rw [found]
            exact List.mem_singleton_self _
          exact beq_iff_eq.mp (List.mem_filter.mp listed).2
        exact .member found came
      · rw [found] at came
        cases came
    | array items =>
      rw [Value.readField, Value.field] at came
      cases here : items[index]? with
      | none =>
        rw [here] at came
        exact .noItem here came
      | some given =>
        rw [here] at came
        exact .item here came
    | _ => cases came
  · rintro (⟨only, said⟩ | ⟨none, default⟩ | ⟨here, said⟩ | ⟨beyond, default⟩)
    · rw [Value.readField, Value.field, named, only]
      exact said
    · rw [Value.readField, Value.field, named, none]
      exact default
    · rw [Value.readField, Value.field, here]
      exact said
    · rw [Value.readField, Value.field, beyond]
      exact default

theorem required_iff {value : Value} {index : ℕ} {name : String} {read : Value → Option α} {result : α}
    {holds : Value → Prop} (reads : ∀ given, read given = some result ↔ holds given) :
    value.readField index [name] none read = some result ↔ HasField holds False index name value :=
  readField_eq_iff.trans (HasField.congr reads (by simp))

theorem defaulted_iff {value : Value} {index : ℕ} {name : String} {missing : α}
    {read : Value → Option α} {result : α} {holds : Value → Prop}
    (reads : ∀ given, read given = some result ↔ holds given) :
    value.readField index [name] (some missing) read = some result ↔
      HasField holds (result = missing) index name value :=
  readField_eq_iff.trans (HasField.congr reads (by rw [Option.some.injEq, eq_comm]))

/-- Members of other names, and the order of the members, say nothing. -/
theorem readField_congr {others : List (String × Value)} {index : ℕ} {missing : Option α}
    {read : Value → Option α}
    (same : (others.filter fun member => names.contains member.1).Perm
      (members.filter fun member => names.contains member.1)) :
    (Value.object others).readField index names missing read =
      (Value.object members).readField index names missing read := by
  rw [Value.readField, Value.readField, Value.field, Value.field]
  rcases found : members.filter fun member => names.contains member.1 with _ | ⟨member, _ | ⟨next, rest⟩⟩
  · rw [found, List.perm_nil] at same
    rw [same, found]
  · rw [found, List.perm_singleton] at same
    rw [same, found]
  · rw [found] at same
    have length := same.length_eq
    rcases other : others.filter fun member => names.contains member.1 with _ | ⟨first, _ | ⟨second, more⟩⟩
    · rw [other] at length
      cases length
    · rw [other] at length
      cases length
    · rw [other, found]

theorem readUnsigned_lt {limit number : ℕ} {value : Value}
    (read : value.readUnsigned limit = some number) : number < limit := by
  unfold Value.readUnsigned at read
  split at read
  · split at read
    · exact of_decide_eq_true (Option.filter_eq_some_iff.mp read).2
    · cases read
  · cases read

/-- A list is read exactly if its items are, one by one. -/
theorem readList_eq_some_iff {read : Value → Option α} {value : Value} {results : List α} :
    Value.readList read value = some results ↔
      ∃ items, value = .array items ∧ List.Forall₂ (fun item result => read item = some result) items results := by
  have all (items : List Value) : items.mapM read = some results ↔
      List.Forall₂ (fun item result => read item = some result) items results := by
    induction items generalizing results with
    | nil => simp [List.forall₂_nil_left_iff, eq_comm]
    | cons item rest ih =>
      cases results with
      | nil => simp [List.mapM_cons, Option.bind_eq_some_iff, List.forall₂_nil_right_iff]
      | cons result more => simp [List.mapM_cons, Option.bind_eq_some_iff, ih]
  cases value with
  | array items => simp [Value.readList, all]
  | _ => simp [Value.readList]

/-! ## Records -/

/-- The object of the fields that are written. -/
def record (fields : List (String × Option Value)) : List (String × Value) :=
  fields.filterMap fun (name, value) => value.map fun value => (name, value)

/-- Where no two fields have one name, each name finds its own. -/
theorem filter_record {fields : List (String × Option Value)} {name : String} {given : Option Value}
    (distinct : (fields.map Prod.fst).Nodup) (listed : (name, given) ∈ fields) :
    ((record fields).filter fun member => member.1 == name) =
      given.toList.map fun value => (name, value) := by
  induction fields with
  | nil => cases listed
  | cons field rest ih =>
    obtain ⟨other, value⟩ := field
    rw [List.map_cons, List.nodup_cons] at distinct
    obtain ⟨fresh, distinct⟩ := distinct
    have split : record ((other, value) :: rest) =
        (value.toList.map fun value => (other, value)) ++ record rest := by
      cases value <;> rfl
    rw [split, List.filter_append]
    rcases List.mem_cons.mp listed with same | later
    · obtain ⟨rfl, rfl⟩ := Prod.mk.inj same
      have absent : ((record rest).filter fun member => member.1 == name) = [] := by
        rw [List.filter_eq_nil_iff]
        intro member inside
        obtain ⟨⟨field, value⟩, within, written⟩ := List.mem_filterMap.mp inside
        obtain ⟨_, -, rfl⟩ := Option.map_eq_some_iff.mp written
        simp only [beq_iff_eq]
        rintro rfl
        exact fresh (List.mem_map.mpr ⟨_, within, rfl⟩)
      rw [absent, List.append_nil, List.filter_eq_self]
      intro member inside
      obtain ⟨_, -, rfl⟩ := List.mem_map.mp inside
      exact beq_self_eq_true _
    · have differs : other ≠ name := by
        rintro rfl
        exact fresh (List.mem_map.mpr ⟨_, later, rfl⟩)
      have none : ((value.toList.map fun value => (other, value)).filter fun member => member.1 == name) = [] := by
        rw [List.filter_eq_nil_iff]
        intro member inside
        obtain ⟨_, -, rfl⟩ := List.mem_map.mp inside
        simpa using differs
      rw [none, ih distinct later, List.nil_append]

/-- In the object of the fields, each is what it was written as. -/
theorem hasField_record {fields : List (String × Option Value)} {name : String} {given : Option Value}
    {holds : Value → Prop} {absent : Prop} {index : ℕ} (distinct : (fields.map Prod.fst).Nodup)
    (listed : (name, given) ∈ fields) (said : given.elim absent holds) :
    HasField holds absent index name (.object (record fields)) := by
  have found := filter_record distinct listed
  cases given with
  | none => exact .noMember found said
  | some value => exact .member found said

theorem readString_eq_some_iff {value : Value} {text : String} :
    value.readString = some text ↔ value = .string text := by
  cases value <;> simp [Value.readString]

end Json
