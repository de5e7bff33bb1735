import AssetRegistry.Proofs.MetadataAnswers
import AssetRegistry.Proofs.StoredFields

/-!
# Shapes of structured values

The metadata values that are JSON texts have to have a shape, which `HasShape` says of the
value that a text is read as: an object with numbers under certain keys, four rows of four
numbers, a point, a geometry.  Each check passes exactly the texts whose values have its shape.
Some shapes are special cases of others, so that a stored value stays valid if its type is
replaced by a wider one.
-/

namespace AssetRegistry

/-! ### Parts of values -/

namespace Json

/-- The value of a key among the members of an object, where later members count more. -/
def HasLast (members : List (String × Json)) (key : String) (value : Json) : Prop :=
  ∃ before after, members = before ++ (key, value) :: after ∧ ∀ member ∈ after, member.1 ≠ key

/-- A list of numbers, as it stands in an array. -/
def ofNumbers (numbers : List Number) : Json :=
  .array (numbers.map .number)

section Parts

variable {members : List (String × Json)} {key : String} {j value : Json} {items : List Json}

/-- A member is looked up as the last one of its key. -/
theorem lookup?_eq_some_iff : lookup? key members = some value ↔ HasLast members key value := by
  rw [lookup?, Option.map_eq_some_iff]
  constructor
  · rintro ⟨⟨key', value'⟩, found, rfl⟩
    obtain ⟨same, later, earlier, split, others⟩ := List.find?_eq_some_iff_append.1 found
    have same : key' = key := by simpa using same
    subst same
    -- The search goes through the members from the last one to the first.
    refine ⟨earlier.reverse, later.reverse, ?_, ?_⟩
    · rw [← members.reverse_reverse, split]
      simp
    · intro member after
      simpa using others member (List.mem_reverse.1 after)
  · rintro ⟨before, after, rfl, others⟩
    refine ⟨(key, value), ?_, rfl⟩
    apply List.find?_eq_some_iff_append.2
    refine ⟨by simp, after.reverse, before.reverse, by simp, ?_⟩
    intro member later
    simpa using others member (List.mem_reverse.1 later)

/-- A value is a number where it is written as one. -/
theorem isNumber_iff : j.isNumber = true ↔ ∃ n, j = .number n := by
  cases j <;> simp [isNumber]

/-- A value is a text where it is written as one. -/
theorem string?_eq_some_iff {s : String} : j.string? = some s ↔ j = .string s := by
  cases j <;> simp [string?]

/-- A value is an array where it is written as one. -/
theorem array?_eq_some_iff : j.array? = some items ↔ j = .array items := by
  cases j <;> simp [array?]

/-- A value is an object where it is written as one. -/
theorem object?_eq_some_iff : j.object? = some members ↔ j = .object members := by
  cases j <;> simp [object?]

/-- Only an object has a value under a key. -/
theorem get?_eq_some_iff :
    j.get? key = some value ↔ ∃ members, j = .object members ∧ HasLast members key value := by
  simp only [get?, Option.bind_eq_some_iff, object?_eq_some_iff, lookup?_eq_some_iff]

/-- A text under a key is one of an object whose last member of the key it is. -/
theorem bind_string?_eq_some_iff {s : String} :
    (j.get? key).bind string? = some s ↔
      ∃ members, j = .object members ∧ HasLast members key (.string s) := by
  simp only [Option.bind_eq_some_iff, string?_eq_some_iff, exists_eq_right, get?_eq_some_iff]

/-- An array under a key is one of an object whose last member of the key it is. -/
theorem bind_array?_eq_some_iff :
    (j.get? key).bind array? = some items ↔
      ∃ members, j = .object members ∧ HasLast members key (.array items) := by
  simp only [Option.bind_eq_some_iff, array?_eq_some_iff, exists_eq_right, get?_eq_some_iff]

end Parts

/-- Every item of a list is made of something, so that the list is made of a list. -/
theorem exists_eq_map_iff {f : α → Json} {p : α → Prop} {items : List Json} :
    (∀ item ∈ items, ∃ a, item = f a ∧ p a) ↔
      ∃ as : List α, items = as.map f ∧ ∀ a ∈ as, p a := by
  constructor
  · intro each
    induction items with
    | nil => exact ⟨[], rfl, by simp⟩
    | cons item items ih =>
      obtain ⟨⟨a, rfl, holds⟩, others⟩ := List.forall_mem_cons.1 each
      obtain ⟨as, rfl, all⟩ := ih others
      exact ⟨a :: as, rfl, List.forall_mem_cons.2 ⟨holds, all⟩⟩
  · rintro ⟨as, rfl, all⟩ item member
    obtain ⟨a, among, rfl⟩ := List.mem_map.1 member
    exact ⟨a, rfl, all a among⟩

/-- Items that are all numbers are the array of these numbers. -/
theorem all_isNumber_iff {items : List Json} :
    (∀ item ∈ items, item.isNumber = true) ↔ ∃ numbers, .array items = ofNumbers numbers := by
  have lists : (∀ item ∈ items, ∃ n, item = number n ∧ True) ↔
      ∃ numbers : List Number, items = numbers.map number ∧ ∀ n ∈ numbers, True :=
    exists_eq_map_iff
  simpa only [isNumber_iff, ofNumbers, array.injEq, and_true, implies_true] using lists

end Json

/-! ### Shapes -/

namespace Validation

open Json

/-- A value has the shape that a type asks for. -/
inductive HasShape : ValueType → Json → Prop where
  | json (j : Json) : HasShape .json j
  | xyz {members : List (String × Json)}
      (numbers : ∀ key ∈ ["x", "y", "z"], ∃ n, HasLast members key (.number n)) :
    HasShape .xyz (.object members)
  | wxyz {members : List (String × Json)}
      (numbers : ∀ key ∈ ["w", "x", "y", "z"], ∃ n, HasLast members key (.number n)) :
    HasShape .wxyz (.object members)
  | matrix4x4 {rows : List (List Json.Number)} (four : rows.length = 4)
      (each : ∀ row ∈ rows, row.length = 4) : HasShape .matrix4x4 (.array (rows.map ofNumbers))
  | geopoint {members : List (String × Json)} {coordinates : List Json.Number}
      (type : HasLast members "type" (.string "Point"))
      (there : HasLast members "coordinates" (ofNumbers coordinates))
      (length : coordinates.length = 2 ∨ coordinates.length = 3) :
    HasShape .geopoint (.object members)
  | geojson {members : List (String × Json)} {name : String}
      (type : HasLast members "type" (.string name))
      (known : name ∈ ["Point", "MultiPoint", "LineString", "MultiLineString", "Polygon",
        "MultiPolygon", "GeometryCollection", "Feature", "FeatureCollection"]) :
    HasShape .geojson (.object members)

/-- The types with a shape. -/
def shapedTypes : List ValueType :=
  [.json, .xyz, .wxyz, .matrix4x4, .geopoint, .geojson]

/-- Every text of a type is one of another type. -/
inductive IsWithin : ValueType → ValueType → Prop where
  | wxyz : IsWithin .wxyz .xyz
  | geopoint : IsWithin .geopoint .geojson
  | xyz : IsWithin .xyz .json
  | matrix4x4 : IsWithin .matrix4x4 .json
  | geojson : IsWithin .geojson .json
  | lla : IsWithin .lla .json

section Checks

variable {s : String} {rule : ValueRule} {type : ValueType}

/-- A check of a value passes where its condition holds. -/
theorem requireValue_eq_ok {holds : Bool} {u : Unit} :
    requireValue holds rule = .ok u ↔ holds = true := by
  cases holds <;> simp [requireValue]

/-- What was looked for in a value passes where it was found. -/
theorem orBroken_eq_ok {found : Option α} {a : α} :
    orBroken rule found = .ok a ↔ found = some a := by
  cases found <;> simp [orBroken]

/-- A value is read from a text where the text is one. -/
theorem jsonOf_eq_ok {j : Json} : jsonOf s = .ok j ↔ ofText? s = some j :=
  orBroken_eq_ok

/-- The empty text is a value of every type, and any other one has to pass a check. -/
theorem metadataValue_eq_ok {u : Unit} :
    metadataValue s type = .ok u ↔ s = "" ∨ checkText s type = .ok () := by
  rw [metadataValue, ← String.isEmpty_iff]
  cases s.isEmpty
  · cases checkText s type <;> simp
  · simp

/-! ### Objects with numbers -/

/-- A check of several items passes where it does for each. -/
theorem forM_eq_ok {ε : Type} {f : α → Except ε Unit} {xs : List α} {u : Unit} :
    xs.forM f = .ok u ↔ ∀ x ∈ xs, f x = .ok () := by
  rw [List.forM_eq_forM]
  induction xs with
  | nil => simp [pure, Except.pure]
  | cons x xs ih =>
    rw [List.forM_cons, bind_eq_ok, List.forall_mem_cons, ih]
    constructor
    · rintro ⟨⟨⟩, first, others⟩
      exact ⟨first, others⟩
    · rintro ⟨first, others⟩
      exact ⟨(), first, others⟩

/-- The checked keys are those of numbers, whatever else the object has. -/
theorem numbersUnder_eq_ok {keys : List String} {u : Unit} :
    numbersUnder keys s = .ok u ↔
      ∃ members, ofText? s = some (.object members) ∧
        ∀ key ∈ keys, ∃ n, HasLast members key (.number n) := by
  simp only [numbersUnder, bind_eq_ok, jsonOf_eq_ok, orBroken_eq_ok, object?_eq_some_iff,
    forM_eq_ok, requireValue_eq_ok, lookup?_eq_some_iff, isNumber_iff]
  constructor
  · rintro ⟨_, read, members, rfl, each⟩
    refine ⟨members, read, fun key among => ?_⟩
    obtain ⟨_, there, n, rfl⟩ := each key among
    exact ⟨n, there⟩
  · rintro ⟨members, read, each⟩
    refine ⟨_, read, members, rfl, fun key among => ?_⟩
    obtain ⟨n, there⟩ := each key among
    exact ⟨_, there, n, rfl⟩

/-! ### Matrices -/

/-- No element is found that is no number. -/
theorem findIdx?_eq_none_iff_ofNumbers {items : List Json} :
    items.findIdx? (!·.isNumber) = none ↔ ∃ numbers, .array items = ofNumbers numbers := by
  rw [List.findIdx?_eq_none_iff, ← all_isNumber_iff]
  simp only [Bool.not_eq_false']

/-- A row of a matrix has four numbers. -/
theorem matrixRow_eq_ok {row : Nat} {value : Json} {u : Unit} :
    matrixRow row value = .ok u ↔ ∃ numbers, value = ofNumbers numbers ∧ numbers.length = 4 := by
  simp only [matrixRow, bind_eq_ok, orBroken_eq_ok, array?_eq_some_iff, requireValue_eq_ok,
    decide_eq_true_eq]
  constructor
  · rintro ⟨items, rfl, _, length, found⟩
    -- What is looked for is an item that is no number.
    split at found
    case h_1 => cases found
    case h_2 none =>
      obtain ⟨numbers, same⟩ := findIdx?_eq_none_iff_ofNumbers.1 none
      refine ⟨numbers, same, ?_⟩
      rw [ofNumbers, Json.array.injEq] at same
      rwa [same, List.length_map] at length
  · rintro ⟨numbers, rfl, length⟩
    refine ⟨_, rfl, (), by rw [List.length_map, length], ?_⟩
    rw [findIdx?_eq_none_iff_ofNumbers.2 ⟨numbers, rfl⟩]

/-- Rows are checked one by one, wherever the count of them starts. -/
theorem matrixRows_eq_ok {first : Nat} {rows : List Json} {u : Unit} :
    matrixRows first rows = .ok u ↔
      ∀ row ∈ rows, ∃ numbers, row = ofNumbers numbers ∧ numbers.length = 4 := by
  induction rows generalizing first with
  | nil => simp [matrixRows]
  | cons row rows ih => simp [matrixRows, bind_eq_ok, matrixRow_eq_ok, ih]

/-- A matrix has four rows of four numbers. -/
theorem matrix_eq_ok {u : Unit} :
    matrix s = .ok u ↔ ∃ rows : List (List Json.Number),
      ofText? s = some (.array (rows.map ofNumbers)) ∧ rows.length = 4 ∧
        ∀ row ∈ rows, row.length = 4 := by
  simp only [matrix, bind_eq_ok, jsonOf_eq_ok, orBroken_eq_ok, array?_eq_some_iff,
    requireValue_eq_ok, decide_eq_true_eq, matrixRows_eq_ok, exists_eq_map_iff]
  constructor
  · rintro ⟨_, read, _, rfl, _, four, rows, rfl, each⟩
    exact ⟨rows, read, by rwa [List.length_map] at four, each⟩
  · rintro ⟨rows, read, four, each⟩
    exact ⟨_, read, _, rfl, (), by rw [List.length_map, four], rows, rfl, each⟩

/-! ### Points and geometries -/

/-- A point has the type of its name, and two or three numbers. -/
theorem geopoint_eq_ok {u : Unit} :
    geopoint s = .ok u ↔ ∃ members coordinates, ofText? s = some (.object members) ∧
      HasLast members "type" (.string "Point") ∧
      HasLast members "coordinates" (ofNumbers coordinates) ∧
      (coordinates.length = 2 ∨ coordinates.length = 3) := by
  simp only [geopoint, bind_eq_ok, jsonOf_eq_ok, orBroken_eq_ok, requireValue_eq_ok, beq_iff_eq,
    bind_string?_eq_some_iff, bind_array?_eq_some_iff, Bool.and_eq_true, decide_eq_true_eq,
    List.all_eq_true, all_isNumber_iff]
  constructor
  · rintro ⟨_, read, _, ⟨members, rfl, type⟩, items, ⟨_, same, there⟩, length, coordinates, list⟩
    cases same
    -- The coordinates that were counted are the ones that were checked to be numbers.
    rw [list] at there
    rw [ofNumbers, Json.array.injEq] at list
    rw [list, List.length_map] at length
    exact ⟨members, coordinates, read, type, there, by omega⟩
  · rintro ⟨members, coordinates, read, type, there, length⟩
    refine ⟨_, read, (), ⟨members, rfl, type⟩, _, ⟨members, rfl, there⟩, ?_, coordinates, rfl⟩
    rw [List.length_map]
    omega

/-- A geometry has a type of the list, whatever else it has. -/
theorem geojson_eq_ok {u : Unit} :
    geojson s = .ok u ↔ ∃ members name, ofText? s = some (.object members) ∧
      HasLast members "type" (.string name) ∧ name ∈ geometryTypes := by
  simp only [geojson, bind_eq_ok, jsonOf_eq_ok, requireValue_eq_ok, Option.any_eq_true,
    bind_string?_eq_some_iff, List.contains_iff_mem]
  constructor
  · rintro ⟨_, read, name, ⟨members, rfl, type⟩, known⟩
    exact ⟨members, name, read, type, known⟩
  · rintro ⟨members, name, read, type, known⟩
    exact ⟨_, read, name, ⟨members, rfl, type⟩, known⟩

/-! ### Checks and shapes -/

/-- A text passes the check of a type with a shape if it is read as a value of the shape. -/
theorem checkText_eq_ok_iff_hasShape (shaped : type ∈ shapedTypes) :
    checkText s type = .ok () ↔ ∃ j, ofText? s = some j ∧ HasShape type j := by
  cases type with
  | json =>
    rw [checkText]
    cases read : jsonOf s with
    | ok j =>
      constructor
      · intro _
        exact ⟨j, jsonOf_eq_ok.1 read, .json j⟩
      · intro _
        rfl
    | error rule =>
      refine ⟨nofun, ?_⟩
      rintro ⟨j, value, _⟩
      rw [jsonOf_eq_ok.2 value] at read
      cases read
  -- Each of the other types has a check whose condition is the shape.
  | xyz =>
    rw [checkText, numbersUnder_eq_ok]
    constructor
    · rintro ⟨_, read, numbers⟩
      exact ⟨_, read, .xyz numbers⟩
    · rintro ⟨_, read, ⟨⟩⟩
      rename_i members numbers
      exact ⟨members, read, numbers⟩
  | wxyz =>
    rw [checkText, numbersUnder_eq_ok]
    constructor
    · rintro ⟨_, read, numbers⟩
      exact ⟨_, read, .wxyz numbers⟩
    · rintro ⟨_, read, ⟨⟩⟩
      rename_i members numbers
      exact ⟨members, read, numbers⟩
  | matrix4x4 =>
    rw [checkText, matrix_eq_ok]
    constructor
    · rintro ⟨_, read, four, each⟩
      exact ⟨_, read, .matrix4x4 four each⟩
    · rintro ⟨_, read, ⟨⟩⟩
      rename_i rows four each
      exact ⟨rows, read, four, each⟩
  | geopoint =>
    rw [checkText, geopoint_eq_ok]
    constructor
    · rintro ⟨_, _, read, type, there, length⟩
      exact ⟨_, read, .geopoint type there length⟩
    · rintro ⟨_, read, ⟨⟩⟩
      rename_i members coordinates type there length
      exact ⟨members, coordinates, read, type, there, length⟩
  | geojson =>
    rw [checkText, geojson_eq_ok]
    constructor
    · rintro ⟨_, _, read, type, known⟩
      exact ⟨_, read, .geojson type known⟩
    · rintro ⟨_, read, ⟨⟩⟩
      rename_i members name type known
      exact ⟨members, name, read, type, known⟩
  -- These types are no texts of JSON and have no shape.
  | string | multilineString | inlineControlledList | number | boolean | date | lla =>
    exact absurd shaped (by decide)

/-- A position is read as some value. -/
theorem exists_ofText?_of_position {u : Unit} (passed : position s = .ok u) :
    ∃ j, ofText? s = some j := by
  simp only [position, bind_eq_ok, jsonOf_eq_ok] at passed
  obtain ⟨j, read, _⟩ := passed
  exact ⟨j, read⟩

/-! ### Wider types -/

variable {narrow wide : ValueType}

/-- What has a shape has every wider one. -/
theorem HasShape.widen {j : Json} (shape : HasShape narrow j) (within : IsWithin narrow wide) :
    HasShape wide j := by
  cases within with
  | wxyz =>
    cases shape with
    | wxyz numbers => exact .xyz fun key among => numbers key (List.mem_cons_of_mem _ among)
  | geopoint =>
    cases shape with
    | geopoint type there length => exact .geojson type List.mem_cons_self
  | xyz | matrix4x4 | geojson | lla => exact .json j

/-- A type that takes in another one has a shape of its own. -/
theorem IsWithin.mem_shapedTypes (within : IsWithin narrow wide) : wide ∈ shapedTypes := by
  cases within <;> decide

/-- A type that is taken in has a shape of its own, or is taken in by JSON as a whole. -/
theorem IsWithin.mem_shapedTypes_or (within : IsWithin narrow wide) :
    narrow ∈ shapedTypes ∨ narrow = .lla ∧ wide = .json := by
  cases within <;> decide

/-- A value of a type is one of every wider type. -/
theorem IsWithin.metadataValue_eq_ok (within : IsWithin narrow wide)
    (valid : metadataValue s narrow = .ok ()) : metadataValue s wide = .ok () := by
  rw [Validation.metadataValue_eq_ok] at valid ⊢
  apply valid.imp_right
  intro passed
  rw [checkText_eq_ok_iff_hasShape within.mem_shapedTypes]
  rcases within.mem_shapedTypes_or with shaped | ⟨rfl, rfl⟩
  · obtain ⟨j, read, shape⟩ := (checkText_eq_ok_iff_hasShape shaped).1 passed
    exact ⟨j, read, shape.widen within⟩
  · obtain ⟨j, read⟩ := exists_ofText?_of_position passed
    exact ⟨j, read, .json j⟩

/-- A value stays valid under every type that is reached by widening. -/
theorem metadataValue_eq_ok_of_widened (widened : Relation.ReflTransGen IsWithin narrow wide)
    (valid : metadataValue s narrow = .ok ()) : metadataValue s wide = .ok () := by
  induction widened with
  | refl => exact valid
  | tail _ within ih => exact within.metadataValue_eq_ok ih

end Checks

end Validation

/-! ### Stored values -/

/-- A stored value can be given any wider type. -/
theorem Registry.Reachable.answer_retype {linkLimit : Nat} {r : Registry}
    (reachable : r.Reachable linkLimit) {m : LinkMetadata} (stored : m ∈ r.store.metadata)
    {type : ValueType}
    (widened : Relation.ReflTransGen Validation.IsWithin m.metadataValueType type) :
    ((Operation.updateMetadata { m with metadataValueType := type }).perform r).1 =
      .ok (.metadata { m with metadataValueType := type }) := by
  have fields : r.store.IsValid := reachable.invariant .initial fun _ _ _ _ step h => step.isValid h
  have valid : LinkMetadata.HasValidValue { m with metadataValueType := type } :=
    Validation.metadataValue_eq_ok_of_widened widened (fields.metadata m stored).metadataValue
  have used : (r.store.entries m.assetLinkId m.metadataKey).isSome :=
    Store.isSome_entries.2 (List.find?_isSome.2 ⟨m, stored, by simp⟩)
  exact (Operation.answer_updateMetadata reachable.ready valid).trans (if_pos used)

/-- A text that is not empty is a value of a type with a shape exactly if it is read as a JSON
    value of the shape.  So every text of a type is one of the wider types, and a stored value is
    accepted again under each type that it comes to by widening. -/
theorem values_have_shapes :
    (∀ s : String, s ≠ "" → ∀ type ∈ Validation.shapedTypes,
      Validation.metadataValue s type = .ok () ↔
        ∃ j, Json.ofText? s = some j ∧ Validation.HasShape type j) ∧
      (∀ (s : String) (narrow wide : ValueType), Validation.IsWithin narrow wide →
        Validation.metadataValue s narrow = .ok () → Validation.metadataValue s wide = .ok ()) ∧
      ∀ (linkLimit : Nat) (r : Registry), r.Reachable linkLimit → ∀ m ∈ r.store.metadata,
        ∀ type, Relation.ReflTransGen Validation.IsWithin m.metadataValueType type →
          ((Operation.updateMetadata { m with metadataValueType := type }).perform r).1 =
            .ok (.metadata { m with metadataValueType := type }) := by
  refine ⟨?_, ?_, ?_⟩
  · intro s text type shaped
    rw [Validation.metadataValue_eq_ok, or_iff_right text,
      Validation.checkText_eq_ok_iff_hasShape shaped]
  · intro s narrow wide within
    exact within.metadataValue_eq_ok
  · intro linkLimit r reachable m stored type
    exact reachable.answer_retype stored

namespace Registry

/-- How a press stands in its hall, with a key twice and a key that is not asked for. -/
def pressOrientation : LinkMetadata where
  assetLinkId := "link-1"
  metadataKey := "turn"
  metadataValue :=
    "\x7b\"w\":1,\"x\":\"0\",\"unit\":null,\"x\":0.5,\"y\":-2,\"z\":3e1\x7d"
  metadataValueType := .wxyz

/-- The plant with an orientation at its first link. -/
def orientedPlant : Registry :=
  (Batch.performAll (plantRun ++ [.createMetadata pressOrientation]) (fresh 3)).2

/-- The plant with an oriented link is come to by operations. -/
theorem reachable_orientedPlant : orientedPlant.Reachable 3 :=
  LeadsTo.performAll _ (fresh 3)

end Registry

/-- The orientation in a plant has its shape, because the last value of a key counts.  It can be
    taken for a point and then for any JSON value. -/
theorem values_have_shapes_orientedPlant :
    Registry.pressOrientation ∈ Registry.orientedPlant.store.metadata ∧
      (∃ j, Json.ofText? Registry.pressOrientation.metadataValue = some j ∧
        Validation.HasShape .wxyz j) ∧
      Validation.metadataValue Registry.pressOrientation.metadataValue .xyz = .ok () ∧
      ((Operation.updateMetadata
          { Registry.pressOrientation with metadataValueType := .json }).perform
        Registry.orientedPlant).1 =
          .ok (.metadata { Registry.pressOrientation with metadataValueType := .json }) := by
  have stored : Registry.pressOrientation ∈ Registry.orientedPlant.store.metadata := by
    decide +kernel
  have valid : Validation.metadataValue Registry.pressOrientation.metadataValue .wxyz = .ok () := by
    decide +kernel
  have widened : Relation.ReflTransGen Validation.IsWithin .wxyz .json :=
    .tail (.single .wxyz) .xyz
  exact ⟨stored, (values_have_shapes.1 _ (by decide) .wxyz (by decide)).1 valid,
    values_have_shapes.2.1 _ _ _ .wxyz valid,
    values_have_shapes.2.2 3 _ Registry.reachable_orientedPlant _ stored .json widened⟩

end AssetRegistry
