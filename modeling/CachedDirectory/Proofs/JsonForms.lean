import CachedDirectory.Entity.Codec
import CachedDirectory.Filter.Codec

/-!
# JSON forms

A filter or an entity that is written as JSON is read back as it was, in every
field. A record is read alike from the object of its fields and from the array
of their values; what JSON may say in several ways is written in one, so reading
what was written once more changes nothing.
-/

namespace CachedDirectory

namespace Json

/-! ## Single fields -/

@[simp]
theorem string?_string (value : String) : (string value).string? = some value :=
  rfl

@[simp]
theorem bool?_bool (value : Bool) : (bool value).bool? = some value :=
  rfl

@[simp]
theorem nullableString?_ofOption (value : Option String) :
    (ofOption value).nullableString? = some value := by
  cases value <;> rfl

@[simp]
theorem strings?_ofStrings (values : List String) :
    (ofStrings values).strings? = some values := by
  change (values.map string).mapM string? = some values
  induction values with
  | nil => rfl
  | cons value rest inductionHypothesis =>
      rw [List.map_cons, List.mapM_cons, inductionHypothesis]
      rfl

@[simp]
theorem require_some {alpha : Type} (read : Json → Option alpha) (json : Json) :
    require read (some json) = read json :=
  rfl

@[simp]
theorem withDefault_some {alpha : Type} (read : Json → Option alpha)
    (default : alpha) (json : Json) :
    withDefault read default (some json) = read json :=
  rfl

/-! ## Records with all of their fields -/

/-- The object of a record that has a value for each of its fields. -/
def recordObject (layout : List (String × Presence)) (values : List Json) :
    Json :=
  object ((layout.map Prod.fst).zip values)

/-- A record is read from the entries that its fields name; all other entries
are ignored. -/
theorem fieldsOfObject_congr {left right : List (String × Json)}
    {layout : List (String × Presence)}
    (agree : ∀ field ∈ layout, left.lookup field.1 = right.lookup field.1) :
    fieldsOfObject left layout = fieldsOfObject right layout := by
  induction layout with
  | nil => rfl
  | cons field layout inductionHypothesis =>
      obtain ⟨here, later⟩ := List.forall_mem_cons.mp agree
      simp only [fieldsOfObject, here, inductionHypothesis later]

theorem fieldsOfObject_cons_of_lookup {entries : List (String × Json)}
    {name : String} {presence : Presence} {layout : List (String × Presence)}
    {value : Json} (found : entries.lookup name = some value) :
    fieldsOfObject entries ((name, presence) :: layout) =
      (fieldsOfObject entries layout).map (some value :: ·) := by
  simp only [fieldsOfObject, found]

theorem fieldsOfObject_zip {layout : List (String × Presence)}
    {values : List Json} (distinct : (layout.map Prod.fst).Nodup)
    (lengths : layout.length = values.length) :
    fieldsOfObject ((layout.map Prod.fst).zip values) layout =
        some (values.map some) := by
  induction layout generalizing values with
  | nil =>
      obtain rfl := List.length_eq_zero_iff.mp lengths.symm
      rfl
  | cons field layout inductionHypothesis =>
      obtain ⟨name, presence⟩ := field
      obtain ⟨value, values, rfl⟩ :=
        List.exists_cons_of_length_eq_add_one lengths.symm
      rw [List.map_cons, List.nodup_cons] at distinct
      rw [List.map_cons, List.zip_cons_cons,
        fieldsOfObject_cons_of_lookup List.lookup_cons_self]
      have frame :
          fieldsOfObject ((name, value) :: (layout.map Prod.fst).zip values)
            layout =
            fieldsOfObject ((layout.map Prod.fst).zip values) layout := by
        refine fieldsOfObject_congr fun field member => ?_
        have other : (field.1 == name) = false :=
          beq_false_of_ne fun same =>
            distinct.1 (List.mem_map.mpr ⟨field, member, same⟩)
        rw [List.lookup_cons, other]
      rw [frame, inductionHypothesis distinct.2 (Nat.succ.inj lengths)]
      rfl

theorem fieldsOfArray_complete {layout : List (String × Presence)}
    {values : List Json} (lengths : layout.length = values.length) :
    fieldsOfArray values layout = some (values.map some) := by
  induction layout generalizing values with
  | nil =>
      obtain rfl := List.length_eq_zero_iff.mp lengths.symm
      rfl
  | cons field layout inductionHypothesis =>
      obtain ⟨value, values, rfl⟩ :=
        List.exists_cons_of_length_eq_add_one lengths.symm
      rw [fieldsOfArray, inductionHypothesis (Nat.succ.inj lengths)]
      rfl

theorem objectFields?_recordObject (layout : List (String × Presence))
    (values : List Json) (distinct : (layout.map Prod.fst).Nodup)
    (lengths : layout.length = values.length) :
    (recordObject layout values).objectFields? layout =
        some (values.map some) :=
  fieldsOfObject_zip distinct lengths

/-- A record has the same fields in both of its forms. -/
theorem fields?_of_form {layout : List (String × Presence)} {values : List Json}
    {json : Json} (distinct : (layout.map Prod.fst).Nodup)
    (lengths : layout.length = values.length)
    (form : json = recordObject layout values ∨ json = array values) :
    json.fields? layout = some (values.map some) := by
  obtain rfl | rfl := form
  · exact fieldsOfObject_zip distinct lengths
  · exact fieldsOfArray_complete lengths

end Json

open Json

/-! ## Entities -/

namespace EntityKind

@[simp]
theorem ofJson?_toJson (kind : EntityKind) : ofJson? kind.toJson = some kind :=
  ofName?_name kind

end EntityKind

namespace DomainRoot

/-- The fields of a root. -/
def layout : List (String × Presence) :=
  [("id", .required), ("description", .required)]

/-- The values of the fields of a root. -/
def fieldValues (root : DomainRoot) : List Json :=
  [string root.id, string root.description]

theorem ofJson?_of_form {root : DomainRoot} {json : Json}
    (form :
      json = recordObject layout root.fieldValues ∨
        json = array root.fieldValues) :
    ofJson? json = some root := by
  have fields : json.fields? layout = some (root.fieldValues.map some) :=
    fields?_of_form (by decide) rfl form
  rw [layout] at fields
  simp [ofJson?, fields, fieldValues]

theorem ofJson?_toJson (root : DomainRoot) : ofJson? root.toJson = some root :=
  ofJson?_of_form (.inl rfl)

end DomainRoot

namespace Container

/-- The fields of a container. -/
def layout : List (String × Presence) :=
  [("unit_type", .required), ("id", .required), ("description", .required)]

/-- The values of the fields of a container. -/
def fieldValues (unit : Container) : List Json :=
  [unit.kind.toJson, string unit.id, string unit.description]

theorem ofJson?_of_form {unit : Container} {json : Json}
    (form :
      json = recordObject layout unit.fieldValues ∨
        json = array unit.fieldValues) :
    ofJson? json = some unit := by
  have fields : json.fields? layout = some (unit.fieldValues.map some) :=
    fields?_of_form (by decide) rfl form
  rw [layout] at fields
  simp [ofJson?, fields, fieldValues]

theorem ofJson?_toJson (unit : Container) : ofJson? unit.toJson = some unit :=
  ofJson?_of_form (.inl rfl)

end Container

namespace Group

/-- The fields of a group. -/
def layout : List (String × Presence) :=
  [
    ("id", .required), ("description", .optional), ("member_of", .defaulted),
    ("members", .defaulted)
  ]

/-- The values of the fields of a group. -/
def fieldValues (group : Group) : List Json :=
  [
    string group.id, ofOption group.description, ofStrings group.memberOf,
    ofStrings group.members
  ]

theorem ofJson?_of_form {group : Group} {json : Json}
    (form :
      json = recordObject layout group.fieldValues ∨
        json = array group.fieldValues) :
    ofJson? json = some group := by
  have fields : json.fields? layout = some (group.fieldValues.map some) :=
    fields?_of_form (by decide) rfl form
  rw [layout] at fields
  simp [ofJson?, fields, fieldValues]

theorem ofJson?_toJson (group : Group) : ofJson? group.toJson = some group :=
  ofJson?_of_form (.inl rfl)

end Group

namespace User

/-- The fields of a user. -/
def layout : List (String × Presence) :=
  [
    ("id", .required), ("display_name", .optional), ("first_name", .optional),
    ("last_name", .optional), ("email", .optional), ("active", .required),
      ("member_of", .defaulted)
  ]

/-- The values of the fields of a user. -/
def fieldValues (user : User) : List Json :=
  [
    string user.id, ofOption user.displayName, ofOption user.firstName,
      ofOption user.lastName,
    ofOption user.email, bool user.active, ofStrings user.memberOf
  ]

theorem ofJson?_of_form {user : User} {json : Json}
    (form :
      json = recordObject layout user.fieldValues ∨
        json = array user.fieldValues) :
    ofJson? json = some user := by
  have fields : json.fields? layout = some (user.fieldValues.map some) :=
    fields?_of_form (by decide) rfl form
  rw [layout] at fields
  simp [ofJson?, fields, fieldValues]

theorem ofJson?_toJson (user : User) : ofJson? user.toJson = some user :=
  ofJson?_of_form (.inl rfl)

end User

namespace Entity

theorem ofJson?_toJson (entity : Entity) :
    ofJson? entity.toJson = some entity := by
  cases entity with
  | domain root => exact congrArg (Option.map domain) root.ofJson?_toJson
  | container unit => exact congrArg (Option.map container) unit.ofJson?_toJson
  | group record => exact congrArg (Option.map group) record.ofJson?_toJson
  | user record => exact congrArg (Option.map user) record.ofJson?_toJson

/-- An entity whose record is the array of its values. -/
def arrayJson : Entity → Json
  | domain root => object [("Domain", array root.fieldValues)]
  | container unit => object [("Unit", array unit.fieldValues)]
  | group record => object [("Group", array record.fieldValues)]
  | user record => object [("User", array record.fieldValues)]

/-- The array says the same as the object. -/
theorem ofJson?_arrayJson (entity : Entity) :
    ofJson? entity.arrayJson = some entity := by
  cases entity with
  | domain root =>
      exact congrArg (Option.map domain) (DomainRoot.ofJson?_of_form (.inr rfl))
  | container unit =>
      exact congrArg (Option.map container)
        (Container.ofJson?_of_form (.inr rfl))
  | group record =>
      exact congrArg (Option.map group) (Group.ofJson?_of_form (.inr rfl))
  | user record =>
      exact congrArg (Option.map user) (User.ofJson?_of_form (.inr rfl))

end Entity

/-! ## Filters -/

namespace Filter

theorem comparisonOfJson?_recordObject (make : String → String → Filter)
    (attr value : String) :
    comparisonOfJson? make
        (recordObject [("attribute", .required), ("value", .required)]
          [string attr, string value]) =
      some (make attr value) := by
  rw [comparisonOfJson?, objectFields?_recordObject _ _ (by decide) rfl]
  simp

theorem substringOfJson?_recordObject (attr : String) (pattern : Pattern) :
    substringOfJson?
        (recordObject
          [
            ("attribute", .required), ("initial", .optional),
              ("any", .defaulted),
            ("final", .optional)
          ]
          [
            string attr, ofOption pattern.initial, ofStrings pattern.middle,
            ofOption pattern.final
          ]) =
      some (substring attr pattern) := by
  rw [substringOfJson?, objectFields?_recordObject _ _ (by decide) rfl]
  simp

theorem presentOfJson?_recordObject (attr : String) :
    presentOfJson? (recordObject [("attribute", .required)] [string attr]) =
      some (present attr) := by
  rw [presentOfJson?, objectFields?_recordObject _ _ (by decide) rfl]
  simp

theorem extensibleOfJson?_recordObject (rule attr : Option String)
    (value : String) :
    extensibleOfJson?
        (recordObject [("rule", .optional), ("attribute", .optional),
          ("value", .required)]
          [ofOption rule, ofOption attr, string value]) =
      some (extensible rule attr value) := by
  rw [extensibleOfJson?, objectFields?_recordObject _ _ (by decide) rfl]
  simp

/-- A field that does not join filters holds a comparison. -/
theorem ofJson?_leaf {tag : String} (record : Json)
    (leaf : tag ∉ ["and", "or", "not"]) :
    ofJson? (object [(tag, record)]) = leafOfJson? tag record := by
  simp only [List.mem_cons, List.not_mem_nil, or_false, not_or] at leaf
  obtain ⟨notAnd, notOr, notNot⟩ := leaf
  rw [ofJson?, if_neg notNot]
  · exact fun _ isAnd _ => notAnd isAnd
  · exact fun _ isOr _ => notOr isOr

theorem ofJson?_not (record : Json) :
    ofJson? (object [("not", record)]) = (ofJson? record).map not := by
  rw [ofJson?, if_pos rfl]
  · exact fun _ isAnd _ => absurd isAnd (by decide)
  · exact fun _ isOr _ => absurd isOr (by decide)

mutual

/-- A filter is read from what it is written as. -/
theorem ofJson?_toJson : ∀ filter : Filter, ofJson? filter.toJson = some filter
  | equals attr value => by
      rw [toJson, comparisonJson, ofJson?_leaf _ (by decide)]
      exact comparisonOfJson?_recordObject equals attr value
  | substring attr pattern => by
      rw [toJson, ofJson?_leaf _ (by decide)]
      exact substringOfJson?_recordObject attr pattern
  | present attr => by
      rw [toJson, ofJson?_leaf _ (by decide)]
      exact presentOfJson?_recordObject attr
  | and parts => by
      rw [toJson, ofJson?, if_neg (by decide), ofJsonAll?_toJsonAll parts]
      rfl
  | or parts => by
      rw [toJson, ofJson?, if_neg (by decide), ofJsonAll?_toJsonAll parts]
      rfl
  | not part => by
      rw [toJson, ofJson?_not, ofJson?_toJson part]
      rfl
  | greaterOrEqual attr value => by
      rw [toJson, comparisonJson, ofJson?_leaf _ (by decide)]
      exact comparisonOfJson?_recordObject greaterOrEqual attr value
  | lessOrEqual attr value => by
      rw [toJson, comparisonJson, ofJson?_leaf _ (by decide)]
      exact comparisonOfJson?_recordObject lessOrEqual attr value
  | approximate attr value => by
      rw [toJson, comparisonJson, ofJson?_leaf _ (by decide)]
      exact comparisonOfJson?_recordObject approximate attr value
  | extensible rule attr value => by
      rw [toJson, ofJson?_leaf _ (by decide)]
      exact extensibleOfJson?_recordObject rule attr value

/-- Filters are read from what they are written as, in their order. -/
theorem ofJsonAll?_toJsonAll :
    ∀ parts : List Filter, ofJsonAll? (toJsonAll parts) = some parts
  | [] => rfl
  | part :: rest => by
      rw [toJsonAll, ofJsonAll?, ofJson?_toJson part, ofJsonAll?_toJsonAll rest]
      rfl

end

end Filter

/-! ## Reading what was written -/

/-- What is written is read back as it was, and so is whatever was read. -/
theorem Json.reads_back_written :
    (∀ filter : Filter, Filter.ofJson? filter.toJson = some filter) ∧
      (∀ entity : Entity, Entity.ofJson? entity.toJson = some entity) ∧
      (∀ (json : Json) (filter : Filter),
        Filter.ofJson? json = some filter →
          Filter.ofJson? filter.toJson = some filter) ∧
      (∀ (json : Json) (entity : Entity),
        Entity.ofJson? json = some entity →
            Entity.ofJson? entity.toJson = some entity) :=
  ⟨Filter.ofJson?_toJson, Entity.ofJson?_toJson,
    fun _ filter _ => filter.ofJson?_toJson,
    fun _ entity _ => entity.ofJson?_toJson⟩

/-- A pattern of which only the attribute is given, and a group whose array ends
after two values, are read with what is missing and stay so. -/
theorem Json.reads_back_written_missing :
    Filter.ofJson?
      (object [("substring", object [("attribute", string "email")])]) =
        some (.substring "email" ⟨none, [], none⟩) ∧
      Filter.ofJson? (Filter.substring "email" ⟨none, [], none⟩).toJson =
        some (.substring "email" ⟨none, [], none⟩) ∧
      Entity.ofJson? (object [("Group", array [string "ops", null])]) =
        some (.group ⟨"ops", none, [], []⟩) ∧
      Entity.ofJson? (Entity.group ⟨"ops", none, [], []⟩).toJson =
        some (.group ⟨"ops", none, [], []⟩) := by
  have pattern :
    Filter.ofJson?
      (object [("substring", object [("attribute", string "email")])]) =
      some (.substring "email" ⟨none, [], none⟩) := by rfl
  have group : Entity.ofJson? (object [("Group", array [string "ops", null])]) =
      some (.group ⟨"ops", none, [], []⟩) := by rfl
  exact ⟨pattern, Json.reads_back_written.2.2.1 _ _ pattern, group,
    Json.reads_back_written.2.2.2 _ _ group⟩

end CachedDirectory
