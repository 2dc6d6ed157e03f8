import ObjectGraph.Schema.Field

/-!
# Schemas

A mapped class is what is known about the objects of one type: the fields, which of them is the
identity, and the labels of a node in the store.  A schema holds the mapped classes.  They are
registered under their type name and found by it; a handle is looked through to the object for that.

* `ClassDraft.build`: the class that a sequence of declarations describes.
* `EntityClass.labels`: the labels declared on the class, then those that the object holds.
* `Schema.classOf`: the class of an object.
-/

namespace ObjectGraph

/-! ## Mapped classes -/

/-- A mapped class. -/
structure EntityClass where
  typeName : String
  identityField : Option PropertyField := none
  properties : NameMap PropertyField := {}
  collections : NameMap CollectionField := {}
  classLabels : List String := []
  labelField : Option CollectionField := none
  /-- Whether an identity wrapper may stand in for the objects. -/
  wrappable : Bool := true

namespace EntityClass

/-- Whether the objects hold their store identity themselves. -/
def holdsIdentity (c : EntityClass) : Bool := c.identityField.isSome

def property (c : EntityClass) (name : String) : Except SchemaError PropertyField :=
  match c.properties.find? name with
  | some field => .ok field
  | none => .error (.unknownField c.typeName name)

def collection (c : EntityClass) (name : String) : Except SchemaError CollectionField :=
  match c.collections.find? name with
  | some field => .ok field
  | none => .error (.unknownField c.typeName name)

/-! ## Labels -/

/-- The labels among values: the strings.  Nulls are passed over, and no other value is a label. -/
def labelsOf : List Value → Except SchemaError (List String)
  | [] => .ok []
  | .string s :: vs => (labelsOf vs).map (s :: ·)
  | .null :: vs => labelsOf vs
  | v :: _ => .error (.typeMismatch "label string" v.kind)

/-- The labels that an object holds in the label field. -/
def dynamicLabels (c : EntityClass) (heap : Heap) (h : Handle) : Except SchemaError (List String) :=
  match c.labelField with
  | none => .ok []
  | some field =>
    match field.read heap h with
    | .error e => .error e
    | .ok none => .ok []
    | .ok (some container) => labelsOf container.values

/-- All labels of an object, each once: those of the class, then its own. -/
def labels (c : EntityClass) (heap : Heap) (h : Handle) : Except SchemaError (List String) :=
  (c.dynamicLabels heap h).map fun own => (c.classLabels ++ own).eraseDups

def describe (c : EntityClass) : String :=
  Text.record "ClassInfo"
    [("type_name", Text.quoted c.typeName),
      ("identity_field", Text.optional (c.identityField.map PropertyField.describe)),
      ("properties", Text.table (c.properties.entries.map fun (n, a) => (n, a.describe))),
      ("collections", Text.table (c.collections.entries.map fun (n, a) => (n, a.describe))),
      ("static_labels", Text.listing (c.classLabels.map Text.quoted)),
      ("label_field", Text.optional (c.labelField.map CollectionField.describe)),
      ("wrappable", Text.truth c.wrappable)]

end EntityClass

/-- A class as far as it has been declared. -/
structure ClassDraft where
  typeName : String
  identityFields : List PropertyField := []
  properties : NameMap PropertyField := {}
  collections : NameMap CollectionField := {}
  classLabels : List String := []
  labelField : Option CollectionField := none
  wrappable : Bool := true

namespace ClassDraft

/-- Declares the identity field, which is a property too. -/
def identityField (b : ClassDraft) (a : PropertyField) : ClassDraft :=
  { b with properties := b.properties.insert a.name a, identityFields := b.identityFields ++ [a] }

/-- Declares a property.  Of two of one name the later counts. -/
def property (b : ClassDraft) (a : PropertyField) : ClassDraft :=
  { b with properties := b.properties.insert a.name a }

/-- Declares a collection.  Of two of one name the later counts. -/
def collection (b : ClassDraft) (a : CollectionField) : ClassDraft :=
  { b with collections := b.collections.insert a.name a }

def label (b : ClassDraft) (text : String) : ClassDraft :=
  { b with classLabels := b.classLabels ++ [text] }

/-- Declares the field that holds the labels of an object.  The last declaration counts. -/
def labelsIn (b : ClassDraft) (a : CollectionField) : ClassDraft :=
  { b with labelField := some a }

/-- Declares that no identity wrapper may stand in for the objects. -/
def sealed (b : ClassDraft) : ClassDraft := { b with wrappable := false }

/-- The class that was declared.  It has at most one identity field. -/
def build (b : ClassDraft) : Except SchemaError EntityClass :=
  let info (identity : Option PropertyField) : EntityClass :=
    { typeName := b.typeName, identityField := identity, properties := b.properties,
      collections := b.collections, classLabels := b.classLabels, labelField := b.labelField,
      wrappable := b.wrappable }
  match b.identityFields with
  | [] => .ok (info none)
  | [field] => .ok (info (some field))
  | fields => .error (.duplicateIdentityField b.typeName (fields.map FieldAccess.name))

end ClassDraft

/-! ## Schemas -/

/-- The mapped classes. -/
structure Schema where
  classes : NameMap EntityClass := {}

namespace Schema

/-- Registers a class, or replaces the one registered for its type. -/
def register (m : Schema) (c : EntityClass) : Schema × List Event :=
  (⟨m.classes.insert c.typeName c⟩, [.classRegistered c.typeName])

def classNamed (m : Schema) (typeName : String) : Except SchemaError EntityClass :=
  match m.classes.find? typeName with
  | some c => .ok c
  | none => .error (.unknownType typeName)

def classOf (m : Schema) (h : Handle) : Except SchemaError EntityClass := m.classNamed h.typeName

def size (m : Schema) : Nat := m.classes.size

def describe (m : Schema) : String :=
  Text.record "MetaData" [("type_count", Text.optional (some (toString m.size)))]

end Schema

end ObjectGraph
