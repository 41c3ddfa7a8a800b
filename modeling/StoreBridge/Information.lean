import StoreBridge.Failure
import StoreBridge.Text.Split

/-! The documents that describe the schema views of the provider: their shape on the store's side,
and how the conceptual schema model corresponds to them. -/
namespace StoreBridge.Information
open Text

/-- An entity set of the store's side. -/
structure EntitySet where
  name : String
  table : String
  key : List String
  columns : List String

/-- An entity set of the conceptual side, with the names of its properties on both sides. -/
structure EntityMapping where
  name : String
  entitySet : String
  properties : List (String × String)

/-- A quoted name. -/
def quoted (s : String) : String :=
  "\"" ++ s ++ "\""

/-- A list of quoted names. -/
def quotedList (names : List String) : String :=
  "[" ++ joined ", " (names.map quoted) ++ "]"

/-- A property of one side with the property of the other. -/
def pair (p : String × String) : String :=
  p.1 ++ " = " ++ quoted p.2

/-- The lines of an entity set. -/
def EntitySet.lines (s : EntitySet) : List String :=
  ["", "[[entity_sets]]", pair ("name", s.name), pair ("table", s.table),
    "key = " ++ quotedList s.key, "columns = " ++ quotedList s.columns]

/-- The lines of a mapping. -/
def EntityMapping.lines (m : EntityMapping) : List String :=
  ["", "[[mappings]]", pair ("entity_set", m.name), pair ("store_entity_set", m.entitySet),
    "properties = \x7b " ++ joined ", " (m.properties.map pair) ++ " \x7d"]

/-- The columns of the views that list columns. -/
def columnColumns : List String :=
  ["Id", "ParentId", "Name", "Ordinal", "IsNullable", "TypeName", "MaxLength", "Precision", "Scale",
    "Default", "IsIdentity", "IsStoreGenerated"]

/-- The entity sets of the store's side. -/
def entitySets : List EntitySet :=
  [⟨"STables", "SCHEMATABLES", ["Id"], ["Id", "CatalogName", "SchemaName", "Name"]⟩,
    ⟨"STableColumns", "SCHEMACOLUMNS", ["Id"], columnColumns⟩,
    ⟨"SViews", "SCHEMAVIEWS", ["Id"],
      ["Id", "CatalogName", "SchemaName", "Name", "ViewDefinition", "IsUpdatable"]⟩,
    ⟨"SViewColumns", "SCHEMAVIEWCOLUMNS", ["Id"], columnColumns⟩,
    ⟨"SConstraints", "SCHEMACONSTRAINTS", ["Id"],
      ["Id", "ParentId", "Name", "IsDeferrable", "IsInitiallyDeferred", "ConstraintType"]⟩,
    ⟨"SConstraintColumns", "SCHEMACONSTRAINTCOLUMNS", ["ConstraintId", "ColumnId"],
      ["ConstraintId", "ColumnId"]⟩,
    ⟨"SForeignKeys", "SCHEMAFOREIGNKEYS", ["Id"],
      ["Id", "ToColumnId", "FromColumnId", "ConstraintId", "Ordinal"]⟩]

/-- Properties that have the same name on both sides. -/
def alike (names : List String) : List (String × String) :=
  names.map fun name => (name, name)

/-- The properties of the views that list columns. -/
def columnProperties : List (String × String) :=
  alike (columnColumns.filter (· != "ParentId"))

/-- The mappings of the conceptual side. -/
def mappings : List EntityMapping :=
  [⟨"Tables", "STables", alike ["Id", "CatalogName", "SchemaName", "Name"]⟩,
    ⟨"TableColumns", "STableColumns", columnProperties⟩,
    ⟨"Views", "SViews",
      alike ["Id", "CatalogName", "SchemaName", "Name", "ViewDefinition", "IsUpdatable"]⟩,
    ⟨"ViewColumns", "SViewColumns", columnProperties⟩,
    ⟨"Constraints", "SConstraints",
      alike ["Id", "Name", "IsDeferrable", "IsInitiallyDeferred", "ConstraintType"]⟩,
    ⟨"ForeignKeys", "SForeignKeys", alike ["Id", "Ordinal"]⟩]

/-- Lines one below the other. -/
def page (lines : List String) : String :=
  joined "\n" lines ++ "\n"

/-- The document of the store's side. -/
def storeSchemaDefinition : String :=
  page (["# Store-side shape of the schema views the provider exposes for introspection.", "",
    "version = 1", "namespace = \"SQLite\""] ++ entitySets.flatMap (·.lines))

/-- The document of the correspondence. -/
def storeSchemaMapping : String :=
  page (["# Correspondence between the conceptual schema model and the store views above.", "",
    "version = 1"] ++ mappings.flatMap (·.lines))

/-- The document of this name. -/
def document (name : String) : Except Failure String :=
  if name = "StoreSchemaDefinition" then .ok storeSchemaDefinition
  else if name = "StoreSchemaMapping" then .ok storeSchemaMapping
  else .error (.unknownInformation name)

end StoreBridge.Information
