import RecordRules.Schema

namespace RecordRules.Item

def itemId : SchemaId := ⟨0⟩

def socketId : SchemaId := ⟨1⟩

def modifierId : SchemaId := ⟨2⟩

def weaponId : SchemaId := ⟨3⟩

def armourId : SchemaId := ⟨4⟩

def itemSchema : Schema :=
  .ofMembers "Item" [
    ("name", .field .string),
    ("base_name", .field .string),
    ("class", .field .string),
    ("rarity", .field .string),
    ("item_level", .field .int),
    ("quality", .field .int),
    ("stack_size", .field .int),
    ("width", .field .int),
    ("height", .field .int),
    ("identified", .field .bool),
    ("corrupted", .field .bool),
    ("links", .field .int),
    ("socket_count", .field .int),
    ("sockets", .field (.list (.object socketId))),
    ("mods", .field (.list (.object modifierId))),
    ("tags", .field (.list .string)),
    ("weapon", .field (.object weaponId)),
    ("armour", .field (.object armourId)),
    ("has_tag", .method [.string] .bool),
    ("stat", .method [.string] .int),
    ("has_mod", .method [.string] .bool)]

def socketSchema : Schema :=
  .ofMembers "Socket" [
    ("colour", .field .string),
    ("group", .field .int)]

def modifierSchema : Schema :=
  .ofMembers "Modifier" [
    ("name", .field .string),
    ("tier", .field .int),
    ("values", .field (.list .int))]

def weaponSchema : Schema :=
  .ofMembers "Weapon" [
    ("physical_min", .field .int),
    ("physical_max", .field .int),
    ("attacks_per_second", .field .float),
    ("critical_chance", .field .float),
    ("dps", .method [] .float)]

def armourSchema : Schema :=
  .ofMembers "Armour" [
    ("armour", .field .int),
    ("evasion", .field .int),
    ("energy_shield", .field .int)]

/-- The schemas of items and their parts; every other number stands for that of items. -/
def catalog : Catalog where
  schema id :=
    if id = socketId then socketSchema
    else if id = modifierId then modifierSchema
    else if id = weaponId then weaponSchema
    else if id = armourId then armourSchema
    else itemSchema

end RecordRules.Item
