import RecordRules.Fault
import RecordRules.Number.Int64Range

namespace RecordRules

inductive Rarity where
  | normal
  | magic
  | rare
  | unique
deriving DecidableEq

def Rarity.name : Rarity → String
  | normal => "Normal"
  | magic => "Magic"
  | rare => "Rare"
  | unique => "Unique"

/-- A socket; those of the same group are linked. -/
structure Socket where
  colour : Char
  group : UInt8
deriving DecidableEq

/-- A property rolled on an item; tier 1 is the best. -/
structure Modifier where
  name : String
  tier : Int64
  values : List Int64
deriving DecidableEq

structure Weapon where
  physicalMin : Int64
  physicalMax : Int64
  attacksPerSecond : Float
  criticalChance : Float

/-- The average physical damage in a second. The two bounds have to have a sum. -/
def Weapon.dps (w : Weapon) : Except Stop Float :=
  match Number.int64? (w.physicalMin.toInt + w.physicalMax.toInt) with
  | some sum => .ok (Number.float64 sum / 2.0 * w.attacksPerSecond)
  | none => .error (.panic (some "attempt to add with overflow"))

structure Armour where
  armour : Int64
  evasion : Int64
  energyShield : Int64
deriving DecidableEq

structure Item where
  name : String
  baseName : String
  itemClass : String
  rarity : Rarity
  itemLevel : Int64
  quality : Int64
  stackSize : Int64
  width : Int64
  height : Int64
  identified : Bool
  corrupted : Bool
  sockets : List Socket
  modifiers : List Modifier
  tags : List String
  /-- The values set, last one first. -/
  stats : List (String × Int64)
  weapon : Option Weapon
  armour : Option Armour
  /-- The size of the largest group of linked sockets, once it has been asked for. -/
  knownLinks : Option Nat

namespace Item

/-- A normal, identified item of one square. -/
def ofBase (baseName : String) : Item where
  name := ""
  baseName := baseName
  itemClass := ""
  rarity := .normal
  itemLevel := 1
  quality := 0
  stackSize := 1
  width := 1
  height := 1
  identified := true
  corrupted := false
  sockets := []
  modifiers := []
  tags := []
  stats := []
  weapon := none
  armour := none
  knownLinks := none

/-- One step in the making of an item. -/
inductive Edit where
  | name (value : String)
  | itemClass (value : String)
  | rarity (value : Rarity)
  | itemLevel (value : Int64)
  | quality (value : Int64)
  | stackSize (value : Int64)
  | size (width height : Int64)
  | identified (value : Bool)
  | corrupted (value : Bool)
  | sockets (values : List Socket)
  | addModifier (value : Modifier)
  | addTag (value : String)
  | stat (name : String) (value : Int64)
  | weapon (value : Weapon)
  | armour (value : Armour)

def edit (item : Item) : Edit → Item
  | .name value => { item with name := value }
  | .itemClass value => { item with itemClass := value }
  | .rarity value => { item with rarity := value }
  | .itemLevel value => { item with itemLevel := value }
  | .quality value => { item with quality := value }
  | .stackSize value => { item with stackSize := value }
  | .size width height => { item with width := width, height := height }
  | .identified value => { item with identified := value }
  | .corrupted value => { item with corrupted := value }
  | .sockets values => { item with sockets := values, knownLinks := none }
  | .addModifier value => { item with modifiers := item.modifiers ++ [value] }
  | .addTag value => { item with tags := item.tags ++ [value] }
  | .stat name value => { item with stats := (name, value) :: item.stats }
  | .weapon value => { item with weapon := some value }
  | .armour value => { item with armour := some value }

def build (baseName : String) (edits : List Edit) : Item :=
  edits.foldl edit (ofBase baseName)

/-- The name, or the base name of an item that has none. -/
def displayName (item : Item) : String :=
  if item.name.isEmpty then item.baseName else item.name

/-- The size of the largest group of linked sockets, which is kept for the next time. -/
def links (item : Item) : Nat × Item :=
  match item.knownLinks with
  | some count => (count, item)
  | none =>
    let sizes := item.sockets.map fun s => item.sockets.countP (·.group == s.group)
    let count := sizes.foldl max 0
    (count, { item with knownLinks := some count })

/-- The value set last, or 0. -/
def stat (item : Item) (name : String) : Int64 :=
  (item.stats.lookup name).getD 0

def hasTag (item : Item) (tag : String) : Bool :=
  item.tags.contains tag

def hasModifier (item : Item) (name : String) : Bool :=
  item.modifiers.any (·.name == name)

end Item

end RecordRules
