import RecordRules.Item
import RecordRules.Reading
import RecordRules.Value.Operations

namespace RecordRules.Item

/-- What a value may refer to: the item at hand, or one of its parts. -/
inductive Part where
  | item
  | socket (value : Socket)
  | modifier (value : Modifier)
  | weapon (value : Weapon)
  | armour (value : Armour)

def Part.label (item : Item) : Part → String
  | .item => item.displayName
  | .modifier m => m.name
  | .socket _ | .weapon _ | .armour _ => "<record>"

/-- What a part answers. -/
abbrev Answer := Except Stop (Value Part)

def noMember (owner : String) (member : MemberId) : Answer :=
  .error (.fault (.record (owner ++ " has no member #" ++ toString member.index)))

/-- What the component is, unless the item lacks it. -/
def component {α : Type} (name : String) (wrap : α → Part) : Option α → Answer
  | some value => .ok (.object (wrap value))
  | none => .error (.fault (.absent name))

/-- The answer that depends on a string, the first argument. -/
def ofString (answer : String → Value Part) : List (Value Part) → Answer
  | .string s :: _ => .ok (answer s)
  | v :: _ => v.unexpected "string"
  | [] => .error (.fault (.unexpectedValue "string" "nothing"))

/-- The item's answer, and the item after it. -/
def get (item : Item) (member : MemberId) (args : List (Value Part)) : Answer × Item :=
  match member.index with
  | 0 => (.ok (.string item.name), item)
  | 1 => (.ok (.string item.baseName), item)
  | 2 => (.ok (.string item.itemClass), item)
  | 3 => (.ok (.string item.rarity.name), item)
  | 4 => (.ok (.int item.itemLevel), item)
  | 5 => (.ok (.int item.quality), item)
  | 6 => (.ok (.int item.stackSize), item)
  | 7 => (.ok (.int item.width), item)
  | 8 => (.ok (.int item.height), item)
  | 9 => (.ok (.bool item.identified), item)
  | 10 => (.ok (.bool item.corrupted), item)
  | 11 => (.ok (.ofCount item.links.1), item.links.2)
  | 12 => (.ok (.ofCount item.sockets.length), item)
  | 13 => (.ok (.list (item.sockets.map fun s => .object (.socket s))), item)
  | 14 => (.ok (.list (item.modifiers.map fun m => .object (.modifier m))), item)
  | 15 => (.ok (.list (item.tags.map .string)), item)
  | 16 => (component "weapon" .weapon item.weapon, item)
  | 17 => (component "armour" .armour item.armour, item)
  | 18 => (ofString (fun s => .bool (item.hasTag s)) args, item)
  | 19 => (ofString (fun s => .int (item.stat s)) args, item)
  | 20 => (ofString (fun s => .bool (item.hasModifier s)) args, item)
  | _ => (noMember "Item" member, item)

def socketGet (s : Socket) (member : MemberId) : Answer :=
  match member.index with
  | 0 => .ok (.string (String.singleton s.colour))
  | 1 => .ok (.ofCount s.group.toNat)
  | _ => noMember "Socket" member

def modifierGet (m : Modifier) (member : MemberId) : Answer :=
  match member.index with
  | 0 => .ok (.string m.name)
  | 1 => .ok (.int m.tier)
  | 2 => .ok (.list (m.values.map .int))
  | _ => noMember "Modifier" member

def weaponGet (w : Weapon) (member : MemberId) : Answer :=
  match member.index with
  | 0 => .ok (.int w.physicalMin)
  | 1 => .ok (.int w.physicalMax)
  | 2 => .ok (.float w.attacksPerSecond)
  | 3 => .ok (.float w.criticalChance)
  | 4 => .float <$> w.dps
  | _ => noMember "Weapon" member

def armourGet (a : Armour) (member : MemberId) : Answer :=
  match member.index with
  | 0 => .ok (.int a.armour)
  | 1 => .ok (.int a.evasion)
  | 2 => .ok (.int a.energyShield)
  | _ => noMember "Armour" member

/-- An item and its parts as records. The item is the state, as it keeps what it has computed. -/
def records : Records Part Item where
  get
    | .item, member, args, item => item.get member args
    | .socket s, member, _, item => (socketGet s member, item)
    | .modifier m, member, _, item => (modifierGet m member, item)
    | .weapon w, member, _, item => (weaponGet w member, item)
    | .armour a, member, _, item => (armourGet a member, item)

end RecordRules.Item
