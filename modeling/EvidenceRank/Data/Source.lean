import EvidenceRank.Data.Dictionary
import EvidenceRank.Json.Value

/-!
# Sources of records

A record can be read from any tree that offers the views of `Source`: interchange values, and the
nodes of configuration files. `Fields` reads the fields of a record from a tree that names them or,
if trees of its kind may, lists them in order.

A field is looked up by its names. Two members with names of one field make the record malformed,
and members that no field asks for are ignored. In a listed record every value must belong to a
field.

* `required`, `optional`, `withDefault`: a field that must be there, one that reads as `none` when
  it is missing or null, and one that takes a default when it is missing.
-/

namespace EvidenceRank.Data

/-- The views of a tree that records are read from. -/
class Source (δ : Type) where
  /-- The tree stands for an absent value. -/
  isNull : δ → Bool
  text? : δ → Option String
  bool? : δ → Option Bool
  int? : δ → Option Int
  double? : δ → Option Float
  single? : δ → Option Float32
  /-- The name of a choice between alternatives without content. -/
  choice? : δ → Option String
  items? : δ → Option (List δ)
  members? : δ → Option (List (String × δ))
  /-- The fields of a record that lists them in order, where trees may do so. -/
  listed? : δ → Option (List δ)

instance : Source Json where
  isNull | .null => true | _ => false
  text? | .str s => some s | _ => none
  bool? | .bool b => some b | _ => none
  int? | .num (.int i) => some i | _ => none
  double? | .num n => some n.toDouble | _ => none
  single? | .num n => some n.toSingle | _ => none
  choice? | .str s => some s | .obj [(s, .null)] => some s | _ => none
  items? | .arr vs => some vs | _ => none
  members? | .obj ms => some ms | _ => none
  listed? | .arr vs => some vs | _ => none

variable {δ α : Type} [Source δ]

/-- A number that is not negative. -/
def nat? (v : δ) : Option Nat := do
  let i ← Source.int? v
  if 0 ≤ i then return i.toNat else none

/-- A number of 64 bits, signed. -/
def int64? (v : δ) : Option Int64 := do
  let i ← Source.int? v
  if Int64.minValue.toInt ≤ i && i ≤ Int64.maxValue.toInt then return Int64.ofInt i else none

/-- A number of 32 bits, not signed. -/
def uint32? (v : δ) : Option UInt32 := do
  let n ← nat? v
  if n < Nat.pow 2 32 then return n.toUInt32 else none

/-- A list of values. -/
def list? (read : δ → Option α) (v : δ) : Option (List α) := do
  (← Source.items? v).mapM read

/-- A value that may be absent. -/
def option? (read : δ → Option α) (v : δ) : Option (Option α) :=
  if Source.isNull v then some none else (read v).map some

/-- What is left to be read of a record. -/
inductive Opened (δ : Type) where
  | named (members : List (String × δ))
  | listed (items : List δ)

/-- A reader of some fields of a record. -/
abbrev Fields (δ : Type) := StateT (Opened δ) Option

/-- A field under any of `names`. When it is missing it is `unnamed` in a record with names and
`unlisted` in a list that ends before it. -/
def field (names : List String) (read : δ → Option α) (unnamed unlisted : Option α) : Fields δ α
  | .named members =>
    match members.filter fun m => names.contains m.1 with
    | [] => unnamed.map (·, .named members)
    | [(_, v)] => (read v).map (·, .named members)
    | _ => none
  | .listed [] => unlisted.map (·, .listed [])
  | .listed (v :: vs) => (read v).map (·, .listed vs)

/-- A field that must be there. -/
def required (name : String) (read : δ → Option α) : Fields δ α :=
  field [name] read none none

/-- A field that takes a default when it is missing. -/
def withDefault (names : List String) (read : δ → Option α) (default : α) : Fields δ α :=
  field names read (some default) (some default)

/-- A field that may be missing or null. -/
def optional (name : String) (read : δ → Option α) : Fields δ (Option α) :=
  field [name] (option? read) (some none) (some none)

/-- Read a record from a tree that names or lists its fields. -/
def record (fields : Fields δ α) (v : δ) : Option α :=
  match Source.members? v with
  | some ms => (fields (.named ms)).map (·.1)
  | none => do
    match ← fields (.listed (← Source.listed? v)) with
    | (r, .listed []) => return r
    | _ => none

/-- Read a dictionary; the last of several members with one key counts. -/
def dictionary? (read : δ → Option α) (v : δ) : Option (Dictionary α) := do
  let entries ← (← Source.members? v).mapM fun (k, w) => (read w).map (k, ·)
  return Dictionary.ofList entries

end EvidenceRank.Data
