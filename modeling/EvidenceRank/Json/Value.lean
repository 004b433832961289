import EvidenceRank.Decimal.Width

/-!
# Interchange values

The tree that records are written to and read from. An object keeps its members in order and keeps
repeated keys, because a record with a repeated field is malformed while a dictionary takes the
last. Numbers keep the kind in which they were written down.

A `sealed` value is one that was skipped over on reading: it is well formed, but its content stands
for nothing that can be kept. It may only be ignored.
-/

namespace EvidenceRank

/-- A number as it stands in a document. -/
inductive Number where
  | int (value : Int)
  | double (value : Float)
  | single (value : Float32)

namespace Number

/-- The nearest double. -/
def toDouble : Number → Float
  | .int i => Float.ofInt i
  | .double x => x
  | .single x => Decimal.widen x

/-- The nearest single. -/
def toSingle : Number → Float32
  | .int i => Float32.ofInt i
  | .double x => Decimal.narrow x
  | .single x => x

end Number

/-- A document, or a part of one. -/
inductive Json where
  | null
  | bool (value : Bool)
  | num (value : Number)
  | str (value : String)
  | arr (items : List Json)
  | obj (members : List (String × Json))
  | sealed

namespace Json

instance : Inhabited Json := ⟨.null⟩

/-- A double; one that is not finite has no number to stand for it. -/
def ofDouble (x : Float) : Json :=
  if x.isFinite then .num (.double x) else .null

/-- A single; one that is not finite has no number to stand for it. -/
def ofSingle (x : Float32) : Json :=
  if x.isFinite then .num (.single x) else .null

def ofNat (n : Nat) : Json := .num (.int n)

def ofInt (n : Int) : Json := .num (.int n)

mutual

/-- No part of the value is sealed. -/
def isOpen : Json → Bool
  | .sealed => false
  | .arr items => allOpen items
  | .obj members => membersOpen members
  | _ => true

def allOpen : List Json → Bool
  | [] => true
  | v :: vs => v.isOpen && allOpen vs

def membersOpen : List (String × Json) → Bool
  | [] => true
  | (_, v) :: ms => v.isOpen && membersOpen ms

end

/-- The last value stored under `key`. -/
def get? (key : String) : Json → Option Json
  | .obj members => (members.reverse.find? (·.1 == key)).map (·.2)
  | _ => none

end Json
end EvidenceRank
