import EvidenceRank.Json.Value
import EvidenceRank.Proofs.Decimal.Width

/-!
# Numbers of a tree

A tree of interchange values holds a single as a single where it is written out as text, and as a
double where it is handed on as it is. What a reader makes of a number does not depend on that.

* `Json.mapNumbers`: the same tree with its numbers replaced.
* `Json.inDoubles`: the same tree with its singles widened.
* `Faithful`: replacing numbers so that readers see the same ones; `faithful_inDouble`: widening
  singles does.
-/

namespace EvidenceRank

/-- A number without singles. -/
def Number.inDouble : Number → Number
  | .single x => .double (Decimal.widen x)
  | n => n

namespace Json

mutual

/-- The value with its numbers replaced. -/
def mapNumbers (f : Number → Number) : Json → Json
  | .null => .null
  | .bool b => .bool b
  | .num n => .num (f n)
  | .str s => .str s
  | .arr items => .arr (mapItems f items)
  | .obj members => .obj (mapMembers f members)
  | .sealed => .sealed

def mapItems (f : Number → Number) : List Json → List Json
  | [] => []
  | v :: vs => v.mapNumbers f :: mapItems f vs

def mapMembers (f : Number → Number) : List (String × Json) → List (String × Json)
  | [] => []
  | (k, v) :: ms => (k, v.mapNumbers f) :: mapMembers f ms

end

/-- The value with its singles widened. -/
def inDoubles (v : Json) : Json := v.mapNumbers Number.inDouble

variable {f : Number → Number}

theorem mapItems_eq_map (vs : List Json) : mapItems f vs = vs.map (mapNumbers f) := by
  induction vs with
  | nil => rfl
  | cons v vs ih => rw [mapItems, ih, List.map_cons]

theorem mapMembers_eq_map (ms : List (String × Json)) :
    mapMembers f ms = ms.map fun m => (m.1, m.2.mapNumbers f) := by
  induction ms with
  | nil => rfl
  | cons m ms ih => rw [mapMembers, ih, List.map_cons]

@[simp] theorem mapNumbers_str (s : String) : (str s).mapNumbers f = str s := rfl

@[simp] theorem mapNumbers_bool (b : Bool) : (bool b).mapNumbers f = bool b := rfl

@[simp] theorem mapNumbers_null : null.mapNumbers f = null := rfl

@[simp] theorem mapNumbers_num (n : Number) : (num n).mapNumbers f = num (f n) := rfl

theorem mapNumbers_arr (vs : List Json) : (arr vs).mapNumbers f = arr (vs.map (mapNumbers f)) := by
  rw [mapNumbers, mapItems_eq_map]

theorem mapNumbers_obj (ms : List (String × Json)) :
    (obj ms).mapNumbers f = obj (ms.map fun m => (m.1, m.2.mapNumbers f)) := by
  rw [mapNumbers, mapMembers_eq_map]

/-- Replacing no number changes nothing. -/
theorem mapNumbers_id : ∀ v : Json, v.mapNumbers id = v
  | .null => mapNumbers_null
  | .bool b => mapNumbers_bool b
  | .num n => mapNumbers_num n
  | .str s => mapNumbers_str s
  | .sealed => rfl
  | .arr items => by rw [mapNumbers, mapItems_id items]
  | .obj members => by rw [mapNumbers, mapMembers_id members]
where
  mapItems_id : ∀ vs : List Json, mapItems id vs = vs
    | [] => rfl
    | v :: vs => by rw [mapItems, mapNumbers_id v, mapItems_id vs]
  mapMembers_id : ∀ ms : List (String × Json), mapMembers id ms = ms
    | [] => rfl
    | (k, v) :: ms => by rw [mapMembers, mapNumbers_id v, mapMembers_id ms]

/-! ## Open values -/

theorem allOpen_iff {vs : List Json} : allOpen vs = true ↔ ∀ v ∈ vs, v.isOpen = true := by
  induction vs with
  | nil => simp [allOpen]
  | cons v vs ih => simp [allOpen, ih]

/-- Replacing numbers seals nothing. -/
theorem isOpen_mapNumbers : ∀ v : Json, (v.mapNumbers f).isOpen = v.isOpen
  | .null => rfl
  | .bool _ => rfl
  | .num _ => rfl
  | .str _ => rfl
  | .sealed => rfl
  | .arr items => by rw [mapNumbers, isOpen, isOpen, allOpen_mapItems items]
  | .obj members => by rw [mapNumbers, isOpen, isOpen, membersOpen_mapMembers members]
where
  allOpen_mapItems : ∀ vs : List Json, allOpen (mapItems f vs) = allOpen vs
    | [] => rfl
    | v :: vs => by rw [mapItems, allOpen, allOpen, isOpen_mapNumbers v, allOpen_mapItems vs]
  membersOpen_mapMembers : ∀ ms : List (String × Json),
      membersOpen (mapMembers f ms) = membersOpen ms
    | [] => rfl
    | (k, v) :: ms => by
      rw [mapMembers, membersOpen, membersOpen, isOpen_mapNumbers v, membersOpen_mapMembers ms]

end Json

/-! ## Faithful replacements -/

/-- Readers see the same integers, doubles and singles after replacing numbers by `f`. -/
structure Faithful (f : Number → Number) : Prop where
  int : ∀ i, f (.int i) = .int i
  double : ∀ x, f (.double x) = .double x
  single : ∀ x, (f (.single x)).toSingle = x

theorem faithful_id : Faithful id := ⟨fun _ => rfl, fun _ => rfl, fun _ => rfl⟩

/-- Widening singles changes no number that a reader sees. -/
theorem faithful_inDouble : Faithful Number.inDouble :=
  ⟨fun _ => rfl, fun _ => rfl, Decimal.narrow_widen⟩

end EvidenceRank
