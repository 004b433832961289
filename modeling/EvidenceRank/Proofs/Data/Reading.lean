import EvidenceRank.Data.Source
import EvidenceRank.Proofs.Json.Numbers

/-!
# Reading what was written

A reader takes back a value from a tree whatever faithful form its numbers have. For records this
comes down to their fields: under the names of a field stands the value that was written for it,
and nothing else.

* `Reads read v a`: the reader takes `a` from the tree `v`; one lemma for each kind of value.
* `Yields fields ms a`: the fields of a record with the members `ms` make `a`; one lemma for each
  kind of field, and `Yields.bind` for one field after another.
* `Reads.record`: what the fields yield is the record.
-/

namespace EvidenceRank.Data

variable {α β : Type}

/-- The reader takes the value from the tree, and from any tree with the same numbers. -/
def Reads (read : Json → Option α) (v : Json) (a : α) : Prop :=
  ∀ f, Faithful f → read (v.mapNumbers f) = some a

/-- The fields of a record take the value from the members, and from any with the same numbers. -/
def Yields (fields : Fields Json α) (ms : List (String × Json)) (a : α) : Prop :=
  ∀ f, Faithful f →
    fields (.named (Json.mapMembers f ms)) = some (a, .named (Json.mapMembers f ms))

/-! ## Single values -/

namespace Reads

variable {read : Json → Option α} {write : α → Json}

theorem text (s : String) : Reads Source.text? (.str s) s := by
  intro f _
  rw [Json.mapNumbers_str]
  rfl

theorem bool (b : Bool) : Reads Source.bool? (.bool b) b := by
  intro f _
  rw [Json.mapNumbers_bool]
  rfl

theorem int (i : Int) : Reads Source.int? (.ofInt i) i := by
  intro f hf
  rw [Json.ofInt, Json.mapNumbers_num, hf.int]
  rfl

theorem nat (n : Nat) : Reads nat? (.ofNat n) n := by
  intro f hf
  have hint : Source.int? ((Json.ofNat n).mapNumbers f) = some (n : Int) := int n f hf
  rw [nat?, hint]
  change (if (0 : Int) ≤ n then some (n : Int).toNat else none) = _
  rw [if_pos (Int.natCast_nonneg n), Int.toNat_natCast]

theorem int64 (i : Int64) : Reads int64? (.ofInt i.toInt) i := by
  intro f hf
  have hbounds : (decide (Int64.minValue.toInt ≤ i.toInt) &&
      decide (i.toInt ≤ Int64.maxValue.toInt)) = true := by
    rw [Bool.and_eq_true, decide_eq_true_eq, decide_eq_true_eq]
    exact ⟨i.minValue_le_toInt, i.toInt_le⟩
  rw [int64?, int i.toInt f hf]
  change (if _ then some (Int64.ofInt i.toInt) else none) = _
  rw [if_pos hbounds, Int64.ofInt_toInt]

theorem uint32 (n : UInt32) : Reads uint32? (.ofNat n.toNat) n := by
  intro f hf
  rw [uint32?, nat n.toNat f hf]
  change (if n.toNat < Nat.pow 2 32 then some n.toNat.toUInt32 else none) = _
  rw [if_pos n.toNat_lt]
  exact congrArg some (UInt32.ofNat_toNat)

/-- A finite double is written as itself. -/
theorem double {x : Float} (hx : x.isFinite = true) : Reads Source.double? (.ofDouble x) x := by
  intro f hf
  rw [Json.ofDouble, if_pos hx, Json.mapNumbers_num, hf.double]
  rfl

/-- A finite single is written as itself, or as the double that it is. -/
theorem single {x : Float32} (hx : x.isFinite = true) :
    Reads Source.single? (.ofSingle x) x := by
  intro f hf
  rw [Json.ofSingle, if_pos hx, Json.mapNumbers_num]
  exact congrArg some (hf.single x)

/-- A choice is written as its name. -/
theorem choice {ofName? : String → Option α} {name : α → String} {a : α}
    (h : ofName? (name a) = some a) :
    Reads (fun v => Source.choice? v >>= ofName?) (.str (name a)) a := by
  intro f _
  rw [Json.mapNumbers_str]
  exact h

/-! ## Containers -/

theorem mapM_eq_some {γ : Type} {read : γ → Option α} {xs : List α} (write : α → γ)
    (h : ∀ a ∈ xs, read (write a) = some a) : (xs.map write).mapM read = some xs := by
  induction xs with
  | nil => rfl
  | cons x xs ih =>
    rw [List.map_cons, List.mapM_cons, h x List.mem_cons_self,
      ih fun a ha => h a (List.mem_cons_of_mem x ha)]
    rfl

theorem list {xs : List α} (h : ∀ a ∈ xs, Reads read (write a) a) :
    Reads (list? read) (.arr (xs.map write)) xs := by
  intro f hf
  rw [Json.mapNumbers_arr, List.map_map]
  exact mapM_eq_some (Json.mapNumbers f ∘ write) fun a ha => h a ha f hf

theorem dictionary (write : α → Json) {d : Dictionary α}
    (h : ∀ e ∈ d.entries, Reads read (write e.2) e.2) :
    Reads (dictionary? read) (.obj (d.entries.map fun e => (e.1, write e.2))) d := by
  intro f hf
  have hentries : (d.entries.map fun e => (e.1, (write e.2).mapNumbers f)).mapM
      (fun m : String × Json => (read m.2).map (m.1, ·)) = some d.entries := by
    refine mapM_eq_some (fun e : String × α => (e.1, (write e.2).mapNumbers f)) fun e he => ?_
    rw [h e he f hf]
    rfl
  rw [Json.mapNumbers_obj, List.map_map, dictionary?]
  change ((d.entries.map fun e => (e.1, (write e.2).mapNumbers f)).mapM
      (fun m : String × Json => (read m.2).map (m.1, ·)) >>= fun entries =>
    some (Dictionary.ofList entries)) = _
  rw [hentries]
  exact congrArg some (Dictionary.ofList_entries d)

/-- A value that is there. -/
theorem present {v : Json} {a : α} (h : Reads read v a) (hv : v ≠ .null) :
    Reads (option? read) v (some a) := by
  intro f hf
  have hnull : Source.isNull (v.mapNumbers f) = false := by
    cases v with
    | null => exact absurd rfl hv
    | _ => rfl
  rw [option?, hnull, if_neg Bool.false_ne_true, h f hf]
  rfl

/-- A value that is not there is written as null. -/
theorem absent : Reads (option? read) .null none := by
  intro f _
  rw [Json.mapNumbers_null]
  rfl

end Reads

/-! ## Fields -/

/-- What stands under the names of a field. -/
def values (names : List String) (ms : List (String × Json)) : List Json :=
  (ms.filter fun m => names.contains m.1).map (·.2)

section
variable {names : List String} {ms : List (String × Json)}

@[simp] theorem values_nil : values names [] = [] := rfl

@[simp] theorem values_cons (k : String) (v : Json) :
    values names ((k, v) :: ms) =
      if names.contains k then v :: values names ms else values names ms := by
  rw [values, List.filter_cons]
  split <;> rfl

@[simp] theorem values_append (ms' : List (String × Json)) :
    values names (ms ++ ms') = values names ms ++ values names ms' := by
  rw [values, List.filter_append, List.map_append]
  rfl

/-- Members that all have the name `k`, as a value has that may be left out. -/
@[simp] theorem values_map (k : String) (write : β → Json) (xs : List β) :
    values names (xs.map fun x => (k, write x)) =
      if names.contains k then xs.map write else [] := by
  induction xs with
  | nil => split <;> rfl
  | cons x xs ih =>
    rw [List.map_cons, values_cons, ih]
    split <;> rfl

theorem filter_mapMembers (f : Number → Number) :
    (Json.mapMembers f ms).filter (fun m => names.contains m.1) =
      Json.mapMembers f (ms.filter fun m => names.contains m.1) := by
  rw [Json.mapMembers_eq_map, Json.mapMembers_eq_map]
  exact List.filter_map

end

namespace Yields

variable {names : List String} {name : String} {ms : List (String × Json)} {v : Json} {a : α}
  {read : Json → Option α} {unnamed unlisted : Option α}

theorem pure (a : α) : Yields (Pure.pure a) ms a := fun _ _ => rfl

/-- One field after another, from the same members. -/
theorem bind {fields : Fields Json α} {rest : α → Fields Json β} {b : β}
    (h : Yields fields ms a) (hrest : Yields (rest a) ms b) : Yields (fields >>= rest) ms b := by
  intro f hf
  change (fields (.named (Json.mapMembers f ms)) >>= fun p => rest p.1 p.2) = _
  rw [h f hf]
  exact hrest f hf

/-- A field under whose names one value stands. -/
theorem field (h : values names ms = [v]) (hv : Reads read v a) :
    Yields (Data.field names read unnamed unlisted) ms a := by
  intro f hf
  obtain ⟨m, hm, hmv⟩ := List.map_eq_singleton_iff.mp h
  rw [Data.field, filter_mapMembers, hm]
  change (read (m.2.mapNumbers f)).map _ = _
  rw [hmv, hv f hf]
  rfl

/-- A field under whose names nothing stands. -/
theorem missing (h : values names ms = []) (default : α) :
    Yields (Data.field names read (some default) unlisted) ms default := by
  intro f _
  have hnone := List.map_eq_nil_iff.mp h
  rw [Data.field, filter_mapMembers, hnone]
  rfl

theorem required (h : values [name] ms = [v]) (hv : Reads read v a) :
    Yields (Data.required name read) ms a := field h hv

theorem withDefault {default : α} (h : values names ms = [v]) (hv : Reads read v a) :
    Yields (Data.withDefault names read default) ms a := field h hv

variable {write : α → Json} {o : Option α}

/-- A field that is left out when there is no value. -/
theorem optional (h : values [name] ms = o.toList.map write)
    (hv : ∀ a ∈ o, Reads read (write a) a ∧ write a ≠ .null) :
    Yields (Data.optional name read) ms o := by
  cases o with
  | none => exact missing h none
  | some a => exact field h ((hv a rfl).1.present (hv a rfl).2)

/-- A field that is null when there is no value. -/
theorem nullable (h : values [name] ms = [o.elim .null write])
    (hv : ∀ a ∈ o, Reads read (write a) a ∧ write a ≠ .null) :
    Yields (Data.optional name read) ms o := by
  cases o with
  | none => exact field h .absent
  | some a => exact field h ((hv a rfl).1.present (hv a rfl).2)

end Yields

/-- **A record is read from the members that its fields yield it from.** -/
theorem Reads.record {fields : Fields Json α} {ms : List (String × Json)} {a : α}
    (h : Yields fields ms a) : Reads (Data.record fields) (.obj ms) a := by
  intro f hf
  change (fields (.named (Json.mapMembers f ms))).map (·.1) = _
  rw [h f hf]
  rfl

end EvidenceRank.Data
