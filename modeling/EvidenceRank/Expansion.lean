import EvidenceRank.Candidate
import EvidenceRank.Config.Basic
import EvidenceRank.SliceFetcher
import EvidenceRank.Text.Quoted

/-!
# Expansion

After fusion only the top rows are kept, and these are padded with the slices that follow them in
their documents, so that citations read on (`expand`). The top rows are never reordered or dropped.

* `truncate`: no padding (`truncate`).
* `keepNeighbours`: lower rows that directly follow a top row stay (`ranked_neighbours`).
* `fetchSuccessors`: the slice fetcher is asked for what follows each top row (`fetch_successors`,
  `append_successors`, `successor_row`).
-/

namespace EvidenceRank

/-- What expansion did beyond keeping the top rows. -/
inductive ExpansionOutcome where
  | notRequested
  /-- So many rows were added. -/
  | expanded (added : Nat)
  | noSuccessors
  /-- The fetcher failed; the reason is the wording of its error. -/
  | skipped (reason : String)

/-- The rows after expansion, top rows first, and what was done. -/
structure Expansion (σ : Type) where
  rows : List (Row σ)
  outcome : ExpansionOutcome

namespace Expansion

variable {σ : Type}

/-- The outcome of adding so many rows. -/
def outcomeOf (added : Nat) : ExpansionOutcome :=
  if added = 0 then .noSuccessors else .expanded added

/-- The top rows alone. -/
def truncate (top : Nat) (rows : List (Row σ)) : Expansion σ :=
  ⟨rows.take top, .notRequested⟩

/-- `r` directly follows `s` in one document. -/
def follows (r s : Row σ) : Bool :=
  s.md5 == r.md5 && s.candidate.segment.toInt + 1 == r.candidate.segment.toInt

/-- The top rows, and those after them that directly follow one of the top rows. -/
def keepNeighbours (top : Nat) (rows : List (Row σ)) : Expansion σ :=
  let added := (rows.drop top).filter fun r => (rows.take top).any (follows r)
  ⟨rows.take top ++ added, outcomeOf added.length⟩

/-- The document of a fetched slice: that of the last row with its address, else what the record
says. -/
def documentOf (rows : List (Row σ)) (record : SliceRecord) : Document :=
  match rows.reverse.find? (·.document.docId == record.docId) with
  | some r => r.document
  | none => { docId := record.docId, name := record.docName, md5 := record.docMd5 }

variable [Score σ]

/-- The row of a fetched slice, which has no scores. -/
def successorRow (rows : List (Row σ)) (id : String) (record : SliceRecord) : Row σ :=
  let candidate : Candidate σ :=
    { uuid := id
      document := documentOf rows record
      text := record.text
      segment := record.segment
      pages := record.pages
      embedding := none
      score := 0.0 }
  { Row.ofCandidate candidate with anchor := some record.anchor }

/-- The row repeats the text or the place of one of `rows`. -/
def repeats (rows : List (Row σ)) (r : Row σ) : Bool :=
  rows.any fun s => s.key == r.key || s.position == r.position

/-- Put rows one by one behind `kept`, leaving out those that repeat a row in front of them. -/
def appendNew (kept : List (Row σ)) (rows : List (Row σ)) : List (Row σ) :=
  rows.foldl (fun kept r => if repeats kept r then kept else kept ++ [r]) kept

/-- Put the fetched slices, each with the id of its row, behind the top rows. -/
def appendSuccessors (top : List (Row σ)) (records : List (String × SliceRecord)) :
    Expansion σ :=
  let rows := appendNew top (records.map fun (id, record) => successorRow top id record)
  ⟨rows, outcomeOf (rows.length - top.length)⟩

variable {m : Type → Type} [Monad m]

/-- The top rows and their fetched successors. When fetching fails the top rows stand alone. -/
def fetchSuccessors (fetcher : SliceFetcher m) (top : Nat) (rows : List (Row σ)) :
    m (Expansion σ) := do
  let kept := rows.take top
  if kept.isEmpty then return ⟨kept, .noSuccessors⟩
  match ← fetcher.fetch (kept.map (·.document.docId)) (kept.map (·.candidate.segment)) with
  | .error e => return ⟨kept, .skipped e.message⟩
  | .ok records =>
    let named ← records.mapM fun record => do return (← fetcher.freshId, record)
    return appendSuccessors kept named

/-- Keep the top rows and pad them as configured. -/
def expand (config : ExpansionConfig) (fetcher : SliceFetcher m) (rows : List (Row σ)) :
    m (Expansion σ) :=
  match config.method with
  | .truncate => return truncate config.topRows rows
  | .neighbours => return keepNeighbours config.topRows rows
  | .fetch => fetchSuccessors fetcher config.topRows rows

end Expansion

namespace ExpansionOutcome

/-- The name of the kind of outcome in records. -/
def status : ExpansionOutcome → String
  | notRequested => "notRequested"
  | expanded _ => "expanded"
  | noSuccessors => "noSuccessors"
  | skipped _ => "skipped"

/-- The outcome as reports show it. -/
def label : ExpansionOutcome → String
  | notRequested => "NotRequested"
  | expanded added => "Expanded \x7b added: " ++ toString added ++ " \x7d"
  | noSuccessors => "NoSuccessors"
  | skipped reason => "Skipped \x7b reason: " ++ Text.quoteForReport reason ++ " \x7d"

open Data

/-- The content of an outcome of the given kind. An outcome without content ignores members, but
a list must end after the kind. -/
def content? (status : String) : Opened Json → Option ExpansionOutcome
  | rest =>
    let bare (outcome : ExpansionOutcome) : Option ExpansionOutcome :=
      match rest with
      | .named _ => some outcome
      | .listed vs => if vs.isEmpty then some outcome else none
    let ended : ExpansionOutcome × Opened Json → Option ExpansionOutcome
      | (outcome, .named _) => some outcome
      | (outcome, .listed vs) => if vs.isEmpty then some outcome else none
    match status with
    | "notRequested" => bare notRequested
    | "noSuccessors" => bare noSuccessors
    | "expanded" => ((do return expanded (← required "added" nat?)) : Fields Json _) rest >>= ended
    | "skipped" =>
      ((do return skipped (← required "reason" Source.text?)) : Fields Json _) rest >>= ended
    | _ => none

/-- An outcome names its kind under `status`, or as the first value of a list. The rest is kept
until the kind is known, so none of it may be sealed. -/
def read? : Json → Option ExpansionOutcome
  | .obj members =>
    match members.partition (·.1 == "status") with
    | ([(_, .str status)], rest) =>
      if rest.all (·.2.isOpen) then content? status (.named rest) else none
    | _ => none
  | .arr (.str status :: rest) =>
    if rest.all Json.isOpen then content? status (.listed rest) else none
  | _ => none

def toJson (o : ExpansionOutcome) : Json :=
  .obj (("status", .str o.status) :: match o with
    | notRequested => []
    | expanded added => [("added", .ofNat added)]
    | noSuccessors => []
    | skipped reason => [("reason", .str reason)])

end ExpansionOutcome
end EvidenceRank
