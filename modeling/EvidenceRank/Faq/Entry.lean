import EvidenceRank.Data.Source

/-!
# FAQ entries

An entry has alias questions and the fragments of its answer (`FaqCandidate`, `FaqContent`). A
ranking names the chosen entries by their positions in the list that was ranked (`FaqRanking`,
`FaqAnswer`).
-/

namespace EvidenceRank.Faq

/-- The kind of an answer fragment. -/
inductive FragmentKind where
  | text
  | image
  | other
deriving DecidableEq

/-- A fragment of an answer. -/
structure Fragment where
  kind : FragmentKind
  content : String
  /-- Descriptions of an image by their kinds. -/
  details : Dictionary String

structure Entry where
  titles : List String
  fragments : List Fragment

/-- A chosen entry. -/
structure Answer (σ : Type) where
  /-- The position of the entry. -/
  index : Nat
  entry : Entry
  score : σ

structure Ranking (σ : Type) where
  answers : List (Answer σ)
  /-- Exactly one title was chosen with confidence. -/
  confident : Bool

open Data

variable {δ : Type} [Source δ]

namespace FragmentKind

def name : FragmentKind → String
  | text => "text"
  | image => "image"
  | other => "other"

/-- Kinds that are not known count as `other`. -/
def ofName : String → FragmentKind
  | "text" => text
  | "image" => image
  | _ => other

def read? (v : δ) : Option FragmentKind := (Source.choice? v).map ofName

def toJson (k : FragmentKind) : Json := .str k.name

end FragmentKind

namespace Fragment

def read? : δ → Option Fragment :=
  record do
    let kind ← required "type" FragmentKind.read?
    let content ← withDefault ["content"] Source.text? ""
    let details ← withDefault ["details"] (dictionary? Source.text?) .empty
    return { kind, content, details }

def toJson (f : Fragment) : Json :=
  .obj [("type", f.kind.toJson), ("content", .str f.content),
    ("details", .obj (f.details.entries.map fun (k, v) => (k, .str v)))]

end Fragment

namespace Entry

def read? : δ → Option Entry :=
  record do
    let titles ← withDefault ["title"] (list? Source.text?) []
    let fragments ← withDefault ["content"] (list? Fragment.read?) []
    return { titles, fragments }

def toJson (e : Entry) : Json :=
  .obj [("title", .arr (e.titles.map .str)), ("content", .arr (e.fragments.map Fragment.toJson))]

end Entry

namespace Answer

def read? : δ → Option (Answer Float) :=
  record do
    let index ← required "index" nat?
    let entry ← required "meta" Entry.read?
    let score ← required "score" Source.double?
    return { index, entry, score }

def toJson (a : Answer Float) : Json :=
  .obj [("index", .ofNat a.index), ("meta", a.entry.toJson), ("score", .ofDouble a.score)]

end Answer

namespace Ranking

def read? : δ → Option (Ranking Float) :=
  record do
    let answers ← required "answers" (list? Answer.read?)
    let confident ← required "faqFindAnswer" Source.bool?
    return { answers, confident }

def members (r : Ranking Float) : List (String × Json) :=
  [("answers", .arr (r.answers.map Answer.toJson)), ("faqFindAnswer", .bool r.confident)]

def toJson (r : Ranking Float) : Json := .obj r.members

end Ranking
end EvidenceRank.Faq
