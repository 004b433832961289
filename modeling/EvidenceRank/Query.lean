import EvidenceRank.Data.Source
import EvidenceRank.Text.Blank

/-!
# Queries

A query as typed, and the two forms that earlier steps may have given it (`QueryInput`). Ranking
uses the augmented form, else the rewritten one, else the query as typed; a blank form counts as
missing (`effective`).
-/

namespace EvidenceRank

structure Query where
  /-- The query as typed. -/
  origin : String
  /-- The query after spelling and references were resolved. -/
  rewritten : Option String
  /-- The query with the conversation's context added. -/
  augmented : Option String

namespace Query

/-- A query without other forms. -/
def ofText (text : String) : Query := ⟨text, none, none⟩

/-- The form used for ranking. -/
def effective (q : Query) : String :=
  (([q.augmented, q.rewritten].filterMap id).find? (!Text.isBlankText ·)).getD q.origin

open Data

def read? {δ : Type} [Source δ] : δ → Option Query :=
  record do
    let origin ← required "originQuery" Source.text?
    let rewritten ← optional "rewriteQuery" Source.text?
    let augmented ← optional "augmentQuery" Source.text?
    return { origin, rewritten, augmented }

def toJson (q : Query) : Json :=
  .obj ([("originQuery", .str q.origin)]
    ++ q.rewritten.toList.map (("rewriteQuery", .str ·))
    ++ q.augmented.toList.map (("augmentQuery", .str ·)))

end Query
end EvidenceRank
