import EvidenceRank.Candidate

/-!
# Sample slices

Slices that witnesses are made of: they have what tells them apart, and everything else is empty.
The texts of rows are the three of `hash_nodup`, whose digests are told apart once.
-/

namespace EvidenceRank

/-- A candidate with nothing but a name, a document, a text and a score. -/
def sample {σ : Type} (uuid md5 text : String) (score : σ) : Candidate σ :=
  ⟨uuid, { docId := md5, md5 }, text, 0, [], none, score⟩

/-- A row with nothing but a document, a text and a segment. -/
def sampleRow (docId md5 text : String) (segment : Int64) : Row Float :=
  .ofCandidate { sample text md5 text 1.0 with document := { docId, md5 }, segment }

theorem hash_nodup : [Text.hash "a", Text.hash "b", Text.hash "c"].Nodup := by decide +kernel

end EvidenceRank
