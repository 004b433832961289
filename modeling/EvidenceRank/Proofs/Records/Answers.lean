import EvidenceRank.Citation
import EvidenceRank.Faq.Entry
import EvidenceRank.Proofs.Records.Slices

/-!
# Citations and FAQ answers are read as written

One theorem for each record, in the order in which they are built from each other: a citation from
its slices, a ranking from its answers, an answer from an entry and its fragments. A kind of
fragment that is not known was written by its name `other`, which stands for itself.
-/

namespace EvidenceRank

open Data

/-! ## Citations -/

structure CitedSlice.Finite (s : CitedSlice Float) : Prop where
  score : s.score.isFinite = true
  embedding : ∀ x ∈ s.embedding, x.isFinite = true

theorem CitedSlice.reads {s : CitedSlice Float} (h : s.Finite) :
    Reads CitedSlice.read? s.toJson s :=
  .record <|
    .bind (.required (by simp) (.text s.id)) <|
    .bind (.required (by simp) (.int64 s.no)) <|
    .bind (.required (by simp) (.text s.content)) <|
    .bind (.required (by simp) (.double h.score)) <|
    .bind (.withDefault (by simp) (reads_embedding h.embedding)) <|
    .bind (.withDefault (by simp) (reads_pages s.pages)) <|
    .pure s

theorem CitationSource.reads (s : CitationSource) : Reads CitationSource.read? s.toJson s :=
  .choice (by cases s <;> rfl)

def Citation.Finite (c : Citation Float) : Prop := ∀ s ∈ c.slices, s.Finite

theorem Citation.reads {c : Citation Float} (h : c.Finite) : Reads Citation.read? c.toJson c :=
  .record <|
    .bind (.required (by simp) (.text c.objectId)) <|
    .bind (.required (by simp) c.document.reads) <|
    .bind (.required (by simp) (.text c.content)) <|
    .bind (.required (by simp) c.source.reads) <|
    .bind (.required (by simp) (.list fun s hs => CitedSlice.reads (h s hs))) <|
    .pure c

theorem PromptDocument.reads (d : PromptDocument) : Reads PromptDocument.read? d.toJson d :=
  .record <|
    .bind (.required (by simp) (.text d.documentId)) <|
    .bind (.required (by simp) (.text d.filename)) <|
    .bind (.required (by simp) (.text d.text)) <|
    .pure d

/-! ## FAQ answers -/

namespace Faq

theorem FragmentKind.reads (k : FragmentKind) : Reads FragmentKind.read? k.toJson k := by
  intro f _
  rw [FragmentKind.toJson, Json.mapNumbers_str]
  cases k <;> rfl

theorem Fragment.reads (x : Fragment) : Reads Fragment.read? x.toJson x :=
  .record <|
    .bind (.required (by simp) x.kind.reads) <|
    .bind (.withDefault (by simp) (.text x.content)) <|
    .bind (.withDefault (by simp) (.dictionary Json.str fun e _ => .text e.2)) <|
    .pure x

theorem Entry.reads (e : Entry) : Reads Entry.read? e.toJson e :=
  .record <|
    .bind (.withDefault (by simp) (.list fun title _ => .text title)) <|
    .bind (.withDefault (by simp) (.list fun x _ => x.reads)) <|
    .pure e

def Answer.Finite (a : Answer Float) : Prop := a.score.isFinite = true

theorem Answer.reads {a : Answer Float} (h : a.Finite) : Reads Answer.read? a.toJson a :=
  .record <|
    .bind (.required (by simp) (.nat a.index)) <|
    .bind (.required (by simp) a.entry.reads) <|
    .bind (.required (by simp) (.double h)) <|
    .pure a

def Ranking.Finite (r : Ranking Float) : Prop := ∀ a ∈ r.answers, a.Finite

theorem Ranking.reads {r : Ranking Float} (h : r.Finite) : Reads Ranking.read? r.toJson r :=
  .record <|
    .bind (.required (by simp [members]) (.list fun a ha => Answer.reads (h a ha))) <|
    .bind (.required (by simp [members]) (.bool r.confident)) <|
    .pure r

end Faq
end EvidenceRank
