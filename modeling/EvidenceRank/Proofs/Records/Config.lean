import EvidenceRank.Config.Basic
import EvidenceRank.Proofs.Data.Reading

/-!
# Configurations are read as written

Every field of a configuration is written, so its default is never taken when it is read back. A
method is written by the first of its names.
-/

namespace EvidenceRank

open Data

theorem FusionMethod.reads (m : FusionMethod) : Reads FusionMethod.read? m.toJson m :=
  .choice (by cases m <;> rfl)

theorem ExpansionMethod.reads (m : ExpansionMethod) : Reads ExpansionMethod.read? m.toJson m :=
  .choice (by cases m <;> rfl)

structure FusionConfig.Finite (c : FusionConfig Float) : Prop where
  denseWeight : c.denseWeight.isFinite = true
  sparseWeight : c.sparseWeight.isFinite = true

theorem FusionConfig.reads {c : FusionConfig Float} (h : c.Finite) :
    Reads FusionConfig.read? c.toJson c :=
  .record <|
    .bind (.withDefault (by simp) (.double h.denseWeight)) <|
    .bind (.withDefault (by simp) (.double h.sparseWeight)) <|
    .bind (.withDefault (by simp) c.method.reads) <|
    .pure c

theorem ExpansionConfig.reads (c : ExpansionConfig) : Reads ExpansionConfig.read? c.toJson c :=
  .record <|
    .bind (.withDefault (by simp) (.nat c.topRows)) <|
    .bind (.withDefault (by simp) c.method.reads) <|
    .pure c

theorem CitationConfig.reads (c : CitationConfig) : Reads CitationConfig.read? c.toJson c :=
  .record <|
    .bind (.withDefault (by simp) (.nat c.maxSlices)) <|
    .pure c

def FaqConfig.Finite (c : FaqConfig Float) : Prop := c.outlierMultiplier.isFinite = true

theorem FaqConfig.reads {c : FaqConfig Float} (h : c.Finite) : Reads FaqConfig.read? c.toJson c :=
  .record <|
    .bind (.withDefault (by simp) (.nat c.fallbackLimit)) <|
    .bind (.withDefault (by simp) (.double h)) <|
    .pure c

theorem RerankServiceConfig.reads (c : RerankServiceConfig) :
    Reads RerankServiceConfig.read? c.toJson c :=
  .record <|
    .bind (.withDefault (by simp) (.text c.url)) <|
    .bind (.withDefault (by simp) (.text c.model)) <|
    .bind (.withDefault (by simp) (.nat c.timeoutSecs)) <|
    .bind (.nullable (by simp) fun s _ => ⟨.text s, nofun⟩) <|
    .bind (.nullable (by simp) fun s _ => ⟨.text s, nofun⟩) <|
    .pure c

theorem SliceFetchConfig.reads (c : SliceFetchConfig) :
    Reads SliceFetchConfig.read? c.toJson c :=
  .record <|
    .bind (.withDefault (by simp) (.text c.url)) <|
    .bind (.withDefault (by simp) (.list fun s _ => .text s)) <|
    .bind (.withDefault (by simp) (.uint32 c.beforeStep)) <|
    .bind (.withDefault (by simp) (.uint32 c.afterStep)) <|
    .bind (.withDefault (by simp) (.nat c.timeoutSecs)) <|
    .pure c

theorem ServicesConfig.reads (c : ServicesConfig) : Reads ServicesConfig.read? c.toJson c :=
  .record <|
    .bind (.withDefault (by simp) c.rerank.reads) <|
    .bind (.withDefault (by simp) c.sliceFetch.reads) <|
    .pure c

structure RankingConfig.Finite (c : RankingConfig Float) : Prop where
  fusion : c.fusion.Finite
  faq : c.faq.Finite

theorem RankingConfig.reads {c : RankingConfig Float} (h : c.Finite) :
    Reads RankingConfig.read? c.toJson c :=
  .record <|
    .bind (.withDefault (by simp) (FusionConfig.reads h.fusion)) <|
    .bind (.withDefault (by simp) c.expansion.reads) <|
    .bind (.withDefault (by simp) c.citation.reads) <|
    .bind (.withDefault (by simp) (FaqConfig.reads h.faq)) <|
    .bind (.withDefault (by simp) c.services.reads) <|
    .pure c

end EvidenceRank
