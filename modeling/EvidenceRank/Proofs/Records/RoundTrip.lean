import EvidenceRank.Proofs.Records.Config
import EvidenceRank.Proofs.Records.Reports

/-!
# Reading undoes writing

The table of all record types that are both read and written, and the law that holds of each of
them: what a writer wrote is read back as the same value, whether its singles are kept as singles
or handed on as doubles.

* `RecordType`, `RecordType.format`: the record types and how each is written and read.
* `read_write`: reading gives back what was written, and writing that again gives the same tree.
-/

namespace EvidenceRank

open Data

/-- How the values of a type are written and read, and which of them can be. -/
structure RecordFormat (α : Type) where
  write : α → Json
  read? : Json → Option α
  /-- All floats of the value are finite. -/
  Finite : α → Prop := fun _ => True

/-- The types of records. -/
inductive RecordType where
  | query | document | candidate | hitType | row | sliceRecord | neighbor
  | citedSlice | citationSource | citation | promptDocument
  | fragmentKind | fragment | entry | answer | ranking
  | columnStats | hitCounts | fusedTable
  | pools | rankRequest | expansionOutcome | sourceReport | sourceFailure | rankOutput
  | fusionMethod | expansionMethod | fusionConfig | expansionConfig | citationConfig | faqConfig
  | rerankServiceConfig | sliceFetchConfig | servicesConfig | rankingConfig

namespace RecordType

/-- The values of a record type. -/
def Value : RecordType → Type
  | query => Query
  | document => Document
  | candidate => Candidate Float
  | hitType => HitType
  | row => Row Float
  | sliceRecord => SliceRecord
  | neighbor => Service.Neighbor
  | citedSlice => CitedSlice Float
  | citationSource => CitationSource
  | citation => Citation Float
  | promptDocument => PromptDocument
  | fragmentKind => Faq.FragmentKind
  | fragment => Faq.Fragment
  | entry => Faq.Entry
  | answer => Faq.Answer Float
  | ranking => Faq.Ranking Float
  | columnStats => ColumnStats Float
  | hitCounts => HitCounts
  | fusedTable => FusedTable Float
  | pools => Pools Float
  | rankRequest => RankRequest Float
  | expansionOutcome => ExpansionOutcome
  | sourceReport => SourceReport Float
  | sourceFailure => SourceFailure
  | rankOutput => RankOutput Float
  | fusionMethod => FusionMethod
  | expansionMethod => ExpansionMethod
  | fusionConfig => FusionConfig Float
  | expansionConfig => ExpansionConfig
  | citationConfig => CitationConfig
  | faqConfig => FaqConfig Float
  | rerankServiceConfig => RerankServiceConfig
  | sliceFetchConfig => SliceFetchConfig
  | servicesConfig => ServicesConfig
  | rankingConfig => RankingConfig Float

/-- How the values of a record type are written and read. -/
def format : (t : RecordType) → RecordFormat t.Value
  | query => { write := Query.toJson, read? := Query.read? }
  | document => { write := Document.toJson, read? := Document.read? }
  | candidate =>
    { write := Candidate.toJson, read? := Candidate.read?, Finite := Candidate.Finite }
  | hitType => { write := HitType.toJson, read? := HitType.read? }
  | row => { write := Row.toJson, read? := Row.read?, Finite := Row.Finite }
  | sliceRecord => { write := SliceRecord.toJson, read? := SliceRecord.read? }
  | neighbor => { write := Service.Neighbor.toJson, read? := Service.Neighbor.read? }
  | citedSlice =>
    { write := CitedSlice.toJson, read? := CitedSlice.read?, Finite := CitedSlice.Finite }
  | citationSource => { write := CitationSource.toJson, read? := CitationSource.read? }
  | citation => { write := Citation.toJson, read? := Citation.read?, Finite := Citation.Finite }
  | promptDocument => { write := PromptDocument.toJson, read? := PromptDocument.read? }
  | fragmentKind => { write := Faq.FragmentKind.toJson, read? := Faq.FragmentKind.read? }
  | fragment => { write := Faq.Fragment.toJson, read? := Faq.Fragment.read? }
  | entry => { write := Faq.Entry.toJson, read? := Faq.Entry.read? }
  | answer =>
    { write := Faq.Answer.toJson, read? := Faq.Answer.read?, Finite := Faq.Answer.Finite }
  | ranking =>
    { write := Faq.Ranking.toJson, read? := Faq.Ranking.read?, Finite := Faq.Ranking.Finite }
  | columnStats =>
    { write := ColumnStats.toJson, read? := ColumnStats.read?, Finite := ColumnStats.Finite }
  | hitCounts => { write := HitCounts.toJson, read? := HitCounts.read? }
  | fusedTable =>
    { write := FusedTable.toJson, read? := FusedTable.read?, Finite := FusedTable.Finite }
  | pools => { write := Pools.toJson, read? := Pools.read?, Finite := Pools.Finite }
  | rankRequest =>
    { write := RankRequest.toJson, read? := RankRequest.read?, Finite := RankRequest.Finite }
  | expansionOutcome => { write := ExpansionOutcome.toJson, read? := ExpansionOutcome.read? }
  | sourceReport =>
    { write := SourceReport.toJson, read? := SourceReport.read?, Finite := SourceReport.Finite }
  | sourceFailure => { write := SourceFailure.toJson, read? := SourceFailure.read? }
  | rankOutput =>
    { write := RankOutput.toJson, read? := RankOutput.read?, Finite := RankOutput.Finite }
  | fusionMethod => { write := FusionMethod.toJson, read? := FusionMethod.read? }
  | expansionMethod => { write := ExpansionMethod.toJson, read? := ExpansionMethod.read? }
  | fusionConfig =>
    { write := FusionConfig.toJson, read? := FusionConfig.read?, Finite := FusionConfig.Finite }
  | expansionConfig => { write := ExpansionConfig.toJson, read? := ExpansionConfig.read? }
  | citationConfig => { write := CitationConfig.toJson, read? := CitationConfig.read? }
  | faqConfig =>
    { write := FaqConfig.toJson, read? := FaqConfig.read?, Finite := FaqConfig.Finite }
  | rerankServiceConfig =>
    { write := RerankServiceConfig.toJson, read? := RerankServiceConfig.read? }
  | sliceFetchConfig => { write := SliceFetchConfig.toJson, read? := SliceFetchConfig.read? }
  | servicesConfig => { write := ServicesConfig.toJson, read? := ServicesConfig.read? }
  | rankingConfig =>
    { write := RankingConfig.toJson, read? := RankingConfig.read?, Finite := RankingConfig.Finite }

/-- Every record is read as written. -/
theorem reads : ∀ (t : RecordType) {x : t.Value}, t.format.Finite x →
    Reads t.format.read? (t.format.write x) x
  | query, x, _ => Query.reads x
  | document, x, _ => Document.reads x
  | candidate, _, h => Candidate.reads h
  | hitType, x, _ => HitType.reads x
  | row, _, h => Row.reads h
  | sliceRecord, x, _ => SliceRecord.reads x
  | neighbor, x, _ => Service.Neighbor.reads x
  | citedSlice, _, h => CitedSlice.reads h
  | citationSource, x, _ => CitationSource.reads x
  | citation, _, h => Citation.reads h
  | promptDocument, x, _ => PromptDocument.reads x
  | fragmentKind, x, _ => Faq.FragmentKind.reads x
  | fragment, x, _ => Faq.Fragment.reads x
  | entry, x, _ => Faq.Entry.reads x
  | answer, _, h => Faq.Answer.reads h
  | ranking, _, h => Faq.Ranking.reads h
  | columnStats, _, h => ColumnStats.reads h
  | hitCounts, x, _ => HitCounts.reads x
  | fusedTable, _, h => FusedTable.reads h
  | pools, _, h => Pools.reads h
  | rankRequest, _, h => RankRequest.reads h
  | expansionOutcome, x, _ => ExpansionOutcome.reads x
  | sourceReport, _, h => SourceReport.reads h
  | sourceFailure, x, _ => SourceFailure.reads x
  | rankOutput, _, h => RankOutput.reads h
  | fusionMethod, x, _ => FusionMethod.reads x
  | expansionMethod, x, _ => ExpansionMethod.reads x
  | fusionConfig, _, h => FusionConfig.reads h
  | expansionConfig, x, _ => ExpansionConfig.reads x
  | citationConfig, x, _ => CitationConfig.reads x
  | faqConfig, _, h => FaqConfig.reads h
  | rerankServiceConfig, x, _ => RerankServiceConfig.reads x
  | sliceFetchConfig, x, _ => SliceFetchConfig.reads x
  | servicesConfig, x, _ => ServicesConfig.reads x
  | rankingConfig, _, h => RankingConfig.reads h

end RecordType

/-- **Reading undoes writing**, for every record whose floats are finite; so writing what was read
gives the same tree. This holds of the tree as it is written, and of the tree in doubles. -/
theorem read_write (t : RecordType) (x : t.Value) (h : t.format.Finite x) :
    t.format.read? (t.format.write x) = some x ∧
      (t.format.read? (t.format.write x)).map t.format.write = some (t.format.write x) ∧
      t.format.read? (t.format.write x).inDoubles = some x ∧
      (t.format.read? (t.format.write x).inDoubles).map (fun y => (t.format.write y).inDoubles) =
        some (t.format.write x).inDoubles := by
  have hreads := t.reads h
  have hplain := hreads id faithful_id
  have hdoubles := hreads Number.inDouble faithful_inDouble
  rw [Json.mapNumbers_id] at hplain
  refine ⟨hplain, ?_, hdoubles, ?_⟩
  · rw [hplain]
    rfl
  · rw [Json.inDoubles, hdoubles]
    rfl

/-- A candidate with an embedding, read back from its tree in doubles. -/
theorem candidate_read_back :
    Candidate.read? (Candidate.toJson ⟨"u", {}, "text", 3, [1], some [0.1], 0.25⟩).inDoubles =
      some ⟨"u", {}, "text", 3, [1], some [0.1], 0.25⟩ := by
  have hembedding : (0.1 : Float32).isFinite = true := by decide +kernel
  have hscore : (0.25 : Float).isFinite = true := by decide +kernel
  have hfinite : Candidate.Finite ⟨"u", {}, "text", 3, [1], some [0.1], 0.25⟩ :=
    { embedding := by
        intro xs hxs x hx
        obtain rfl := Option.some.inj hxs
        rw [List.mem_singleton.mp hx]
        exact hembedding
      score := hscore }
  exact (read_write .candidate ⟨"u", {}, "text", 3, [1], some [0.1], 0.25⟩ hfinite).2.2.1

end EvidenceRank
