import EvidenceRank.Pipeline
import EvidenceRank.Proofs.Records.Answers

/-!
# Requests and reports are read as written

The tables, requests and reports that a ranking takes and gives, from the inside out. An outcome of
expansion names its kind next to its content, so its members are taken apart before they are read.
-/

namespace EvidenceRank

open Data

/-! ## Tables -/

structure ColumnStats.Finite (s : ColumnStats Float) : Prop where
  min : s.min.isFinite = true
  max : s.max.isFinite = true
  mean : s.mean.isFinite = true
  std : s.std.isFinite = true

theorem ColumnStats.reads {s : ColumnStats Float} (h : s.Finite) :
    Reads ColumnStats.read? s.toJson s :=
  .record <|
    .bind (.required (by simp) (.nat s.count)) <|
    .bind (.required (by simp) (.double h.min)) <|
    .bind (.required (by simp) (.double h.max)) <|
    .bind (.required (by simp) (.double h.mean)) <|
    .bind (.required (by simp) (.double h.std)) <|
    .pure s

theorem HitCounts.reads (c : HitCounts) : Reads HitCounts.read? c.toJson c :=
  .record <|
    .bind (.required (by simp) (.nat c.allHit)) <|
    .bind (.required (by simp) (.nat c.onlyDense)) <|
    .bind (.required (by simp) (.nat c.onlySparse)) <|
    .pure c

def FusedTable.Finite (t : FusedTable Float) : Prop := ∀ r ∈ t.rows, r.Finite

theorem FusedTable.reads {t : FusedTable Float} (h : t.Finite) :
    Reads FusedTable.read? t.toJson t :=
  .record <|
    .bind (.required (by simp) (.list fun r hr => Row.reads (h r hr))) <|
    .bind (.required (by simp) t.hitCounts.reads) <|
    .pure t

/-! ## Requests -/

structure Pools.Finite (p : Pools Float) : Prop where
  dense : ∀ c ∈ p.dense, c.Finite
  sparse : ∀ c ∈ p.sparse, c.Finite

theorem Pools.reads {p : Pools Float} (h : p.Finite) : Reads Pools.read? p.toJson p :=
  .record <|
    .bind (.withDefault (by simp) (.list fun c hc => Candidate.reads (h.dense c hc))) <|
    .bind (.withDefault (by simp) (.list fun c hc => Candidate.reads (h.sparse c hc))) <|
    .pure p

def RankRequest.Finite (r : RankRequest Float) : Prop :=
  ∀ e ∈ r.dataSources.entries, ∀ p ∈ e.2, p.Finite

theorem RankRequest.reads {r : RankRequest Float} (h : r.Finite) :
    Reads RankRequest.read? r.toJson r :=
  .record <|
    .bind (.required (by simp) r.query.reads) <|
    .bind (.withDefault (by simp) (.dictionary (fun ps => .arr (ps.map Pools.toJson)) fun e he =>
      .list fun p hp => Pools.reads (h e he p hp))) <|
    .bind (.optional (by simp) fun s _ => ⟨.text s, nofun⟩) <|
    .pure r

/-! ## Reports -/

namespace ExpansionOutcome

/-- The content of an outcome is read from what is left next to its kind. -/
theorem read?_content {status : String} {k : String} {v : Json} {f : Number → Number}
    (hk : (k == "status") = false) (hv : v.isOpen = true) :
    read? ((Json.obj [("status", .str status), (k, v)]).mapNumbers f) =
      content? status (.named (Json.mapMembers f [(k, v)])) := by
  have hopen : (v.mapNumbers f).isOpen = true := (Json.isOpen_mapNumbers v).trans hv
  have hparts : List.partition (fun m : String × Json => m.1 == "status")
      [("status", .str status), (k, v.mapNumbers f)] =
      ([("status", .str status)], [(k, v.mapNumbers f)]) := by
    simp [List.partition_eq_filter_filter, hk]
  change read? (.obj [("status", .str status), (k, v.mapNumbers f)]) = _
  rw [read?, hparts]
  change (if ((v.mapNumbers f).isOpen && true) = true then _ else _) = _
  rw [hopen, if_pos (Bool.and_self true)]
  rfl

theorem reads (o : ExpansionOutcome) : Reads ExpansionOutcome.read? o.toJson o := by
  intro f hf
  cases o with
  | notRequested => rfl
  | noSuccessors => rfl
  | expanded added =>
    have hadded : Yields (do return expanded (← required "added" nat?))
        [("added", .ofNat added)] (expanded added) :=
      .bind (.required (by simp) (.nat added)) (.pure _)
    rw [toJson]
    dsimp only [status]
    rw [read?_content rfl rfl, content?, hadded f hf]
    rfl
  | skipped reason =>
    have hreason : Yields (do return skipped (← required "reason" Source.text?))
        [("reason", .str reason)] (skipped reason) :=
      .bind (.required (by simp) (.text reason)) (.pure _)
    rw [toJson]
    dsimp only [status]
    rw [read?_content rfl rfl, content?, hreason f hf]
    rfl

end ExpansionOutcome

def SourceReport.Finite (r : SourceReport Float) : Prop := ∀ c ∈ r.citations, c.Finite

theorem SourceReport.reads {r : SourceReport Float} (h : r.Finite) :
    Reads SourceReport.read? r.toJson r :=
  .record <|
    .bind (.required (by simp) (.text r.dataSource)) <|
    .bind (.required (by simp) (.nat r.fusedRows)) <|
    .bind (.required (by simp) r.hitCounts.reads) <|
    .bind (.required (by simp) (.nat r.expandedRows)) <|
    .bind (.required (by simp) r.expansion.reads) <|
    .bind (.required (by simp) (.list fun c hc => Citation.reads (h c hc))) <|
    .pure r

theorem SourceFailure.reads (x : SourceFailure) : Reads SourceFailure.read? x.toJson x :=
  .record <|
    .bind (.required (by simp) (.text x.dataSource)) <|
    .bind (.required (by simp) (.text x.error)) <|
    .pure x

def RankOutput.Finite (o : RankOutput Float) : Prop := ∀ r ∈ o.reports, r.Finite

theorem RankOutput.reads {o : RankOutput Float} (h : o.Finite) :
    Reads RankOutput.read? o.toJson o :=
  .record <|
    .bind (.required (by simp [members]) (.list fun r hr => SourceReport.reads (h r hr))) <|
    .bind (.required (by simp [members]) (.list fun x _ => x.reads)) <|
    .pure o

end EvidenceRank
