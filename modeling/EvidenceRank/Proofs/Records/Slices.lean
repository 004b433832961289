import EvidenceRank.Candidate
import EvidenceRank.Proofs.Data.Reading
import EvidenceRank.Query
import EvidenceRank.Service.SliceFetch

/-!
# Queries and slices are read as written

One theorem for each record says that its reader takes back what its writer wrote; it goes through
the fields in the order in which the reader asks for them. Scores and embeddings must be finite,
since a float that is not finite is written as null.

* `Candidate.yields`: a candidate's fields can be read next to members of other names, as a row
  holds them.
* `Row.reads`: the members of a row are those of its candidate and its own; none of them is sealed.
-/

namespace EvidenceRank

open Data

theorem Query.reads (q : Query) : Reads Query.read? q.toJson q :=
  .record <|
    .bind (.required (by simp) (.text q.origin)) <|
    .bind (.optional (by simp) fun s _ => ⟨.text s, nofun⟩) <|
    .bind (.optional (by simp) fun s _ => ⟨.text s, nofun⟩) <|
    .pure q

theorem Document.reads (d : Document) : Reads Document.read? d.toJson d :=
  .record <|
    .bind (.withDefault (by simp) (.text d.docId)) <|
    .bind (.withDefault (by simp) (.text d.name)) <|
    .bind (.withDefault (by simp) (.text d.path)) <|
    .bind (.withDefault (by simp) (.nat d.size)) <|
    .bind (.withDefault (by simp) (.text d.md5)) <|
    .bind (.withDefault (by simp) (.int64 d.page)) <|
    .bind (.withDefault (by simp) (.text d.mimetype)) <|
    .bind (.withDefault (by simp) (.text d.extType)) <|
    .bind (.withDefault (by simp) (.text d.parentPath)) <|
    .pure d

/-! ## Parts of slices -/

theorem reads_pages (pages : List Int64) : Reads (list? int64?) (pagesJson pages) pages :=
  .list fun p _ => .int64 p

theorem reads_embedding {xs : List Float32} (h : ∀ x ∈ xs, x.isFinite = true) :
    Reads (list? Source.single?) (embeddingJson xs) xs :=
  .list fun x hx => .single (h x hx)

/-- A finite score is written as a number. -/
theorem reads_score {x : Float} (h : x.isFinite = true) :
    Reads Source.double? (.ofDouble x) x ∧ Json.ofDouble x ≠ .null := by
  refine ⟨.double h, ?_⟩
  rw [Json.ofDouble, if_pos h]
  intro hnull
  cases hnull

theorem HitType.reads (h : HitType) : Reads HitType.read? h.toJson h :=
  .choice (by cases h <;> rfl)

/-! ## Candidates -/

namespace Candidate

structure Finite (c : Candidate Float) : Prop where
  embedding : ∀ xs ∈ c.embedding, ∀ x ∈ xs, x.isFinite = true
  score : c.score.isFinite = true

/-- The names of the fields of a candidate. -/
def names : List String :=
  ["uuid", "document", "rawText", "segmentId", "pages", "embedding", "score"]

/-- A candidate is read from any members that have its own under its names. -/
theorem yields {c : Candidate Float} (hc : c.Finite) {ms : List (String × Json)}
    (h : ∀ name ∈ names, values [name] ms = values [name] c.members) :
    Yields Candidate.fields ms c := by
  have own : ∀ {name vs}, name ∈ names → values [name] c.members = vs → values [name] ms = vs :=
    fun hname hvs => (h _ hname).trans hvs
  exact
    .bind (.required (own (by simp [names]) (by simp [members])) (.text c.uuid)) <|
    .bind (.withDefault (own (by simp [names]) (by simp [members])) c.document.reads) <|
    .bind (.required (own (by simp [names]) (by simp [members])) (.text c.text)) <|
    .bind (.required (own (by simp [names]) (by simp [members])) (.int64 c.segment)) <|
    .bind (.withDefault (own (by simp [names]) (by simp [members])) (reads_pages c.pages)) <|
    .bind (.optional (own (by simp [names]) (by simp [members])) fun xs hxs =>
      ⟨reads_embedding (hc.embedding xs hxs), nofun⟩) <|
    .bind (.required (own (by simp [names]) (by simp [members])) (.double hc.score)) <|
    .pure c

theorem reads {c : Candidate Float} (h : c.Finite) : Reads Candidate.read? c.toJson c :=
  .record (yields h fun _ _ => rfl)

theorem isOpen_ofDouble (x : Float) : (Json.ofDouble x).isOpen = true := by
  rw [Json.ofDouble]
  split <;> rfl

theorem isOpen_ofSingle (x : Float32) : (Json.ofSingle x).isOpen = true := by
  rw [Json.ofSingle]
  split <;> rfl

/-- No part of a candidate is sealed. -/
theorem isOpen_of_mem_members {c : Candidate Float} {m : String × Json} (h : m ∈ c.members) :
    m.2.isOpen = true := by
  have harr : ∀ vs : List Json, (∀ v ∈ vs, v.isOpen = true) → (Json.arr vs).isOpen = true :=
    fun vs hvs => Json.allOpen_iff.mpr hvs
  simp only [members, List.mem_append, List.mem_cons, List.not_mem_nil, or_false, List.mem_map,
    Option.mem_toList] at h
  rcases h with ((rfl | rfl | rfl | rfl | rfl) | ⟨xs, -, rfl⟩) | rfl
  · rfl
  · rfl
  · rfl
  · rfl
  · refine harr _ fun v hv => ?_
    obtain ⟨p, -, rfl⟩ := List.mem_map.mp hv
    rfl
  · refine harr _ fun v hv => ?_
    obtain ⟨x, -, rfl⟩ := List.mem_map.mp hv
    exact isOpen_ofSingle x
  · exact isOpen_ofDouble c.score

end Candidate

/-! ## Rows -/

namespace Row

structure Finite (r : Row Float) : Prop where
  candidate : r.candidate.Finite
  dense : ∀ x ∈ r.dense, x.isFinite = true
  sparse : ∀ x ∈ r.sparse, x.isFinite = true
  relevance : ∀ x ∈ r.relevance, x.isFinite = true
  merged : ∀ x ∈ r.merged, x.isFinite = true

/-- The members that a row has besides those of its candidate. -/
def ownMembers (r : Row Float) : List (String × Json) :=
  [("textHash", .str r.textHash), ("cosSimScore", scoreJson r.dense),
    ("bm25Score", scoreJson r.sparse), ("rerankerScore", scoreJson r.relevance),
    ("hitType", r.hits.elim .null HitType.toJson), ("mergeScore", scoreJson r.merged)]
    ++ r.anchor.toList.map (("anchorSegmentId", .ofInt ·.toInt))

theorem toJson_eq (r : Row Float) : r.toJson = .obj (r.candidate.members ++ r.ownMembers) := by
  rw [toJson, ownMembers, List.append_assoc]

/-- Under the candidate's names a row has only the candidate's members. -/
theorem values_candidate (r : Row Float) :
    ∀ name ∈ Candidate.names,
      values [name] (r.candidate.members ++ r.ownMembers) = values [name] r.candidate.members := by
  have hown : ∀ name ∈ Candidate.names, values [name] r.ownMembers = [] := by
    simp [Candidate.names, ownMembers]
  intro name hname
  rw [values_append, hown name hname, List.append_nil]

/-- Under its own names a row has only its own members. -/
theorem values_own (r : Row Float) :
    ∀ name ∈ ownFields,
      values [name] (r.candidate.members ++ r.ownMembers) = values [name] r.ownMembers := by
  have hcandidate : ∀ name ∈ ownFields, values [name] r.candidate.members = [] := by
    simp [ownFields, Candidate.members]
  intro name hname
  rw [values_append, hcandidate name hname, List.nil_append]

/-- What is kept until the candidate is read is not sealed. -/
theorem open_members (r : Row Float) (f : Number → Number) :
    (Json.mapMembers f (r.candidate.members ++ r.ownMembers)).all
      (fun m => ownFields.contains m.1 || m.2.isOpen) = true := by
  have hown : ∀ m ∈ r.ownMembers, ownFields.contains m.1 = true := by
    simp [ownMembers, ownFields]
  rw [List.all_eq_true, Json.mapMembers_eq_map]
  intro m' hm'
  obtain ⟨m, hm, rfl⟩ := List.mem_map.mp hm'
  rw [Bool.or_eq_true]
  rcases List.mem_append.mp hm with hcandidate | hmine
  · right
    rw [Json.isOpen_mapNumbers]
    exact Candidate.isOpen_of_mem_members hcandidate
  · exact Or.inl (hown m hmine)

/-- A score that is there is finite. -/
theorem reads_scoreJson {o : Option Float} (h : ∀ x ∈ o, x.isFinite = true) :
    ∀ x ∈ o, Reads Source.double? (.ofDouble x) x ∧ Json.ofDouble x ≠ .null :=
  fun x hx => reads_score (h x hx)

theorem reads {r : Row Float} (h : r.Finite) : Reads Row.read? r.toJson r := by
  have own : ∀ {name vs}, name ∈ ownFields → values [name] r.ownMembers = vs →
      values [name] (r.candidate.members ++ r.ownMembers) = vs :=
    fun hname hvs => (r.values_own _ hname).trans hvs
  intro f hf
  rw [toJson_eq]
  change (if (Json.mapMembers f (r.candidate.members ++ r.ownMembers)).all
    (fun m => ownFields.contains m.1 || m.2.isOpen) then _ else _) = _
  rw [if_pos (open_members r f)]
  refine Reads.record ?_ f hf
  exact
    .bind (.required (own (by simp [ownFields]) (by simp [ownMembers])) (.text r.textHash)) <|
    .bind (.nullable (own (by simp [ownFields]) (by simp [ownMembers, scoreJson]))
      (reads_scoreJson h.dense)) <|
    .bind (.nullable (own (by simp [ownFields]) (by simp [ownMembers, scoreJson]))
      (reads_scoreJson h.sparse)) <|
    .bind (.nullable (own (by simp [ownFields]) (by simp [ownMembers, scoreJson]))
      (reads_scoreJson h.relevance)) <|
    .bind (.nullable (own (by simp [ownFields]) (by simp [ownMembers]))
      fun t _ => ⟨t.reads, nofun⟩) <|
    .bind (.nullable (own (by simp [ownFields]) (by simp [ownMembers, scoreJson]))
      (reads_scoreJson h.merged)) <|
    .bind (.optional (own (by simp [ownFields]) (by simp [ownMembers]))
      fun i _ => ⟨.int64 i, nofun⟩) <|
    .bind (Candidate.yields h.candidate r.values_candidate) <|
    .pure r

end Row

theorem SliceRecord.reads (r : SliceRecord) : Reads SliceRecord.read? r.toJson r :=
  .record <|
    .bind (.required (by simp) (.text r.docId)) <|
    .bind (.required (by simp) (.int64 r.segment)) <|
    .bind (.required (by simp) (.text r.text)) <|
    .bind (.withDefault (by simp) (.text r.docName)) <|
    .bind (.withDefault (by simp) (.text r.docMd5)) <|
    .bind (.withDefault (by simp) (reads_pages r.pages)) <|
    .bind (.required (by simp) (.int64 r.anchor)) <|
    .pure r

theorem Service.Neighbor.reads (n : Neighbor) : Reads Neighbor.read? n.toJson n :=
  .record <|
    .bind (.withDefault (by simp) (.text n.docId)) <|
    .bind (.required (by simp) (.int64 n.segment)) <|
    .bind (.withDefault (by simp) (.text n.text)) <|
    .bind (.withDefault (by simp) (.text n.docName)) <|
    .bind (.withDefault (by simp) (.text n.docMd5)) <|
    .bind (.withDefault (by simp) (reads_pages n.pages)) <|
    .bind (.withDefault (by simp) (.int64 n.anchor)) <|
    .pure n

end EvidenceRank
