import EvidenceRank.Fusion

/-!
# Settling rows

`Row.settle` gives the rows of one document one identity and keeps one row per text. Both steps
look at a row's document and text only, and a shared identity never changes the content hash, so
the rows that are left are those that `distinct` alone would leave, each under the identity of the
first row of its document (`settle_eq_map`).

Results:
* `map_settle`: whatever does not read the identity is the same with and without sharing it.
* `settle_pairwise_key`, `settle_uniform`: a settled table has one row per text and one identity per
  document.
* `shareIdentity_eq_self`, `settle_eq_self`: rows that have one identity per document keep it, and a
  settled table is left as it is.
* `exists_first_of_settle`: which row the identity of a settled row is from.
* `settle_first`: which row is left for a key.
-/

namespace EvidenceRank

variable {σ β : Type}

/-! ## Candidates that come first -/

/-- The content hash of the document, with the digest of the text. -/
def Candidate.key (c : Candidate σ) : String × String := (c.document.md5, Text.hash c.text)

/-- The candidates of a pool that come first with their key. -/
def Candidate.firsts (pool : List (Candidate σ)) : List (Candidate σ) :=
  Lists.distinctBy Candidate.key pool

namespace Row

/-! ## Other identities -/

variable (r : Row σ) (d : Document)

@[simp] theorem withDocument_md5 : (r.withDocument d).md5 = d.md5 := rfl

@[simp] theorem withDocument_self : r.withDocument r.document = r := rfl

variable {r d}

theorem withDocument_key (h : d.md5 = r.md5) : (r.withDocument d).key = r.key :=
  congrArg (fun md5 => (md5, r.textHash)) h

/-- The row is that of a candidate, but for the identity of its document. -/
structure From (r : Row σ) (c : Candidate σ) : Prop where
  candidate : r.candidate = { c with document := r.document }
  key : r.key = c.key

namespace From

variable {c : Candidate σ}

theorem uuid (h : r.From c) : r.candidate.uuid = c.uuid := by rw [h.candidate]

theorem score (h : r.From c) : r.candidate.score = c.score := by rw [h.candidate]

theorem withDocument (h : r.From c) (hd : d.md5 = r.md5) : (r.withDocument d).From c :=
  ⟨congrArg (fun x : Candidate σ => { x with document := d }) h.candidate,
    (withDocument_key hd).trans h.key⟩

end From

/-! ## Sharing an identity -/

/-- The identity that the rows give to the document of `r`. -/
def identityIn (rows : List (Row σ)) (r : Row σ) : Document :=
  ((rows.find? (·.md5 == r.md5)).map document).getD r.document

theorem shareIdentity_eq_map (rows : List (Row σ)) :
    shareIdentity rows = rows.map fun r => r.withDocument (identityIn rows r) := by
  unfold shareIdentity
  refine List.map_congr_left fun r _ => ?_
  unfold identityIn
  cases rows.find? (·.md5 == r.md5) <;> rfl

theorem identityIn_md5 (rows : List (Row σ)) (r : Row σ) : (identityIn rows r).md5 = r.md5 := by
  unfold identityIn
  cases h : rows.find? (·.md5 == r.md5) with
  | none => rfl
  | some first =>
    have hf := List.find?_some h
    exact beq_iff_eq.mp hf

/-- Rows of one document are given one identity. -/
theorem identityIn_congr {rows : List (Row σ)} {r s : Row σ} (hr : r ∈ rows)
    (h : r.md5 = s.md5) : identityIn rows r = identityIn rows s := by
  unfold identityIn
  rw [← h]
  cases hf : rows.find? (·.md5 == r.md5) with
  | none => exact absurd (List.find?_eq_none.mp hf r hr) (by simp)
  | some first => rfl

theorem identityIn_mem {rows : List (Row σ)} {r : Row σ} (hr : r ∈ rows) :
    ∃ first ∈ rows, first.md5 = r.md5 ∧ identityIn rows r = first.document := by
  unfold identityIn
  cases hf : rows.find? (·.md5 == r.md5) with
  | none => exact absurd (List.find?_eq_none.mp hf r hr) (by simp)
  | some first =>
    have hmd5 := List.find?_some hf
    exact ⟨first, List.mem_of_find?_eq_some hf, beq_iff_eq.mp hmd5, rfl⟩

/-! ## Settled rows -/

/-- **Sharing identities does not change which rows are left.** -/
theorem settle_eq_map (rows : List (Row σ)) :
    settle rows = (distinct rows).map fun r => r.withDocument (identityIn rows r) := by
  unfold settle distinct
  rw [shareIdentity_eq_map]
  exact Lists.distinctBy_map fun r _ => withDocument_key (identityIn_md5 rows r)

theorem map_settle {f : Row σ → β} (hf : ∀ r d, d.md5 = r.md5 → f (r.withDocument d) = f r)
    (rows : List (Row σ)) : (settle rows).map f = (distinct rows).map f := by
  rw [settle_eq_map, List.map_map]
  exact List.map_congr_left fun r _ => hf r _ (identityIn_md5 rows r)

theorem map_key_settle (rows : List (Row σ)) :
    (settle rows).map key = (distinct rows).map key :=
  map_settle (fun _ _ h => withDocument_key h) rows

theorem mem_map_key_settle {rows : List (Row σ)} {k : String × String} :
    k ∈ (settle rows).map key ↔ k ∈ rows.map key := by
  rw [map_key_settle]
  exact Lists.mem_map_distinctBy

theorem settle_pairwise_key (rows : List (Row σ)) :
    (settle rows).Pairwise fun r s => r.key ≠ s.key := by
  have h : ((distinct rows).map key).Pairwise (· ≠ ·) :=
    List.pairwise_map.mpr (Lists.distinctBy_pairwise key rows)
  rw [← map_key_settle] at h
  exact List.pairwise_map.mp h

/-- The rows of one document have one identity. -/
def Uniform (rows : List (Row σ)) : Prop :=
  ∀ r ∈ rows, ∀ s ∈ rows, r.md5 = s.md5 → r.document = s.document

theorem Uniform.subset {rows left : List (Row σ)} (h : Uniform rows) (hsub : left ⊆ rows) :
    Uniform left :=
  fun r hr s hs => h r (hsub hr) s (hsub hs)

theorem shareIdentity_uniform (rows : List (Row σ)) : Uniform (shareIdentity rows) := by
  intro r hr s hs h
  rw [shareIdentity_eq_map] at hr hs
  obtain ⟨r', hr', rfl⟩ := List.mem_map.mp hr
  obtain ⟨s', hs', rfl⟩ := List.mem_map.mp hs
  rw [withDocument_md5, withDocument_md5, identityIn_md5, identityIn_md5] at h
  exact identityIn_congr hr' h

theorem settle_uniform (rows : List (Row σ)) : Uniform (settle rows) :=
  (shareIdentity_uniform rows).subset (Lists.distinctBy_sublist key _).subset

theorem length_settle_le (rows : List (Row σ)) : (settle rows).length ≤ rows.length := by
  have h := (Lists.distinctBy_sublist key (shareIdentity rows)).length_le
  rwa [shareIdentity, List.length_map] at h

/-- Rows that have one identity per document keep it. -/
theorem shareIdentity_eq_self {rows : List (Row σ)} (hu : Uniform rows) :
    shareIdentity rows = rows := by
  rw [shareIdentity_eq_map]
  refine (List.map_congr_left fun r hr => ?_).trans (List.map_id rows)
  obtain ⟨first, hfirst, hmd5, hid⟩ := identityIn_mem hr
  rw [hid, hu first hfirst r hr hmd5]
  exact r.withDocument_self

/-- **A settled table is left as it is.** -/
theorem settle_eq_self {rows : List (Row σ)} (hkeys : rows.Pairwise fun r s => r.key ≠ s.key)
    (hu : Uniform rows) : settle rows = rows := by
  rw [settle, shareIdentity_eq_self hu]
  exact Lists.distinctBy_eq_self hkeys

/-- A settled row has the identity of the first row of its document. -/
theorem exists_first_of_settle {rows : List (Row σ)} {r : Row σ} (hr : r ∈ settle rows) :
    ∃ first, rows.find? (·.md5 == r.md5) = some first ∧ r.document = first.document := by
  rw [settle_eq_map] at hr
  obtain ⟨s, hs, rfl⟩ := List.mem_map.mp hr
  rw [withDocument_md5, identityIn_md5]
  cases hf : rows.find? (·.md5 == s.md5) with
  | none => exact absurd (List.find?_eq_none.mp hf s (Lists.mem_of_mem_distinctBy hs)) (by simp)
  | some first =>
    refine ⟨first, rfl, ?_⟩
    show identityIn rows s = first.document
    unfold identityIn
    rw [hf]
    rfl

/-- What holds of the rows pairwise holds of those that are left, whatever their identities. -/
theorem settle_pairwise {R R' : Row σ → Row σ → Prop} {rows : List (Row σ)} (h : rows.Pairwise R)
    (hR : ∀ {r s d e}, R r s → d.md5 = r.md5 → e.md5 = s.md5 →
      R' (r.withDocument d) (s.withDocument e)) : (settle rows).Pairwise R' := by
  rw [settle_eq_map, List.pairwise_map]
  refine (h.sublist (Lists.distinctBy_sublist key rows)).imp fun {r s} hrs => ?_
  exact hR hrs (identityIn_md5 rows r) (identityIn_md5 rows s)

/-- **The row that is left for a key comes from the first row of that key.** -/
theorem settle_first {R : Row σ → Row σ → Prop} {rows : List (Row σ)} (h : rows.Pairwise R)
    {r : Row σ} (hr : r ∈ settle rows) : ∃ first ∈ rows, r = first.withDocument r.document ∧
      first.key = r.key ∧ ∀ s ∈ rows, s.key = r.key → s = first ∨ R first s := by
  rw [settle_eq_map] at hr
  obtain ⟨first, hfirst, rfl⟩ := List.mem_map.mp hr
  have hkey := withDocument_key (identityIn_md5 rows first)
  refine ⟨first, Lists.mem_of_mem_distinctBy hfirst, rfl, hkey.symm, fun s hs hsr => ?_⟩
  obtain ⟨y, hy, hys, hlead⟩ := Lists.exists_distinctBy_of_mem key h hs
  obtain rfl := Lists.eq_of_mem_distinctBy hy hfirst (hys.trans (hsr.trans hkey))
  exact hlead.imp_left Eq.symm

/-! ## Rows with one more score -/

/-- What a filled-in score does not change is the same before and after. -/
theorem map_zipWith_update {α : Type} {f : Row σ → β} {g : Row σ → α → Row σ}
    (hf : ∀ r x, f (g r x) = f r) :
    ∀ (rows : List (Row σ)) (xs : List α), xs.length = rows.length →
      (List.zipWith g rows xs).map f = rows.map f
  | [], _, _ => rfl
  | r :: rows, [], h => by rw [List.length_nil, List.length_cons] at h; omega
  | r :: rows, x :: xs, h => by
    rw [List.zipWith_cons_cons, List.map_cons, List.map_cons, hf,
      map_zipWith_update hf rows xs (Nat.succ.inj h)]

/-- What a filled-in score decides is read off the scores. -/
theorem map_zipWith_given {α : Type} {f : Row σ → β} {g : Row σ → α → Row σ} {h : α → β}
    (hf : ∀ r x, f (g r x) = h x) {rows : List (Row σ)} {xs : List α}
    (hlen : xs.length = rows.length) : (List.zipWith g rows xs).map f = xs.map h := by
  rw [List.map_zipWith]
  calc List.zipWith (fun r x => f (g r x)) rows xs
      = (rows.zip xs).map fun p => h p.2 := by
        rw [← List.map_uncurry_zip_eq_zipWith]
        exact List.map_congr_left fun p _ => hf p.1 p.2
    _ = ((rows.zip xs).map Prod.snd).map h := List.map_map.symm
    _ = xs.map h := by rw [List.map_snd_zip (Nat.le_of_eq hlen)]

theorem distinct_ofCandidate (pool : List (Candidate σ)) :
    distinct (pool.map ofCandidate) = (Candidate.firsts pool).map ofCandidate :=
  Lists.distinctBy_map fun _ _ => rfl

end Row

end EvidenceRank
