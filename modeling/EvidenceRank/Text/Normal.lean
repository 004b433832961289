import EvidenceRank.Digest.Blake3
import EvidenceRank.Text.Blank

/-!
# Slice texts

Two slices hold the same text when their texts differ only in spacing. `normalize` is the common
form (`normalize_text`), and `hash` its digest (`text_hash`).
-/

namespace EvidenceRank.Text

/-- Remove every ASCII space. -/
def withoutSpaces (s : String) : String :=
  String.ofList (s.toList.filter (· != ' '))

@[simp] theorem withoutSpaces_eq (s : String) :
    (withoutSpaces s).toList = s.toList.filter (· != ' ') := by
  simp [withoutSpaces]

/-- Drop the blanks of both ends, then every ASCII space. -/
def normalize (s : String) : String :=
  withoutSpaces (trim s)

/-- The digest of the normal form, by which equal texts are found. -/
def hash (s : String) : String :=
  Digest.hex (Digest.blake3 (normalize s).toUTF8.toList)

/-- What a reranker reads of a slice: its document's title, then its text. -/
def titled (title text : String) : String :=
  "《" ++ title ++ "》:" ++ text

end EvidenceRank.Text
