import EvidenceRank.Data.Source

/-!
# Documents

The identity of the document that owns a slice (`DocumentIdentity`). Two documents are the same when
their content hashes are equal; `Document.objectId` is the short name by which a document is cited
(`object_id`).
-/

namespace EvidenceRank

structure Document where
  /-- The address of the document. -/
  docId : String := ""
  name : String := ""
  path : String := ""
  size : Nat := 0
  /-- The hash of the whole content. -/
  md5 : String := ""
  page : Int64 := 0
  mimetype : String := ""
  extType : String := ""
  parentPath : String := ""
deriving DecidableEq

namespace Document

/-- The last segment of the address that is not empty, or the address itself if none is. -/
def objectId (d : Document) : String :=
  match d.docId.toList.reverse.dropWhile (· == '/') with
  | [] => d.docId
  | cs => String.ofList (cs.takeWhile (· != '/')).reverse

open Data

def read? {δ : Type} [Source δ] : δ → Option Document :=
  record do
    let docId ← withDefault ["docId"] Source.text? ""
    let name ← withDefault ["name"] Source.text? ""
    let path ← withDefault ["path"] Source.text? ""
    let size ← withDefault ["size"] nat? 0
    let md5 ← withDefault ["md5"] Source.text? ""
    let page ← withDefault ["page"] int64? 0
    let mimetype ← withDefault ["mimetype"] Source.text? ""
    let extType ← withDefault ["extType"] Source.text? ""
    let parentPath ← withDefault ["parentPath"] Source.text? ""
    return { docId, name, path, size, md5, page, mimetype, extType, parentPath }

def toJson (d : Document) : Json :=
  .obj [("docId", .str d.docId), ("name", .str d.name), ("path", .str d.path),
    ("size", .ofNat d.size), ("md5", .str d.md5), ("page", .ofInt d.page.toInt),
    ("mimetype", .str d.mimetype), ("extType", .str d.extType),
    ("parentPath", .str d.parentPath)]

end Document
end EvidenceRank
