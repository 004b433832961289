import EvidenceRank.Data.Source
import EvidenceRank.Yaml.Node
import EvidenceRank.Yaml.Number

/-!
# Configuration trees as sources of records

How records are read from a configuration tree. A plain scalar is a number, a null or a text as the
reader asks; a quoted one is always a text. An empty plain scalar also reads as a record or list
without content. A reference to an anchor reads as the anchor's node.
-/

namespace EvidenceRank.Yaml

/-- A node of a document. -/
structure View where
  anchors : List Anchored
  node : Yaml

namespace View

/-- The node, or the one that it refers to. -/
def target (v : View) : Yaml :=
  match v.node with
  | .alias n => ((v.anchors.find? (·.anchor == n)).map (·.node)).getD .void
  | node => node

/-- Another node of the same document. -/
def sibling (v : View) (node : Yaml) : View := ⟨v.anchors, node⟩

/-- The texts that stand for an absent value. -/
def nullTexts : List String := ["", "null", "Null", "NULL", "~"]

def boolean? : String → Option Bool
  | "true" => some true
  | "True" => some true
  | "TRUE" => some true
  | "false" => some false
  | "False" => some false
  | "FALSE" => some false
  | _ => none

/-- The tag of a kind of values. -/
def kindTag (kind : String) : String := "tag:yaml.org,2002:" ++ kind

/-- The text of a scalar that may be a value of a kind: a plain one, or a literal one that has the
kind's tag. -/
def valueText? (kind : String) (v : View) : Option String :=
  match v.target with
  | .scalar text .plain _ => some text
  | .scalar text .literal (some tag) => if tag == kindTag kind then some text else none
  | _ => none

/-- The name of a choice: a local tag on a node without content, or else the text of a scalar. -/
def choice? (v : View) : Option String :=
  let tagged (tag : Option String) : Bool := tag.any (·.startsWith "!")
  match v.target with
  | .scalar text style tag =>
    if tagged tag then
      if style = .plain && nullTexts.contains text then
        tag.map fun t => String.ofList (t.toList.drop 1)
      else none
    else some text
  | _ => none

instance : Data.Source View where
  isNull v := match v.target with
    | .void => true
    | .scalar text .plain none => nullTexts.contains text
    | .scalar text .plain (some tag) =>
      tag == kindTag "null" && text != "" && nullTexts.contains text
    | _ => false
  text? v := match v.target with
    | .scalar text _ _ => some text
    | _ => none
  bool? v := v.valueText? "bool" >>= boolean?
  int? v := v.valueText? "int" >>= fun text => integer? text.toList
  double? v := v.valueText? "float" >>= Yaml.double?
  single? v := v.valueText? "float" >>= fun text => (Yaml.double? text).map Decimal.narrow
  choice? := choice?
  items? v := match v.target with
    | .seq items _ => some (items.map v.sibling)
    | .scalar "" .plain _ => some []
    | .void => some []
    | _ => none
  members? v := match v.target with
    | .map members _ => members.mapM fun (k, w) => match (v.sibling k).target with
      | .scalar name _ _ => some (name, v.sibling w)
      | _ => none
    | .scalar "" .plain _ => some []
    | .void => some []
    | _ => none
  listed? _ := none

end View

/-- Read a text as one document. -/
def read? (text : String) : Option View :=
  (Document.read? text).map fun d => ⟨d.anchors, d.root⟩

end EvidenceRank.Yaml
