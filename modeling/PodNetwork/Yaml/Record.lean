import PodNetwork.Yaml.Value

/-! Reading a document whose form is known: records, lists, choices and texts.

What is left out counts as an empty record or an empty list. Tags are looked at only where they
decide between values. -/
namespace PodNetwork.Yaml

def Plain.isNothing (text : List Char) : Bool := text.isEmpty || isNull text

abbrev Record := List (String × Node)

namespace Record

def field? (record : Record) (name : String) : Option Node :=
  (record.find? fun f => f.1 = name).map Prod.snd

def required {α : Type} (record : Record) (name : String) (read : Node → Option α) : Option α :=
  (record.field? name).bind read

def optional {α : Type} (record : Record) (name : String) (value : α)
    (read : Node → Option α) : Option α :=
  match record.field? name with
  | none => some value
  | some node => read node

end Record

namespace Document

def text? (d : Document) (node : Node) : Option String :=
  match d.deref node with
  | .scalar _ _ _ text => some (.ofList text)
  | _ => none

def items? (d : Document) (node : Node) : Option (List Node) :=
  match d.deref node with
  | .sequence _ _ items => some items
  | .scalar _ _ true [] => some []
  | _ => none

def list? {α : Type} (d : Document) (read : Node → Option α) (node : Node) :
    Option (List α) := do
  (← d.items? node).mapM read

def entries? (d : Document) (node : Node) : Option (List (String × Node)) :=
  match d.deref node with
  | .mapping _ _ entries => entries.mapM fun (k, v) => (d.text? k).map (·, v)
  | .scalar _ _ true [] => some []
  | _ => none

/-- The known fields of a record, none of which may be given twice. Other fields are left
unread. -/
def record? (d : Document) (known : List String) (node : Node) : Option Record := do
  let fields := (← d.entries? node).filter fun f => known.contains f.1
  if (fields.map Prod.fst).Nodup then some fields else none

/-- A value or nothing. A tag that says there is nothing has to be right. -/
def optional? {α : Type} (d : Document) (read : Node → Option α) (node : Node) :
    Option (Option α) :=
  match d.deref node with
  | .scalar _ none true text =>
    if Plain.isNothing text then some none else (read node).map some
  | .scalar _ (some tag) true text =>
    if tag = coreTag "null" then (if Plain.isNull text then some none else none)
    else (read node).map some
  | _ => (read node).map some

/-- The name of one of several values: a text, or a tag of its own on nothing. -/
def choice? (d : Document) (node : Node) : Option String :=
  match d.deref node with
  | .scalar _ (some ('!' :: name)) plain text =>
    if plain && Plain.isNothing text then some (.ofList name) else none
  | .scalar _ _ _ text => some (.ofList text)
  | _ => none

def only? (text : String) : Option Document :=
  match ofText? text with
  | some [d] => some d
  | _ => none

end Document
end PodNetwork.Yaml
