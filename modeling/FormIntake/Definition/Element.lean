import FormIntake.Definition.Logic

/-! # Elements of a form

A form has pages, and a page lists elements: fields that are filled in, blocks of fixed content, and
groups that list elements again.  Fields are generic in what they check their values with: in a
definition that is a `Check`, the name of a validator with its options, in a form a validator.

`Page.nodes` lists a page and all that is on it in reading order, each element before the elements
that it lists, together with the id of the page or group that it is listed by.
-/

namespace FormIntake.Definition

open Schema

/-- The shape of a field's value. -/
inductive FieldKind where
  | text
  | multi
  | compound
  deriving DecidableEq, Repr

namespace FieldKind

def all : List FieldKind := [.text, .multi, .compound]

def name : FieldKind → String
  | .text => "text"
  | .multi => "multi"
  | .compound => "compound"

end FieldKind

/-- A validator as a definition names it. -/
structure Check where
  type : String
  options : List (String × Value) := []
  message : Option String := none
  deriving Repr

structure Field (V : Type) where
  id : Int
  kind : FieldKind := .text
  label : String := ""
  adminLabel : String := ""
  required : Bool := false
  requiredMessage : String := "This field is required"
  default : Value := .null
  showInEmail : Bool := true
  saveToDatabase : Bool := true
  validators : List V := []
  logic : Logic := {}
  deriving Repr

/-- A block of fixed content. -/
structure Block where
  id : Int
  content : String := ""
  showInEmail : Bool := false
  logic : Logic := {}
  deriving DecidableEq, Repr

/-- What a page or a group is beside the elements that it lists. -/
structure Heading where
  id : Int
  label : String := ""
  showLabelInEmail : Bool := false
  logic : Logic := {}
  deriving DecidableEq, Repr

inductive Element (V : Type) where
  | field (field : Field V)
  | block (block : Block)
  | group (heading : Heading) (children : List (Element V))
  deriving Repr

structure Page (V : Type) where
  heading : Heading
  children : List (Element V)
  deriving Repr

/-- A page, or an element of a page. -/
inductive Item (V : Type) where
  | page (page : Page V)
  | group (heading : Heading) (children : List (Element V))
  | field (field : Field V)
  | block (block : Block)
  deriving Repr

/-- An item and the id of the page or group that lists it; a page is listed by none. -/
structure Node (V : Type) where
  item : Item V
  parent : Option Int
  deriving Repr

namespace Item

variable {V : Type}

def id : Item V → Int
  | .page p => p.heading.id
  | .group h _ => h.id
  | .field f => f.id
  | .block b => b.id

def logic : Item V → Logic
  | .page p => p.heading.logic
  | .group h _ => h.logic
  | .field f => f.logic
  | .block b => b.logic

def typeName : Item V → String
  | .page _ => "page"
  | .group .. => "group"
  | .field _ => "field"
  | .block _ => "html"

def label : Item V → String
  | .page p => p.heading.label
  | .group h _ => h.label
  | .field f => f.label
  | .block _ => ""

def field? : Item V → Option (Field V)
  | .field f => some f
  | _ => none

end Item

def Node.id {V : Type} (node : Node V) : Int := node.item.id

namespace Element

variable {V : Type}

mutual

/-- The element and all below it, in reading order. -/
def nodes (parent : Int) : Element V → List (Node V)
  | .field f => [⟨.field f, some parent⟩]
  | .block b => [⟨.block b, some parent⟩]
  | .group h children => ⟨.group h children, some parent⟩ :: nodesOf h.id children

/-- The elements of a list and all below them. -/
def nodesOf (parent : Int) : List (Element V) → List (Node V)
  | [] => []
  | e :: rest => nodes parent e ++ nodesOf parent rest

end

end Element

namespace Page

variable {V : Type}

def id (page : Page V) : Int := page.heading.id

/-- All that is on the page, in reading order. -/
def descendants (page : Page V) : List (Node V) := Element.nodesOf page.id page.children

/-- The page and all that is on it, in reading order. -/
def nodes (page : Page V) : List (Node V) := ⟨.page page, none⟩ :: page.descendants

/-- The fields of the page, in reading order. -/
def fields (page : Page V) : List (Field V) := page.descendants.filterMap fun n => n.item.field?

end Page

namespace Item

variable {V : Type}

/-- All that is below an item, in reading order. -/
def descendants : Item V → List (Node V)
  | .page p => p.descendants
  | .group h children => Element.nodesOf h.id children
  | .field _ => []
  | .block _ => []

/-- The fields below an item, in reading order. -/
def fieldsBelow (item : Item V) : List (Field V) :=
  item.descendants.filterMap fun n => n.item.field?

end Item

namespace Field

variable {V : Type}

/-- The label for the people who read submissions. -/
def reportLabel (field : Field V) : String :=
  if field.adminLabel = "" then field.label else field.adminLabel

end Field

/-! ### Reading -/

def Check.reader : Reader Check := record "ValidatorSettings" fun e =>
  Check.mk <$> must "type" text e
    <*> may "options" [] (mapping anything) e
    <*> may "message" none (nullable text) e

def Field.read (e : Entries) : Checked (Field Check) :=
  Field.mk <$> must "id" int e
    <*> may "kind" .text (oneOf FieldKind.all FieldKind.name) e
    <*> may "label" "" text e
    <*> may "admin_label" "" text e
    <*> may "required" false bool e
    <*> may "required_message" "This field is required" text e
    <*> may "default" .null anything e
    <*> may "show_in_email" true bool e
    <*> may "save_to_database" true bool e
    <*> may "validators" [] (list Check.reader) e
    <*> may "logic" {} Logic.reader e

def Block.read (e : Entries) : Checked Block :=
  Block.mk <$> must "id" int e
    <*> may "content" "" text e
    <*> may "show_in_email" false bool e
    <*> may "logic" {} Logic.reader e

def Heading.read (e : Entries) : Checked Heading :=
  Heading.mk <$> must "id" int e
    <*> may "label" "" text e
    <*> may "show_label_in_email" false bool e
    <*> may "logic" {} Logic.reader e

/-- What the entry that tells elements apart says. -/
inductive ElementTag where
  | field
  | block
  | group
  | unknown (name : String)

def ElementTag.ofName (name : String) : ElementTag :=
  if name = "field" then .field
  else if name = "html" then .block
  else if name = "group" then .group
  else .unknown name

/-- The tag of an element's entries. -/
def ElementTag.of? (e : Entries) : Option ElementTag :=
  (e.lookup (.text "type")).map fun v =>
    match v with
    | .text s => ofName s
    | v => .unknown v.shown

mutual

/-- An element, told from its tag. -/
def Element.reader : Reader (Element Check)
  | .mapping e =>
    match ElementTag.of? e with
    | none => .fail (.noTag "type")
    | some (.unknown name) => .fail (.unknownTag "type" name ["field", "html", "group"])
    | some .field => ((Field.read e).map .field).within "field"
    | some .block => ((Block.read e).map .block).within "html"
    | some .group => (.group <$> Heading.read e <*> childrenIn e : Checked (Element Check)).within "group"
  | .list _ => .fail .notTagged
  | .scalar _ => .fail .notTagged

/-- The elements that the entries of a page or group list. -/
def childrenIn : Entries → Checked (List (Element Check))
  | [] => .valid []
  | (key, v) :: rest =>
    if key = .text "elements" then (children v).within "elements" else childrenIn rest

/-- A list of elements. -/
def children : Reader (List (Element Check))
  | .list values => childrenFrom 0 values
  | .scalar _ => .fail .notList
  | .mapping _ => .fail .notList

/-- The elements of a list from an index on. -/
def childrenFrom (index : Nat) : List Value → Checked (List (Element Check))
  | [] => .valid []
  | v :: rest =>
    .seq (((Element.reader v).within (String.ofList (Number.decimal index))).map List.cons)
      (childrenFrom (index + 1) rest)

end

def Page.reader : Reader (Page Check) := Schema.record "PageSettings" fun e =>
  (fun _ heading children => ⟨heading, children⟩)
    <$> may "type" () (oneOf [()] fun _ => "page") e
    <*> Heading.read e
    <*> childrenIn e

/-! ### Writing -/

def optionalText : Option String → Value
  | none => .null
  | some s => .text s

def Check.toValue (check : Check) : Value :=
  .record [("type", .text check.type), ("options", .record check.options),
    ("message", optionalText check.message)]

def Field.toValue (field : Field Check) : Value :=
  .record [("type", .text "field"), ("id", .int field.id), ("kind", .text field.kind.name),
    ("label", .text field.label), ("admin_label", .text field.adminLabel),
    ("required", .bool field.required), ("required_message", .text field.requiredMessage),
    ("default", field.default), ("show_in_email", .bool field.showInEmail),
    ("save_to_database", .bool field.saveToDatabase),
    ("validators", .list (field.validators.map Check.toValue)), ("logic", field.logic.toValue)]

def Block.toValue (block : Block) : Value :=
  .record [("type", .text "html"), ("id", .int block.id), ("content", .text block.content),
    ("show_in_email", .bool block.showInEmail), ("logic", block.logic.toValue)]

/-- A page or a group with the elements that it lists. -/
def Heading.toValue (type : String) (heading : Heading) (elements : List Value) : Value :=
  .record [("type", .text type), ("id", .int heading.id), ("label", .text heading.label),
    ("show_label_in_email", .bool heading.showLabelInEmail), ("logic", heading.logic.toValue),
    ("elements", .list elements)]

mutual

def Element.toValue : Element Check → Value
  | .field f => f.toValue
  | .block b => b.toValue
  | .group h children => h.toValue "group" (Element.listToValues children)

def Element.listToValues : List (Element Check) → List Value
  | [] => []
  | e :: rest => e.toValue :: Element.listToValues rest

end

def Page.toValue (page : Page Check) : Value :=
  page.heading.toValue "page" (Element.listToValues page.children)

end FormIntake.Definition
