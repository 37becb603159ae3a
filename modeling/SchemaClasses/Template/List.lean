/-
Value objects over arrays whose items are of one class. Every operation that would change the list
returns a fresh one.
-/
import SchemaClasses.Error
import SchemaClasses.Names
import SchemaClasses.Schema.TypeDef
import SchemaClasses.Template.Parts

namespace SchemaClasses.Template

/-! ## Walking over the items -/

/-- The property that holds the position of a walk. -/
def positionProperty : String := "position"

/-- A class that can be walked and counted, over a field of items. -/
def walkable (typed : Bool) (items itemType position : String) : ClassModel :=
  let start : ClassModel :=
    { ClassModel.valueObject .array typed with interfaces := ["\\Iterator", "\\Countable"] }
  let held := (start.addProperty
    { name := position, typeHint := "int", initial := some "0" }).addProperty
    { name := items, typeHint := "array", docHint := some (itemType ++ "[]") }
  held.addMethods [
    { name := "rewind", returnType := some "void", body := [s!"$this->{position} = 0;"] },
    { name := "current"
      returnType := some itemType
      body := [s!"return $this->{items}[$this->{position}];"] },
    { name := "key", returnType := some "int", body := [s!"return $this->{position};"] },
    { name := "next", returnType := some "void", body := [s!"++$this->{position};"] },
    { name := "valid"
      returnType := some "bool"
      body := [s!"return isset($this->{items}[$this->{position}]);"] },
    { name := "count", returnType := some "int", body := [s!"return count($this->{items});"] }]

/-! ## The type of the items -/

/-- The type of the items of an array: the raw name of their class, and how they are made from raw
values. -/
structure ItemType where
  sourceName : String
  conversion : Conversion
  deriving Repr, DecidableEq, Inhabited

/-- Whether the items are entities, which are made from arrays. -/
def ItemType.isObject (item : ItemType) : Bool := item.conversion == Conversion.array

/-- The only alternative of a set that stands for an array's items. -/
def onlyAlternative (name : String) (set : TypeSet) : Except GenerateError TypeDef :=
  match set.others with
  | [] => .ok set.first
  | _ => .error (.ambiguousTypes name set.count)

/-- The definition behind at most one reference, and the raw name of its class. -/
def itemTarget (name : String) (definition : TypeDef) : Except GenerateError (TypeDef × String) :=
  match definition with
  | .reference _ pointer resolved =>
    match resolved with
    | none => .error (.unresolvedReference pointer)
    | some set =>
      (onlyAlternative name set).map fun target => (target, nameOr target.name (targetName pointer))
  | other => .ok (other, other.name)

/-- How items of a definition are made from raw values. -/
def itemConversion (name : String) (definition : TypeDef) : Except GenerateError Conversion :=
  match definition with
  | .object .. => .ok .array
  | .string .. => .ok .string
  | .integer _ => .ok .int
  | .number _ => .ok .float
  | .boolean _ => .ok .bool
  | other => .error (.unsupported other.kindName name .itemKind)

/-- The type of the items of an array: there is exactly one, behind at most one reference. -/
def itemType (name : String) (items : List TypeSet) : Except GenerateError ItemType :=
  match items with
  | [set] => do
    let (target, sourceName) ← itemTarget name (← onlyAlternative name set)
    let conversion ← itemConversion name target
    pure ⟨nameOr sourceName "item", conversion⟩
  | items => .error (.ambiguousTypes name items.length)

/-! ## The template -/

namespace ListOf

/-- The methods of a list kept in the field `items`. -/
def methods (items itemClass arg : String) (conversion : Conversion) : List Method :=
  let raw := conversion.native
  let wrap := conversion.wrap
  let unwrap := conversion.unwrap
  [.namedConstructor "fromArray" [.typed "items" "array"] [
     s!"return new self(...array_map(static function ({raw} $item) \x7b",
     s!"    return {itemClass}::{wrap}($item);",
     "\x7d, $items));"],
   .namedConstructor "fromItems" [(Param.typed "items" itemClass).many]
     ["return new self(...$items);"],
   .namedConstructor "emptyList" [] ["return new self();"],
   { name := "__construct"
     params := [(Param.typed items itemClass).many]
     body := [s!"$this->{items} = ${items};"]
     visibility := .forSelf },
   { name := "add"
     params := [.typed arg itemClass]
     returnType := some "self"
     body := [
       "$copy = clone $this;",
       s!"$copy->{items}[] = ${arg};",
       "return $copy;"] },
   { name := "remove"
     params := [.typed arg itemClass]
     returnType := some "self"
     body := [
       "$copy = clone $this;",
       s!"$copy->{items} = array_values(array_filter($copy->{items}, static function ($v) use (${arg}) \x7b",
       s!"    return !$v->equals(${arg});",
       "\x7d));",
       "return $copy;"] },
   { name := "first"
     returnType := some ("?" ++ itemClass)
     body := [s!"return $this->{items}[0] ?? null;"] },
   { name := "last"
     returnType := some ("?" ++ itemClass)
     body := [
       s!"if (count($this->{items}) === 0) \x7b",
       "    return null;",
       "\x7d",
       s!"return $this->{items}[count($this->{items}) - 1];"] },
   { name := "contains"
     params := [.typed arg itemClass]
     returnType := some "bool"
     body := [
       s!"foreach ($this->{items} as $existingItem) \x7b",
       s!"    if ($existingItem->equals(${arg})) \x7b",
       "        return true;",
       "    \x7d",
       "\x7d",
       "return false;"] },
   { name := "filter"
     params := [.typed "filter" "callable"]
     returnType := some "self"
     body := [
       s!"return new self(...array_values(array_filter($this->{items}, static function ($v) use ($filter) \x7b",
       "    return $filter($v);",
       "\x7d)));"] },
   { name := "items"
     returnType := some "array"
     returnDocHint := some (itemClass ++ "[]")
     body := [s!"return $this->{items};"] },
   { name := "toArray"
     returnType := some "array"
     body := [
       s!"return array_map(static function ({itemClass} ${arg}) \x7b",
       s!"    return ${arg}->{unwrap}();",
       s!"\x7d, $this->{items});"] }]

/-- Equality of lists: that of their raw forms. -/
def equals : Method :=
  { equalsBy "$this->toArray() === $other->toArray()" with
    params := [⟨"other", none, some "mixed", false⟩] }

/-- The class of a list with a raw name. -/
def build (filters : NameFilters) (typed : Bool) (name : String) (item : ItemType) : ClassModel :=
  let items := filters.propertyName name
  let itemClass := filters.className item.sourceName
  let arg := filters.propertyName item.sourceName
  ((walkable typed items itemClass positionProperty).addMethods
    (methods items itemClass arg item.conversion)).addMethod equals

/-- The class of an array definition. -/
def ofArray (filters : NameFilters) (typed : Bool) (traits : Traits) (items : List TypeSet) :
    Except GenerateError ClassModel :=
  let name := nameOr traits.name "items"
  (itemType name items).map (build filters typed name)

end ListOf

end SchemaClasses.Template
