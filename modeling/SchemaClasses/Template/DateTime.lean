/-
Value objects over dates with a time of day. Whatever way they are made, they hold the time in UTC.
-/
import SchemaClasses.Names
import SchemaClasses.Template.Parts

namespace SchemaClasses.Template.DateTime

/-- ISO 8601 with microseconds and offset. -/
def defaultFormat : String := "Y-m-d\\TH:i:s.uP"

def native : String := "DateTimeImmutable"

/-- Whether an output format is the name of a predefined constant: ASCII capitals, digits and
underscores, a capital first. -/
def isConstantName (format : String) : Bool :=
  match format.toList with
  | [] => false
  | c :: rest =>
    c.isUpper && rest.all fun d => d.isUpper || d.isDigit || d == '_'

/-- The output format as the value of a constant. -/
def formatValue (format : String) : ConstValue :=
  if isConstantName format then .raw format else .text format

/-- The class of a date and time with a raw name. -/
def build (filters : NameFilters) (typed : Bool) (format name : String) : ClassModel :=
  let field := filters.propertyName name
  let start := (((ClassModel.valueObject .dateTime typed).requireImport "DateTimeImmutable").requireImport
    "DateTimeZone").requireImport "InvalidArgumentException"
  let held := (start.addConstant ⟨"OUTPUT_FORMAT", formatValue format, .forSelf⟩).addProperty
    { name := field, typeHint := native }
  held.addMethods [
    .namedConstructor "fromDateTime" [.typed field native] [
      s!"${field} = self::ensureUtc(${field});",
      s!"return new self(${field});"],
    .namedConstructor "fromString" [.typed field "string"] [
      "try \x7b",
      s!"    $dateTime = new DateTimeImmutable(${field});",
      "\x7d catch (\\Exception $e) \x7b",
      "    throw new InvalidArgumentException(sprintf('String \"%s\" is not supported. " ++
        s!"Use a date time format which is compatible with ISO 8601.', ${field}));",
      "\x7d",
      "$dateTime = self::ensureUtc($dateTime);",
      "return new self($dateTime);"],
    storingConstructor native field,
    { name := "toString"
      returnType := some "string"
      body := [s!"return $this->{field}->format(self::OUTPUT_FORMAT);"] },
    accessor "dateTime" native field,
    equalsBy "$this->toString() === $other->toString()",
    textOf "$this->toString()",
    { name := "ensureUtc"
      params := [.typed "dateTime" native]
      returnType := some native
      body := [
        "if ($dateTime->getTimezone()->getName() !== 'UTC') \x7b",
        "    $dateTime = $dateTime->setTimezone(new DateTimeZone('UTC'));",
        "\x7d",
        "return $dateTime;"]
      isStatic := true
      visibility := .forSelf }]

end SchemaClasses.Template.DateTime
