import ModuleResolution.Json.Writer
import ModuleResolution.Logging.Level
import ModuleResolution.Text.Template

/-! # Log records

A record has a message, which is a text with values for its places or a mapping, and may have
further attributes. Its payload is a mapping that starts with the time, the level, the schema, the
logger, the event and the message. The entries of a mapping message come next and replace what is
there; attributes only add what is missing, and reserved names are none.

An attribute may also be set on a record by its name, and then a few reserved names change the
record itself (`set`). What is handed in with a message may not have such a name (`intruder?`).
-/

set_option autoImplicit false

namespace ModuleResolution

structure Record where
  logger : Value
  level : Level
  levelName : Value := .text level.name
  content : Value
  /-- The values for the places of the message; none of them leave it as it is. -/
  supply : Option Template.Supply := none
  attributes : List (String × Value) := []

namespace Record

/-- The attributes that every record has for itself. -/
def own : List String :=
  ["name", "msg", "args", "levelname", "levelno", "pathname", "filename", "module", "exc_info",
    "exc_text", "stack_info", "lineno", "funcName", "created", "msecs", "relativeCreated", "thread",
    "threadName", "processName", "process"]

/-- The names that are no attributes of a payload. -/
def reserved : List String := own ++ ["taskName", "message"]

/-- The first of some attributes whose name a record has for itself. -/
def intruder? (attributes : List (String × Value)) : Option String :=
  (attributes.map (·.1)).find? fun name => own.contains name || ["message", "asctime"].contains name

/-- The values for the places of a message; a single mapping with entries is used by its entries. -/
def supplyOf : List Value → Option Template.Supply
  | [] => none
  | [.mapping (entry :: entries)] => some (.ofValue (.mapping (entry :: entries)))
  | values => some (.ofList values)

/-- A record of a logger, whose name is that of the root of all loggers if it is empty. -/
def ofLogger (name : String) (level : Level) (content : Value)
    (attributes : List (String × Value)) : Record where
  logger := .text (if name.isEmpty then "root" else name)
  level := level
  content := content
  attributes := attributes

def set (record : Record) (attr : String × Value) : Record :=
  match attr with
  | ("name", value) => { record with logger := value }
  | ("levelname", value) => { record with levelName := value }
  | ("msg", value) => { record with content := value }
  | ("args", value) =>
    { record with supply := if value.isEmpty then none else some (.ofValue value) }
  | attr => { record with attributes := record.attributes ++ [attr] }

/-- The message as text; places are only filled when there are values. -/
def message (record : Record) : Except Template.Failure String := do
  let text ← Template.whenShort record.content (Template.valueText record.content)
  match record.supply with
  | none => return text
  | some supply => Template.fill text supply

/-- The name and the version of the payload's form. -/
def schema : Value :=
  .mapping [(.text "name", .text "modpath.log"), (.text "ver", .text "1.0.0")]

/-- The entries that a message brings itself. -/
def ownEntries (record : Record) : Mapping :=
  match record.content with
  | .mapping entries => entries
  | _ => []

/-- Adds an attribute that is not reserved and not there yet. -/
def addAttribute (payload : Mapping) (added : String × Value) : Mapping :=
  if reserved.contains added.1 || (payload.field? added.1).isSome then payload
  else payload.insert (.text added.1) added.2

def payloadWith (record : Record) (moment message : String) : Mapping :=
  let head : Mapping :=
    [(.text "ts", .text moment), (.text "lvl", record.levelName), (.text "schema", schema),
      (.text "logger", record.logger),
      (.text "event", (record.attributes.lookup "event").getD .null),
      (.text "message", .text message)]
  let body := record.ownEntries.foldl (fun payload entry => payload.insert entry.1 entry.2) head
  record.attributes.foldl addAttribute body

def payload (record : Record) (moment : String) : Except Template.Failure Mapping :=
  record.message.map (record.payloadWith moment)

/-- The line of a record at a time; none if its message cannot be made or its payload cannot be
written. -/
def line? (record : Record) (moment : String) : Option String :=
  match record.payload moment with
  | .error _ => none
  | .ok payload =>
    match Json.line .unicode (.mapping payload) with
    | .error _ => none
    | .ok text => some (text ++ "\n")

end Record

end ModuleResolution
