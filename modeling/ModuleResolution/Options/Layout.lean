/-! # Fixed names

The names by which libraries are laid out on disk, and the built-in parts of the options.
-/

set_option autoImplicit false

namespace ModuleResolution.Layout

/-- The folder that libraries are installed in. -/
def dependencyRoot : String := "node_modules"

/-- The folder below a dependency root that holds type packages. -/
def typesFolder : String := "@types"

/-- The file that describes a library. -/
def manifest : String := "package.json"

/-- The entry of a library whose manifest names none; its extension is probed. -/
def defaultEntry : String := "index"

/-- The extensions probed by default, in order. -/
def extensions : List String := [".ts", ".tsx", ".js", ".mjs", ".json", ".d.ts"]

/-- The manifest fields consulted by default, in order. -/
def packageFields : List String := ["module", "es2015", "jsnext:main", "main"]

/-- The specifiers that the host supplies by default. -/
def builtins : List String :=
  ["fs", "path", "buffer", "assert", "child_process", "cluster", "http", "https", "os", "crypto",
    "dns", "domain", "events", "net", "process", "punycode", "querystring", "readline", "repl",
    "stream", "string_decoder", "timers", "tls", "tty", "dgram", "url", "util", "module", "vm",
    "zlib", "constants"]

end ModuleResolution.Layout
