/-
Core modules.

The modules that the runtime brings along.  They shadow packages of the same name, subpaths
included.
-/
import SpecifierLint.Text.Basic

namespace SpecifierLint

/-- The names of the core modules. -/
def coreModules : List Text :=
  List.map String.toList
    ["assert", "async_hooks", "buffer", "child_process", "cluster", "console", "constants", "crypto",
     "dgram", "dns", "domain", "events", "fs", "http", "http2", "https", "inspector", "module", "net",
     "os", "path", "perf_hooks", "process", "punycode", "querystring", "readline", "repl", "stream",
     "string_decoder", "sys", "timers", "tls", "trace_events", "tty", "url", "util", "v8", "vm",
     "worker_threads", "zlib"]

/-- The specifier names a core module: it has the scheme `node:`, or its first segment is the name
of one. -/
def isCoreModule (specifier : Text) : Bool :=
  ("node:" : Text).isPrefixOf specifier || coreModules.contains (specifier.takeWhile (· ≠ '/'))

end SpecifierLint
