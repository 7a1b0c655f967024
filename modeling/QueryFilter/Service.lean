import QueryFilter.Compiled
import QueryFilter.Request

/-!
# QueryFilter.Service

Compiling requests against one schema and one configuration.

* `Service`: the schema, the configuration, and the page fallback.
* `Service.compile`: a request's result, taken apart.
-/

namespace QueryFilter

/-- What requests are compiled against. -/
structure Service where
  schema : Schema := {}
  config : Config := []
  fallback : Value := .int 1

namespace Service

/-- A request compiled, with another configuration for this once if one is given. A strict service
refuses a request that has diagnostics. -/
def compile (service : Service) (request : Request) (cfg : Option Config) (strict : Bool) :
    Except Fault Compiled := do
  let outcome := QueryFilter.compile service.schema service.fallback request
    (cfg.getD service.config)
  let result ← outcome.result
  let compiled ← Compiled.ofMapping result outcome.messages
  if strict then compiled.requireClean else return compiled

end Service

end QueryFilter
