/-
Switches of a single query.
-/
import CatalogQuery.Json.Fields

namespace CatalogQuery

open Json (Raw)

/-- What a query is to return and how. -/
structure Options where
  withMeta : Bool := false
  withProvenance : Bool := false
  includeRetired : Bool := false
  /-- Attach the failing statement to errors of the store. -/
  debug : Bool := false
  defaultNamespace : Option String := none
deriving DecidableEq, Inhabited

namespace Options

def encode (o : Options) : Json :=
  .object [("with_meta", .bool o.withMeta), ("with_provenance", .bool o.withProvenance),
    ("include_retired_files", .bool o.includeRetired), ("debug", .bool o.debug),
    ("default_namespace", .ofOption o.defaultNamespace)]

/-- Reads options; each of them may be left out. -/
def decode? (raw : Raw) : Option Options := do
  let [withMeta, withProvenance, includeRetired, debug, defaultNamespace] ←
    raw.fields? ["with_meta", "with_provenance", "include_retired_files", "debug",
      "default_namespace"] | none
  let withMeta ← Raw.orElse? Raw.bool? false withMeta
  let withProvenance ← Raw.orElse? Raw.bool? false withProvenance
  let includeRetired ← Raw.orElse? Raw.bool? false includeRetired
  let debug ← Raw.orElse? Raw.bool? false debug
  let defaultNamespace ← Raw.orElse? (Raw.optional? Raw.text?) none defaultNamespace
  return { withMeta, withProvenance, includeRetired, debug, defaultNamespace }

end Options

end CatalogQuery
