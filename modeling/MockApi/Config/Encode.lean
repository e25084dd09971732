import MockApi.Config
import MockApi.Json.Printer

/-!
# Writing a configuration

A configuration as the value of a format: its sections and fields in their order, with durations as
texts and null for what is not set.
-/

namespace MockApi.Config

def optionJson {α : Type} (encode : α → Json) : Option α → Json
  | some x => encode x
  | none => .null

def Server.toJson (s : Server) : Json := .object [
  ("host", .string s.host),
  ("port", .ofNat s.port),
  ("cors_enabled", .bool s.corsEnabled),
  ("strict_mode", .bool s.strictMode),
  ("scenario", optionJson (fun x => .string x.name) s.scenario),
  ("hide_branding", .bool s.hideBranding),
  ("base_path", .string s.basePath),
  ("resource_name", optionJson .string s.resourceName),
  ("drain_timeout", .string s.drainTimeout.text)]

def Generation.toJson (g : Generation) : Json := .object [
  ("optional_property_probability", .ofBinary64 g.optionalProbability),
  ("max_depth", .ofNat g.maxDepth),
  ("list_min", .ofNat g.listMin),
  ("list_max", .ofNat g.listMax),
  ("use_examples", .bool g.useExamples),
  ("seed", optionJson .ofNat g.seed)]

def Bands.toJson (b : Bands) : Json := .object [
  ("slow_delay_min_ms", .ofNat b.slowMin),
  ("slow_delay_max_ms", .ofNat b.slowMax),
  ("error_probability", .ofBinary64 b.errorProbability),
  ("error_statuses", .array (b.errorStatuses.map .ofNat))]

def Caching.toJson (c : Caching) : Json := .object [
  ("capacity", .ofNat c.capacity),
  ("ttl", optionJson (fun d => .string d.text) c.ttl)]

def Telemetry.toJson (t : Telemetry) : Json := .object [
  ("enabled", .bool t.enabled),
  ("log_level", .string t.logLevel),
  ("json_logs", .bool t.jsonLogs),
  ("service_name", .string t.serviceName)]

def toJson (c : Config) : Json := .object [
  ("server", c.server.toJson),
  ("generation", c.generation.toJson),
  ("scenarios", c.scenarios.toJson),
  ("cache", c.cache.toJson),
  ("telemetry", c.telemetry.toJson)]

end MockApi.Config
