import MockApi.Config
import MockApi.Tree

/-!
# Reading a configuration

The sections of a configuration and their fields, from a tree of any format. What is not given has its
default.
-/

namespace MockApi.Config

open Tree

variable {α : Type} [Tree α]

def short? (tree : α) : Option Nat := natBelow? (2 ^ 16) tree

def long? (tree : α) : Option Nat := natBelow? (2 ^ 64) tree

def duration? (tree : α) : Option Duration := (text? tree).bind Duration.ofString?

def scenario? (tree : α) : Option Scenario := (name? tree).bind Scenario.ofName?

def Server.ofTree? (tree : α) : Option Server := do
  let d : Server := {}
  let fields ← record? [["host"], ["port"], ["cors_enabled"], ["strict_mode"], ["scenario"],
    ["hide_branding"], ["base_path"], ["resource_name"], ["drain_timeout"]] tree
  let host ← field fields "host" d.host text?
  let port ← field fields "port" d.port short?
  let corsEnabled ← field fields "cors_enabled" d.corsEnabled bool?
  let strictMode ← field fields "strict_mode" d.strictMode bool?
  let scenario ← optionField fields "scenario" d.scenario scenario?
  let hideBranding ← field fields "hide_branding" d.hideBranding bool?
  let basePath ← field fields "base_path" d.basePath text?
  let resourceName ← optionField fields "resource_name" d.resourceName text?
  let drainTimeout ← field fields "drain_timeout" d.drainTimeout duration?
  return ⟨host, port, corsEnabled, strictMode, scenario, hideBranding, basePath, resourceName,
    drainTimeout⟩

def Generation.ofTree? (tree : α) : Option Generation := do
  let d : Generation := {}
  let fields ← record? [["optional_property_probability"], ["max_depth"], ["list_min"], ["list_max"],
    ["use_examples"], ["seed"]] tree
  let probability ← field fields "optional_property_probability" d.optionalProbability real?
  let maxDepth ← field fields "max_depth" d.maxDepth long?
  let listMin ← field fields "list_min" d.listMin long?
  let listMax ← field fields "list_max" d.listMax long?
  let useExamples ← field fields "use_examples" d.useExamples bool?
  let seed ← optionField fields "seed" d.seed long?
  return ⟨probability, maxDepth, listMin, listMax, useExamples, seed⟩

def Bands.ofTree? (tree : α) : Option Bands := do
  let d : Bands := {}
  let fields ← record? [["slow_delay_min_ms"], ["slow_delay_max_ms"], ["error_probability"],
    ["error_statuses"]] tree
  let slowMin ← field fields "slow_delay_min_ms" d.slowMin long?
  let slowMax ← field fields "slow_delay_max_ms" d.slowMax long?
  let errorProbability ← field fields "error_probability" d.errorProbability real?
  let errorStatuses ← field fields "error_statuses" d.errorStatuses (listOf? short?)
  return ⟨slowMin, slowMax, errorProbability, errorStatuses⟩

def Caching.ofTree? (tree : α) : Option Caching := do
  let d : Caching := {}
  let fields ← record? [["capacity"], ["ttl"]] tree
  let capacity ← field fields "capacity" d.capacity long?
  let ttl ← optionField fields "ttl" d.ttl duration?
  return ⟨capacity, ttl⟩

def Telemetry.ofTree? (tree : α) : Option Telemetry := do
  let d : Telemetry := {}
  let fields ← record? [["enabled"], ["log_level"], ["json_logs"], ["service_name"]] tree
  let enabled ← field fields "enabled" d.enabled bool?
  let logLevel ← field fields "log_level" d.logLevel text?
  let jsonLogs ← field fields "json_logs" d.jsonLogs bool?
  let serviceName ← field fields "service_name" d.serviceName text?
  return ⟨enabled, logLevel, jsonLogs, serviceName⟩

def ofTree? (tree : α) : Option Config := do
  let fields ← record? [["server"], ["generation"], ["scenarios"], ["cache"], ["telemetry"]] tree
  let server ← field fields "server" {} Server.ofTree?
  let generation ← field fields "generation" {} Generation.ofTree?
  let scenarios ← field fields "scenarios" {} Bands.ofTree?
  let cache ← field fields "cache" {} Caching.ofTree?
  let telemetry ← field fields "telemetry" {} Telemetry.ofTree?
  return ⟨server, generation, scenarios, cache, telemetry⟩

end MockApi.Config
