import RunnerDispatch.Settings
import RunnerDispatch.Toml.Fields

/-!
# Settings in a configuration file

* `Settings.ofToml?`: **the settings that a file gives**, the others at their defaults. A section or
  field of the wrong kind spoils the whole file.
-/

namespace RunnerDispatch

open Toml (Value Fields)

/-- The declaration that a value gives. It needs a name. -/
def Routing.Declaration.ofToml? (v : Value) : Option Routing.Declaration := do
  let fields ← Fields.of? v
  let name ← (← fields.find? 0 "name").text?
  let labels ← fields.read 1 "labels" (Value.items? Value.text?) []
  return ⟨name, labels⟩

/-- The rules that a value gives. -/
def Routing.Rules.ofToml? (v : Value) : Option Routing.Rules := do
  let standard : Routing.Rules := {}
  let fields ← Fields.of? v
  let declarations ←
    fields.read 0 "flavors" (Value.items? Routing.Declaration.ofToml?) standard.declarations
  let default ← fields.read 1 "default_flavor" (fun v => v.text?.map some) standard.default
  let ignored ← fields.read 2 "ignore_labels" (Value.items? Value.text?) standard.ignored
  let limit ← fields.read 3 "max_labels_per_flavor" Value.natural? standard.limit
  return { declarations, default, ignored, limit }

/-- The webhook settings that a value gives. -/
def WebhookSettings.ofToml? (v : Value) : Option WebhookSettings := do
  let standard : WebhookSettings := {}
  let fields ← Fields.of? v
  let path ← fields.read 0 "path" Value.text? standard.path
  let secret ← fields.read 1 "secret" (fun v => v.text?.map some) standard.secret
  let bodyLimit ← fields.read 2 "max_body_size" Value.natural? standard.bodyLimit
  return { path, secret, bodyLimit }

/-- The queue settings that a value gives. -/
def QueueSettings.ofToml? (v : Value) : Option QueueSettings := do
  let standard : QueueSettings := {}
  let fields ← Fields.of? v
  let url ← fields.read 0 "url" Value.text? standard.url
  let capacity ← fields.read 1 "max_pending_per_flavor" Value.natural? standard.capacity
  return { url, capacity }

/-- Log formats by name. -/
def LogFormat.names : List (String × LogFormat) := [("pretty", .pretty), ("json", .json)]

/-- The report settings that a value gives. -/
def ReportSettings.ofToml? (v : Value) : Option ReportSettings := do
  let standard : ReportSettings := {}
  let fields ← Fields.of? v
  let logLevel ← fields.read 0 "log_level" Value.text? standard.logLevel
  let logFormat ← fields.read 1 "log_format" (Value.choice? LogFormat.names) standard.logFormat
  let metricsEnabled ← fields.read 2 "metrics_enabled" Value.truth? standard.metricsEnabled
  let metricsAddress ← fields.read 3 "metrics_address" Value.text? standard.metricsAddress
  return { logLevel, logFormat, metricsEnabled, metricsAddress }

namespace Settings

/-- What the one field of a section means. -/
def soleField {α : Type} (name : String) (meaning : Value → Option α) (default : α) (v : Value) :
    Option α := do
  (← Fields.of? v).read 0 name meaning default

/-- **The settings that a file gives.** -/
def ofToml? (file : Value) : Option Settings := do
  let standard : Settings := {}
  let sections ← Fields.of? file
  let bindAddress ←
    sections.read 0 "listener" (soleField "bind_address" Value.text? standard.bindAddress)
      standard.bindAddress
  let webhook ← sections.read 1 "webhook" WebhookSettings.ofToml? standard.webhook
  let rules ← sections.read 2 "routing" Routing.Rules.ofToml? standard.rules
  let queue ← sections.read 3 "queue" QueueSettings.ofToml? standard.queue
  let requestSeconds ←
    sections.read 4 "timeouts" (soleField "request_secs" Value.natural? standard.requestSeconds)
      standard.requestSeconds
  let reports ← sections.read 5 "observability" ReportSettings.ofToml? standard.reports
  return { bindAddress, webhook, rules, queue, requestSeconds, reports }

end Settings

end RunnerDispatch
