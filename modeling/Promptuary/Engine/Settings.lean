import Promptuary.Analysis.Policy
import Promptuary.Json.Reader
import Promptuary.Schema.Form
import Promptuary.Template.Basic

/-!
The settings of an engine. They are given by the caller or by the environment, the caller's own
having precedence, and checked like any other record.
-/

namespace Promptuary

open Schema

/-- Where documents are kept. -/
inductive Backend where
  | memory | file | redis
deriving DecidableEq, Repr

namespace Backend

/-- All backends. -/
def all : List Backend := [.memory, .file, .redis]

/-- The name of a backend. -/
def name : Backend → String
  | .memory => "memory"
  | .file => "file"
  | .redis => "redis"

/-- The backend with a name. -/
def ofName? (s : String) : Option Backend := all.find? (·.name = s)

@[simp] theorem ofName?_name (b : Backend) : ofName? b.name = some b := by
  cases b <;> rfl

end Backend

/-- The settings of an engine. -/
structure Settings where
  logLevel : String
  logFormat : String
  logFile : Option String
  backend : Backend
  directory : String
  redisHost : String
  redisPort : Int
  redisDb : Int
  redisPassword : Option String
  versioning : Bool
  maxVersions : Int
  metrics : Bool
  maxExecutions : Int
  options : CompileOptions
  intervals : List String
  policy : Policy Float
  webhookUrl : Option String
  webhookSecret : Option String
  webhookAttempts : Int

namespace Settings

/-! ### Words -/

/-- Texts between quotes in brackets. -/
def listed (words : List String) : String :=
  "[" ++ ", ".intercalate (words.map Text.quoted) ++ "]"

/-- The levels of a log. -/
def logLevels : List String := ["DEBUG", "INFO", "WARNING", "ERROR", "CRITICAL"]

/-- The formats of a log. -/
def logFormats : List String := ["json", "console"]

/-- The names of the passes that can be scheduled. -/
def passNames : List String := ["hourly", "daily", "weekly", "monthly"]

/-- One of several words, after a change of case. -/
def oneOf (what : String) (words : List String) (normalize : String → String) : Shape String :=
  refined text fun s =>
    let word := normalize s
    if words.contains word then .ok word
    else .error (.refused (what ++ " must be one of: " ++ listed words))

/-- A backend by its name, whatever the case. -/
def backendShape : Shape Backend :=
  refined text fun s =>
    match Backend.ofName? (Text.lower s) with
    | some backend => .ok backend
    | none =>
      let names := listed (Backend.all.map Backend.name)
      .error (.refused ("Storage backend must be one of: " ++ names))

/-- Names of passes, whatever the case. -/
def intervalsShape : Shape (List String) :=
  refined (list text) fun names =>
    let names := names.map Text.lower
    let unknown := names.filter (!passNames.contains ·)
    if unknown.isEmpty then .ok names
    else
      .error (.refused
        s!"Unknown aggregation intervals {listed unknown}; expected any of {listed passNames}")

/-! ### Data -/

/-- Settings from the fields of an object. -/
def shape : FieldsShape Settings := fun fields =>
  (fun logLevel logFormat logFile backend directory redisHost redisPort redisDb redisPassword
      versioning maxVersions metrics maxExecutions strict missingText keepLayout escape snapshotDays
      intervals realTime detectAnomalies findTrends threshold leastSamples window anomalyDays
      slowFrom leastSuccess costRise burst leastQuality webhookUrl webhookSecret webhookAttempts =>
    { logLevel, logFormat, logFile, backend, directory, redisHost, redisPort, redisDb,
      redisPassword, versioning, maxVersions, metrics, maxExecutions, intervals, webhookUrl,
      webhookSecret, webhookAttempts
      options := { strict, missingText, keepLayout, escape }
      policy :=
        { realTime, detectAnomalies, findTrends, snapshotDays, anomalyDays, threshold, leastSamples,
          window, slowFrom, leastSuccess, costRise, burst, leastQuality } })
    <$> fieldOr "log_level" (oneOf "Log level" logLevels Text.upper) "INFO" fields
    <*> fieldOr "log_format" (oneOf "Log format" logFormats Text.lower) "console" fields
    <*> fieldOr "log_file" (nullable text) none fields
    <*> fieldOr "storage_backend" backendShape .memory fields
    <*> fieldOr "storage_directory" text ".prompt-templates" fields
    <*> fieldOr "redis_host" text "localhost" fields
    <*> fieldOr "redis_port" integer 6379 fields
    <*> fieldOr "redis_db" integer 4 fields
    <*> fieldOr "redis_password" (nullable text) none fields
    <*> fieldOr "enable_versioning" truth true fields
    <*> fieldOr "max_versions_per_template" (integerFrom 1) 10 fields
    <*> fieldOr "enable_metrics" truth true fields
    <*> fieldOr "max_executions_per_template" (integerFrom 1) 1000 fields
    <*> fieldOr "strict_mode" truth true fields
    <*> fieldOr "missing_value" text "" fields
    <*> fieldOr "preserve_whitespace" truth false fields
    <*> fieldOr "escape_html" truth true fields
    <*> fieldOr "metrics_retention_days" integer 90 fields
    <*> fieldOr "aggregation_intervals" intervalsShape ["hourly", "daily"] fields
    <*> fieldOr "enable_real_time_analytics" truth true fields
    <*> fieldOr "enable_anomaly_detection" truth true fields
    <*> fieldOr "enable_trend_analysis" truth true fields
    <*> fieldOr "anomaly_threshold_std_dev" number 3 fields
    <*> fieldOr "anomaly_min_samples" integer 30 fields
    <*> fieldOr "anomaly_window" integer 100 fields
    <*> fieldOr "anomaly_retention_days" integer 30 fields
    <*> fieldOr "latency_threshold_ms" number 3000 fields
    <*> fieldOr "min_success_rate" number 0.95 fields
    <*> fieldOr "cost_increase_threshold_percent" number 20 fields
    <*> fieldOr "anomaly_burst_threshold" integer 5 fields
    <*> fieldOr "min_quality_score" number 0.7 fields
    <*> fieldOr "webhook_url" (nullable text) none fields
    <*> fieldOr "webhook_secret" (nullable text) none fields
    <*> fieldOr "webhook_max_retries" integer 3 fields

/-- Settings as an object. -/
def toDatum (s : Settings) : Fields :=
  [("log_level", .text s.logLevel),
   ("log_format", .text s.logFormat),
   ("log_file", orNull .text s.logFile),
   ("storage_backend", .text s.backend.name),
   ("storage_directory", .text s.directory),
   ("redis_host", .text s.redisHost),
   ("redis_port", .int s.redisPort),
   ("redis_db", .int s.redisDb),
   ("redis_password", orNull .text s.redisPassword),
   ("enable_versioning", .bool s.versioning),
   ("max_versions_per_template", .int s.maxVersions),
   ("enable_metrics", .bool s.metrics),
   ("max_executions_per_template", .int s.maxExecutions),
   ("strict_mode", .bool s.options.strict),
   ("missing_value", .text s.options.missingText),
   ("preserve_whitespace", .bool s.options.keepLayout),
   ("escape_html", .bool s.options.escape),
   ("metrics_retention_days", .int s.policy.snapshotDays),
   ("aggregation_intervals", texts s.intervals),
   ("enable_real_time_analytics", .bool s.policy.realTime),
   ("enable_anomaly_detection", .bool s.policy.detectAnomalies),
   ("enable_trend_analysis", .bool s.policy.findTrends),
   ("anomaly_threshold_std_dev", .float s.policy.threshold),
   ("anomaly_min_samples", .int s.policy.leastSamples),
   ("anomaly_window", .int s.policy.window),
   ("anomaly_retention_days", .int s.policy.anomalyDays),
   ("latency_threshold_ms", .float s.policy.slowFrom),
   ("min_success_rate", .float s.policy.leastSuccess),
   ("cost_increase_threshold_percent", .float s.policy.costRise),
   ("anomaly_burst_threshold", .int s.policy.burst),
   ("min_quality_score", .float s.policy.leastQuality),
   ("webhook_url", orNull .text s.webhookUrl),
   ("webhook_secret", orNull .text s.webhookSecret),
   ("webhook_max_retries", .int s.webhookAttempts)]

/-! ### Environment -/

/-- Why there are no settings. -/
inductive Fault where
  /-- A variable of the environment has a null character, which ends its text. -/
  | nullCharacter
  /-- The name of a variable has the sign that ends names in an environment. -/
  | variableName
  /-- A variable has an empty name. -/
  | noName
  /-- A variable of the environment that should be JSON text is not. -/
  | unreadable (field : String)
  /-- The JSON text of a variable has containers in too many others. -/
  | tooDeep (container : Json.Container)
  /-- A field has a value that it may not have. -/
  | invalid (issues : List Issue)

/-- The wording of a fault. -/
def Fault.message : Fault → String
  | .nullCharacter => "embedded null byte"
  | .variableName => "illegal environment variable name"
  | .noName => "[Errno 22] Invalid argument"
  | .unreadable field =>
    "error parsing value for field \"" ++ field ++ "\" from source \"EnvSettingsSource\""
  | .tooDeep container => (Json.ReadError.tooDeep container).message
  | .invalid issues => messageOfAll issues

/-- The one field that the environment gives as JSON text. -/
def jsonField : String := "aggregation_intervals"

/-- What the variable of a field begins with, in small letters. -/
def variableStart : List Char := "promptops_".toList

/-- Fails if there can be no variable of a name and a value. -/
def checkVariable (name value : String) : Except Fault Unit :=
  if name.contains '\x00' || value.contains '\x00' then .error .nullCharacter
  else if name.contains '=' then .error .variableName
  else if name.isEmpty then .error .noName
  else .ok ()

/-- The fields that the environment gives, by name. The case of names does not matter, and of two
variables with one name the later counts. -/
def environmentFields (environment : List (String × String)) : Entries String String :=
  Entries.ofPairs (environment.filterMap fun (name, value) =>
    let name := (Text.lower name).toList
    if variableStart.isPrefixOf name then
      some (String.ofList (name.drop variableStart.length), value)
    else none)

/-- The data of a field that the environment gives; null counts as not given. -/
def ofVariable (name value : String) : Except Fault (Option Datum) :=
  if name = jsonField then
    match Json.parse value with
    | .ok .null => .ok none
    | .ok d => .ok (some d)
    | .error (.tooDeep container) => .error (.tooDeep container)
    | .error _ => .error (.unreadable name)
  else .ok (some (.text value))

/-- The settings that a caller and the environment give. -/
def read (environment : List (String × String)) (given : Fields) : Except Fault Settings := do
  environment.forM fun (name, value) => checkVariable name value
  let found ← (environmentFields environment).mapM fun (name, value) =>
    (ofVariable name value).map (·.map fun d => (name, d))
  let fields := given.foldl (fun all (name, d) => Entries.put all name d) (found.filterMap id)
  (shape fields).toExcept.mapError .invalid

end Settings

end Promptuary
