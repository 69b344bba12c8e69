import Readiness.Files
import Readiness.Poll.Plan

/-! # Settings

The settings of a run, read from variables of the environment. Each variable has a default; the
first one that holds something else than it should spoils the whole. -/
namespace Readiness

inductive Backend where
  | api
  | cli
  deriving DecidableEq, Repr

namespace Backend

def name : Backend → String
  | api => "Kube"
  | cli => "Cli"

def ofText (s : String) : Except String Backend :=
  let word := Text.lower s
  if word = "kube" ∨ word = "api" then .ok api
  else if word = "cli" ∨ word = "oc" then .ok cli
  else .error ("unknown read backend `" ++ word ++ "`")

end Backend

/-- What is waited for, which decides for how long. -/
inductive Wait where
  | operator
  | pod
  | build
  | route
  | resource
  deriving DecidableEq, Repr

def Wait.name : Wait → String
  | operator => "Operator"
  | pod => "Pod"
  | build => "Build"
  | route => "Route"
  | resource => "Resource"

structure Timings where
  interval : Nat
  operator : Nat
  pod : Nat
  build : Nat
  route : Nat
  resource : Nat
  deriving DecidableEq, Repr

namespace Timings

def seconds (timings : Timings) : Wait → Nat
  | .operator => timings.operator
  | .pod => timings.pod
  | .build => timings.build
  | .route => timings.route
  | .resource => timings.resource

def timeout (timings : Timings) (wait : Wait) : Duration := Duration.ofSecs (timings.seconds wait)

def plan (timings : Timings) (wait : Wait) (condition : Condition) : Poll.Plan where
  condition := condition
  interval := Duration.ofSecs timings.interval
  timeout := timings.timeout wait

end Timings

structure Settings where
  outputDir : String
  samplesDir : String
  binary : String
  backend : Backend
  backupRoot : String
  httpTimeout : Nat
  connectTimeout : Nat
  timings : Timings
  deriving DecidableEq, Repr

namespace Settings

structure Fault where
  variableName : String
  deriving DecidableEq, Repr

def Fault.message (fault : Fault) : String :=
  "Failed to parse environment variable " ++ fault.variableName

/-- The settings that the environment gives; a variable is read where it is set, even if it is
empty. -/
def ofEnvironment (environment : String → Option String) : Except Fault Settings := do
  let text (name default : String) := (environment name).getD default
  let number (name : String) (default : Nat) : Except Fault Nat :=
    match environment name with
    | none => .ok default
    | some value =>
      match Text.readNumeral Text.wordBound value.toList with
      | some n => .ok n
      | none => .error ⟨name⟩
  let backendName := "SMOKE_READ_BACKEND"
  let backend ← match Backend.ofText (text backendName "kube") with
    | .ok backend => .ok backend
    | .error _ => .error (Fault.mk backendName)
  let httpTimeout ← number "SMOKE_HTTP_TIMEOUT_SECS" 10
  let connectTimeout ← number "SMOKE_CONNECT_TIMEOUT_SECS" 30
  let interval ← number "SMOKE_POLL_INTERVAL_SECS" 5
  let operator ← number "SMOKE_TIMEOUT_OPERATOR_SECS" 300
  let pod ← number "SMOKE_TIMEOUT_POD_SECS" 600
  let build ← number "SMOKE_TIMEOUT_BUILD_SECS" 900
  let route ← number "SMOKE_TIMEOUT_ROUTE_SECS" 300
  let resource ← number "SMOKE_TIMEOUT_RESOURCE_SECS" 120
  return {
    outputDir := text "OUTPUT_DIR" "."
    samplesDir := text "SMOKE_SAMPLES_DIR" "tests/operator-smoke/samples"
    binary := text "SMOKE_OC_BINARY" "oc"
    backend := backend
    backupRoot := text "SMOKE_BACKUP_ROOT" "/jenkins-backups"
    httpTimeout := httpTimeout
    connectTimeout := connectTimeout
    timings := ⟨interval, operator, pod, build, route, resource⟩ }

/-! ## Manifests

Where a manifest is looked for: among the generated files, then among the samples. -/

inductive Manifest where
  /-- An absolute path or an address is taken as it is. -/
  | fixed (path : String)
  | either (generated sample : String)
  deriving DecidableEq, Repr

def manifest (settings : Settings) (name : String) : Manifest :=
  if Files.isAbsolute name ∨ Text.contains name "://" then .fixed name
  else .either (Files.join settings.outputDir name) (Files.join settings.samplesDir name)

/-- The path of a manifest. One that is in neither place is said to be among the generated files. -/
def Manifest.path {m : Type → Type} [Monad m] (has : String → m Bool) : Manifest → m String
  | fixed path => return path
  | either generated sample => do
    if ← has generated then return generated
    else if ← has sample then return sample
    else return generated

end Settings

end Readiness
