import TjoQuery.Config

namespace TjoQuery

/-! The OpenTelemetry module of `otel/`: `Config.Validate` of `config.go`, the provider of
`provider.go` and the module of `module.go`.  `Validate` works on its receiver: it fills
four defaults as it goes, and a check that fails returns with the defaults before it
already written.  `New` validates a copy and builds the tracer provider from it, and
`Shutdown` reaches the SDK through a `sync.Once`.  The SDK is the caller's side: building
an exporter and shutting down or flushing the tracer provider are answered by the caller,
with an error or `nil`. -/

/-- A Go `float64`, by its IEEE 754 binary64 bits.  Only the comparisons the code makes are
modelled: `==` and `<` compare by sign and magnitude, `+0` and `-0` are equal, and a NaN is
neither equal to nor less or greater than anything. -/
structure Float64 where
  bits : BitVec 64
  deriving DecidableEq, Repr

namespace Float64

def word (x : Float64) : Nat := x.bits.toNat

def isNaN (x : Float64) : Bool := x.word / 2 ^ 52 % 2 ^ 11 == 2047 && x.word % 2 ^ 52 != 0

def key (x : Float64) : Int := if x.word < 2 ^ 63 then x.word % 2 ^ 63 else -(x.word % 2 ^ 63 : Nat)

/-- `x == y` -/
def eq (x y : Float64) : Bool := !x.isNaN && !y.isNaN && x.key == y.key

/-- `x < y` -/
def lt (x y : Float64) : Bool := !x.isNaN && !y.isNaN && decide (x.key < y.key)

def zero : Float64 := ⟨0⟩

def one : Float64 := ⟨0x3FF0000000000000⟩

/-- The NaN `math.NaN` returns. -/
def NaN : Float64 := ⟨0x7FF8000000000001⟩

theorem lt_of_isNaN_left {x : Float64} (hx : x.isNaN = true) (y : Float64) : x.lt y = false := by
  simp [lt, hx]

theorem lt_of_isNaN_right {y : Float64} (hy : y.isNaN = true) (x : Float64) : x.lt y = false := by
  simp [lt, hy]

theorem eq_of_isNaN {x : Float64} (hx : x.isNaN = true) (y : Float64) : x.eq y = false := by
  simp [eq, hx]

@[simp] theorem one_eq_zero : one.eq zero = false := by decide

@[simp] theorem one_lt_zero : one.lt zero = false := by decide

@[simp] theorem one_lt_one : one.lt one = false := by decide

end Float64

namespace Otel

open Float64

/-! ## `Config` and `Validate` -/

def ExporterOTLP : String := "otlp"
def ExporterJaeger : String := "jaeger"
def ExporterZipkin : String := "zipkin"
def ExporterNone : String := "none"

def SamplerAlways : String := "always"
def SamplerNever : String := "never"
def SamplerRatio : String := "ratio"
def SamplerParentBased : String := "parent"

def validExporters : List String := [ExporterOTLP, ExporterJaeger, ExporterZipkin, ExporterNone]

def validSamplers : List String := [SamplerAlways, SamplerNever, SamplerRatio, SamplerParentBased]

/-- `otel.Config`.  `ExporterType` and `SamplerType` are Go strings, and the two maps are
lists of entries in the order `range` visits them.  `PropagateB3` is left out: nothing reads
it. -/
structure Config where
  ServiceName : String
  ServiceVersion : String
  Environment : String
  Endpoint : String
  Exporter : String
  Insecure : Bool
  Sampler : String
  SampleRatio : Float64
  EnableMetrics : Bool
  EnableTracing : Bool
  Headers : List (String × String)
  ResourceAttributes : List (String × String)
  deriving DecidableEq, Repr

namespace Config

/-! The four defaults `Validate` writes into its receiver, each where the source has it. -/

def defaultExporter (c : Config) : Config :=
  { c with Exporter := if c.Exporter = "" then ExporterOTLP else c.Exporter }

def defaultSampler (c : Config) : Config :=
  { c with Sampler := if c.Sampler = "" then SamplerAlways else c.Sampler }

def defaultSampleRatio (c : Config) : Config :=
  { c with SampleRatio := if c.SampleRatio.eq zero then one else c.SampleRatio }

def defaultEnableTracing (c : Config) : Config :=
  { c with EnableTracing := if !c.EnableMetrics && !c.EnableTracing then true else c.EnableTracing }

/-- `(c *Config) Validate()`: the error, and the receiver as the call leaves it. -/
def Validate (c : Config) : Option String × Config :=
  if c.ServiceName = "" then (some "otel: ServiceName is required", c) else
  let c := c.defaultExporter
  if c.Exporter ∉ validExporters then (some ("otel: invalid Exporter type: " ++ c.Exporter), c) else
  if c.Exporter ≠ ExporterNone ∧ c.Endpoint = "" then
    (some "otel: Endpoint is required when exporter is enabled", c) else
  let c := c.defaultSampler
  if c.Sampler ∉ validSamplers then (some ("otel: invalid Sampler type: " ++ c.Sampler), c) else
  let c := c.defaultSampleRatio
  if c.SampleRatio.lt zero || one.lt c.SampleRatio then
    (some "otel: SampleRatio must be between 0.0 and 1.0", c) else
  (none, c.defaultEnableTracing)

/-- What the checks of `Validate` ask of a configuration, its defaults filled. -/
structure Valid (c : Config) : Prop where
  serviceName : c.ServiceName ≠ ""
  exporter : c.Exporter ∈ validExporters
  endpoint : c.Exporter ≠ ExporterNone → c.Endpoint ≠ ""
  sampler : c.Sampler ∈ validSamplers
  sampleRatio : c.SampleRatio.eq zero = false
  inRange : (c.SampleRatio.lt zero || one.lt c.SampleRatio) = false
  enabled : (c.EnableMetrics || c.EnableTracing) = true

theorem ne_empty_of_mem_validExporters {s : String} (h : s ∈ validExporters) : s ≠ "" := by
  simp only [validExporters, ExporterOTLP, ExporterJaeger, ExporterZipkin, ExporterNone,
    List.mem_cons, List.mem_singleton, List.not_mem_nil, or_false] at h
  rcases h with rfl | rfl | rfl | rfl <;> decide

theorem ne_empty_of_mem_validSamplers {s : String} (h : s ∈ validSamplers) : s ≠ "" := by
  simp only [validSamplers, SamplerAlways, SamplerNever, SamplerRatio, SamplerParentBased,
    List.mem_cons, List.mem_singleton, List.not_mem_nil, or_false] at h
  rcases h with rfl | rfl | rfl | rfl <;> decide

theorem defaults_of_valid {c : Config} (hc : c.Valid) :
    c.defaultExporter = c ∧ c.defaultSampler = c ∧ c.defaultSampleRatio = c ∧
      c.defaultEnableTracing = c := by
  refine ⟨?_, ?_, ?_, ?_⟩
  · simp [defaultExporter, ne_empty_of_mem_validExporters hc.exporter]
  · simp [defaultSampler, ne_empty_of_mem_validSamplers hc.sampler]
  · simp [defaultSampleRatio, hc.sampleRatio]
  · cases c
    rcases Bool.or_eq_true_iff.mp hc.enabled with h | h <;> simp only at h <;>
      simp [defaultEnableTracing, h]

theorem Validate_of_valid {c : Config} (hc : c.Valid) : c.Validate = (none, c) := by
  obtain ⟨hexp, hsam, hratio, hon⟩ := defaults_of_valid hc
  simp only [Validate, hexp, hsam, hratio, hon, hc.serviceName, hc.exporter, hc.sampler,
    hc.inRange, if_false, not_true_eq_false, Bool.false_eq_true]
  rw [if_neg fun h => hc.endpoint h.1 h.2]

theorem Validate_accepts {c : Config} (h : c.Validate.1 = none) :
    c.ServiceName ≠ "" ∧ c.defaultExporter.Exporter ∈ validExporters ∧
      (c.defaultExporter.Exporter ≠ ExporterNone → c.Endpoint ≠ "") ∧
      c.defaultExporter.defaultSampler.Sampler ∈ validSamplers ∧
      (c.defaultExporter.defaultSampler.defaultSampleRatio.SampleRatio.lt zero ||
        one.lt c.defaultExporter.defaultSampler.defaultSampleRatio.SampleRatio) = false ∧
      c.Validate.2 = c.defaultExporter.defaultSampler.defaultSampleRatio.defaultEnableTracing := by
  simp only [Validate] at h ⊢
  split_ifs at h with hname hexp hend hsam hrange
  rw [if_neg hname, if_neg (not_not.mpr hexp), if_neg hend, if_neg (not_not.mpr hsam),
    if_neg hrange]
  exact ⟨hname, hexp, fun hne hempty => hend ⟨hne, hempty⟩, hsam, Bool.eq_false_iff.mpr hrange,
    rfl⟩

theorem Validate_error_named {c : Config} {msg : String} (h : c.Validate.1 = some msg) :
    ∃ field ∈ ["ServiceName", "Exporter", "Endpoint", "Sampler", "SampleRatio"],
      field.data <:+: msg.data := by
  simp only [Validate] at h
  split_ifs at h <;> cases h <;>
    first
    | exact ⟨"ServiceName", by simp, by decide⟩
    | exact ⟨"Endpoint", by simp, by decide⟩
    | exact ⟨"SampleRatio", by simp, by decide⟩
    | exact ⟨"Exporter", by simp, (show "Exporter".data <:+: "otel: invalid Exporter type: ".data
        by decide).trans (List.prefix_append _ _).isInfix⟩
    | exact ⟨"Sampler", by simp, (show "Sampler".data <:+: "otel: invalid Sampler type: ".data
        by decide).trans (List.prefix_append _ _).isInfix⟩

theorem EnableTracing_defaults (c : Config) :
    c.defaultExporter.defaultSampler.defaultSampleRatio.defaultEnableTracing.EnableTracing =
      (c.EnableTracing || !c.EnableMetrics) := by
  simp only [defaultEnableTracing, defaultSampleRatio, defaultSampler, defaultExporter]
  cases c.EnableMetrics <;> cases c.EnableTracing <;> rfl

theorem valid_of_Validate {c : Config} (h : c.Validate.1 = none) : c.Validate.2.Valid := by
  obtain ⟨hname, hexp, hend, hsam, hrange, heq⟩ := Validate_accepts h
  rw [heq]
  simp only [defaultEnableTracing, defaultSampleRatio, defaultSampler, defaultExporter]
    at hexp hend hsam hrange ⊢
  refine ⟨hname, hexp, hend, hsam, ?_, hrange, ?_⟩
  · cases hzero : c.SampleRatio.eq zero <;> simp [hzero]
  · cases c.EnableMetrics <;> cases c.EnableTracing <;> rfl

/-- `Validate` is a normaliser: when it accepts a configuration, what it leaves passes every
check, and validating that again accepts it and changes nothing. -/
theorem Validate_idempotent {c : Config} (h : c.Validate.1 = none) :
    c.Validate.2.Valid ∧ c.Validate.2.Validate = (none, c.Validate.2) :=
  ⟨valid_of_Validate h, Validate_of_valid (valid_of_Validate h)⟩

/-- `otel.Config{ServiceName: "app", Endpoint: "localhost:4317"}`, every other field zero. -/
def appConfig : Config :=
  ⟨"app", "", "", "localhost:4317", "", false, "", zero, false, false, [], []⟩

theorem Validate_idempotent_app :
    appConfig.Validate.1 = none ∧
      appConfig.Validate.2.Valid ∧ appConfig.Validate.2.Validate = (none, appConfig.Validate.2) :=
  ⟨rfl, Validate_idempotent rfl⟩

end Config

/-! ## The provider -/

inductive Sampler
  | AlwaysSample
  | NeverSample
  | TraceIDRatioBased (fraction : Float64)
  | ParentBased (root : Sampler)
  deriving DecidableEq, Repr

inductive Exporter
  | OTLP (endpoint : String) (insecure : Bool) (headers : Option (List (String × String)))
  | Zipkin (endpoint : String)
  deriving DecidableEq, Repr

inductive Attribute
  | ServiceName (name : String)
  | ServiceVersion (version : String)
  | DeploymentEnvironment (env : String)
  | String (key value : String)
  deriving DecidableEq, Repr

inductive Propagator
  | TraceContext
  | Baggage
  deriving DecidableEq, Repr

structure TracerProvider where
  resource : List Attribute
  sampler : Sampler
  batcher : Option Exporter
  deriving DecidableEq, Repr

structure Tracer where
  name : String
  version : String
  deriving DecidableEq, Repr

/-- `otel.Provider`; `shutdownOnce` is whether the `sync.Once` has run.  The mutex is left
out: the model runs one call after another. -/
structure Provider where
  config : Config
  tracerProvider : Option TracerProvider
  tracer : Option Tracer
  propagator : List Propagator
  shutdownOnce : Bool
  shutdown : Bool
  deriving DecidableEq, Repr

namespace Provider

def createSampler (c : Config) : Sampler :=
  if c.Sampler = SamplerAlways then .AlwaysSample
  else if c.Sampler = SamplerNever then .NeverSample
  else if c.Sampler = SamplerRatio then .TraceIDRatioBased c.SampleRatio
  else if c.Sampler = SamplerParentBased then .ParentBased .AlwaysSample
  else .AlwaysSample

/-- A NaN `SampleRatio` passes `Validate`: to Go's comparisons NaN is neither `0` nor below
`0` nor above `1`, so `Validate` answers on it as on the ratio `1.0`, and leaves the NaN in
place, where for the ratio sampler `createSampler` hands it to `TraceIDRatioBased`. -/
theorem Validate_NaN (c : Config) {r : Float64} (hr : r.isNaN = true) :
    { c with SampleRatio := r }.Validate.1 = { c with SampleRatio := one }.Validate.1 ∧
      { c with SampleRatio := r }.Validate.2.SampleRatio = r ∧
      (c.Sampler = SamplerRatio →
        createSampler { c with SampleRatio := r }.Validate.2 = .TraceIDRatioBased r) := by
  have hratio : (if r.eq zero then one else r) = r := by rw [eq_of_isNaN hr]; rfl
  have hkept : { c with SampleRatio := r }.Validate.2.SampleRatio = r := by
    simp only [Config.Validate, apply_ite Prod.snd, apply_ite Config.SampleRatio,
      Config.defaultEnableTracing, Config.defaultSampleRatio, Config.defaultSampler,
      Config.defaultExporter, hratio, ite_self]
  refine ⟨?_, hkept, fun hs => ?_⟩
  · simp only [Config.Validate, apply_ite Prod.fst, Config.defaultEnableTracing,
      Config.defaultSampleRatio, Config.defaultSampler, Config.defaultExporter, hratio,
      lt_of_isNaN_left hr, lt_of_isNaN_right hr, one_eq_zero, one_lt_zero, one_lt_one,
      Bool.false_or, Bool.false_eq_true, if_false]
  · have hsampler : { c with SampleRatio := r }.Validate.2.Sampler = SamplerRatio := by
      simp only [Config.Validate, apply_ite Prod.snd, apply_ite Config.Sampler,
        Config.defaultEnableTracing, Config.defaultSampleRatio, Config.defaultSampler,
        Config.defaultExporter, hs, show SamplerRatio ≠ "" by decide, if_false, ite_self]
    rw [createSampler, hsampler, hkept, if_neg (by decide), if_neg (by decide), if_pos rfl]

theorem Validate_NaN_app :
    NaN.isNaN = true ∧
      ({ Config.appConfig with SampleRatio := NaN }.Validate.1 =
          { Config.appConfig with SampleRatio := one }.Validate.1 ∧
        { Config.appConfig with SampleRatio := NaN }.Validate.2.SampleRatio = NaN ∧
        (Config.appConfig.Sampler = SamplerRatio →
          createSampler { Config.appConfig with SampleRatio := NaN }.Validate.2 =
            .TraceIDRatioBased NaN)) :=
  ⟨by decide, Validate_NaN Config.appConfig (by decide)⟩

def createOTLPExporter (c : Config) : Exporter :=
  .OTLP c.Endpoint c.Insecure (if c.Headers ≠ [] then some c.Headers else none)

def createZipkinExporter (c : Config) : Exporter := .Zipkin c.Endpoint

/-- `createExporter`: `build` is the SDK's answer to building an exporter, an error or
`nil`.  Jaeger is exported over OTLP. -/
def createExporter (build : Exporter → Option String) (c : Config) :
    Except String (Option Exporter) :=
  let create (e : Exporter) : Except String (Option Exporter) :=
    match build e with
    | some err => .error err
    | none => .ok (some e)
  if c.Exporter = ExporterOTLP then create (createOTLPExporter c)
  else if c.Exporter = ExporterZipkin then create (createZipkinExporter c)
  else if c.Exporter = ExporterJaeger then create (createOTLPExporter c)
  else if c.Exporter = ExporterNone then .ok none
  else .error ("unknown exporter: " ++ c.Exporter)

def createResource (c : Config) : List Attribute :=
  [.ServiceName c.ServiceName] ++
    (if c.ServiceVersion ≠ "" then [.ServiceVersion c.ServiceVersion] else []) ++
    (if c.Environment ≠ "" then [.DeploymentEnvironment c.Environment] else []) ++
    c.ResourceAttributes.map fun (k, v) => .String k v

/-- `initTracing`, with `setupPropagation`: on an error the provider is left as it was. -/
def initTracing (build : Exporter → Option String) (p : Provider) : Option String × Provider :=
  match createExporter build p.config with
  | .error err => (some err, p)
  | .ok exporter =>
      (none, { p with
        tracerProvider := some ⟨createResource p.config, createSampler p.config, exporter⟩
        propagator := [.TraceContext, .Baggage]
        tracer := some ⟨p.config.ServiceName, p.config.ServiceVersion⟩ })

/-- `New(cfg)`: `cfg` is passed by value, so `Validate`'s defaults reach the provider only
when it accepts. -/
def New (build : Exporter → Option String) (cfg : Config) : Except String Provider :=
  match cfg.Validate with
  | (some err, _) => .error err
  | (none, cfg) =>
      let p : Provider := ⟨cfg, none, none, [], false, false⟩
      if cfg.EnableTracing then
        match initTracing build p with
        | (some err, _) => .error ("otel: failed to initialize tracing: " ++ err)
        | (none, p) => .ok p
      else .ok p

def IsEnabled (p : Provider) : Bool := p.config.EnableTracing && !p.shutdown && p.tracer.isSome

inductive SDKCall
  | Shutdown
  | ForceFlush
  deriving DecidableEq, Repr

/-- `Shutdown`, with the calls it makes on the SDK: `answer` is what the tracer provider's
own `Shutdown` returns.  The `sync.Once` runs its body on the first call only; a later call
returns `nil`. -/
def Shutdown (p : Provider) (answer : Option String) : Option String × Provider × List SDKCall :=
  if p.shutdownOnce then (none, p, []) else
  let p := { p with shutdownOnce := true, shutdown := true }
  if p.tracerProvider.isSome then (answer, p, [.Shutdown]) else (none, p, [])

def ForceFlush (p : Provider) (answer : Option String) : Option String × List SDKCall :=
  if p.tracerProvider.isNone then (none, []) else (answer, [.ForceFlush])

/-- A call on the provider, with the SDK's answer where the call asks the SDK. -/
inductive Request
  | IsEnabled
  | Shutdown (answer : Option String)
  | ForceFlush (answer : Option String)

def Request.isShutdown : Request → Bool
  | .Shutdown _ => true
  | _ => false

inductive Reply
  | enabled (b : Bool)
  | done (err : Option String)
  deriving DecidableEq

def step (p : Provider) : Request → Reply × Provider × List SDKCall
  | .IsEnabled => (.enabled p.IsEnabled, p, [])
  | .Shutdown answer => (.done (p.Shutdown answer).1, (p.Shutdown answer).2)
  | .ForceFlush answer => (.done (p.ForceFlush answer).1, p, (p.ForceFlush answer).2)

def run : Provider → List Request → List Reply × Provider × List SDKCall
  | p, [] => ([], p, [])
  | p, r :: rs =>
      ((p.step r).1 :: (run (p.step r).2.1 rs).1, (run (p.step r).2.1 rs).2.1,
        (p.step r).2.2 ++ (run (p.step r).2.1 rs).2.2)

theorem initTracing_ok {build : Exporter → Option String} {p p' : Provider}
    (h : initTracing build p = (none, p')) :
    p'.config = p.config ∧ p'.shutdownOnce = p.shutdownOnce ∧ p'.shutdown = p.shutdown ∧
      p'.tracer.isSome ∧ p'.tracerProvider.isSome := by
  unfold initTracing at h
  split at h
  · cases h
  · cases h
    exact ⟨rfl, rfl, rfl, rfl, rfl⟩

theorem New_ok {build : Exporter → Option String} {cfg : Config} {p : Provider}
    (hp : New build cfg = .ok p) :
    cfg.Validate.1 = none ∧ p.config = cfg.Validate.2 ∧ p.shutdownOnce = false ∧
      p.shutdown = false ∧ p.tracer.isSome = p.config.EnableTracing ∧
      p.tracerProvider.isSome = p.config.EnableTracing := by
  unfold New at hp
  rcases hv : cfg.Validate with ⟨_ | err, cfg'⟩ <;> simp only [hv] at hp
  · split at hp
    case isTrue htr =>
      rcases hi : initTracing build ⟨cfg', none, none, [], false, false⟩ with ⟨_ | err, p'⟩ <;>
        simp only [hi] at hp
      · cases hp
        obtain ⟨hc, ho, hs, ht, htp⟩ := initTracing_ok hi
        exact ⟨rfl, hc, ho, hs, by rw [ht, hc, htr], by rw [htp, hc, htr]⟩
      · cases hp
    case isFalse htr =>
      cases hp
      exact ⟨rfl, rfl, rfl, rfl, by simpa using htr, by simpa using htr⟩
  · cases hp

section Runs

variable {p : Provider}

theorem step_of_shutdownOnce (h : p.shutdownOnce = true) (r : Request) : (p.step r).2.1 = p := by
  cases r <;> simp [step, Shutdown, h]

theorem step_shutdown (hs : p.shutdown = p.shutdownOnce) (r : Request) :
    (p.step r).2.1.shutdown = (p.step r).2.1.shutdownOnce := by
  cases r <;> simp only [step, Shutdown] <;> (try split_ifs) <;> simp [hs]

theorem length_run (p : Provider) (rs : List Request) : (p.run rs).1.length = rs.length := by
  induction rs generalizing p with
  | nil => rfl
  | cons r rs ih => simp [run, ih]

theorem run_append (p : Provider) (xs ys : List Request) :
    p.run (xs ++ ys) = ((p.run xs).1 ++ ((p.run xs).2.1.run ys).1, ((p.run xs).2.1.run ys).2.1,
      (p.run xs).2.2 ++ ((p.run xs).2.1.run ys).2.2) := by
  induction xs generalizing p with
  | nil => rfl
  | cons r xs ih => simp [run, ih]

theorem count_run (p : Provider) (rs : List Request) :
    (p.run rs).2.2.count .Shutdown =
      if !p.shutdownOnce && p.tracerProvider.isSome && rs.any Request.isShutdown then 1 else 0 := by
  induction rs generalizing p with
  | nil => simp [run]
  | cons r rs ih =>
      simp only [run, List.count_append, ih]
      cases r with
      | IsEnabled => simp [step, Request.isShutdown]
      | ForceFlush a =>
          simp only [step, ForceFlush]
          split <;> simp [Request.isShutdown]
      | Shutdown a =>
          cases h : p.shutdownOnce <;> cases htp : p.tracerProvider <;>
            simp [step, Shutdown, Request.isShutdown, h, htp]

theorem run_of_shutdownOnce (h : p.shutdownOnce = true) (hs : p.shutdown = true)
    (rs : List Request) :
    ∀ x ∈ rs.zip (p.run rs).1, (x.1 = .IsEnabled → x.2 = .enabled false) ∧
      ∀ a, x.1 = .Shutdown a → x.2 = .done none := by
  induction rs with
  | nil => simp [run]
  | cons r rs ih =>
      simp only [run, step_of_shutdownOnce h, List.zip_cons_cons, List.mem_cons]
      rintro x (rfl | hx)
      · cases r <;> simp [step, IsEnabled, Shutdown, h, hs]
      · exact ih x hx

theorem run_shutdown (hs : p.shutdown = p.shutdownOnce) (rs : List Request) :
    (p.run rs).2.1.shutdown = (p.run rs).2.1.shutdownOnce := by
  induction rs generalizing p with
  | nil => exact hs
  | cons r rs ih => exact ih (step_shutdown hs r)

theorem step_Shutdown_shutdownOnce (a : Option String) :
    (p.step (.Shutdown a)).2.1.shutdownOnce = true := by
  simp only [step, Shutdown]
  split_ifs with h <;> simp [h]

/-- Over every sequence of calls on a provider `New` returns, the SDK's `Shutdown` is called
once if the sequence holds a `Shutdown` and tracing is enabled, and never otherwise; and
once a `Shutdown` has been made, every later `IsEnabled` answers `false` and every later
`Shutdown` answers `nil`. -/
theorem New_Shutdown_once {build : Exporter → Option String} {cfg : Config} {p : Provider}
    (hp : New build cfg = .ok p) :
    (∀ rs, (p.run rs).2.2.count .Shutdown =
      if rs.any Request.isShutdown && p.config.EnableTracing then 1 else 0) ∧
    ∀ (pre : List Request) (a : Option String) (post : List Request),
      ∀ x ∈ post.zip ((p.run (pre ++ .Shutdown a :: post)).1.drop (pre.length + 1)),
        (x.1 = .IsEnabled → x.2 = .enabled false) ∧ ∀ b, x.1 = .Shutdown b → x.2 = .done none := by
  obtain ⟨-, -, honce, hs, -, htp⟩ := New_ok hp
  refine ⟨fun rs => ?count, fun pre a post => ?after⟩
  case count =>
    rw [count_run, honce, htp]
    cases rs.any Request.isShutdown <;> cases p.config.EnableTracing <;> rfl
  case after =>
    set q := ((p.run pre).2.1.step (.Shutdown a)).2.1
    have hq : q.shutdownOnce = true := step_Shutdown_shutdownOnce a
    have hqs : q.shutdown = true :=
      (step_shutdown (run_shutdown (hs.trans honce.symm) pre) _).trans hq
    have hreplies :
        (p.run (pre ++ .Shutdown a :: post)).1.drop (pre.length + 1) = (q.run post).1 := by
      rw [run_append, ← length_run p pre, List.drop_append]
      rfl
    rw [hreplies]
    exact run_of_shutdownOnce hq hqs post

theorem New_Shutdown_once_app :
    ∃ p, New (fun _ => none) Config.appConfig = .ok p ∧
      ((∀ rs, (p.run rs).2.2.count .Shutdown =
        if rs.any Request.isShutdown && p.config.EnableTracing then 1 else 0) ∧
      ∀ (pre : List Request) (a : Option String) (post : List Request),
        ∀ x ∈ post.zip ((p.run (pre ++ .Shutdown a :: post)).1.drop (pre.length + 1)),
          (x.1 = .IsEnabled → x.2 = .enabled false) ∧ ∀ b, x.1 = .Shutdown b → x.2 = .done none) :=
  ⟨_, rfl, @New_Shutdown_once (fun _ => none) Config.appConfig _ rfl⟩

end Runs

end Provider

/-! ## The module -/

/-- `otel.Module` -/
structure Module where
  Provider : Option Provider
  config : Config

/-- A `ModuleOption` is any `func(*Module)`. -/
def ModuleOption := Module → Module

/-- The `switch os.Getenv("OTEL_SAMPLER")` of `NewModule`. -/
def samplerFromEnv (s : String) : String :=
  if s = "always" then SamplerAlways
  else if s = "never" then SamplerNever
  else if s = "ratio" then SamplerRatio
  else if s = "parent" then SamplerParentBased
  else SamplerAlways

/-- `NewModule`: the configuration from the environment, then the options in order.
`ParseFloat` is `strconv.ParseFloat(ratio, 64)`, `none` for its error. -/
def NewModule (ParseFloat : String → Option Float64) (env : TjoQuery.Config.Env)
    (opts : List ModuleOption) : Module :=
  opts.foldl (fun m opt => opt m)
    { Provider := none
      config :=
        { ServiceName := env "OTEL_SERVICE_NAME"
          ServiceVersion := env "OTEL_SERVICE_VERSION"
          Environment := env "OTEL_ENVIRONMENT"
          Endpoint := env "OTEL_ENDPOINT"
          Exporter := env "OTEL_EXPORTER"
          Insecure := env "OTEL_INSECURE" = "true"
          EnableTracing := env "OTEL_ENABLED" = "true"
          EnableMetrics := env "OTEL_METRICS_ENABLED" = "true"
          SampleRatio :=
            if env "OTEL_SAMPLE_RATIO" ≠ "" then (ParseFloat (env "OTEL_SAMPLE_RATIO")).getD one
            else one
          Sampler := samplerFromEnv (env "OTEL_SAMPLER")
          Headers := []
          ResourceAttributes := [] } }

def WithConfig (cfg : Config) : ModuleOption := fun m => { m with config := cfg }

def WithServiceName (name : String) : ModuleOption := fun m =>
  { m with config.ServiceName := name }

def WithServiceVersion (version : String) : ModuleOption := fun m =>
  { m with config.ServiceVersion := version }

def WithEnvironment (env : String) : ModuleOption := fun m =>
  { m with config.Environment := env }

def WithOTLPExporter (endpoint : String) (insecure : Bool) : ModuleOption := fun m =>
  { m with config.Exporter := ExporterOTLP, config.Endpoint := endpoint,
           config.Insecure := insecure, config.EnableTracing := true }

def WithZipkinExporter (endpoint : String) : ModuleOption := fun m =>
  { m with config.Exporter := ExporterZipkin, config.Endpoint := endpoint,
           config.EnableTracing := true }

def WithAlwaysSample : ModuleOption := fun m => { m with config.Sampler := SamplerAlways }

def WithRatioSample (ratio : Float64) : ModuleOption := fun m =>
  { m with config.Sampler := SamplerRatio, config.SampleRatio := ratio }

namespace Module

/-- `Initialize`: nothing without a service name; otherwise the provider `New` builds from
the module's configuration. -/
def Initialize (build : Exporter → Option String) (m : Module) : Option String × Module :=
  if m.config.ServiceName = "" then (none, m) else
  match Provider.New build m.config with
  | .error err => (some err, m)
  | .ok p => (none, { m with Provider := some p })

def IsEnabled (m : Module) : Bool :=
  match m.Provider with
  | some p => p.IsEnabled
  | none => false

def Shutdown (m : Module) (answer : Option String) :
    Option String × Module × List Provider.SDKCall :=
  match m.Provider with
  | some p => ((p.Shutdown answer).1, { m with Provider := some (p.Shutdown answer).2.1 },
      (p.Shutdown answer).2.2)
  | none => (none, m, [])

theorem IsEnabled_Initialize {build : Exporter → Option String} {m : Module}
    (hname : m.config.ServiceName ≠ "") (h : (m.Initialize build).1 = none) :
    (m.Initialize build).2.IsEnabled = (m.config.EnableTracing || !m.config.EnableMetrics) := by
  unfold Initialize at h ⊢
  rw [if_neg hname] at h ⊢
  rcases hp : Provider.New build m.config with err | p <;> simp only [hp] at h ⊢
  · cases h
  · obtain ⟨hv, hc, -, hs, ht, -⟩ := Provider.New_ok hp
    simp only [IsEnabled, Provider.IsEnabled, hs, ht, hc, (Config.Validate_accepts hv).2.2.2.2.2,
      Config.EnableTracing_defaults, Bool.not_false, Bool.and_true, Bool.and_self]

/-- With no options, once `Initialize` has returned `nil` on the module `NewModule` reads
from the environment, the module is enabled exactly when `OTEL_SERVICE_NAME` is set and
`OTEL_ENABLED` is `true` or `OTEL_METRICS_ENABLED` is not: with metrics off, `OTEL_ENABLED`
does not turn tracing off. -/
theorem NewModule_IsEnabled (ParseFloat : String → Option Float64)
    (build : Exporter → Option String) (env : TjoQuery.Config.Env)
    (h : ((NewModule ParseFloat env []).Initialize build).1 = none) :
    ((NewModule ParseFloat env []).Initialize build).2.IsEnabled =
      (env "OTEL_SERVICE_NAME" ≠ "" &&
        (env "OTEL_ENABLED" = "true" || env "OTEL_METRICS_ENABLED" ≠ "true")) := by
  by_cases hname : env "OTEL_SERVICE_NAME" = ""
  · simp [Initialize, NewModule, hname, IsEnabled]
  · rw [IsEnabled_Initialize hname h]
    simp [NewModule, hname]

def tracingOffEnv : TjoQuery.Config.Env := fun key =>
  if key = "OTEL_SERVICE_NAME" then "app"
  else if key = "OTEL_ENDPOINT" then "localhost:4317"
  else if key = "OTEL_ENABLED" then "false"
  else ""

theorem NewModule_IsEnabled_tracingOff :
    ((NewModule (fun _ => none) tracingOffEnv []).Initialize fun _ => none).1 = none ∧
      ((NewModule (fun _ => none) tracingOffEnv []).Initialize fun _ => none).2.IsEnabled =
        (tracingOffEnv "OTEL_SERVICE_NAME" ≠ "" &&
          (tracingOffEnv "OTEL_ENABLED" = "true" ||
            tracingOffEnv "OTEL_METRICS_ENABLED" ≠ "true")) :=
  ⟨rfl, NewModule_IsEnabled _ _ _ rfl⟩

end Module

end Otel

end TjoQuery
