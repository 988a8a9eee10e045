import Mathlib.Data.List.DropRight
import TjoQuery.ClientIP
import TjoQuery.Validate

namespace TjoQuery

/-! `config.Load` and `Config.Validate` of `config/config.go`.  `Load` reads every setting
from the environment, an unset variable and the empty string alike, with a default for
most; a value `strconv` cannot parse also falls back to the default, so only a variable the
environment sets can fail a check.  `REDIS_HOST` defaults to `localhost`, so the check that
it is set when `SESSION_TYPE=redis` never fires on a loaded configuration.  Go's `int` is
`Int`: `Atoi` keeps it within 64 bits and nothing here computes with it. -/

open Strings Strconv

structure AppConfig where
  Name : String
  Debug : Bool
  EncryptionKey : String
  Renderer : String
  Cache : String
  SMSProvider : String
  deriving DecidableEq, Repr

structure ServerConfig where
  Port : Int
  ServerName : String
  URL : String
  Secure : Bool
  deriving DecidableEq, Repr

structure DatabaseConfig where
  «Type» : String
  Host : String
  Port : Int
  User : String
  Password : String
  Name : String
  SSLMode : String
  TablePrefix : String
  deriving DecidableEq, Repr

structure RedisConfig where
  Host : String
  Port : Int
  Password : String
  Prefix : String
  deriving DecidableEq, Repr

structure SessionConfig where
  «Type» : String
  deriving DecidableEq, Repr

structure CookieConfig where
  Name : String
  Lifetime : Int
  Persist : Bool
  Secure : Bool
  Domain : String
  deriving DecidableEq, Repr

structure MailConfig where
  SMTPHost : String
  SMTPPort : Int
  SMTPUsername : String
  SMTPPassword : String
  SMTPEncryption : String
  FromAddress : String
  FromName : String
  Domain : String
  API : String
  APIKey : String
  APIURL : String
  deriving DecidableEq, Repr

structure StorageConfig where
  S3Key : String
  S3Secret : String
  S3Region : String
  S3Endpoint : String
  S3Bucket : String
  MinIOEndpoint : String
  MinIOAccessKey : String
  MinIOSecret : String
  MinIORegion : String
  MinIOBucket : String
  MinIOUseSSL : Bool
  deriving DecidableEq, Repr

structure LoggingConfig where
  Level : String
  Format : String
  deriving DecidableEq, Repr

structure JobsConfig where
  Workers : Int
  EnablePersistence : Bool
  deriving DecidableEq, Repr

/-- `AllowedOrigins`: Go's nil and empty slices are both `[]`, which nothing tells apart. -/
structure CORSConfig where
  AllowedOrigins : List String
  deriving DecidableEq, Repr

structure Config where
  App : AppConfig
  Server : ServerConfig
  Database : DatabaseConfig
  Redis : RedisConfig
  Session : SessionConfig
  Cookie : CookieConfig
  Mail : MailConfig
  Storage : StorageConfig
  Logging : LoggingConfig
  Jobs : JobsConfig
  CORS : CORSConfig
  deriving DecidableEq, Repr

namespace Strings

/-- `unicode.ToLower` as far as `Validate` can observe it: the ASCII letters, and the two
runes whose lower case is ASCII (`İ` to `i`, the Kelvin sign to `k`).  Every other rune has
a non-ASCII lower case, and `Validate` only compares lower cases with ASCII words. -/
def toLowerRune (c : Char) : Char :=
  if c = 'İ' then 'i' else if c = 'K' then 'k' else c.toLower

def toLower (s : String) : String := ⟨s.data.map toLowerRune⟩

/-- `strings.Split(s, sep)` for a separator of one character. -/
def split (s : String) (sep : Char) : List String := (s.data.splitOn sep).map String.mk

end Strings

namespace Config

/-- `os.Getenv`: `""` for a variable that is not set. -/
def Env := String → String

section Helpers

variable (env : Env) (key : String)

def envDefault (defaultVal : String) : String := if env key ≠ "" then env key else defaultVal

def envBool (defaultVal : Bool) : Bool :=
  if env key = "" then defaultVal else (ParseBool (env key)).getD defaultVal

def envInt (defaultVal : Int) : Int :=
  if env key = "" then defaultVal else (Atoi (env key)).getD defaultVal

/-- The loop `for _, p := range parts`: each part trimmed, the empty ones dropped. -/
def envStringSlice : List String :=
  if env key = "" then []
  else (split (env key) ',').filterMap fun p => if trimSpace p ≠ "" then some (trimSpace p) else none

end Helpers

/-- The assignments of `Load`, before it validates. -/
def fromEnv (env : Env) : Config where
  App :=
    { Name := env "APP_NAME"
      Debug := envBool env "DEBUG" false
      EncryptionKey := env "KEY"
      Renderer := envDefault env "RENDERER" "jet"
      Cache := env "CACHE"
      SMSProvider := env "SMS_PROVIDER" }
  Server :=
    { Port := envInt env "PORT" 4000
      ServerName := env "SERVER_NAME"
      URL := env "APP_URL"
      Secure := envBool env "SECURE" true }
  Database :=
    { «Type» := env "DATABASE_TYPE"
      Host := env "DATABASE_HOST"
      Port := envInt env "DATABASE_PORT" 5432
      User := env "DATABASE_USER"
      Password := env "DATABASE_PASS"
      Name := env "DATABASE_NAME"
      SSLMode := envDefault env "DATABASE_SSL_MODE" "disable"
      TablePrefix := env "DATABASE_TABLE_PREFIX" }
  Redis :=
    { Host := envDefault env "REDIS_HOST" "localhost"
      Port := envInt env "REDIS_PORT" 6379
      Password := env "REDIS_PASSWORD"
      Prefix := env "REDIS_PREFIX" }
  Session := { «Type» := envDefault env "SESSION_TYPE" "cookie" }
  Cookie :=
    { Name := envDefault env "COOKIE_NAME" "gemquick_session"
      Lifetime := envInt env "COOKIE_LIFETIME" 1440
      Persist := envBool env "COOKIE_PERSISTS" true
      Secure := envBool env "COOKIE_SECURE" true
      Domain := env "COOKIE_DOMAIN" }
  Mail :=
    { SMTPHost := env "SMTP_HOST"
      SMTPPort := envInt env "SMTP_PORT" 587
      SMTPUsername := env "SMTP_USERNAME"
      SMTPPassword := env "SMTP_PASSWORD"
      SMTPEncryption := envDefault env "SMTP_ENCRYPTION" "tls"
      FromAddress := env "MAIL_FROM_ADDRESS"
      FromName := env "MAIL_FROM_NAME"
      Domain := env "MAIL_DOMAIN"
      API := env "MAILER_API"
      APIKey := env "MAILER_KEY"
      APIURL := env "MAILER_URL" }
  Storage :=
    { S3Key := env "S3_KEY"
      S3Secret := env "S3_SECRET"
      S3Region := env "S3_REGION"
      S3Endpoint := env "S3_ENDPOINT"
      S3Bucket := env "S3_BUCKET"
      MinIOEndpoint := env "MINIO_ENDPOINT"
      MinIOAccessKey := env "MINIO_ACCESS_KEY"
      MinIOSecret := env "MINIO_SECRET"
      MinIORegion := env "MINIO_REGION"
      MinIOBucket := env "MINIO_BUCKET"
      MinIOUseSSL := envBool env "MINIO_USE_SSL" false }
  Logging :=
    { Level := envDefault env "LOG_LEVEL" "info"
      Format := envDefault env "LOG_FORMAT" "json" }
  Jobs :=
    { Workers := envInt env "JOB_WORKERS" 5
      EnablePersistence := envBool env "JOB_ENABLE_PERSISTENCE" false }
  CORS := { AllowedOrigins := envStringSlice env "CORS_ALLOWED_ORIGINS" }

def validDBTypes : List String :=
  ["postgres", "postgresql", "pgx", "mysql", "mariadb", "sqlite", "sqlite3"]

def validSessionTypes : List String := ["cookie", "redis", "database", "badger"]

def validLogLevels : List String := ["trace", "debug", "info", "warn", "error", "fatal"]

def validLogFormats : List String := ["json", "text"]

/-- `if fails { errs = append(errs, msg) }`. -/
def check (fails : Bool) (msg : String) : List String := if fails then [msg] else []

/-- The `errs` that `Validate` collects, in its order. -/
def errs (c : Config) : List String :=
  check (c.Server.Port < 1 || c.Server.Port > 65535)
      ("invalid PORT: " ++ toString c.Server.Port ++ " (must be 1-65535)") ++
    check (c.Database.«Type» ≠ "" && toLower c.Database.«Type» ∉ validDBTypes)
      ("invalid DATABASE_TYPE: " ++ c.Database.«Type») ++
    check (c.Session.«Type» ∉ validSessionTypes) ("invalid SESSION_TYPE: " ++ c.Session.«Type») ++
    check (c.Session.«Type» = "redis" && c.Redis.Host = "")
      "REDIS_HOST is required when SESSION_TYPE=redis" ++
    check (c.Cookie.Lifetime < 0) "COOKIE_LIFETIME cannot be negative" ++
    check (toLower c.Logging.Level ∉ validLogLevels) ("invalid LOG_LEVEL: " ++ c.Logging.Level) ++
    check (toLower c.Logging.Format ∉ validLogFormats)
      ("invalid LOG_FORMAT: " ++ c.Logging.Format) ++
    check (c.Jobs.Workers < 1) "JOB_WORKERS must be at least 1"

def Validate (c : Config) : Option String :=
  match c.errs with
  | [] => none
  | errs => some ("configuration errors: " ++ join errs "; ")

def Load (env : Env) : Except String Config :=
  match (fromEnv env).Validate with
  | some err => .error err
  | none => .ok (fromEnv env)

/-! ## What `Load` reads and reports -/

theorem trimSpace_trimSpace (s : String) : trimSpace (trimSpace s) = trimSpace s := by
  have hrd : ∀ l : List Char, (l.reverse.dropWhile isSpace).reverse = l.rdropWhile isSpace :=
    fun _ => rfl
  unfold trimSpace
  congr 1
  simp only [hrd]
  generalize hl : s.data.dropWhile isSpace = l
  have hhead : ∀ h : l ≠ [], isSpace (l.head h) = false := by
    subst hl
    exact List.head_dropWhile_not _ _
  have hfront : (l.rdropWhile isSpace).dropWhile isSpace = l.rdropWhile isSpace := by
    rw [List.dropWhile_eq_self_iff]
    intro hlen
    obtain ⟨t, ht⟩ := List.rdropWhile_prefix isSpace l
    generalize l.rdropWhile isSpace = r at ht hlen ⊢
    cases r with
    | nil => exact absurd hlen (by simp)
    | cons a r =>
        subst ht
        simpa using hhead (List.cons_ne_nil _ _)
  rw [hfront, List.rdropWhile_idempotent]

section Read

variable {env : Env} {key : String}

theorem envDefault_of_unset {d : String} (h : env key = "") : envDefault env key d = d := by
  simp [envDefault, h]

theorem envInt_of_unset {d : Int} (h : env key = "") : envInt env key d = d := by
  simp [envInt, h]

theorem envDefault_ne_empty {d : String} (hd : d ≠ "") : envDefault env key d ≠ "" := by
  unfold envDefault
  split <;> assumption

theorem envStringSlice_trimmed : ∀ o ∈ envStringSlice env key, o ≠ "" ∧ trimSpace o = o := by
  unfold envStringSlice
  split
  · simp
  · simp only [List.mem_filterMap, Option.ite_none_right_eq_some, Option.some.injEq]
    rintro _ ⟨p, -, hp, rfl⟩
    exact ⟨hp, trimSpace_trimSpace p⟩

end Read

theorem mem_check {fails : Bool} {msg m : String} : m ∈ check fails msg ↔ fails ∧ m = msg := by
  unfold check
  split <;> simp_all

def Names (m key : String) : Prop := key.data <:+: m.data

instance (m key : String) : Decidable (Names m key) :=
  inferInstanceAs (Decidable (key.data <:+: m.data))

theorem Names.append {m key : String} (h : Names m key) (rest : String) : Names (m ++ rest) key := by
  unfold Names at *
  rw [String.data_append]
  exact h.trans (List.prefix_append _ _).isInfix

theorem errs_named (env : Env) : ∀ m ∈ (fromEnv env).errs, ∃ key, env key ≠ "" ∧ Names m key := by
  intro m hm
  simp only [errs, List.mem_append, mem_check] at hm
  rcases hm with ((((((⟨hport, rfl⟩ | ⟨hdb, rfl⟩) | ⟨hsession, rfl⟩) | ⟨hredis, rfl⟩) |
    ⟨hcookie, rfl⟩) | ⟨hlevel, rfl⟩) | ⟨hformat, rfl⟩) | ⟨hworkers, rfl⟩
  · refine ⟨"PORT", fun h => ?_, ((by decide : Names "invalid PORT: " "PORT").append _).append _⟩
    simp [fromEnv, envInt_of_unset h] at hport
  · refine ⟨"DATABASE_TYPE", ?_, (by decide : Names "invalid DATABASE_TYPE: " _).append _⟩
    simp only [fromEnv, Bool.and_eq_true, decide_eq_true_eq] at hdb
    exact hdb.1
  · refine ⟨"SESSION_TYPE", fun h => ?_, (by decide : Names "invalid SESSION_TYPE: " _).append _⟩
    simp only [fromEnv, envDefault_of_unset h] at hsession
    exact absurd hsession (by decide)
  · simp only [fromEnv, Bool.and_eq_true, decide_eq_true_eq] at hredis
    exact absurd hredis.2 (envDefault_ne_empty (by decide))
  · refine ⟨"COOKIE_LIFETIME", fun h => ?_, by decide⟩
    simp [fromEnv, envInt_of_unset h] at hcookie
  · refine ⟨"LOG_LEVEL", fun h => ?_, (by decide : Names "invalid LOG_LEVEL: " _).append _⟩
    simp only [fromEnv, envDefault_of_unset h] at hlevel
    exact absurd hlevel (by decide)
  · refine ⟨"LOG_FORMAT", fun h => ?_, (by decide : Names "invalid LOG_FORMAT: " _).append _⟩
    simp only [fromEnv, envDefault_of_unset h] at hformat
    exact absurd hformat (by decide)
  · refine ⟨"JOB_WORKERS", fun h => ?_, by decide⟩
    simp [fromEnv, envInt_of_unset h] at hworkers

theorem Load_error {env : Env} {e : String} (h : Load env = .error e) :
    ∃ msgs, msgs ≠ [] ∧ e = "configuration errors: " ++ join msgs "; " ∧
      ∀ m ∈ msgs, ∃ key, env key ≠ "" ∧ Names m key := by
  have hnamed := errs_named env
  unfold Load Validate at h
  cases hc : (fromEnv env).errs with
  | nil => simp [hc] at h
  | cons m ms =>
      simp only [hc, Except.error.injEq] at h
      exact ⟨m :: ms, List.cons_ne_nil _ _, h.symm, hc ▸ hnamed⟩

example :
    (Load fun key => if key = "PORT" then "80x" else "") =
        .ok (fromEnv fun key => if key = "PORT" then "80x" else "") ∧
      (Load fun key => if key = "PORT" then "0" else "") =
        .error "configuration errors: invalid PORT: 0 (must be 1-65535)" :=
  ⟨rfl, rfl⟩

theorem Load_origins_trimmed {env : Env} {cfg : Config} (h : Load env = .ok cfg) :
    ∀ o ∈ cfg.CORS.AllowedOrigins, o ≠ "" ∧ trimSpace o = o := by
  unfold Load at h
  split at h
  · cases h
  · cases h
    exact envStringSlice_trimmed

end Config

end TjoQuery
