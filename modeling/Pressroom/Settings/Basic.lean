import Pressroom.Json.Basic
import Pressroom.Number.Whole
import Pressroom.Text.Case

/-!
Settings of the service, read from environment variables, and the profiles that add to them.
-/
namespace Pressroom

/-- The environment variables that are set. -/
structure Environment where
  entries : List (String × String)

namespace Environment

def get? (env : Environment) (name : String) : Option String := env.entries.lookup name

def getD (env : Environment) (name fallback : String) : String := (env.get? name).getD fallback

/-- A variable that switches something on when it reads "true" in any case. -/
def flag (env : Environment) (name : String) (fallback : Bool) : Bool :=
  match env.get? name with
  | some v => lowerCase v == "true"
  | none => fallback

/-- A variable that holds a whole number. -/
def whole (env : Environment) (name : String) (fallback : Int) : Except WholeFault Int :=
  match env.get? name with
  | some v => readWhole (Text.ofString v)
  | none => .ok fallback

end Environment

/-- The settings that every profile shares. -/
structure Settings where
  secretKey : Option String
  databasePath : String
  ratePerMinute : Int
  logLevel : String
  cookieSecure : Bool
  cookieHttpOnly : Bool
  cookieSameSite : String
  forceHttps : Bool
  portNumber : Int
  adminEmail : String
  adminPassword : String

namespace Settings

/-- Reads the settings. The limit of requests is read before the number to
listen on. -/
def read (env : Environment) : Except WholeFault Settings :=
  match env.whole "RATE_LIMIT_PER_MINUTE" 60 with
  | .error f => .error f
  | .ok ratePerMinute =>
    match env.whole "PORT" 3000 with
    | .error f => .error f
    | .ok portNumber =>
      .ok {
        secretKey := env.get? "SECRET_KEY"
        databasePath := env.getD "DATABASE_PATH" "/data/chukfi.db"
        ratePerMinute
        logLevel := upperCase (env.getD "LOG_LEVEL" "INFO")
        cookieSecure := env.flag "SESSION_COOKIE_SECURE" false
        cookieHttpOnly := env.flag "SESSION_COOKIE_HTTPONLY" true
        cookieSameSite := env.getD "SESSION_COOKIE_SAMESITE" "Lax"
        forceHttps := env.flag "FORCE_HTTPS" false
        portNumber
        adminEmail := env.getD "DEFAULT_ADMIN_EMAIL" "admin@example.com"
        adminPassword := env.getD "DEFAULT_ADMIN_PASSWORD" "admin" }

/-- The settings when no variable is set. -/
def standard : Settings where
  secretKey := none
  databasePath := "/data/chukfi.db"
  ratePerMinute := 60
  logLevel := "INFO"
  cookieSecure := false
  cookieHttpOnly := true
  cookieSameSite := "Lax"
  forceHttps := false
  portNumber := 3000
  adminEmail := "admin@example.com"
  adminPassword := "admin"

example : read ⟨[]⟩ = .ok standard := rfl

/-- The shared settings by name. -/
def values (s : Settings) : List (String × Json) :=
  [("SECRET_KEY", s.secretKey.elim .null .string),
    ("DATABASE_PATH", .string s.databasePath),
    ("RATE_LIMIT_PER_MINUTE", .whole s.ratePerMinute),
    ("RATELIMIT_DEFAULT", .string s!"{s.ratePerMinute} per minute"),
    ("RATELIMIT_STORAGE_URI", .string "memory://"),
    ("LOG_LEVEL", .string s.logLevel),
    ("SESSION_COOKIE_SECURE", .bool s.cookieSecure),
    ("SESSION_COOKIE_HTTPONLY", .bool s.cookieHttpOnly),
    ("SESSION_COOKIE_SAMESITE", .string s.cookieSameSite),
    ("WTF_CSRF_TIME_LIMIT", .null),
    ("FORCE_HTTPS", .bool s.forceHttps),
    ("PORT", .whole s.portNumber),
    ("DEFAULT_ADMIN_EMAIL", .string s.adminEmail),
    ("DEFAULT_ADMIN_PASSWORD", .string s.adminPassword)]

end Settings

/-- The environment that a deployment is made for. -/
inductive Profile where
  | production
  | development
  | testing
  deriving DecidableEq

namespace Profile

def label : Profile → String
  | production => "ProductionConfig"
  | development => "DevelopmentConfig"
  | testing => "TestingConfig"

/-- The profile with a name in any case; unknown names mean production. -/
def ofName (name : String) : Profile :=
  let name := lowerCase name
  if name = "development" then development
  else if name = "testing" then testing
  else production

/-- The profile asked for: by a name that is not empty, else by the environment. -/
def choose (env : Environment) (name : Option String) : Profile :=
  match name with
  | none => ofName (env.getD "APP_ENV" "production")
  | some n => ofName (if n = "" then env.getD "APP_ENV" "production" else n)

/-- What a profile adds to the shared settings. -/
def extras : Profile → List (String × Json)
  | production => [("DEBUG", .bool false)]
  | development => [("DEBUG", .bool true)]
  | testing =>
    [("TESTING", .bool true), ("WTF_CSRF_ENABLED", .bool false),
      ("RATELIMIT_ENABLED", .bool false)]

/-- Every value that holds under a profile. -/
def values (p : Profile) (s : Settings) : List (String × Json) := s.values ++ p.extras

end Profile

end Pressroom
