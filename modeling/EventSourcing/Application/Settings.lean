/-!
# Settings of the service

The settings that the service runs with, from the variables of its environment;
a variable that is not set has a default.
-/

set_option autoImplicit false

namespace EventSourcing

structure ServiceSettings where
  secretKey : String
  debug : Bool
  allowedHosts : List String
  rootUrls : String
  timeZone : String
  useTimeZones : Bool
  applicationName : String
  eventStore : String
  eventLog : String
  logLevel : String
  urlPatterns : List String
deriving Repr

namespace ServiceSettings

/-- The settings that the variables of an environment give, for a service below a
base directory. Debugging is on unless its variable says something other than
`1`. -/
def ofEnvironment (base : String) (environment : List (String × String)) : ServiceSettings :=
  let value (name default : String) := (environment.reverse.lookup name).getD default
  { secretKey := value "ESS_SECRET_KEY" "ess-dev-key-replace-before-deployment"
    debug := value "ESS_DEBUG" "1" = "1"
    allowedHosts := ["localhost", "127.0.0.1", "testserver"]
    rootUrls := "config.urls"
    timeZone := "UTC"
    useTimeZones := true
    applicationName := value "ESS_APPLICATION_NAME" "ess"
    eventStore := value "ESS_EVENT_STORE" "memory"
    eventLog := value "ESS_EVENT_LOG" (base ++ "/var/events.jsonl")
    logLevel := value "ESS_LOG_LEVEL" "INFO"
    urlPatterns := [] }

end ServiceSettings

end EventSourcing
