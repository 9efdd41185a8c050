import LaunchKit.Settings

/-!
# Launching a server

A server is reached by the standard streams or by the web, as the settings ask.

## Main definitions

* `Launch`: how a server is run.
* `Launch.ofSettings`: what the settings ask for.
* `Launch.start`: the start of a server, with its record.
-/
namespace LaunchKit

/-- How a server is run. -/
inductive Launch where
  | streams
  | web (host : Text) (port : Int)
  deriving DecidableEq, Repr

namespace Launch

/-- The way to run a server that the settings ask for. -/
def ofSettings (settings : Settings) : Launch :=
  if settings.transport = "stdio".toList then .streams
  else .web settings.httpHost settings.httpPort

/-- The record of a start. -/
def record (launch : Launch) : Record :=
  let described : Text := match launch with
    | .streams => "stdio"
    | .web host port => "http, host=" ++ host ++ ", port=".toList ++ Numeral.ofInt port
  .saying .info .entry ("Starting Launcher MCP server (transport=" ++ described ++ ")".toList)

/-- Run a server as the settings ask, which are loaded if need be. -/
def start (environment : Environment) (cache : SettingsCache) : Report Launch × SettingsCache :=
  let (settings, records, cache) := cache.fetch environment
  let launch := ofSettings settings
  ((Report.ofResult launch).after (records ++ [launch.record]), cache)

end Launch
end LaunchKit
